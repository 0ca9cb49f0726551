/-
Troubles: a cause with the contexts it passed on its way out.  The links of a
trouble run from the outermost context to the innermost cause.
-/
import FolderScript.Failure
import FolderScript.Log
import FolderScript.Settings.Document

namespace FolderScript

/-- What went wrong in the first place. -/
inductive Cause where
  | failure (reason : Failure)
  /-- A text is not that of a settings file. -/
  | document (text : String) (fault : DocumentFault)
  | io (error : IoError)
  deriving DecidableEq, Repr

/-- What the libraries word that the program prints. -/
structure Wording where
  /-- What is said of a text that is not that of a settings file. -/
  ofDocument : String → DocumentFault → String
  /-- What stands in front of the message of a log event of this number and level. -/
  lead : Nat → Level → String

/-- The texts of a cause and of what stands behind it. -/
def Cause.links (wording : Wording) : Cause → List String
  | .failure reason => reason.links
  | .document text fault => [wording.ofDocument text fault]
  | .io error => [error.message]

/-- A cause within contexts, the outermost first. -/
structure Trouble where
  contexts : List String := []
  cause : Cause
  deriving DecidableEq, Repr

namespace Trouble

def ofFailure (reason : Failure) : Trouble := ⟨[], .failure reason⟩

def within (context : String) (trouble : Trouble) : Trouble :=
  { trouble with contexts := context :: trouble.contexts }

/-- All texts, outermost first. -/
def links (wording : Wording) (trouble : Trouble) : List String :=
  trouble.contexts ++ trouble.cause.links wording

def oneLine (wording : Wording) (trouble : Trouble) : String :=
  ": ".intercalate (trouble.links wording)

/-- A text with so many blanks after each line end. -/
def indented (width : Nat) (text : String) : String :=
  String.ofList (text.toList.flatMap fun char =>
    if char = '\n' then '\n' :: List.replicate width ' ' else [char])

/-- A number, filled up with blanks on the left. -/
def padded (width number : Nat) : String :=
  let digits := toString number
  String.ofList (List.replicate (width - digits.length) ' ') ++ digits

/-- The causes below the first text: a single one indented, several numbered. -/
def causeLines : List String → List String
  | [cause] => ["    " ++ indented 4 cause]
  | causes => causes.zipIdx.map fun (cause, index) =>
      padded 5 index ++ ": " ++ indented 7 cause

/-- The first text, and below it the causes. -/
def detailed (wording : Wording) (trouble : Trouble) : String :=
  match trouble.links wording with
  | [] => ""
  | [text] => text
  | text :: causes =>
      text ++ "\n\nCaused by:\n" ++ "\n".intercalate (causeLines causes)

end Trouble

/-- A logged computation that may end in trouble. -/
abbrev Attempt := ExceptT Trouble Logged

namespace Attempt

def emit (level : Level) (origin : Origin) (message : String) : Attempt Unit :=
  ExceptT.lift (Logged.emit level origin message)

/-- A value or a trouble, without events. -/
def ofExcept {α : Type} (result : Except Trouble α) : Attempt α :=
  ExceptT.mk (pure result)

/-- The computation, its trouble put into one more context. -/
def within {α : Type} (context : String) (attempt : Attempt α) : Attempt α :=
  ExceptT.mk (attempt.run >>= fun result =>
    pure (result.mapError (Trouble.within context)))

/-- What the computation comes to. -/
def result {α : Type} (attempt : Attempt α) : Except Trouble α := attempt.run.value

def events {α : Type} (attempt : Attempt α) : List LogEvent := attempt.run.events

@[simp] theorem result_pure {α : Type} (value : α) :
    result (pure value : Attempt α) = .ok value := rfl

@[simp] theorem result_throw {α : Type} (trouble : Trouble) :
    result (throw trouble : Attempt α) = .error trouble := rfl

@[simp] theorem result_ofExcept {α : Type} (value : Except Trouble α) :
    result (ofExcept value) = value := rfl

theorem result_bind {α β : Type} (first : Attempt α) (next : α → Attempt β) :
    result (first >>= next) = (result first).bind fun value => result (next value) := by
  unfold result
  rw [ExceptT.run_bind, Logged.value_bind]
  cases first.run.value <;> rfl

@[simp] theorem result_emit_bind {α : Type} (level : Level) (origin : Origin)
    (message : String) (next : Attempt α) :
    result (emit level origin message >>= fun _ => next) = result next := by
  rw [result_bind]
  rfl

@[simp] theorem result_within {α : Type} (context : String) (attempt : Attempt α) :
    result (within context attempt) =
      (result attempt).mapError (Trouble.within context) := rfl

end Attempt

end FolderScript
