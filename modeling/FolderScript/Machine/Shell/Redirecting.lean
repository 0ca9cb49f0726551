/-
What redirections do to the descriptors of a shell.
-/
import FolderScript.Machine.Shell.State

namespace FolderScript.Shell

structure Redirected where
  descriptor : Nat
  action : Redirect
  target : Text
  /-- Whether it could not be written out, which has been complained about. -/
  isLost : Bool := false
  deriving DecidableEq, Repr

/-- Whether the target of a copy names a descriptor, or closes one. -/
def Redirected.isSound (redirected : Redirected) : Bool :=
  redirected.action ≠ .copy ||
    match redirected.target with
    | [char] => char.isDigit || char == '-'
    | _ => false

namespace State

/-- Opens a file to read and to write. -/
def openBoth (state : State) (path : Text) (descriptor : Nat) :
    Except Text (Channel × State) :=
  match state.stat path with
  | .error _ => state.openOutput path true false
  | .ok _ =>
      if descriptor = 1 || descriptor = 2 then state.openOutput path true false
      else state.openInput path

/-- Applies a redirection; the error is a complaint, if there is still one to make. -/
def redirect (state : State) (wanted : Redirected) : Except Text State :=
  let opened (result : Except Text (Channel × State)) : Except Text State :=
    result.map fun (channel, state) => state.setChannel wanted.descriptor (some channel)
  if wanted.isLost then .error []
  else
  match wanted.action with
  | .input => opened (state.openInput wanted.target)
  | .output => opened (state.openOutput wanted.target false (state.has 'C'))
  | .overwrite => opened (state.openOutput wanted.target false false)
  | .append => opened (state.openOutput wanted.target true false)
  | .both => opened (state.openBoth wanted.target wanted.descriptor)
  | .here =>
      let (number, state) := state.newBuffer (Buffer.ofBytes (Text.toBytes wanted.target))
      .ok (state.setChannel wanted.descriptor (some (.buffer number)))
  | .copy =>
      if wanted.target = ['-'] then .ok (state.setChannel wanted.descriptor none)
      else
        match (Text.toNat? wanted.target).bind state.channel? with
        | some channel => .ok (state.setChannel wanted.descriptor (some channel))
        | none => .error (wanted.target ++ ": Bad file descriptor".toList)

/-- The status of a command whose redirections cannot be applied. -/
def refusalStatus (state : State) : Nat :=
  match state.dialect with
  | .dash => 2
  | .bash => 1

/-- Applies redirections in turn, up to the first that fails, which is complained
about; tells whether all were applied.  Descriptors that come back later are put aside
first, and one that cannot be replaced then is missing when it comes to complaining. -/
def redirectAll (comesBack : Bool) (state : State) : List Redirected → Bool × State
  | [] => (true, state)
  | first :: rest =>
      match state.redirect first with
      | .ok state => redirectAll (comesBack && first.descriptor ≠ 2) state rest
      | .error message =>
          let isMissing := comesBack && first.descriptor = 2 && first.action = .copy
          (false, (if message = [] || isMissing then state
            else state.complain message).withStatus state.refusalStatus)

end State

end FolderScript.Shell
