/-
A list script from its start to its end: what it finds, the lines that it is to go
through, and how it leaves.
-/
import FolderScript.Machine.Perl.Run

namespace FolderScript.Perl

open Shell (Text State)

namespace Program

/-- What is asked of a script besides what it says. -/
structure Wish where
  /-- The texts that are the script. -/
  texts : List Text := []
  /-- Whether it is carried out for each line of the input, and whether that is shown. -/
  forLines : Bool := false
  shows : Bool := false
  /-- Whether the ends of lines are taken away, and put back where something is written. -/
  cutsEnds : Bool := false
  /-- Whether lines are cut into parts, and where. -/
  cutsParts : Bool := false
  between : Option Text := none
  /-- What ends a line. -/
  mark : Value := .text ['\n']
  inPlace : Option Text := none
  onlyReads : Bool := false
  isFine : Bool := false

/-- The functions that statements define. -/
def definitions : Nat → List Statement → List (String × List Statement)
  | 0, _ => []
  | fuel + 1, statements => statements.flatMap fun statement =>
      match statement with
      | .define name body => [(name, body)]
      | .bare _ _ body => definitions fuel body
      | _ => []

def isFirst : Statement → Bool
  | .bare _ label _ => label == "BEGIN"
  | _ => false

/-- The statements of a script, which may stand in a loop over lines. -/
def wrapped (wish : Wish) (body : List Statement) : List Statement :=
  if !wish.forLines then body
  else
    let simple (expr : Expr) : Statement := .simple 1 expr
    let pattern : Expr := match wish.between with
      | some text => .fits none false (.constant (.text text)) []
      | none => .constant (.text [' '])
    let front := (if wish.cutsEnds then [simple (.function "chomp" [])] else []) ++
      (if wish.cutsParts then
        [simple (.assign (.named .array "F") (.function "split" [pattern, Reader.atHand]))] else [])
    let next := if wish.shows then [simple (.print "print" none [])] else []
    body.filter isFirst ++
      [.loop 1 "LINE" (Reader.asked (.readLine (.constant (.text Streams.feedName))))
        (front ++ body.filter fun statement => !isFirst statement) next]

/-- The names of the streams that are there from the start. -/
def streams : List (String × Stream) :=
  [("STDIN", { name := "STDIN".toList, source := some 0 }),
    ("STDOUT", { name := "STDOUT".toList, outlet := some (.descriptor 1) }),
    ("STDERR", { name := "STDERR".toList, outlet := some (.descriptor 2), isPrompt := true }),
    ("ARGV", { name := Streams.feedName, isOpen := false })]

/-- What a script finds at its start. -/
def prepare (wish : Wish) (arguments : List Text) (script : Script) : Act Unit := do
  streams.forM fun (name, stream) => do
    let place ← allot (.stream stream)
    modify fun machine => { machine with
      shared := machine.shared.insert ("*" ++ name) place
      selected := if name == "STDOUT" then place else machine.selected }
  match script.data with
  | some text =>
      let place ← allot (.stream { name := "DATA".toList, input := some text })
      modify fun machine => { machine with shared := machine.shared.insert "*DATA" place }
  | none => pure ()
  let given : List (String × Value) :=
    [("/", wish.mark), ("\"", .text [' ']), (";", .text ['\x1c']), ("@", .text []), ("?", .ofInt 0),
      ("0", .text (← get).title), ("|", .ofInt 0), ("^W", .ofInt 0)] ++
    (if wish.cutsEnds then [("\\", .text ['\n'])] else [])
  modify fun machine => given.foldl (fun machine entry => machine.setShared entry.1 entry.2) machine
  Run.setValues (← Run.placeNamed .array "ARGV") (arguments.map .text)
  let variablesOf := (← get).state.bindings.filter Shell.Variable.exported
  Run.setEntries (← Run.placeNamed .hash "ENV") (variablesOf.flatMap fun known =>
    [.text known.name, .text known.value])
  forAll (definitions 50 script.body) fun (name, body) => do
    let place ← allot (.code ⟨name, body, none⟩)
    modify fun machine => { machine with functions := machine.functions.insert name place }

inductive Ending where
  | flow (flow : Shell.Flow)
  | endless
  | died (signal : Nat)

/-- How deep expressions may be carried out within each other. -/
def fuel : Nat := 1000000000

/-- Shows why a script has failed; gives the status for that. -/
def mourn (reason : Value) : Act Nat := do
  Streams.warn (← textOf reason)
  let machine ← get
  let status := (machine.sharedValue "?").toNat / 256 % 256
  return if machine.error % 256 ≠ 0 then machine.error % 256
    else if status ≠ 0 then status else 255

/-- Carries out what is to be done at the end, which may change the status. -/
def finish (script : Script) (status : Nat) : Act Nat := do
  modify fun machine => machine.setShared "?" (.ofNat status)
  forAll script.endings fun body => do
    ExceptT.mk fun machine =>
      let machine := { machine with scope := machine.outer, depth := 1 }
      match (discard (Run.run fuel .nothing body)).run.run machine with
      | (.error (.died reason), after) =>
          match (mourn reason).run.run after with
          | (.ok status, after) => (.ok (), after.setShared "?" (.ofNat status))
          | (.error stop, after) => (.error stop, after)
      | (.error (.exit status), after) => (.ok (), after.setShared "?" (.ofNat status))
      | other => other
  let status := ((← get).sharedValue "?").toNat % 256
  Streams.closeAll
  Streams.release
  let machine ← get
  match machine.state.writeFault with
  | some error =>
      set { machine with state := { machine.state with writeFault := none } }
      if machine.state.channel? 1 ≠ none then
        Streams.warn ("Unable to flush stdout: ".toList ++ Shell.Tools.reason error ++ ['\n'])
        return if status = 0 then 1 else status
      else return status
  | none => return status

def whole (wish : Wish) (arguments : List Text) (script : Script) : Act Nat := do
  prepare wish arguments script
  modify fun machine => { machine with inPlace := wish.inPlace, isFine := wish.isFine, error := 0 }
  let status ← ExceptT.mk fun machine =>
    match (discard (Run.run fuel .nothing (wrapped wish script.body))).run.run machine with
    | (.ok (), after) => (.ok 0, after)
    | (.error (.exit status), after) => (.ok status, after)
    | (.error (.died reason), after) => (mourn reason).run.run after
    | (.error (.returned _), after) => (.ok 0, after)
    | (.error (.next _), after) => (mourn (.text ("Can't \"next\" outside a loop block".toList ++
        after.site))).run.run after
    | (.error (.last _), after) => (mourn (.text ("Can't \"last\" outside a loop block".toList ++
        after.site))).run.run after
    | (.error stop, after) => (.error stop, after)
  finish script status

def perform (launch : Shell.Tools.Launch) (state : State) (title : Text) (wish : Wish)
    (arguments : List Text) (script : Script) : Ending × State :=
  let start : Machine := { state := state, launch := launch, title := title }
  match (whole wish arguments script).run.run start with
  | (.ok status, after) => (.flow (.exit status), after.state)
  | (.error (.exit status), after) => (.flow (.exit status), after.state)
  | (.error (.over flow), after) => (.flow flow, after.state)
  | (.error (.struck signal), after) => (.died signal, after.state)
  | (.error _, after) => (.endless, after.state)

end Program

end FolderScript.Perl
