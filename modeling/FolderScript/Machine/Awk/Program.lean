/-
A pattern script from its beginning to its end: the rules for the start, those for
every record, and those for the end.
-/
import FolderScript.Machine.Awk.Run

namespace FolderScript.Awk

open Shell (Text State)

namespace Program

open Streams

/-- More than any script needs. -/
def supply : Nat := 1000000000000

def act (rule : Rule) : Act Unit :=
  Run.exec supply (rule.action.getD (.print [] none))

def holds (condition : Expr) : Act Bool := do return (← Run.eval supply condition).holds

/-- Lets a rule see the record at hand. -/
def apply (rule : Rule) (index : Nat) : Act Unit := do
  match rule.pattern with
  | .begin_ | .end_ => pure ()
  | .always => act rule
  | .when condition => if ← holds condition then act rule
  | .between first last =>
      let isOpen := (← get).open_.contains index
      if isOpen || (← holds first) then
        let ends ← holds last
        modify fun machine => { machine with
          open_ := if ends then machine.open_.filter (· ≠ index)
            else if isOpen then machine.open_ else index :: machine.open_ }
        act rule

/-- Lets rules see the record in turn. -/
def applyAll : List (Rule × Nat) → Act Unit
  | [] => return ()
  | (rule, index) :: rest => do
      apply rule index
      applyAll rest

/-- Reads one record and lets the rules see it; tells whether there was one. -/
def cycle (rules : List (Rule × Nat)) : Act Bool := do
  Run.tick
  match ← mainRecord 100000 with
  | none => return false
  | some record =>
      modify (·.setRecord record)
      ExceptT.mk fun machine =>
        match (applyAll rules).run.run machine with
        | (.ok (), after) => (.ok true, after)
        | (.error .next, after) => (.ok true, after)
        | (.error .nextFile, after) =>
            (.ok true, { after with feed := { after.feed with rest := some [] } })
        | (.error stop, after) => (.error stop, after)

def ofKind (script : Script) (isWanted : Pattern → Bool) : List (Rule × Nat) :=
  script.rules.zipIdx.filter fun item => isWanted item.1.pattern

def isBegin : Pattern → Bool
  | .begin_ => true
  | _ => false

def isEnd : Pattern → Bool
  | .end_ => true
  | _ => false

/-- Carries out the rules for the start or the end. -/
def actAll : List (Rule × Nat) → Act Unit
  | [] => return ()
  | (rule, _) :: rest => do
      act rule
      actAll rest

/-- The whole of a script but its last rules. -/
def front (script : Script) : Act Unit := do
  actAll (ofKind script isBegin)
  let rules := ofKind script fun pattern => !isBegin pattern && !isEnd pattern
  if !rules.isEmpty || !(ofKind script isEnd).isEmpty then
    Run.repeating supply (cycle rules)

/-- The whole of a script; after an early exit the last rules still act. -/
def whole (script : Script) : Act Unit := do
  let ending := ofKind script isEnd
  ExceptT.mk fun machine =>
    match (front script).run.run machine with
    | (.ok (), after) => (actAll ending).run.run after
    | (.error .exit, after) => (actAll ending).run.run { after with
        feed := { after.feed with isOver := true } }
    | (.error stop, after) => (.error stop, after)

def startingVariables : List (String × Value) :=
  [("FS", .text [' ']), ("OFS", .text [' ']), ("ORS", .text ['\n']), ("RS", .text ['\n']),
    ("SUBSEP", .text ['\x1c']), ("CONVFMT", .text "%.6g".toList), ("OFMT", .text "%.6g".toList),
    ("RLENGTH", .number (-1)), ("RSTART", .number 0), ("FILENAME", .text [])]

def start (launch : Shell.Tools.Launch) (state : State) (script : Script) (arguments : List Text)
    (environment : List (Text × Text)) : Machine :=
  let machine : Machine :=
    { state := state, launch := launch
      functions := .ofList (script.functions.map fun function => (function.name, function))
      globals := .ofList (startingVariables ++
        [("ARGC", .number (Float.ofNat arguments.length))]) }
  let table (values : List (Table.Key × Value)) : Table :=
    values.foldl (fun (table : Table) entry => table.put entry.1 entry.2) {}
  let (given, machine) := machine.tableAt (.shared "ARGV")
  let machine := machine.setTable given (table (arguments.zipIdx.map fun (argument, index) =>
    (.number (Int.ofNat index), .ofInput argument)))
  let (handed, machine) := machine.tableAt (.shared "ENVIRON")
  machine.setTable handed (table (environment.map fun (name, value) =>
    (.spelled name, .ofInput value)))

/-- A number as messages show it. -/
def shownCount (number : Float) : Text := Number.text (Number.directed Number.usualForm) number

inductive Ending where
  | done (status : Nat)
  | endless
  | died (signal : Nat)
  deriving DecidableEq, Repr

/-- Carries out a script, with what is to be set first, and tells how it ended. -/
def run (title : Text) (script : Script) (settings : List (String × Text)) (machine : Machine) :
    Ending × State :=
  let action : Act Unit := do
    settings.forM fun (name, value) => assign name value
    whole script
  let (result, machine) := action.run.run machine
  let complained (machine : Machine) (message : Text) : Machine :=
    { machine with state := machine.state.write 2 (title ++ ": ".toList ++ message ++ ['\n']) }
  let ended (status : Nat) (machine : Machine) : Ending × State :=
    let (result, machine) := (do
      release
      closeAll : Act Unit).run.run machine
    match result with
    | .error .endless => (.endless, machine.state)
    | _ => (.done status, machine.state)
  match result with
  | .error .endless => (.endless, machine.state)
  | .error (.died signal) => (.died signal, machine.state)
  | .error (.failed message) =>
      let machine := complained machine ("run time error: ".toList ++ message ++
        "\n\tFILENAME=\"".toList ++ machine.sharedText "FILENAME" ++ "\" FNR=".toList ++
        shownCount machine.fileCount ++ " NR=".toList ++ shownCount machine.count)
      ended 2 machine
  | .error (.refused message) => ended 2 (complained machine message)
  | _ => ended machine.status machine

end Program

end FolderScript.Awk
