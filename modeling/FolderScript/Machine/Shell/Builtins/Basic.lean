/-
What the commands that the shell carries out by itself have in common.
-/
import FolderScript.Machine.Shell.Reader
import FolderScript.Machine.Shell.Tools.Basic

namespace FolderScript.Shell

namespace Builtins

/-- What a command of the shell does with its arguments. -/
abbrev Builtin := State → List Text → Flow × State

def next (state : State) (status : Nat) : Flow × State := (.next, state.withStatus status)

/-- Complains about a command; that is the end of the shell for some of them. -/
def refuse (command : String) (state : State) (message : Text) : Flow × State :=
  (if specialBuiltins.contains command then .exit 2 else .next,
    (state.complain (command.toList ++ ": ".toList ++ message)).withStatus 2)

/-- Writes a text to standard output, and goes on with a status; an output that
cannot be written to is an error. -/
def putWith (command : String) (state : State) (text : Text) (status : Nat) : Flow × State :=
  match state.emit 1 (Text.toBytes text) with
  | .ok state => next state status
  | .error _ =>
      let name := command.toList
      next (state.complain (name ++ ": ".toList ++ name ++ ": I/O error".toList)) 1

/-- Writes a text to standard output. -/
def put (command : String) (state : State) (text : Text) : Flow × State :=
  putWith command state text 0

/-- The letters of the options in front with their values, and the operands; or a
complaint.  Letters in the second list take a value. -/
def options (known valued : String) : Nat → List Text →
    Except Text (List (Char × Text) × List Text)
  | 0, arguments => .ok ([], arguments)
  | _ + 1, [] => .ok ([], [])
  | fuel + 1, argument :: rest =>
      match argument with
      | ['-', '-'] => .ok ([], rest)
      | '-' :: letter :: letters =>
          let rec cluster : Text → Except Text (List (Char × Text) × Option Char)
            | [] => .ok ([], none)
            | letter :: letters =>
                if valued.toList.contains letter then
                  if letters = [] then .ok ([], some letter) else .ok ([(letter, letters)], none)
                else if known.toList.contains letter then do
                  let (more, waiting) ← cluster letters
                  pure ((letter, []) :: more, waiting)
                else .error ("Illegal option -".toList ++ [letter])
          match cluster (letter :: letters), rest with
          | .error message, _ => .error message
          | .ok (found, none), rest => do
              let (more, operands) ← options known valued fuel rest
              pure (found ++ more, operands)
          | .ok (_, some waiting), [] =>
              .error ("No arg for -".toList ++ waiting :: " option".toList)
          | .ok (found, some waiting), value :: rest => do
              let (more, operands) ← options known valued fuel rest
              pure (found ++ (waiting, value) :: more, operands)
      | _ => .ok ([], argument :: rest)

/-- Goes on with the options of a command, or complains about them. -/
def reading (command known : String)
    (action : State → List Char → List Text → Flow × State) : Builtin := fun state arguments =>
  match options known "" (arguments.length + 1) arguments with
  | .error message => refuse command state message
  | .ok (found, operands) => action state (found.map Prod.fst) operands

/-- The number that an argument spells, if the shell takes it. -/
def number? (text : Text) : Option Nat := State.smallNumber? text

/-- A text in quotes that the shell reads back: a quote in it stands between double
quotes. -/
def singleQuoted (text : Text) : Text :=
  let groups := text.splitBy fun left right => (left == '\'') == (right == '\'')
  let shown := groups.flatMap fun group =>
    if group.head? = some '\'' then '"' :: group ++ ['"'] else '\'' :: group ++ ['\'']
  if text = [] then ['\'', '\'']
  else if text.head? = some '\'' then '\'' :: '\'' :: shown else shown

/-- The number of the signal for a name or number; 0 is the exit. -/
def signalNumber? (text : Text) : Option Nat :=
  match Text.toNat? text with
  | some number =>
      let number := number % 4294967296
      if number ≤ 64 then some number else none
  | none =>
      let name := String.ofList (text.map Char.toUpper)
      if name = "EXIT" then some 0
      else (List.range 32).find? fun number => Ending.signalName number = "SIG" ++ name

def bucketOf (size : Nat) (name : Text) : Nat :=
  (name.foldl (fun total char => total + char.toNat)
    (((name.head?.map Char.toNat).getD 0) * 16)) % size

/-- The number of places in most tables of the shell. -/
def tableSize : Nat := 39

def inTableOrder {α : Type} (size : Nat) (nameOf : α → Text) (items : List α) : List α :=
  items.mergeSort fun left right => bucketOf size (nameOf left) ≤ bucketOf size (nameOf right)

/-- The variables that a shell hands on to programs, in its order.  In the large language
these are only those that have a value, in the order of its larger table. -/
def handedOn (state : State) : List Variable :=
  let exported := state.bindings.filter Variable.exported
  match state.dialect with
  | .dash => inTableOrder tableSize Variable.name exported
  | .bash =>
      (exported.filter fun known => known.isSet && known.store.isNone).reverse.mergeSort
        fun left right => Store.bucket left.name ≤ Store.bucket right.name

def noNumber (command : String) (state : State) (argument : Text) : Flow × State :=
  refuse command state ("Illegal number: ".toList ++ argument)

end Builtins

end FolderScript.Shell
