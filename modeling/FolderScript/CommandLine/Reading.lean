/-
Reading the arguments of one scope from left to right.  A value that stands in
an argument of its own is looked at only when the next option comes, or at the
end.
-/
import FolderScript.CommandLine.Stop

namespace FolderScript

/-- The largest number of seconds. -/
def mostSeconds : Nat := 0xFFFFFFFFFFFFFFFF

/-- Takes one more digit of a number; the first character that is no digit, or that makes
the number too large, ends the reading. -/
def addDigit (number : Nat) (char : Char) : Except NumberFault Nat :=
  if !char.isDigit then .error .digit
  else
    let next := 10 * number + (char.toNat - '0'.toNat)
    if next ≤ mostSeconds then .ok next else .error .tooLarge

/-- Reads a number of seconds: decimal digits, with or without a plus in front. -/
def readSeconds (text : String) : Except NumberFault UInt64 :=
  match text.toList with
  | [] => .error .empty
  | first :: rest =>
      let digits := if first = '+' ∧ rest ≠ [] then rest else first :: rest
      (digits.foldlM addDigit 0).map UInt64.ofNat

/-- How far the arguments of a scope have been read. -/
structure Reading where
  options : Options := {}
  /-- An option that is not settled, with its value if that has come. -/
  pending : Option (ValueOption × Option Bytes) := none
  /-- Whether everything that follows is no option. -/
  trailing : Bool := false
  deriving DecidableEq, Repr

namespace Reading

def wrong {α : Type} (error : UsageError) : Except Stop α := .error (.usage error)

/-- Sets an option that is not set to what its value says. -/
def interpret (options : Options) (option : ValueOption) (value : Bytes) :
    Except Stop Options :=
  match option.kind with
  | .path =>
      if value = [] then wrong (.missingValue option)
      else .ok (options.setPath option ⟨value⟩)
  | .text =>
      match Utf8.decode? value with
      | some text => .ok (options.setText option text)
      | none => wrong .brokenText
  | .seconds =>
      match Utf8.decode? value with
      | none => wrong .brokenText
      | some text =>
          match readSeconds text with
          | .ok seconds => .ok (options.setSeconds seconds)
          | .error fault => wrong (.invalidNumber option text fault)

/-- Gives an option its value; it may be given only once. -/
def assign (options : Options) (option : ValueOption) (value : Bytes) :
    Except Stop Options :=
  if options.has option then wrong (.repeated option) else interpret options option value

/-- Settles the option that is pending. -/
def settle (reading : Reading) : Except Stop Reading :=
  match reading.pending with
  | none => .ok reading
  | some (option, none) => wrong (.missingValue option)
  | some (option, some value) => do
      let options ← assign reading.options option value
      pure { reading with options := options, pending := none }

/-- An option whose value is part of the same argument. -/
def giveValue (reading : Reading) (option : ValueOption) (value : Bytes) :
    Except Stop Reading := do
  let reading ← reading.settle
  let options ← assign reading.options option value
  pure { reading with options := options }

def awaitValue (reading : Reading) (option : ValueOption) : Except Stop Reading := do
  let reading ← reading.settle
  pure { reading with pending := some (option, none) }

/-- Whether the next plain argument is a value. -/
def isWaiting (reading : Reading) : Bool :=
  match reading.pending with
  | some (_, none) => true
  | _ => false

def raise (scope : Scope) (reading : Reading) (flag : Flag) (long : Bool) :
    Except Stop Reading := do
  let reading ← reading.settle
  match flag with
  | .verbose => pure { reading with options := reading.options.countVerbose }
  | .help => .error (.help (.scope scope) long)
  | .version => .error (.version scope)

/-- The byte between an option and its value. -/
def equalsSign : UInt8 := 0x3D

/-- The byte in front of options. -/
def dash : UInt8 := 0x2D

/-- An argument after two dashes. -/
def readLong (scope : Scope) (reading : Reading) (body : Bytes) : Except Stop Reading :=
  let name := body.takeWhile (· ≠ equalsSign)
  let value? := (body.dropWhile (· ≠ equalsSign)).tail?
  match ValueOption.ofLong? scope name, Flag.ofLong? name, value? with
  | some option, _, some value => reading.giveValue option value
  | some option, _, none => reading.awaitValue option
  | none, some flag, some value => wrong (.unexpectedValue flag (Utf8.lossy value))
  | none, some flag, none => reading.raise scope flag true
  | none, none, _ => wrong (.unknownArgument ("--" ++ Utf8.lossy name))

/-- The well-formed characters in front, and the bytes after them, from a
decoder state with the bytes of an unfinished character, last first. -/
def splitTextFrom (state : Utf8.State) (held : Bytes) : Bytes → List Char × Bytes
  | [] => ([], held.reverse)
  | byte :: rest =>
      match Utf8.step? state byte with
      | some (some char, next) =>
          let (chars, broken) := splitTextFrom next [] rest
          (char :: chars, broken)
      | some (none, next) => splitTextFrom next (byte :: held) rest
      | none => ([], held.reverse ++ byte :: rest)

/-- The well-formed characters in front, and the bytes after them. -/
def splitText (bytes : Bytes) : List Char × Bytes := splitTextFrom .start [] bytes

/-- The letters after one dash; an option with a value takes all that follows. -/
def readLetters (scope : Scope) (broken : Bytes) :
    Reading → List Char → Except Stop Reading
  | reading, [] =>
      if broken = [] then .ok reading
      else wrong (.unknownArgument ("-" ++ Utf8.lossy broken))
  | reading, letter :: rest =>
      match ValueOption.ofShort? scope letter, Flag.ofShort? letter with
      | some option, _ =>
          match Utf8.encode (String.ofList rest) ++ broken with
          | [] => reading.awaitValue option
          | byte :: value =>
              reading.giveValue option (if byte = equalsSign then value else byte :: value)
      | none, some flag => do
          let reading ← reading.raise scope flag false
          readLetters scope broken reading rest
      | none, none => wrong (.unknownArgument ("-" ++ letter.toString))

def subcommandNames : List Bytes := ["run", "r", "config", "help"].map Utf8.encode

/-- An argument that no option takes. -/
def stray (scope : Scope) (reading : Reading) (argument : Bytes) : Except Stop Reading :=
  match scope with
  | .program =>
      if reading.trailing ∧ argument ∈ subcommandNames then
        wrong (.unknownArgument (Utf8.lossy argument))
      else wrong (.unknownSubcommand (Utf8.lossy argument))
  | _ => wrong (.unknownArgument (Utf8.lossy argument))

/-- An argument that looks like no option: the value that is waited for, if one
is. -/
def plain (reading : Reading) (scope : Scope) (argument : Bytes) : Except Stop Reading :=
  match reading.pending with
  | some (option, none) => .ok { reading with pending := some (option, some argument) }
  | _ => reading.stray scope argument

def readArgument (scope : Scope) (reading : Reading) (argument : Bytes) :
    Except Stop Reading :=
  if reading.trailing then reading.stray scope argument
  else
    match argument with
    | first :: second :: rest =>
        if first = dash ∧ second = dash then
          if rest = [] then .ok { reading with trailing := true }
          else reading.readLong scope rest
        else if first = dash then
          let (letters, broken) := splitText (second :: rest)
          readLetters scope broken reading letters
        else reading.plain scope argument
    | _ => reading.plain scope argument

def readAll (scope : Scope) (arguments : List Bytes) : Except Stop Reading := do
  let reading ← arguments.foldlM (readArgument scope) {}
  reading.settle

/-- Fills options that were not given from the environment. -/
def fromEnvironment (environment : String → Option Bytes) (scope : Scope)
    (options : Options) : Except Stop Options :=
  (ValueOption.inScope scope).foldlM
    (fun filled option =>
      if options.has option then .ok filled
      else
        match option.environmentName?.bind environment with
        | some value => interpret filled option value
        | none => .ok filled)
    options

end Reading

end FolderScript
