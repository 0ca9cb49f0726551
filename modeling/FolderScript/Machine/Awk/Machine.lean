/-
What a running pattern script knows: its variables and tables, the record at hand and
its fields, and the files and commands that it reads from and writes to.
-/
import FolderScript.Machine.Awk.Printed
import FolderScript.Machine.Awk.Reader
import FolderScript.Machine.Awk.Table
import FolderScript.Machine.Shell.Tools.Find
import FolderScript.Machine.Shell.Tools.Parts

namespace FolderScript.Awk

open Shell (Text Regex State)

/-- A parameter of a function: a value, or a table that others may know too. -/
inductive Slot where
  | value (value : Value)
  | table (number : Nat)

/-- How a text is cut into fields. -/
inductive Divider where
  /-- At blanks, which also stand around. -/
  | blanks
  | mark (char : Char)
  /-- Every character is a field. -/
  | everywhere
  | matching (regex : Regex)

/-- Something that is written to. -/
inductive Outlet where
  | channel (channel : Shell.Channel)
  /-- A descriptor that was open from the start. -/
  | descriptor (number : Nat)
  /-- A command, and what it is to read, the last part first. -/
  | command (parts : List Text)

/-- A file or the output of a command that is read from. -/
structure Inlet where
  isCommand : Bool
  name : Text
  rest : Text
  /-- The status of the command. -/
  status : Nat := 0

/-- The main input. -/
structure Feed where
  /-- The next argument to look at. -/
  next : Nat := 1
  /-- What is left of the file at hand. -/
  rest : Option Text := none
  /-- How standard input was before it was read, where it is, and how much it gave. -/
  taken : Option (State × Nat × Nat) := none
  /-- Whether an argument was a file. -/
  hadFile : Bool := false
  isOver : Bool := false

/-- The whole of what is known. -/
structure Machine where
  state : State
  launch : Shell.Tools.Launch
  functions : Std.HashMap String Function := {}
  globals : Std.HashMap String Value := {}
  /-- The numbers of the tables that all know. -/
  named : Std.HashMap String Nat := {}
  tables : Array Table := #[]
  slots : Array Slot := #[]
  record : Text := []
  /-- Whether the record is up to date with its fields. -/
  isJoined : Bool := true
  fields : Array Value := #[]
  /-- Whether the fields are up to date with the record. -/
  isSplit : Bool := false
  divider : Divider := .blanks
  count : Float := 0
  fileCount : Float := 0
  feed : Feed := {}
  /-- What is read from besides. -/
  inlets : List Inlet := []
  outlets : List (Way × Text × Outlet) := []
  regexes : Std.HashMap Text Regex := {}
  /-- How numbers are turned into texts, and how they are shown. -/
  form : Float → Text := Printed.numberForm "%.6g".toList
  shownForm : Float → Text := Printed.numberForm "%.6g".toList
  /-- The rules with two conditions that are between them. -/
  open_ : List Nat := []
  seed : Float := 1
  lastSeed : Value := .number 1
  random : UInt64 := 88172645463325252
  status : Nat := 0
  steps : Nat := 0

/-- Why a script does not simply go on. -/
inductive Stop where
  | next
  | nextFile
  | exit
  | returned (value : Value)
  | broken
  | continued
  /-- With a message about the run. -/
  | failed (message : Text)
  /-- With a message alone. -/
  | refused (message : Text)
  | endless
  | died (signal : Nat)

abbrev Act := ExceptT Stop (StateM Machine)

/-- How many steps a script takes before it is taken to go on for ever. -/
def mostSteps : Nat := 2000000

namespace Divider

/-- How a text asks to cut. -/
def ofText (text : Text) : Except String Divider :=
  match text with
  | [] => .ok .everywhere
  | [' '] => .ok .blanks
  | [char] => .ok (.mark char)
  | _ => (Reader.regexOf text).map .matching

/-- Whether a character stands between fields. -/
def isBlank (char : Char) : Bool := char == ' ' || char == '\t' || char == '\n'

/-- The parts of a text between blanks. -/
def words : Nat → Text → List Text
  | 0, _ => []
  | fuel + 1, text =>
      match text.dropWhile isBlank with
      | [] => []
      | bare =>
          let word := bare.takeWhile (!isBlank ·)
          word :: words fuel (bare.dropWhile (!isBlank ·))

def between (regex : Regex) (subject : Regex.Subject) : Nat → Nat → Nat → List Text
  | 0, _, _ => []
  | fuel + 1, start, index =>
      match regex.search? subject index with
      | none => [subject.slice start subject.chars.size]
      | some found =>
          if found.start = found.stop then
            if subject.chars.size ≤ found.start then [subject.slice start subject.chars.size]
            else between regex subject fuel start (found.stop + 1)
          else subject.slice start found.start :: between regex subject fuel found.stop found.stop

def fields (divider : Divider) (text : Text) : List Text :=
  match divider with
  | .blanks => words (text.length + 1) text
  | _ =>
      if text.isEmpty then []
      else
        match divider with
        | .blanks => []
        | .everywhere => text.map fun char => [char]
        | .mark char => text.splitOn char
        | .matching regex => between regex { chars := text.toArray } (text.length + 2) 0 0

end Divider

namespace Feed

/-- The first record of a text and what follows it, where one character ends records. -/
def single (mark : Char) (text : Text) : Option (Text × Text) :=
  if text.isEmpty then none
  else
    let record := text.takeWhile (· ≠ mark)
    some (record, (text.drop record.length).tail)

/-- The lines up to an empty one, and what follows. -/
def paragraph : Text → Text × Text
  | [] => ([], [])
  | '\n' :: '\n' :: rest => ([], rest.dropWhile (· = '\n'))
  | ['\n'] => ([], [])
  | char :: rest =>
      let (record, after) := paragraph rest
      (char :: record, after)

def record? (mark : Text) (text : Text) : Except String (Option (Text × Text)) :=
  match mark with
  | [char] => .ok (single char text)
  | [] =>
      match text.dropWhile (· = '\n') with
      | [] => .ok none
      | bare => .ok (some (paragraph bare))
  | _ =>
      if text.isEmpty then .ok none
      else do
        let regex ← Reader.regexOf mark
        let subject : Regex.Subject := { chars := text.toArray }
        match regex.search? subject 0 with
        | some found =>
            if found.start = found.stop then pure (some (text, []))
            else pure (some (text.take found.start, text.drop found.stop))
        | none => pure (some (text, []))

end Feed

namespace Machine

/-- The value of a variable that all know. -/
def shared (machine : Machine) (name : String) : Value :=
  (machine.globals[name]?).getD .unset

def sharedText (machine : Machine) (name : String) : Text :=
  (machine.shared name).toText machine.form

/-- The record with its fields cut out. -/
def cut (machine : Machine) : Machine :=
  if machine.isSplit then machine
  else
    { machine with
      fields := ((machine.divider.fields machine.record).map Value.ofInput).toArray, isSplit := true }

/-- The record put together from its fields. -/
def joined (machine : Machine) : Machine :=
  if machine.isJoined then machine
  else
    let texts := machine.fields.toList.map fun value => value.toText machine.form
    { machine with
      record := Shell.Text.join (machine.sharedText "OFS") texts, isJoined := true }

def setRecord (machine : Machine) (record : Text) : Machine :=
  { machine with record := record, isJoined := true, isSplit := false }

def setFieldCount (machine : Machine) (count : Nat) : Machine :=
  let machine := machine.cut
  let fields := if count ≤ machine.fields.size then machine.fields.extract 0 count
    else machine.fields ++ Array.replicate (count - machine.fields.size) (Value.text [])
  { machine with fields := fields, isJoined := false }

def setField (machine : Machine) (index : Nat) (value : Value) : Machine :=
  let machine := machine.cut
  let machine := if machine.fields.size < index then machine.setFieldCount index else machine
  { machine with fields := machine.fields.set! (index - 1) value, isJoined := false }

/-- The machine with another value for a variable that all know; some of them change
what the machine does. -/
def setShared (machine : Machine) (name : String) (value : Value) : Except String Machine :=
  let plain : Machine := { machine with globals := machine.globals.insert name value }
  match name with
  | "NF" => .ok (machine.setFieldCount (((Number.whole? value.toNumber).getD 0).toNat))
  | "NR" => .ok { machine with count := value.toNumber }
  | "FNR" => .ok { machine with fileCount := value.toNumber }
  | "FS" => do
      let divider ← Divider.ofText (value.toText machine.form)
      pure { plain.cut with divider := divider }
  | "CONVFMT" => .ok { plain with form := Printed.numberForm (value.toText machine.form) }
  | "OFMT" => .ok { plain with shownForm := Printed.numberForm (value.toText machine.form) }
  | _ => .ok plain

/-- The value of a variable that all know, or what the machine knows in its place. -/
def getShared (machine : Machine) (name : String) : Value × Machine :=
  match name with
  | "NF" =>
      let machine := machine.cut
      (.number (Float.ofNat machine.fields.size), machine)
  | "NR" => (.number machine.count, machine)
  | "FNR" => (.number machine.fileCount, machine)
  | _ => (machine.shared name, machine)

/-- A table that nobody knows yet. -/
def freshTable (machine : Machine) (table : Table) : Nat × Machine :=
  (machine.tables.size, { machine with tables := machine.tables.push table })

def tableAt (machine : Machine) (place : Place) : Nat × Machine :=
  match place with
  | .shared name =>
      match machine.named[name]? with
      | some number => (number, machine)
      | none =>
          let (number, machine) := machine.freshTable {}
          (number, { machine with named := machine.named.insert name number })
  | .here index =>
      match machine.slots[index]? with
      | some (.table number) => (number, machine)
      | _ =>
          let (number, machine) := machine.freshTable {}
          (number, { machine with slots := machine.slots.set! index (.table number) })

def table (machine : Machine) (number : Nat) : Table := machine.tables.getD number {}

def setTable (machine : Machine) (number : Nat) (table : Table) : Machine :=
  { machine with tables := machine.tables.setIfInBounds number table }

def changeTable (machine : Machine) (number : Nat) (change : Table → Table) : Machine :=
  { machine with tables := machine.tables.modify number change }

end Machine

end FolderScript.Awk
