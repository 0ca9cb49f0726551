/-
How a pattern script reads records and writes texts: the main input, files, and
commands.
-/
import FolderScript.Machine.Awk.Machine

namespace FolderScript.Awk

open Shell (Text State)

namespace Streams

def fail {α : Type} (message : Text) : Act α := throw (.failed message)

/-- Stops because of a pattern that makes no sense. -/
def orFail {α : Type} (source : Text) (result : Except String α) : Act α :=
  match result with
  | .ok value => pure value
  | .error message =>
      fail ("regular expression compile failed (".toList ++ message.toList ++ ")\n".toList ++ source)

/-- Runs a command with a shell, and tells its status. -/
def run (command : Text) (change : State → State) : Act Nat := do
  let machine ← get
  let before := machine.state
  match machine.launch (change before) ["sh".toList, "-c".toList, command] with
  | .error _ => return 127
  | .ok (flow, after) =>
      set { machine with state := { after with descriptors := before.descriptors } }
      match flow with
      | .forever => throw .endless
      | .died signal => return 256 + signal
      | _ => return flow.statusOf after

def outputOf (command : Text) : Act (Text × Nat) := do
  let machine ← get
  let (number, opened) := machine.state.newBuffer { endsAt := none }
  set { machine with state := opened }
  let status ← run command fun state => state.setChannel 1 (some (.buffer number))
  return (Shell.Text.ofBytes ((← get).state.bufferOf number).content, status)

/-- Lets a command read what was kept for it. -/
def feed (command : Text) (parts : List Text) : Act Nat := do
  let machine ← get
  let bytes := Shell.Text.toBytes parts.reverse.flatten
  let (number, opened) := machine.state.newBuffer (Shell.Buffer.ofBytes bytes)
  set { machine with state := opened }
  run command fun state => state.setChannel 0 (some (.buffer number))

/-- Closes what goes by a name, and tells how that went. -/
def close (name : Text) : Act Float := do
  let machine ← get
  let found := machine.outlets.filter fun outlet => outlet.2.1 = name
  let read := machine.inlets.find? fun inlet => inlet.name = name
  set { machine with
    outlets := machine.outlets.filter fun outlet => outlet.2.1 ≠ name
    inlets := machine.inlets.filter fun inlet => inlet.name ≠ name }
  let statuses ← found.mapM fun outlet => match outlet.2.2 with
    | .command parts => feed name parts
    | _ => pure 0
  match statuses, read with
  | status :: _, _ => return Float.ofNat status
  | [], some inlet => return Float.ofNat inlet.status
  | [], none => return -1

/-- Closes everything that is written to. -/
def closeAll : Act Unit := do
  let machine ← get
  set { machine with outlets := [] }
  machine.outlets.reverse.forM fun outlet => match outlet.2.2 with
    | .command parts => do
        let _ ← feed outlet.2.1 parts
        pure ()
    | _ => pure ()

def write (descriptor : Nat) (text : Text) : Act Unit := do
  modify fun machine => { machine with state := machine.state.write descriptor text }
  if (← get).state.pipeBroken then throw (.died State.pipeSignal)

def outlet (way : Way) (name : Text) : Act Outlet := do
  let machine ← get
  match machine.outlets.find? fun outlet =>
      outlet.2.1 = name && (outlet.1 == .into) == (way == .into) with
  | some found => return found.2.2
  | none =>
      let opened : Outlet ← match way with
        | .into => pure (.command [])
        | _ =>
            if name = "/dev/stdout".toList || name = ['-'] then pure (.descriptor 1)
            else if name = "/dev/stderr".toList then pure (.descriptor 2)
            else
              match Shell.Tools.openTarget machine.state name (way == .behind) with
              | .ok (channel, state) =>
                  set { machine with state := state }
                  pure (.channel channel)
              | .error error =>
                  throw (.refused ("cannot open \"".toList ++ name ++ "\" for output (".toList ++
                    Shell.Tools.reason error ++ [')']))
      modify fun machine => { machine with outlets := (way, name, opened) :: machine.outlets }
      return opened

def writeTo (way : Way) (name : Text) (text : Text) : Act Unit := do
  match ← outlet way name with
  | .descriptor number => write number text
  | .channel channel =>
      modify fun machine =>
        let state := machine.state
        let written := (state.setChannel 9 (some channel)).write 9 text
        { machine with state := { written with descriptors := state.descriptors } }
  | .command parts =>
      modify fun machine => { machine with
        outlets := machine.outlets.map fun outlet =>
          if outlet.2.1 = name && outlet.1 == .into then (outlet.1, name, .command (text :: parts))
          else outlet }

/-- Sets a variable as an argument asks for it. -/
def assign (name : String) (value : Text) : Act Unit := do
  let machine ← get
  match machine.setShared name (Value.ofInput (Scan.unescape value)) with
  | .ok machine => set machine
  | .error message => fail message.toList

/-- The name and the value of an argument that sets a variable. -/
def assignment? (argument : Text) : Option (String × Text) :=
  let name := argument.takeWhile (· ≠ '=')
  if argument.contains '=' && name.all Scan.isNameChar &&
      (name.head?.any fun char => char.isAlpha || char == '_') then
    some (String.ofList name, (argument.drop name.length).tail)
  else none

def openMain (name shown : Text) : Act Unit := do
  let machine ← get
  let operand := if name = "/dev/stdin".toList then ['-'] else name
  match Shell.Tools.load machine.state operand with
  | .ok (data, state) =>
      let text := Shell.Text.ofBytes data
      let taken := (Shell.Tools.descriptorOf? machine.state operand).map fun descriptor =>
        (machine.state, descriptor, data.length)
      set { machine with
        state := state, fileCount := 0
        feed := { machine.feed with rest := some text, taken := taken, hadFile := true }
        globals := machine.globals.insert "FILENAME" (.text shown) }
  | .error .isDirectory => throw (.refused "read error (Is a directory)".toList)
  | .error error =>
      throw (.refused ("cannot open \"".toList ++ name ++ "\" (".toList ++
        Shell.Tools.reason error ++ [')']))

/-- Opens the next file of the main input, if there is one. -/
def advance : Nat → Act Bool
  | 0 => return false
  | fuel + 1 => do
      let machine ← get
      let (number, machine) := machine.tableAt (.shared "ARGV")
      let last := ((Number.whole? (machine.shared "ARGC").toNumber).getD 0).toNat
      let index := machine.feed.next
      if index < last then
        let key : Table.Key := .number (Int.ofNat index)
        let argument : Text :=
          match (machine.table number).values[key.text]? with
          | some value => value.toText machine.form
          | none => []
        set { machine with feed := { machine.feed with next := index + 1 } }
        if argument.isEmpty then advance fuel
        else
          match assignment? argument with
          | some (name, value) =>
              assign name value
              advance fuel
          | none =>
              openMain argument argument
              return true
      else if machine.feed.hadFile then
        set { machine with feed := { machine.feed with isOver := true } }
        return false
      else
        set machine
        openMain ['-'] []
        return true

def mainRecord : Nat → Act (Option Text)
  | 0 => return none
  | fuel + 1 => do
      let machine ← get
      if machine.feed.isOver then return none
      else
        match machine.feed.rest with
        | none => if ← advance 100000 then mainRecord fuel else return none
        | some text =>
            match ← orFail [] (Feed.record? (machine.sharedText "RS") text) with
            | none =>
                set { machine with feed := { machine.feed with rest := none, taken := none } }
                mainRecord fuel
            | some (record, rest) =>
                set { machine with
                  feed := { machine.feed with rest := some rest }
                  count := machine.count + 1, fileCount := machine.fileCount + 1 }
                return some record

/-- Gives back what was not read of standard input. -/
def release : Act Unit := do
  let machine ← get
  match machine.feed.taken, machine.feed.rest with
  | some (before, descriptor, total), some (char :: rest) =>
      let needed := total - (char :: rest).length
      set { machine with
        state := before.putBack machine.state descriptor 4096 needed
        feed := { machine.feed with taken := none, rest := none } }
  | _, _ => pure ()

/-- Opens a file or the output of a command to read from it. -/
def openInlet (isCommand : Bool) (name : Text) : Act (Option Inlet) := do
  if isCommand then
    let (text, status) ← outputOf name
    return some { isCommand := true, name := name, rest := text, status := status }
  else
    let machine ← get
    let operand := if name = "/dev/stdin".toList then ['-'] else name
    match Shell.Tools.load machine.state operand with
    | .ok (data, state) =>
        set { machine with state := state }
        return some { isCommand := false, name := name, rest := Shell.Text.ofBytes data }
    | .error _ => return none

/-- The next record of a file or of the output of a command: an error if it cannot be
read, and nothing at its end. -/
def sideRecord (isCommand : Bool) (name : Text) : Act (Except Unit (Option Text)) := do
  let isIt (inlet : Inlet) : Bool := inlet.isCommand == isCommand && inlet.name = name
  let inlet ← match (← get).inlets.find? isIt with
    | some inlet => pure (some inlet)
    | none => openInlet isCommand name
  match inlet with
  | none => return .error ()
  | some inlet =>
      let machine ← get
      let others := machine.inlets.filter fun inlet => !isIt inlet
      match ← orFail [] (Feed.record? (machine.sharedText "RS") inlet.rest) with
      | none =>
          set { machine with inlets := { inlet with rest := [] } :: others }
          return .ok none
      | some (record, rest) =>
          set { machine with inlets := { inlet with rest := rest } :: others }
          return .ok (some record)

end Streams

end FolderScript.Awk
