/-
How a list script reads and writes: streams on descriptors, files, texts and commands, and
the files that its arguments name.
-/
import FolderScript.Machine.Perl.Machine

namespace FolderScript.Perl

open Shell (Text State)

namespace Streams

def get (place : Nat) : Act Stream := return (← MonadState.get).streamAt place

def change (place : Nat) (how : Stream → Stream) : Act Unit :=
  modify fun machine => machine.setThing place (.stream (how (machine.streamAt place)))

def sign (name : Text) : String := "*" ++ String.ofList name

/-- The place of the stream that a value stands for, so many references deep. -/
def placeOf : Nat → Value → Act (Option Nat)
  | 0, _ => return none
  | fuel + 1, value => do
      let machine ← MonadState.get
      match value with
      | .reference place =>
          match machine.thing place with
          | .stream _ | .folder _ => return some place
          | .scalar inner => placeOf fuel inner
          | _ => return none
      | other =>
          let name := Scan.bareName (other.toText)
          return machine.shared[sign (if name.head? == some '*' then name.drop 1 else name)]?

def find (value : Value) : Act (Option Nat) := placeOf 4 value

/-- How the channel of a descriptor changes when it is written to with another one. -/
def onChannel (channel : Shell.Channel) (text : Text) (state : State) : State :=
  let written := (state.setChannel 9 (some channel)).write 9 text
  { written with descriptors := state.descriptors }

/-- Writes what is still to be written of a stream. -/
def flush (place : Nat) : Act Unit := do
  let stream ← get place
  if stream.pending ≠ [] then
    let text := stream.pending.reverse.flatten
    change place fun stream => { stream with pending := [], size := 0 }
    match stream.outlet with
    | some (.descriptor number) =>
        modify fun machine => { machine with state := (machine.state.write number text).worked 1 }
        if (← MonadState.get).state.pipeBroken then throw (.struck State.pipeSignal)
    | some (.channel channel) =>
        modify fun machine => { machine with state := onChannel channel text machine.state }
        if (← MonadState.get).state.pipeBroken then throw (.struck State.pipeSignal)
    | some (.command line parts) =>
        change place fun stream => { stream with outlet := some (.command line (text :: parts)) }
    | some (.cell cell) =>
        let before := (← valueAt cell).toText
        setValue cell (.text (before ++ text))
    | none => pure ()

def all : Act (List Nat) := do
  let machine ← MonadState.get
  return (List.range machine.heap.size).filter fun place =>
    match machine.thing place with
    | .stream _ => true
    | _ => false

/-- Writes what is still to be written anywhere. -/
def flushAll : Act Unit := do
  (← all).forM fun place => do
    match (← get place).outlet with
    | some (.command ..) => pure ()
    | _ => flush place

/-- How much is kept before it is written. -/
def roomFor : Nat := 8192

/-- Cuts off as much of a text as fills whole rooms. -/
def filled (size : Nat) : Nat := size / roomFor * roomFor

/-- The bytes for a text: a character for which there is no byte makes several of each
that is not plain. -/
def encoded (isWide : Bool) (text : Text) : Text × Bool :=
  let isLarge := text.any fun char => 255 < char.toNat
  if isLarge || isWide then
    (Shell.Text.ofBytes (Utf8.encode (String.ofList text)), isLarge && !isWide)
  else (text, false)

/-- Writes a text to a stream; tells whether that can be done. -/
def write (place : Nat) (text : Text) : Act Bool := do
  let stream ← get place
  if !stream.isOpen || stream.outlet.isNone then
    setError 9
    return false
  else
    let (bytes, isStrange) := encoded stream.isWide text
    if isStrange then
      let site := (← MonadState.get).site
      modify fun machine => { machine with
        state := machine.state.write 2 ("Wide character in print".toList ++ site) }
    let size := stream.size + bytes.length
    change place fun stream => { stream with pending := bytes :: stream.pending, size := size }
    if stream.isPrompt then flush place
    else if roomFor ≤ size then
      let whole := (bytes :: stream.pending).reverse.flatten
      let ready := filled size
      change place fun stream => { stream with pending := [whole.take ready], size := ready }
      flush place
      let rest := whole.drop ready
      change place fun stream => { stream with
        pending := if rest = [] then [] else [rest], size := rest.length }
    return true

/-- The state as other programs are to find it: their variables are those of the hash for
that. -/
def handed : Act State := do
  let machine ← MonadState.get
  let entries := match machine.shared["%ENV"]? with
    | some place => (machine.hashAt place).entries
    | none => []
  let bindings := entries.map fun (name, cell) =>
    ({ name := name, value := machine.textOf (machine.value cell), exported := true } : Shell.Variable)
  return { machine.state with bindings := bindings }

def needsShell (command : Text) : Bool :=
  command.any fun char => "$&*(){}[]'\";\\|?<>~\x60\n".toList.contains char

def wordsOf (command : Text) : List Text :=
  if needsShell command then ["sh".toList, "-c".toList, command]
  else Scan.words (command.length + 1) command

/-- Runs a program to its end, and tells its status; nothing is told if there is no such
program. -/
def run (words : List Text) (how : State → State) : Act (Option Nat) := do
  flushAll
  let before := (← MonadState.get).state
  let state ← handed
  match (← MonadState.get).launch (how state) words with
  | .error error =>
      setError (errorNumber error)
      return none
  | .ok (flow, after) =>
      modify fun machine => { machine with
        state := { before.resume after before.status with starved := after.starved } }
      match flow with
      | .forever => throw .endless
      | .died signal => return some signal
      | _ => return some (256 * flow.statusOf after)

/-- The output of a program, and its status. -/
def outputOf (words : List Text) : Act (Text × Option Nat) := do
  let (number, opened) := (← MonadState.get).state.newBuffer { endsAt := none }
  modify fun machine => { machine with state := opened }
  let status ← run words fun state => state.setChannel 1 (some (.buffer number))
  return (Shell.Text.ofBytes ((← MonadState.get).state.bufferOf number).content, status)

/-- Lets a program read what was kept for it. -/
def feed (words : List Text) (parts : List Text) : Act (Option Nat) := do
  let bytes := Shell.Text.toBytes parts.reverse.flatten
  let (number, opened) := (← MonadState.get).state.newBuffer (Shell.Buffer.ofBytes bytes)
  modify fun machine => { machine with state := opened }
  run words fun state => state.setChannel 0 (some (.buffer number))

/-- The status of the last program. -/
def setStatus (status : Option Nat) : Act Unit :=
  modify fun machine => machine.setShared "?" (match status with
    | some status => .ofNat status
    | none => .ofInt (-1))

/-- Closes a stream; tells whether that went well. -/
def close (place : Nat) : Act Bool := do
  let stream ← get place
  if !stream.isOpen then
    setError 9
    return false
  else
    flush place
    let stream ← get place
    change place fun stream => { stream with
      isOpen := false, input := none, outlet := none, lines := 0, hasEnded := false }
    match stream.outlet with
    | some (.command line parts) =>
        let status ← feed line parts
        setStatus status
        return status == some 0
    | some (.descriptor number) =>
        let machine ← MonadState.get
        match machine.state.writeFault with
        | some error =>
            set { machine with
              error := errorNumber error
              state := { (machine.state.setChannel number none) with writeFault := none } }
            return false
        | none =>
            set { machine with state := machine.state.setChannel number none }
            return true
    | _ =>
        if stream.status ≠ 0 then setStatus (some stream.status)
        return stream.status = 0

/-- Closes everything, at the end. -/
def closeAll : Act Unit := do
  (← all).forM fun place => do
    match (← get place).outlet with
    | some (.command ..) => discard (close place)
    | _ => flush place

/-- How a file is to be opened. -/
inductive Way where
  | read
  | write
  | append
  | fromCommand
  | intoCommand
  | copy (toWrite : Bool)
  deriving DecidableEq, Repr

/-- The way that signs stand for, with the rest of them. -/
def wayOf (mode : Text) : Option (Way × Text) :=
  match mode with
  | '<' :: '&' :: '=' :: rest | '<' :: '&' :: rest => some (.copy false, rest)
  | '>' :: '&' :: '=' :: rest | '>' :: '&' :: rest => some (.copy true, rest)
  | '>' :: '>' :: '&' :: rest => some (.copy true, rest)
  | '>' :: '>' :: rest => some (.append, rest)
  | '+' :: '<' :: rest | '<' :: rest => some (.read, rest)
  | '+' :: '>' :: rest | '>' :: rest => some (.write, rest)
  | '-' :: '|' :: rest => some (.fromCommand, rest)
  | '|' :: '-' :: rest | '|' :: rest => some (.intoCommand, rest)
  | _ => none

/-- A text without blanks around it. -/
def trimmed (text : Text) : Text :=
  ((text.dropWhile Scan.isBlank).reverse.dropWhile Scan.isBlank).reverse

def wayAndName (text : Text) : Way × Text :=
  let bare := trimmed text
  if bare.getLast? == some '|' then (.fromCommand, trimmed bare.dropLast)
  else
    match wayOf bare with
    | some (way, rest) => (way, trimmed rest)
    | none => (.read, bare)

/-- The error after a file has been opened, as it turns out to be no terminal. -/
def noTerminal : Nat := 25

/-- Puts an opened stream at a place; one of the usual streams keeps its descriptor. -/
def put (place : Nat) (stream : Stream) : Act Unit := do
  let before ← get place
  let machine ← MonadState.get
  let ofChannel (state : State) (number : Nat) (channel : Shell.Channel) : Act Unit :=
    modify fun machine => { machine with state := state.setChannel number (some channel) }
  match before.name, stream.outlet, stream.input with
  | name, some (.channel channel), _ =>
      let number? : Option Nat := if name = "STDOUT".toList then some 1
        else if name = "STDERR".toList then some 2 else none
      match number? with
      | some number =>
          ofChannel machine.state number channel
          change place fun _ => { stream with
            outlet := some (.descriptor number), isPrompt := before.isPrompt }
      | none => change place fun _ => stream
  | name, none, some text =>
      if name = "STDIN".toList then
        let (channel, state) := machine.state.fileBuffer (Shell.Text.toBytes text)
        ofChannel state 0 channel
      change place fun _ => stream
  | _, _, _ => change place fun _ => stream

/-- Opens a stream at a place; tells whether that can be done. -/
def openAt (place : Nat) (name : Text) (way : Way) (target : Value) (words : List Text) : Act Bool := do
  let machine ← MonadState.get
  let base : Stream := { name := name }
  let file := match target with
    | .text text => text
    | other => machine.textOf other
  let refuse (error : IoError) : Act Bool := do
    setError (errorNumber error)
    return false
  if (← get place).isOpen then flush place
  match way, target with
  | .read, .reference cell => do
      put place { base with input := some (← textOf (← valueAt cell)) }
      return true
  | .write, .reference cell => do
      setValue cell (.text [])
      put place { base with outlet := some (.cell cell) }
      return true
  | .append, .reference cell => do
      put place { base with outlet := some (.cell cell) }
      return true
  | .read, _ =>
      match Shell.Tools.load machine.state file with
      | .ok (data, state) =>
          set { machine with state := state, error := noTerminal }
          put place { base with input := some (Shell.Text.ofBytes data) }
          return true
      | .error .isDirectory =>
          put place { base with input := some [] }
          return true
      | .error error => refuse error
  | .write, _ | .append, _ =>
      match Shell.Tools.openTarget machine.state file (way == .append) with
      | .ok (channel, state) =>
          set { machine with state := state, error := noTerminal }
          put place { base with outlet := some (.channel channel) }
          return true
      | .error error => refuse error
  | .fromCommand, _ => do
      let line := if words = [] then wordsOf file else file :: words
      let (text, status) ← outputOf line
      match status with
      | none => return false
      | some status =>
          put place { base with input := some text, status := status }
          return true
  | .intoCommand, _ => do
      let line := if words = [] then wordsOf file else file :: words
      put place { base with outlet := some (.command line []) }
      return true
  | .copy toWrite, _ => do
      let source ← find target
      let number? : Option Nat ← match Shell.Text.toNat? file, source with
        | some number, _ => pure (some number)
        | none, some other => do
            flush other
            pure (match (← get other).outlet, (← get other).source with
              | some (.descriptor number), _ => some number
              | _, some number => some number
              | _, _ => none)
        | none, none => pure none
      let machine ← MonadState.get
      match number?.bind machine.state.channel?, source with
      | some channel, _ =>
          if toWrite then put place { base with outlet := some (.channel channel) }
          else put place { base with source := number? }
          return true
      | none, some other =>
          put place { (← get other) with name := name }
          return true
      | none, none => refuse .badDescriptor

/-- Looks at what there is to read of a descriptor. -/
def fill (place : Nat) : Act Unit := do
  let stream ← get place
  match stream.source, stream.input with
  | some number, none =>
      let machine ← MonadState.get
      match machine.state.channel? number with
      | some (.buffer buffer) =>
          let text := Shell.Text.ofBytes (machine.state.bufferOf buffer).content
          change place fun stream => { stream with
            input := some text, taken := some (number, text.length) }
      | some .zeros =>
          let (data, state) := machine.state.readAll number
          set { machine with state := state }
          change place fun stream => { stream with input := some (Shell.Text.ofBytes data) }
      | some _ => change place fun stream => { stream with input := some [] }
      | none =>
          setError 9
          change place fun stream => { stream with input := some [] }
  | _, _ => pure ()

/-- What ends a line. -/
inductive Mark where
  | nothing
  | blankLine
  | text (text : Text)
  | count (size : Nat)
  deriving DecidableEq, Repr

def upTo (mark : Text) : Text → Text × Text
  | [] => ([], [])
  | char :: rest =>
      if mark.isPrefixOf (char :: rest) then (mark, (char :: rest).drop mark.length)
      else
        let (front, after) := upTo mark rest
        (char :: front, after)

def firstLine (mark : Mark) (text : Text) : Text × Text :=
  match mark with
  | .nothing => (text, [])
  | .count size => (text.take size, text.drop size)
  | .blankLine =>
      let (line, rest) := upTo ['\n', '\n'] (text.dropWhile (· == '\n'))
      (line, rest.dropWhile (· == '\n'))
  | .text ['\n'] =>
      let line := text.takeWhile (· ≠ '\n')
      let rest := text.drop line.length
      (line ++ rest.take 1, rest.drop 1)
  | .text mark => upTo mark text

/-- The mark that ends lines. -/
def mark : Act Mark := do
  let machine ← MonadState.get
  match machine.sharedValue "/" with
  | .undefined => return .nothing
  | .reference place => return .count (machine.value place).toNat
  | other =>
      match other.toText with
      | [] => return .blankLine
      | text => return .text text

/-- The moment up to which has to be waited for the next line of a stream: when it has come,
or nothing can come any more. -/
def arrival (place : Nat) (mark : Mark) : Act (Option Duration) := do
  fill place
  let stream ← get place
  let machine ← MonadState.get
  match stream.taken, stream.input with
  | some (number, total), some text =>
      match machine.state.channel? number with
      | some (.buffer buffer) =>
          let known := machine.state.bufferOf buffer
          let (line, rest) := firstLine mark text
          let isComplete := match mark with
            | .text mark => mark.reverse.isPrefixOf line.reverse && line ≠ []
            | .count size => line.length = size
            | .blankLine => rest ≠ []
            | .nothing => false
          return if isComplete then known.arrival (total - rest.length)
            else known.arrival (total + 1)
      | _ => return some machine.state.clock
  | _, _ => return some machine.state.clock

def nextLine (place : Nat) (mark : Mark) : Act (Option Text) := do
  fill place
  let stream ← get place
  match stream.input with
  | none | some [] =>
      change place fun stream => { stream with hasEnded := true }
      return none
  | some text =>
      let (line, rest) := firstLine mark text
      if line = [] then
        change place fun stream => { stream with input := some rest }
        return none
      else
        change place fun stream => { stream with input := some rest, lines := stream.lines + 1 }
        return some line

/-- Whether nothing is left to read of a stream. -/
def isOver (place : Nat) : Act Bool := do
  fill place
  return ((← get place).input.getD []) = []

/-- Gives back what was not read of a descriptor. -/
def release : Act Unit := do
  (← all).forM fun place => do
    let stream ← get place
    match stream.taken, stream.input with
    | some (number, total), some text =>
        change place fun stream => { stream with taken := none }
        modify fun machine => { machine with
          state := machine.state.putBack machine.state number roomFor (total - text.length) }
    | _, _ => pure ()

def warn (message : Text) : Act Unit := do
  modify fun machine => { machine with state := machine.state.write 2 message }

def feedName : Text := "ARGV".toList

/-- Takes the first of the arguments away. -/
def shiftArgument : Act (Option Text) := do
  let (place, machine) := (← MonadState.get).lookup .array "ARGV"
  set machine
  match (machine.cells place).toList with
  | [] => return none
  | first :: rest =>
      set (machine.setThing place (.array rest.toArray))
      return some (machine.textOf (machine.value first))

/-- Opens the next file that the arguments name; a file that is changed in its place is
written to from then on. -/
def advance (place standard : Nat) : Nat → Act Bool
  | 0 => return false
  | fuel + 1 => do
      let machine ← MonadState.get
      let isFirst := !machine.hasFeed
      set { machine with hasFeed := true }
      let finish : Act Bool := do
        if machine.inPlace.isSome then
          flushAll
          modify fun machine => { machine with selected := standard }
        return false
      let lines := (← get place).lines
      match ← shiftArgument with
      | none =>
          if isFirst then
            modify fun machine => machine.setShared "ARGV" (.text ['-'])
            change place fun stream => { stream with isOpen := true, source := some 0, input := none }
            return true
          else finish
      | some name =>
          modify fun machine => machine.setShared "ARGV" (.text name)
          let machine ← MonadState.get
          match Shell.Tools.load machine.state name with
          | .error error =>
              setError (errorNumber error)
              let reason := Shell.Tools.reason error
              if error = .isDirectory && machine.inPlace.isNone then advance place standard fuel
              else
                let site := (← MonadState.get).site
                warn ("Can't open ".toList ++ name ++ ": ".toList ++ reason ++ site)
                advance place standard fuel
          | .ok (data, state) =>
              set { machine with state := state, error := noTerminal }
              change place fun stream => { stream with
                isOpen := true, source := none, taken := none, input := some (Shell.Text.ofBytes data), lines := lines }
              match machine.inPlace with
              | none => return true
              | some ending =>
                  flushAll
                  let machine ← MonadState.get
                  let spared := if ending = [] then machine.state
                    else match Shell.Tools.store machine.state (name ++ ending) data with
                      | .ok state => state
                      | .error _ => machine.state
                  match Shell.Tools.openTarget spared name false with
                  | .error _ => return true
                  | .ok (channel, state) =>
                      set { machine with state := state }
                      let output ← allot (.stream { name := "ARGVOUT".toList, outlet := some (.channel channel) })
                      modify fun machine => { machine with selected := output }
                      return true

end Streams

end FolderScript.Perl
