/-
The state of a shell process: what is its own, as its variables and its
descriptors, and the world that it shares with all others.
-/
import FolderScript.Host
import FolderScript.Process.Life
import FolderScript.Machine.Shell.Script
import FolderScript.Machine.Shell.Store

namespace FolderScript.Shell

/-- What a descriptor stands for. -/
inductive Channel where
  /-- An output stream of the whole process. -/
  | stream (side : Side)
  /-- A buffer that is written to, or read from. -/
  | buffer (number : Nat)
  /-- A file that is written to, by its identity. -/
  | file (identity : Nat × Nat)
  | null
  /-- Zero bytes without end. -/
  | zeros
  /-- A place without room. -/
  | full
  /-- A directory, which can be opened but not read. -/
  | folder
  deriving DecidableEq, Repr

structure Variable where
  name : Text
  value : Text
  exported : Bool
  /-- Whether it has a value at all. -/
  isSet : Bool := true
  /-- Its values, if it holds several. -/
  store : Option Store := none
  /-- The letters for what is peculiar to it. -/
  traits : List Char := []
  deriving DecidableEq, Repr

/-- The value of a variable, the first one if it holds several. -/
def Variable.value? (known : Variable) : Option Text :=
  match known.store with
  | some store => store.get? ['0']
  | none => if known.isSet then some known.value else none

/-- The variable with another value, the first one if it holds several. -/
def Variable.filled (known : Variable) (value : Text) : Variable :=
  match known.store with
  | some store => { known with store := some (store.put ['0'] value), isSet := true }
  | none => { known with value := value, isSet := true }

/-- A command in the background. -/
structure Job where
  number : Nat
  startsAt : Duration := 0
  /-- When it ends; `none` is never. -/
  endsAt : Option Duration
  status : Nat
  /-- The signal that killed it, if one did. -/
  diedOf : Option Nat := none
  holdsOut : Bool
  holdsErr : Bool
  /-- The buffers that it holds open. -/
  buffers : List Nat := []
  /-- How many processes it starts out with. -/
  stages : Nat := 1
  deriving DecidableEq, Repr

/-- Bytes on their way, by whom and when they were written. -/
structure Parcel where
  owner : Nat
  time : Duration
  bytes : Bytes
  deriving DecidableEq, Repr

/-- Bytes between those who write them and those who read them. -/
structure Buffer where
  /-- What is read first, in order. -/
  front : List Parcel := []
  /-- What was written after it, last first. -/
  back : List Parcel := []
  /-- When the last of its writers lets go of it; `none` is never. -/
  endsAt : Option Duration := some 0
  /-- Whether a reader can go back in it. -/
  seekable : Bool := false
  /-- How much has been written to it, and when the last of it was. -/
  written : Nat := 0
  touchedAt : Duration := 0
  /-- How much can be written to it before its readers are gone, and when they are. -/
  limit : Option (Nat × Duration) := none
  deriving DecidableEq, Repr

namespace Buffer

/-- What can be read, in order. -/
def parcels (buffer : Buffer) : List Parcel :=
  if buffer.back = [] then buffer.front
  else (buffer.front ++ buffer.back.reverse).mergeSort fun left right => left.time ≤ right.time

def content (buffer : Buffer) : Bytes :=
  match buffer.parcels with
  | [parcel] => parcel.bytes
  | parcels => parcels.flatMap Parcel.bytes

/-- How many bytes can be read. -/
def size (buffer : Buffer) : Nat :=
  buffer.parcels.foldl (fun total parcel => total + parcel.bytes.length) 0

/-- Drops so many bytes; tells how many were missing. -/
def dropFrom : Nat → Bytes → Nat × Bytes
  | 0, bytes => (0, bytes)
  | count, [] => (count, [])
  | count + 1, _ :: rest => dropFrom count rest

/-- What follows so many bytes. -/
def dropBytes (count : Nat) : List Parcel → List Parcel
  | [] => []
  | parcel :: rest =>
      match dropFrom count parcel.bytes with
      | (missing, []) => dropBytes missing rest
      | (_, bytes) => { parcel with bytes := bytes } :: rest

/-- The buffer without the bytes that have been read. -/
def drop (count : Nat) (buffer : Buffer) : Buffer :=
  { buffer with front := dropBytes count buffer.parcels, back := [] }

/-- When so many bytes can be read; what is missing comes never, or with the end. -/
def arrival (buffer : Buffer) (count : Nat) : Option Duration :=
  let rec walk (left : Nat) (time : Duration) : List Parcel → Option Duration
    | [] => if left = 0 then some time else buffer.endsAt.map (max time)
    | parcel :: rest =>
        if left = 0 then some time
        else walk (dropFrom left parcel.bytes).1 (max time parcel.time) rest
  walk count 0 buffer.parcels

/-- The buffer after someone has written to it. -/
def add (buffer : Buffer) (owner : Nat) (time : Duration) (bytes : Bytes) : Buffer :=
  if bytes = [] then buffer
  else
    { buffer with
      back := ⟨owner, time, bytes⟩ :: buffer.back
      written := buffer.written + bytes.length
      touchedAt := max buffer.touchedAt time }

def ofBytes (bytes : Bytes) : Buffer :=
  { front := if bytes = [] then [] else [⟨0, 0, bytes⟩] }

/-- How much fits into a buffer that nobody reads. -/
def capacity : Nat := 65536

end Buffer

/-- A signal on its way to a shell or a job. -/
structure Signal where
  time : Duration
  /-- The number of the shell or the job. -/
  target : Nat
  number : Nat
  deriving DecidableEq, Repr

/-- A change of the files, and who made it when. -/
structure Event where
  time : Duration
  owner : Nat
  change : FileSystem.Change
  deriving DecidableEq, Repr

/-- What is known of the future: what happened when the same was carried out before.
Processes at the same time are carried out one after the other, and this is how an
earlier one learns what a later one does meanwhile. -/
structure Foretold where
  events : List Event := []
  signals : List Signal := []
  deriving DecidableEq, Repr

/-- What all processes share. -/
structure World where
  files : FileSystem
  /-- Who reads the output streams, and how long. -/
  readers : Readers := {}
  buffers : List (Nat × Buffer) := []
  nextNumber : Nat := 1
  /-- Everything written to the output streams, last first: by whom, when, where
  and what. -/
  writes : List (Nat × Duration × Side × Bytes) := []
  jobs : List Job := []
  /-- Signals for shells that have not seen to them yet. -/
  signals : List Signal := []
  foretold : Foretold := {}
  /-- All changes of the files so far, last first. -/
  log : List Event := []
  /-- How many changes of the files there have been. -/
  changes : Nat := 0
  /-- How much work has been done. -/
  work : Nat := 0
  /-- How many bytes of something endless are looked at, and whether more of it would
  have been there. -/
  plenty : Nat := 131072
  isCut : Bool := false
  /-- All signals that were sent to jobs. -/
  sent : List Signal := []
  /-- The foretold signals that have been seen to. -/
  seen : List Signal := []

/-- How a command ends. -/
inductive Flow where
  /-- The next command follows. -/
  | next
  | exit (code : Nat)
  | died (signal : Nat)
  | returned
  | broken (levels : Nat)
  | continued (levels : Nat)
  /-- The line of the script that it stands on is given up. -/
  | dropped
  /-- It does not end. -/
  | forever
  deriving DecidableEq, Repr

structure State where
  world : World
  /-- The time since the start of the first process. -/
  clock : Duration := 0
  /-- The number of the process, and of the shell that it is a part of. -/
  number : Nat := 4242
  shellNumber : Nat := 4242
  /-- The number of the process that started this one, and of the shells that this one
  comes from. -/
  parent : Nat := 4241
  ancestors : List Nat := []
  /-- The job that output counts for. -/
  owner : Nat := 0
  /-- The job that this very process is, and since when. -/
  self : Option Nat := none
  bornAt : Duration := 0
  /-- Signals that all processes of the group get that are alive then. -/
  group : List Signal := []
  /-- The time up to which the changes of others have been taken in. -/
  syncedAt : Duration := 0
  dialect : Dialect := .dash
  name : Text := "sh".toList
  line : Nat := 1
  bindings : List Variable := []
  arguments : List Text := []
  directory : Position := []
  /-- The path by which the current directory was entered. -/
  entered : Text := ['/']
  descriptors : List (Nat × Channel) := []
  functions : List (Text × Command) := []
  /-- What to do on a signal; an empty text ignores it.  Number 0 is the exit. -/
  traps : List (Nat × Text) := []
  /-- Jobs that this shell started, the last first. -/
  children : List Nat := []
  status : Nat := 0
  /-- The status of the last commands whose output was taken. -/
  outputStatus : Nat := 0
  /-- The letters of the options that are set. -/
  options : List Char := []
  /-- Whether the status of the command at hand is looked at by another. -/
  guarded : Bool := false
  /-- How many loops of the function at hand are being carried out. -/
  loops : Nat := 0
  /-- How many functions, and how many scripts, are being carried out within each other. -/
  calls : Nat := 0
  nesting : Nat := 0
  /-- What the function at hand has to restore; `none` outside of functions. -/
  saved : Option (List (Text × Option Variable)) := none
  /-- Variables that are not to be changed. -/
  fixed : List Text := []
  /-- Words that stand for others where a command starts. -/
  aliases : List (Text × Text) := []
  /-- The permissions that new files do not get. -/
  mask : Nat := 18
  /-- The limits that have been set, by their letters. -/
  limits : List (Char × Text) := []
  /-- The argument at which the reading of options goes on, counted from 1. -/
  optionIndex : Nat := 1
  /-- How far into a cluster of option letters the reading of options has got. -/
  letterIndex : Nat := 0
  /-- Variables to be handed on to programs once they are set. -/
  promised : List Text := []
  /-- Programs whose places are remembered. -/
  located : List Text := []
  /-- The command that complaints come from, with what divides it from them. -/
  context : Text := []
  /-- Jobs that have been waited for. -/
  waited : List Nat := []
  /-- The places of jobs in the list of jobs, the current one first. -/
  slots : List (Nat × Nat) := []
  /-- The job that was started last. -/
  lastJob : Option Nat := none
  /-- The options of the large language that have only names. -/
  settings : List Text := []
  /-- Whether the script is an argument of the shell. -/
  isString : Bool := false
  /-- The file that complaints name in place of the shell. -/
  shownName : Option Text := none
  /-- The functions that are being carried out, the last first. -/
  callNames : List Text := []
  /-- The lines on which these were called. -/
  callLines : List Nat := []
  /-- The command at hand, and whether it is one that an event gave rise to. -/
  current : Command := .nothing
  isStirred : Bool := false
  /-- How the stages of the last pipeline ended. -/
  stageStatuses : List Nat := []
  /-- How many parts of shells on their own this one is within. -/
  subshells : Nat := 0
  /-- The directories that are to be gone back to, the last first. -/
  directories : List Text := []
  /-- The last word of the last command. -/
  lastWord : Text := []
  /-- How many scripts and takings of output commands are shown within. -/
  depth : Nat := 1
  /-- Whether something was written that nobody can read. -/
  pipeBroken : Bool := false
  /-- Whether something is waited for that never comes. -/
  starved : Bool := false
  /-- Why standard output could not be written to. -/
  writeFault : Option IoError := none

namespace State

/-- Lets time pass. -/
def wait (state : State) (time : Duration) : State :=
  { state with clock := state.clock + time }

def withStatus (state : State) (status : Nat) : State := { state with status := status }

def value? (state : State) (name : Text) : Option Text :=
  (state.bindings.find? fun known => known.name = name).bind Variable.value?

/-- The variable that tells where the reading of options goes on. -/
def optionVariable : Text := "OPTIND".toList

/-- Sets a variable.  The place where options are read, and the places of programs,
hang on two of them. -/
def setVariable (state : State) (name value : Text) : State :=
  let found := state.bindings.find? fun known => known.name = name
  let exported := (found.map Variable.exported).getD (state.promised.contains name) ||
    state.options.contains 'a'
  let bindings := if found.isNone then
      state.bindings ++ [{ name := name, value := value, exported := exported }]
    else state.bindings.map fun known =>
      if known.name = name then { known.filled value with exported := exported } else known
  let after := { state with bindings := bindings }
  if name = optionVariable then
    { after with optionIndex := (Text.toNat? value).getD 1, letterIndex := 0 }
  else if name = "PATH".toList then { after with located := [] }
  else after

def largest : Nat := 2147483647

/-- The number that a text spells, with blanks around it or not, if the shell takes
it. -/
def smallNumber? (text : Text) : Option Nat :=
  let bare := text.dropWhile Char.isWhitespace
  let bare := (bare.reverse.dropWhile Char.isWhitespace).reverse
  (Text.toNat? (if bare.head? = some '+' then bare.tail else bare)).filter (· ≤ largest)

/-- Why a variable cannot be given a value, if it cannot. -/
def refusal? (state : State) (name value : Text) : Option Text :=
  if state.fixed.contains name then some (name ++ ": is read only".toList)
  else if name = optionVariable && (smallNumber? value).isNone then
    some ("Illegal number: ".toList ++ value)
  else none

/-- Hands a variable on to programs. -/
def exportVariable (state : State) (name : Text) : State :=
  if state.bindings.any fun known => known.name = name then
    { state with bindings := state.bindings.map fun known =>
        if known.name = name then { known with exported := true } else known }
  else { state with promised := name :: state.promised }

/-- Puts a variable back as it was. -/
def restoreVariable (state : State) (name : Text) (before : Option Variable) : State :=
  let isThere := state.bindings.any fun known => known.name = name
  { state with bindings :=
      match before, isThere with
      | some before, true => state.bindings.map fun known =>
          if known.name = name then before else known
      | some before, false => state.bindings ++ [before]
      | none, _ => state.bindings.filter fun known => known.name ≠ name }

def unsetVariable (state : State) (name : Text) : State :=
  { state with bindings := state.bindings.filter fun known => known.name ≠ name }

def channel? (state : State) (descriptor : Nat) : Option Channel :=
  List.lookup descriptor state.descriptors

/-- Makes a descriptor stand for something else, or closes it. -/
def setChannel (state : State) (descriptor : Nat) (channel : Option Channel) : State :=
  let others := state.descriptors.filter fun entry => entry.1 ≠ descriptor
  { state with descriptors :=
      match channel with
      | none => others
      | some channel => (descriptor, channel) :: others }

/-- Whether an option is set. -/
def has (state : State) (letter : Char) : Bool := state.options.contains letter

def bufferOf (state : State) (number : Nat) : Buffer :=
  (List.lookup number state.world.buffers).getD {}

def setBuffer (state : State) (number : Nat) (buffer : Buffer) : State :=
  { state with world := { state.world with
      buffers := (number, buffer) ::
        state.world.buffers.filter fun entry => entry.1 ≠ number } }

def newBuffer (state : State) (buffer : Buffer) : Nat × State :=
  let number := state.world.nextNumber
  (number, { state with world := { state.world with
    nextNumber := number + 1
    buffers := (number, buffer) :: state.world.buffers } })

/-- Lets time pass up to a moment, if it ever comes. -/
def waitUntil (state : State) (moment : Option Duration) : State :=
  match moment with
  | some time => { state with clock := max state.clock time }
  | none => { state with starved := true }

/-- The number of the signal for a write that nobody can read. -/
def pipeSignal : Nat := 13

/-- Whether a signal is caught or ignored. -/
def minds (state : State) (signal : Nat) : Bool :=
  (List.lookup signal state.traps).isSome

def writeStream (state : State) (side : Side) (bytes : Bytes) : Except IoError State :=
  if bytes = [] then .ok state
  else if state.world.readers.isGone side state.clock then
    if state.minds pipeSignal then .error .brokenPipe
    else .ok { state with pipeBroken := true }
  else .ok { state with world := { state.world with
    writes := (state.owner, state.clock, side, bytes) :: state.world.writes } }

/-- Writes to a buffer, which blocks if too much is in it already. -/
def writeBuffer (state : State) (number : Nat) (bytes : Bytes) : Except IoError State :=
  let buffer := state.bufferOf number
  let size := buffer.written + bytes.length
  if bytes = [] then .ok state
  else
    match buffer.limit.filter fun (most, gone) => most < size || gone < state.clock with
    | some (most, gone) =>
        let fitting := if state.clock ≤ gone then bytes.take (most - buffer.written) else []
        let filled := state.setBuffer number (buffer.add state.owner state.clock fitting)
        if state.minds pipeSignal then .error .brokenPipe
        else .ok { filled with clock := max state.clock gone, pipeBroken := true }
    | none => .ok (state.setBuffer number (buffer.add state.owner state.clock bytes))

/-- The time at which the first process starts: a little after the files were made. -/
def start : Moment := FileSystem.beginning + 1000000

/-- The moment of a time since the start of the first process. -/
def momentOf (time : Duration) : Moment := start + Int.ofNat time

def change (state : State) (change : FileSystem.Change) : State :=
  { state with world := { state.world with
      files := state.world.files.apply (momentOf state.clock) change
      log := ⟨state.clock, state.owner, change⟩ :: state.world.log
      changes := state.world.changes + 1
      work := state.world.work + 5 } }

/-- An identity for a new file. -/
def nextIdentity (state : State) : Nat × Nat := (state.owner + 1, state.world.changes)

/-- Writes to a descriptor, or tells why it cannot be written to. -/
def emit (state : State) (descriptor : Nat) (bytes : Bytes) : Except IoError State :=
  match state.channel? descriptor with
  | none => .error .badDescriptor
  | some .null => .ok state
  | some .zeros | some .folder => if bytes = [] then .ok state else .error .badDescriptor
  | some .full => if bytes = [] then .ok state else .error .noSpace
  | some (.stream side) => state.writeStream side bytes
  | some (.buffer number) => state.writeBuffer number bytes
  | some (.file identity) => .ok (if bytes = [] then state else state.change (.append identity bytes))

/-- Writes bytes to a descriptor; that standard output cannot be written to is
remembered. -/
def writeBytes (state : State) (descriptor : Nat) (bytes : Bytes) : State :=
  match state.emit descriptor bytes with
  | .ok state => state
  | .error error =>
      if descriptor = 1 then { state with writeFault := some error } else state

def write (state : State) (descriptor : Nat) (text : Text) : State :=
  state.writeBytes descriptor (Text.toBytes text)

def complaintFront (state : State) : Text :=
  match state.dialect with
  | .dash => state.name ++ ": ".toList ++ Text.ofNat state.line ++ ": ".toList ++ state.context
  | .bash => state.shownName.getD state.name ++ ": line ".toList ++ Text.ofNat state.line ++
      ": ".toList

def complain (state : State) (message : Text) : State :=
  state.write 2 (state.complaintFront ++ message ++ ['\n'])

/-- The state after something endless of which only a part is looked at. -/
def cutShort (state : State) : State :=
  { state with world := { state.world with isCut := true } }

/-- Zero bytes without end, of which a part is looked at. -/
def zeroBytes (state : State) : Bytes × State :=
  (List.replicate state.world.plenty 0, { state.cutShort with starved := true })

/-- Takes everything that is left to read, and so waits for the end. -/
def readAll (state : State) (descriptor : Nat) : Bytes × State :=
  match state.channel? descriptor with
  | some (.buffer number) =>
      let buffer := state.bufferOf number
      (buffer.content, (state.setBuffer number
        { buffer with front := [], back := [] }).waitUntil buffer.endsAt)
  | some .zeros => state.zeroBytes
  | _ => ([], state)

/-- How many bytes a reader asks for at a time. -/
def blockSize : Nat := 8192

/-- Gives back what a reader that needed so many bytes and reads by blocks has not taken,
where it was still to come; a reader that can go back in a file gives back all the rest. -/
def putBack (before after : State) (descriptor block needed : Nat) : State :=
  match before.channel? descriptor with
  | some (.buffer number) =>
      let buffer := before.bufferOf number
      if buffer.seekable then after.setBuffer number (buffer.drop needed)
      else
        let moment := (buffer.arrival needed).map (max before.clock)
        let blocks := (needed + block - 1) / block * block
        let arrived := (buffer.parcels.filter fun parcel => moment.any (parcel.time ≤ ·)).foldl
          (fun total parcel => total + parcel.bytes.length) 0
        { after.setBuffer number (buffer.drop (min blocks arrived)) with
          clock := before.clock
          starved := before.starved }.waitUntil moment
  | some .zeros =>
      { after with
        starved := before.starved
        world := { after.world with isCut := before.world.isCut } }
  | _ => after

/-- Writes bytes to standard output as they come to a descriptor. -/
def relay (state : State) (descriptor : Nat) : State :=
  match state.channel? descriptor with
  | some (.buffer number) =>
      let buffer := state.bufferOf number
      let emptied := state.setBuffer number { buffer with front := [], back := [] }
      let copied := buffer.parcels.foldl
        (fun (state : State) parcel =>
          if state.pipeBroken then state
          else (state.waitUntil (some parcel.time)).writeBytes 1 parcel.bytes)
        emptied
      if copied.pipeBroken then copied else copied.waitUntil buffer.endsAt
  | _ =>
      let (data, state) := state.readAll descriptor
      state.writeBytes 1 data

/-- Whether an entry is an open file of the process that is not open. -/
def isClosed (state : State) : Entry → Bool
  | .device (.descriptor number) => (state.channel? number).isNone
  | _ => false

/-- The file that a path names; a link at the end of the path may be kept. -/
def nodeAt (state : State) (keepsLink : Bool) (path : Text) : Except IoError (Position × Node) :=
  match state.world.files.nodeAt keepsLink state.directory ⟨Text.toBytes path⟩ with
  | .error error => .error error
  | .ok (position, node) =>
      if state.isClosed node.entry then .error .notFound else .ok (position, node)

def stat (state : State) (path : Text) : Except IoError (Position × Entry) :=
  (state.nodeAt false path).map fun (position, node) => (position, node.entry)

def statLink (state : State) (path : Text) : Except IoError (Position × Entry) :=
  (state.nodeAt true path).map fun (position, node) => (position, node.entry)

def nodeOf (state : State) (position : Position) : Node :=
  (state.world.files.node? position).getD .root

/-- The position that a name in a directory has, whether something stands there or not;
a link that stands there is not followed. -/
def nameFor (state : State) (path : Text) : Except IoError Position :=
  match state.nodeAt true path with
  | .ok (position, _) => .ok position
  | .error .notFound =>
      let path : Path := ⟨Text.toBytes path⟩
      match path.fileName?, path.parent? with
      | some name, some parent =>
          let parent := if parent.bytes = [] then Path.ofText "." else parent
          match state.world.files.nodeAt false state.directory parent with
          | .ok (position, node) =>
              if node.entry ≠ .directory then .error .notDirectory
              else if !node.allows Node.toSearch then .error .permissionDenied
              else .ok (position ++ [name])
          | .error error => .error error
      | _, _ => .error .notFound
  | .error error => .error error

/-- The position that a new file at a path has: links that lead nowhere yet are
followed, so many at most. -/
def placeThrough (state : State) : Nat → Position → Text → Except IoError Position
  | 0, _, _ => .error .tooManyLinks
  | most + 1, directory, path => do
      let seen := { state with directory := directory }
      let position ← seen.nameFor path
      match state.world.files.get? position with
      | some (.link target) =>
          match seen.stat path with
          | .ok (position, _) => pure position
          | .error .notFound =>
              state.placeThrough most position.dropLast (Text.ofBytes target)
          | .error error => throw error
      | _ => pure position

def placeFor (state : State) (path : Text) : Except IoError Position :=
  match state.stat path with
  | .ok (position, _) => .ok position
  | .error .notFound => state.placeThrough FileSystem.mostLinks state.directory path
  | .error error => .error error

/-- The kind of a file, as far as its users can tell.  An open file of the process is of
the kind of what it was opened on. -/
def kindOf (state : State) : Entry → FileKind
  | .directory => .directory
  | .file _ | .program _ => .regular
  | .link _ => .link
  | .device (.descriptor number) =>
      match state.channel? number with
      | some (.stream _) => .pipe
      | some (.buffer buffer) => if (state.bufferOf buffer).seekable then .regular else .pipe
      | some (.file _) => .regular
      | some .folder => .directory
      | _ => .character
  | .device _ => .character

/-- How large a file is. -/
def sizeOf (state : State) : Entry → Nat
  | .directory => FileSystem.directorySize
  | .file data => data.length
  | .program _ => FileSystem.programSize
  | .link target => target.length
  | .device (.descriptor number) =>
      match state.channel? number with
      | some (.buffer buffer) =>
          if (state.bufferOf buffer).seekable then (state.bufferOf buffer).size else 0
      | some (.file identity) =>
          match state.world.files.entries.find? fun entry => entry.2.identity = identity with
          | some (_, { entry := .file data, .. }) => data.length
          | _ => 0
      | some .folder => FileSystem.directorySize
      | _ => 0
  | .device _ => 0

/-- Whether names may be added to a directory, or taken away. -/
def mayChange (state : State) (directory : Position) : Bool :=
  let node := state.nodeOf directory
  node.allows Node.toWrite && node.allows Node.toSearch

/-- The permissions that something new gets. -/
def newMode (state : State) : Entry → Nat
  | .directory => Nat.land 0o777 (0o777 - state.mask)
  | .link _ => 0o777
  | _ => Nat.land 0o666 (0o777 - state.mask)

def putWithMode (state : State) (position : Position) (entry : Entry) (mode : Nat) : State :=
  state.change (.put position entry mode state.nextIdentity)

def putEntry (state : State) (position : Position) (entry : Entry) : State :=
  state.putWithMode position entry (state.newMode entry)

def removeEntry (state : State) (position : Position) : State :=
  state.change (.remove position)

/-- How a path that cannot be opened to read is complained about. -/
def openReason : IoError → Text
  | .os 2 | .os 20 => "No such file".toList
  | .os number => (IoError.describe number).toList
  | .other text => Text.ofString text

def largeReason : IoError → Text
  | .os number => (IoError.describe number).toList
  | .other text => Text.ofString text

def deviceChannel (state : State) (kind : Device) (toWrite : Bool) : Except IoError Channel :=
  match kind with
  | .null => .ok .null
  | .zero => .ok (if toWrite then .null else .zeros)
  | .full => .ok (if toWrite then .full else .zeros)
  | .terminal => .error .noDevice
  | .descriptor number =>
      match state.channel? number with
      | some channel => .ok channel
      | none => .error .notFound

def fileBuffer (state : State) (content : Bytes) : Channel × State :=
  let (number, state) := state.newBuffer { Buffer.ofBytes content with seekable := true }
  (.buffer number, state)

/-- The complaint about a file that cannot be opened to read. -/
def inputComplaint (state : State) (path : Text) (error : IoError) : Text :=
  match state.dialect with
  | .dash => "cannot open ".toList ++ path ++ ": ".toList ++ openReason error
  | .bash => path ++ ": ".toList ++ largeReason error

/-- The complaint about a file that cannot be opened to write. -/
def outputComplaint (state : State) (path : Text) (error : IoError) : Text :=
  match state.dialect with
  | .dash =>
      "cannot create ".toList ++ path ++ ": ".toList ++
        (if error = .notFound || error = .notDirectory then "Directory nonexistent".toList
          else openReason error)
  | .bash =>
      path ++ ": ".toList ++
        (if error = .fileExists then "cannot overwrite existing file".toList
          else largeReason error)

/-- Opens a file to read. -/
def openInput (state : State) (path : Text) : Except Text (Channel × State) :=
  let refused (error : IoError) : Except Text (Channel × State) :=
    .error (state.inputComplaint path error)
  match state.nodeAt false path with
  | .error error => refused error
  | .ok (_, node) =>
      if !node.allows Node.toRead then refused .permissionDenied
      else
        match node.entry with
        | .device kind =>
            match state.deviceChannel kind false with
            | .ok channel => .ok (channel, state)
            | .error error => refused error
        | .file data => .ok (state.fileBuffer data)
        | .program _ => .ok (state.fileBuffer FileSystem.programBytes)
        | .directory => .ok (.folder, state)
        | .link _ => refused .tooManyLinks

/-- Opens a file to write: at its end, or after it was emptied.  A file that is
there already may be spared. -/
def openOutput (state : State) (path : Text) (keep spare : Bool) :
    Except Text (Channel × State) :=
  let refused (error : IoError) : Except Text (Channel × State) :=
    .error (state.outputComplaint path error)
  match state.placeFor path with
  | .error error => refused error
  | .ok position =>
      match state.world.files.node? position with
      | none =>
          if path.getLast? = some '/' then refused .isDirectory
          else if !state.mayChange position.dropLast then refused .permissionDenied
          else .ok (.file state.nextIdentity, state.putEntry position (.file []))
      | some node =>
          match node.entry with
          | .directory => refused .isDirectory
          | .program _ => refused .permissionDenied
          | .link _ => refused .tooManyLinks
          | .device kind =>
              match state.deviceChannel kind true with
              | .ok channel => .ok (channel, state)
              | .error error => refused error
          | .file _ =>
              if !node.allows Node.toWrite then refused .permissionDenied
              else if keep then .ok (.file node.identity, state)
              else if spare then refused .fileExists
              else .ok (.file node.identity, state.putEntry position (.file []))

/-- The changes by others between two times: of jobs that have been carried out as
they were, and of all others as they are foretold. -/
def changesOfOthers (state : State) (after upTo : Duration) : List Event :=
  let isDone (owner : Nat) : Bool := state.world.jobs.any fun job => job.number = owner
  let isNew (event : Event) : Bool :=
    event.owner ≠ state.owner && after < event.time && event.time ≤ upTo
  let logged := state.world.log.filter fun event => isNew event && isDone event.owner
  let foretold := state.world.foretold.events.filter fun event =>
    isNew event && !isDone event.owner
  (logged.reverse ++ foretold).mergeSort fun left right => left.time ≤ right.time

/-- Takes in what others have done to the files up to a time. -/
def syncTo (state : State) (time : Duration) : State :=
  let changes := state.changesOfOthers state.syncedAt time
  let files := changes.foldl
    (fun files event => FileSystem.apply files (momentOf event.time) event.change)
    state.world.files
  { state with world := { state.world with files := files }, syncedAt := time }

/-- Takes in what others have done to the files so far. -/
def sync (state : State) : State :=
  if state.world.jobs.isEmpty && state.world.foretold.events.isEmpty then state
  else state.syncTo state.clock

/-- Takes back what someone does after a time. -/
def cutAt (state : State) (owner : Nat) (time : Duration) : State :=
  let stays (doer : Nat) (moment : Duration) : Bool := doer ≠ owner || moment ≤ time
  let cut (buffer : Buffer) : Buffer :=
    let keeps (parcel : Parcel) : Bool := stays parcel.owner parcel.time
    { buffer with front := buffer.front.filter keeps, back := buffer.back.filter keeps }
  { state with world := { state.world with
      buffers := state.world.buffers.map fun (number, buffer) => (number, cut buffer)
      writes := state.world.writes.filter fun write => stays write.1 write.2.1
      log := state.world.log.filter fun event => stays event.owner event.time } }

/-- Counts work that is done. -/
def worked (state : State) (amount : Nat) : State :=
  { state with world := { state.world with work := state.world.work + amount } }

/-- How much work is done before a process is taken to go on for ever. -/
def mostWork : Nat := 500000

/-- The time after which loops are taken to go on for ever. -/
def horizon : Duration := Duration.ofSeconds 7200

/-- How deep functions may be called within each other. -/
def deepestCalls : Nat := 1000

/-- How deep scripts may be carried out within each other. -/
def deepestNesting : Nat := 2000

/-- Whether a process is taken to go on for ever. -/
def isEndless (state : State) : Bool :=
  mostWork < state.world.work || horizon < state.clock || deepestNesting < state.nesting

/-- Whether a process writes so much to others that it may go on for ever. -/
def isFlooding (state : State) : Bool :=
  match state.channel? 1 with
  | some (.buffer number) => state.world.plenty < (state.bufferOf number).written
  | _ => false

/-- The end of a loop that goes on for ever, or is taken to. -/
def goesOn? (state : State) : Option (Flow × State) :=
  if state.isFlooding then some (.forever, state.cutShort)
  else if state.isEndless then some (.forever, state)
  else none

/-- Drops the buffers that were made since another state, and that nobody can read or
write any more. -/
def swept (state before : State) : State :=
  if state.world.nextNumber = before.world.nextNumber then state
  else
    let isHeld (number : Nat) : Bool :=
      number < before.world.nextNumber ||
        (state.descriptors.any fun entry => entry.2 = .buffer number) ||
        (state.world.jobs.any fun job => job.buffers.contains number)
    { state with world := { state.world with
        buffers := state.world.buffers.filter fun entry => isHeld entry.1 } }

/-- What is left of a part of the shell that ran in a process of its own: the
world and the time. -/
def resume (before after : State) (status : Nat) : State :=
  { before with world := after.world, clock := after.clock, status := status }

end State

/-- The status that a flow leaves at the end of a process. -/
def Flow.statusOf (flow : Flow) (state : State) : Nat :=
  match flow with
  | .exit code => code % 256
  | .died signal => 128 + signal
  | _ => state.status % 256

end FolderScript.Shell
