/-
A file system: what stands at each position, whom it serves, and how a path as
written leads to a position.  Several positions may stand for one file, and a
link leads on to another path.
-/
import FolderScript.Failure
import FolderScript.Path

namespace FolderScript

/-- The name of an entry in its directory. -/
abbrev Name := Bytes

/-- A position: the names from the root down. -/
abbrev Position := List Name

/-- A time in microseconds since the beginning of 1970. -/
abbrev Moment := Int

/-- Files that are no store of bytes. -/
inductive Device where
  /-- Swallows what is written and has nothing to read. -/
  | null
  /-- Swallows what is written and has zero bytes to read for ever. -/
  | zero
  /-- Has no room for what is written. -/
  | full
  /-- The terminal, which is not there. -/
  | terminal
  /-- An open file of whoever asks. -/
  | descriptor (number : Nat)
  deriving DecidableEq, Repr

/-- What stands at a position. -/
inductive Entry where
  | directory
  | file (data : Bytes)
  /-- A program that the machine brings along. -/
  | program (name : String)
  | device (kind : Device)
  /-- A link to another path. -/
  | link (target : Bytes)
  deriving DecidableEq, Repr

/-- The kinds of files. -/
inductive FileKind where
  | directory
  | regular
  | link
  | character
  | pipe
  deriving DecidableEq, Repr

/-- A file: what it is, and what goes with that.  Two positions stand for one file if
its identity is the same. -/
structure Node where
  entry : Entry
  /-- The permission bits: of the owner, of the group, and of all others. -/
  mode : Nat
  /-- Whether it belongs to the one who asks. -/
  mine : Bool := true
  identity : Nat × Nat := (0, 0)
  modified : Moment := 0
  deriving DecidableEq, Repr

namespace Node

/-- The bits that allow to read, to write, and to carry out or search. -/
def toRead : Nat := 4
def toWrite : Nat := 2
def toSearch : Nat := 1

/-- Whether the one who asks may do something with a file. -/
def allows (node : Node) (bit : Nat) : Bool :=
  (node.mode / (if node.mine then 64 else 1)) / bit % 2 = 1

def root : Node := { entry := .directory, mode := 0o755, mine := false }

end Node

/-- The entries of a file system by position; the root is always a directory. -/
structure FileSystem where
  entries : List (Position × Node)
  deriving DecidableEq, Repr

namespace FileSystem

def node? (files : FileSystem) : Position → Option Node
  | [] => some .root
  | position => List.lookup position files.entries

def get? (files : FileSystem) (position : Position) : Option Entry :=
  (files.node? position).map Node.entry

def longestPath : Nat := 4095

def longestName : Nat := 255

/-- How many links are followed for one path. -/
def mostLinks : Nat := 40

/-- Where a walk along the segments of a path gets. -/
inductive Reached where
  | arrived (position : Position) (node : Node)
  /-- To a link, seen from a directory, with more of the path after it. -/
  | link (directory : Position) (target : Bytes) (rest : List Bytes)
  deriving DecidableEq, Repr

/-- Follows the segments of a path from a position where `here` stands, up to the
first link; one at the end of the path may count as arrival.  Every step needs a
directory to start from, an empty segment too. -/
def walk (files : FileSystem) (keepsLink : Bool) :
    Position → Node → List Bytes → Except IoError Reached
  | position, here, [] => .ok (.arrived position here)
  | position, here, segment :: rest =>
      if here.entry ≠ .directory then .error .notDirectory
      else if segment = [] then files.walk keepsLink position here rest
      else if !here.allows Node.toSearch then .error .permissionDenied
      else if segment = [Path.dot] then files.walk keepsLink position here rest
      else if segment = [Path.dot, Path.dot] then
        files.walk keepsLink position.dropLast
          ((files.node? position.dropLast).getD .root) rest
      else if longestName < segment.length then .error .nameTooLong
      else
        match files.node? (position ++ [segment]) with
        | none => .error .notFound
        | some next =>
            match next.entry with
            | .link target =>
                if keepsLink ∧ rest = [] then .ok (.arrived (position ++ [segment]) next)
                else .ok (.link position target rest)
            | _ => files.walk keepsLink (position ++ [segment]) next rest

/-- Follows the segments of a path and the links on the way, so many at most. -/
def follow (files : FileSystem) (keepsLink : Bool) :
    Nat → Position → List Bytes → Except IoError (Position × Node)
  | 0, _, _ => .error .tooManyLinks
  | most + 1, start, segments =>
      match files.walk keepsLink start ((files.node? start).getD .root) segments with
      | .error error => .error error
      | .ok (.arrived position node) => .ok (position, node)
      | .ok (.link directory target rest) =>
          let path : Path := ⟨target⟩
          files.follow keepsLink most (if path.isAbsolute then [] else directory)
            (path.segments ++ rest)

/-- The file that a path names, seen from a directory; a link at its end may be kept. -/
def nodeAt (files : FileSystem) (keepsLink : Bool) (directory : Position) (path : Path) :
    Except IoError (Position × Node) :=
  if path.bytes = [] then .error .notFound
  else if longestPath < path.bytes.length then .error .nameTooLong
  else
    files.follow keepsLink (mostLinks + 1) (if path.isAbsolute then [] else directory)
      path.segments

/-- The position that a path names, seen from a directory, and what stands
there. -/
def locate (files : FileSystem) (directory : Position) (path : Path) :
    Except IoError (Position × Entry) :=
  (files.nodeAt false directory path).map fun (position, node) => (position, node.entry)

/-- The error of a path with a zero byte, which no name can hold. -/
def zeroByte : IoError := .other "file name contained an unexpected NUL byte"

def stat (files : FileSystem) (directory : Position) (path : Path) : Except IoError Entry :=
  if 0 ∈ path.bytes then .error zeroByte
  else (files.locate directory path).map Prod.snd

/-- Whether a path names anything. -/
def pathExists (files : FileSystem) (directory : Position) (path : Path) : Bool :=
  (files.stat directory path).toOption.isSome

def isDirectory (files : FileSystem) (directory : Position) (path : Path) : Bool :=
  (files.stat directory path).toOption == some .directory

def isFile (files : FileSystem) (directory : Position) (path : Path) : Bool :=
  match (files.stat directory path).toOption with
  | some (.file _) | some (.program _) => true
  | _ => false

def programBytes : Bytes := [0x7F, 0x45, 0x4C, 0x46, 0x02, 0x01, 0x01, 0x00, 0xFF]

def directorySize : Nat := 4096

def programSize : Nat := 35000

def content : Entry → Except IoError Bytes
  | .directory => .error .isDirectory
  | .file data => .ok data
  | .program _ => .ok programBytes
  | .device .terminal => .error .noDevice
  | .device _ | .link _ => .ok []

def read (files : FileSystem) (directory : Position) (path : Path) : Except IoError Bytes :=
  if 0 ∈ path.bytes then .error zeroByte
  else
    match files.nodeAt false directory path with
    | .error error => .error error
    | .ok (_, node) =>
        if node.allows Node.toRead then content node.entry else .error .permissionDenied

def readText (files : FileSystem) (directory : Position) (path : Path) :
    Except IoError String :=
  match files.read directory path with
  | .error error => .error error
  | .ok data =>
      match Utf8.decode? data with
      | some text => .ok text
      | none => .error (.other "stream did not contain valid UTF-8")

def place (files : FileSystem) (position : Position) (node : Node) : FileSystem :=
  ⟨files.entries.filter (fun other => other.1 ≠ position) ++ [(position, node)]⟩

/-- What was put at a position stands there. -/
theorem node?_place_self (files : FileSystem) {position : Position} (h : position ≠ [])
    (node : Node) : (files.place position node).node? position = some node := by
  have absent : List.lookup position
      (files.entries.filter fun other => other.1 ≠ position) = none := by
    rw [List.lookup_eq_none_iff]
    intro other hother
    have kept : other.1 ≠ position := of_decide_eq_true (List.mem_filter.mp hother).2
    exact bne_iff_ne.mpr (Ne.symm kept)
  cases position with
  | nil => exact absurd rfl h
  | cons name names =>
      simp only [node?, place]
      rw [List.lookup_append, absent]
      simp

/-- Changes a file at all positions that stand for it. -/
def update (files : FileSystem) (identity : Nat × Nat) (change : Node → Node) : FileSystem :=
  ⟨files.entries.map fun (position, node) =>
    (position, if node.identity = identity then change node else node)⟩

/-- Notes the time at which the names in a directory changed. -/
def touch (files : FileSystem) (position : Position) (time : Moment) : FileSystem :=
  ⟨files.entries.map fun (other, node) =>
    (other, if other = position then { node with modified := time } else node)⟩

/-- A change of a file system. -/
inductive Change where
  /-- Puts something at a position: a new file, or new content of the one that is
  there. -/
  | put (position : Position) (entry : Entry) (mode : Nat) (identity : Nat × Nat)
  /-- Adds bytes at the end of a file. -/
  | append (identity : Nat × Nat) (bytes : Bytes)
  /-- Takes away what stands at a position, with all below it. -/
  | remove (position : Position)
  /-- Lets another position stand for a file. -/
  | link (old new : Position)
  /-- Moves what stands at a position, with all below it. -/
  | move (old new : Position)
  | setMode (identity : Nat × Nat) (mode : Nat)
  | setTime (identity : Nat × Nat) (time : Moment)
  deriving DecidableEq, Repr

def apply (files : FileSystem) (time : Moment) : Change → FileSystem
  | .put position entry mode identity =>
      match files.node? position with
      | some node =>
          files.update node.identity fun node => { node with entry := entry, modified := time }
      | none =>
          (files.touch position.dropLast time).place position
            { entry := entry, mode := mode, identity := identity, modified := time }
  | .append identity bytes =>
      files.update identity fun node =>
        match node.entry with
        | .file data => { node with entry := .file (data ++ bytes), modified := time }
        | _ => node
  | .remove position =>
      FileSystem.touch ⟨files.entries.filter fun entry => !position.isPrefixOf entry.1⟩
        position.dropLast time
  | .link old new =>
      match files.node? old with
      | some node => (files.touch new.dropLast time).place new node
      | none => files
  | .move old new =>
      let others := files.entries.filter fun entry => !new.isPrefixOf entry.1
      let moved := others.map fun (position, node) =>
        (if old.isPrefixOf position then new ++ position.drop old.length else position, node)
      (FileSystem.touch ⟨moved⟩ old.dropLast time).touch new.dropLast time
  | .setMode identity mode => files.update identity fun node => { node with mode := mode }
  | .setTime identity time => files.update identity fun node => { node with modified := time }

/-- The usual permissions of what stands at a position. -/
def usualMode : Entry → Nat
  | .directory | .program _ => 0o755
  | .file _ => 0o644
  | .device _ => 0o666
  | .link _ => 0o777

def freshIdentity (files : FileSystem) : Nat × Nat := (0, files.entries.length + 1)

/-- The time at which the files that are there from the start were changed. -/
def beginning : Moment := 1700000000000000

/-- Makes the directories on the way to a position that are not there yet. -/
def makeParents (files : FileSystem) (position : Position) : FileSystem :=
  ((List.range position.length).map position.take).foldl
    (fun files parent =>
      if (files.node? parent).isSome then files
      else files.place parent
        { entry := .directory, mode := usualMode .directory, identity := files.freshIdentity
          modified := beginning })
    files

/-- Adds something with permissions, and all directories on the way to it. -/
def add (files : FileSystem) (position : Position) (entry : Entry) (mode : Nat) : FileSystem :=
  let made := files.makeParents position
  match made.node? position with
  | some node => made.place position { node with entry := entry, mode := mode }
  | none =>
      made.place position
        { entry := entry, mode := mode, identity := made.freshIdentity, modified := beginning }

def names (files : FileSystem) (position : Position) : List Name :=
  files.entries.filterMap fun (other, _) =>
    match other.getLast? with
    | some name => if other.dropLast = position then some name else none
    | none => none

/-- How many positions stand for a file. -/
def linkCount (files : FileSystem) (identity : Nat × Nat) : Nat :=
  files.entries.countP fun entry => entry.2.identity = identity

end FileSystem

end FolderScript
