/-
What a list script asks about files, and how it changes them.
-/
import FolderScript.Machine.Perl.Functions
import FolderScript.Machine.Perl.Streams
import FolderScript.Machine.Shell.Tools.Status

namespace FolderScript.Perl

open Shell (Text State)

namespace Files

/-- Whether a change can be made; the error is remembered if not. -/
def changed (result : Except IoError State) : Act Bool := do
  match result with
  | .ok state =>
      modify fun machine => { machine with state := state }
      return true
  | .error error =>
      setError (errorNumber error)
      return false

/-- The errors that a change may meet with. -/
def exists_ : IoError := .os 17
def isNotEmpty : IoError := .os 39

/-- Takes a file away. -/
def unlink (state : State) (path : Text) : Except IoError State := do
  let (position, node) ← state.nodeAt true path
  if node.entry = .directory then throw .isDirectory
  if !state.mayChange position.dropLast then throw .permissionDenied
  pure (state.removeEntry position)

def makeDirectory (state : State) (path : Text) : Except IoError State := do
  let bare := (path.reverse.dropWhile (· == '/')).reverse
  let position ← state.nameFor bare
  if (state.world.files.node? position).isSome then throw exists_
  if !state.mayChange position.dropLast then throw .permissionDenied
  pure (state.putEntry position .directory)

/-- Takes an empty directory away. -/
def removeDirectory (state : State) (path : Text) : Except IoError State := do
  let (position, node) ← state.nodeAt true path
  if node.entry ≠ .directory then throw .notDirectory
  if state.world.files.names position ≠ [] then throw isNotEmpty
  if !state.mayChange position.dropLast then throw .permissionDenied
  pure (state.removeEntry position)

/-- Moves a file to another place. -/
def rename (state : State) (old new : Text) : Except IoError State := do
  let (position, node) ← state.nodeAt true old
  let target ← state.nameFor new
  if !state.mayChange position.dropLast || !state.mayChange target.dropLast then
    throw .permissionDenied
  if (state.nodeOf target).entry = .directory && node.entry ≠ .directory then throw .isDirectory
  pure (if position = target then state else state.change (.move position target))

/-- Changes the permissions of a file. -/
def setMode (state : State) (mode : Nat) (path : Text) : Except IoError State := do
  let (_, node) ← state.nodeAt false path
  pure (state.change (.setMode node.identity mode))

def link (state : State) (target path : Text) (isSymbolic : Bool) : Except IoError State := do
  let position ← state.nameFor path
  if (state.world.files.node? position).isSome then throw exists_
  if isSymbolic then pure (state.putEntry position (.link (Shell.Text.toBytes target)))
  else
    let (source, _) ← state.nodeAt true target
    pure (state.change (.link source position))

/-- Enters a directory. -/
def enter (state : State) (path : Text) : Except IoError State := do
  let (position, node) ← state.nodeAt false path
  if node.entry ≠ .directory then throw .notDirectory
  pure { state with directory := position }

def names (state : State) (path : Text) : Except IoError (List Text) := do
  let (position, node) ← state.nodeAt false path
  if node.entry ≠ .directory then throw .notDirectory
  pure (['.'] :: ['.', '.'] :: (state.world.files.names position).map Shell.Text.ofBytes)

/-- What a link leads to. -/
def target (state : State) (path : Text) : Except IoError Text := do
  match (← state.nodeAt true path).2.entry with
  | .link target => pure (Shell.Text.ofBytes target)
  | _ => throw (.os 22)

def seconds (moment : Moment) : Value := .ofInt (moment / 1000000)

/-- What is known of a file, in the usual order. -/
def facts (state : State) (path : Text) (keepsLink : Bool) : Except IoError (List Value) := do
  let (position, node) ← state.nodeAt keepsLink path
  let owner : Nat := if node.mine then Shell.Tools.userNumber else 0
  let size := state.sizeOf node.entry
  pure [.ofInt 2049, .ofNat (node.identity.2 + 1), .ofNat (Shell.Tools.Status.kindBits state node + node.mode),
    .ofNat (if position = [] then 1 else state.world.files.linkCount node.identity), .ofNat owner,
    .ofNat owner, .ofInt 0, .ofNat size, seconds node.modified, seconds node.modified,
    seconds node.modified, .ofInt 4096, .ofNat ((size + 511) / 512)]

/-- The answer to a question about a file; nothing if there is no such file. -/
def answer (state : State) (letter : Char) (path : Text) : Except IoError Value := do
  let (_, node) ← state.nodeAt (letter == 'l') path
  let size := state.sizeOf node.entry
  let age : Value := Functions.real (Float.ofInt (State.momentOf 0 - node.modified) / 86400000000.0)
  pure (match letter with
    | 'e' => .ofBool true
    | 'f' => .ofBool (state.kindOf node.entry == .regular)
    | 'd' => .ofBool (node.entry = .directory)
    | 'l' => .ofBool (state.kindOf node.entry == .link)
    | 'p' => .ofBool (state.kindOf node.entry == .pipe)
    | 'c' => .ofBool (state.kindOf node.entry == .character)
    | 'r' => .ofBool (node.allows Node.toRead)
    | 'w' => .ofBool (node.allows Node.toWrite)
    | 'x' => .ofBool (node.allows Node.toSearch)
    | 'o' => .ofBool node.mine
    | 'z' => .ofBool (size = 0)
    | 's' => if size = 0 then .text [] else .ofNat size
    | 'M' | 'A' | 'C' => age
    | 'T' => .ofBool true
    | _ => .text [])

end Files

end FolderScript.Perl
