/-
Reading lines from a source that delivers bytes in pieces.  A poll may find the
source not ready; the bytes read so far are held, so that the next poll goes on
where this one left off.
-/
import FolderScript.Failure
import FolderScript.Text.Utf8

namespace FolderScript

/-- What one look at a source finds. -/
inductive SourceEvent where
  | data (bytes : Bytes)
  | notReady
  | endOfInput
  | fails (error : IoError)
  deriving DecidableEq, Repr

/-- What successive looks find; after the last the source is at its end for
ever. -/
abbrev Source := List SourceEvent

/-- How many polls an event can keep a reader busy for. -/
def SourceEvent.work : SourceEvent → Nat
  | .data bytes => bytes.length + 1
  | _ => 1

/-- How many polls all events of a source can keep a reader busy for. -/
def Source.work : Source → Nat
  | [] => 0
  | event :: rest => event.work + work rest

/-- What one poll for a line comes to. -/
inductive Poll where
  | pending
  | line (text : String)
  | ended
  | failed (error : IoError)
  deriving DecidableEq, Repr

/-- A source together with the bytes of the line that is not finished. -/
structure LineReader where
  source : Source
  held : Bytes := []
  deriving DecidableEq, Repr

/-- The byte that ends a line. -/
def newline : UInt8 := 0x0A

/-- The byte that is dropped in front of a line end. -/
def carriageReturn : UInt8 := 0x0D

def cutLine? (bytes : Bytes) : Option (Bytes × Bytes) :=
  match bytes.dropWhile (· ≠ newline) with
  | [] => none
  | _ :: rest => some (bytes.takeWhile (· ≠ newline), rest)

/-- The text of a line that had an end; one carriage return before it goes. -/
def lineText (line : Bytes) : String :=
  Utf8.lossy (if line.getLast? = some carriageReturn then line.dropLast else line)

/-- What a reader returns where its source ends: the bytes it holds are the
last line, if there are any. -/
def atEnd (held : Bytes) : Poll :=
  if held = [] then .ended else .line (Utf8.lossy held)

/-- Polls for a line with bytes at hand: reads until a line is complete, or
until the source has nothing to give now. -/
def pollLine (held : Bytes) : Source → Poll × LineReader
  | [] => (atEnd held, ⟨[], []⟩)
  | .data bytes :: rest =>
      match cutLine? bytes with
      | some (line, more) => (.line (lineText (held ++ line)), ⟨.data more :: rest, []⟩)
      | none => pollLine (held ++ bytes) rest
  | .notReady :: rest => (.pending, ⟨rest, held⟩)
  | .endOfInput :: rest => (atEnd held, ⟨rest, []⟩)
  | .fails error :: rest => (.failed error, ⟨rest, held⟩)

namespace LineReader

def poll (reader : LineReader) : Poll × LineReader :=
  pollLine reader.held reader.source

/-- The results of a number of polls. -/
def polls (reader : LineReader) : Nat → List Poll
  | 0 => []
  | count + 1 => reader.poll.1 :: reader.poll.2.polls count

end LineReader

/-- The lines of a whole stream, from bytes at hand: each without its end, the
last also when it has none. -/
def linesFrom (held : Bytes) : Bytes → List String
  | [] => if held = [] then [] else [Utf8.lossy held]
  | byte :: rest =>
      if byte = newline then lineText held :: linesFrom [] rest
      else linesFrom (held ++ [byte]) rest

/-- The lines of a whole stream. -/
def lines (bytes : Bytes) : List String := linesFrom [] bytes

example : lines [0x61, 0x0D, 0x0A, 0x0A, 0x62, 0x0D] = ["a", "", "b\r"] := by
  decide +kernel

end FolderScript
