/-
Draining two streams into one list of lines.  Each step polls one side that is
still open; which side that is, a schedule of choices decides.
-/
import FolderScript.Stream.LineReader

namespace FolderScript

/-- The two output streams of a process. -/
inductive Side where
  | out
  | err
  deriving DecidableEq, Repr

/-- The state of a drain. -/
structure Drain where
  out : LineReader
  err : LineReader
  outOpen : Bool := true
  errOpen : Bool := true
  /-- The lines of both sides as they came. -/
  lines : Array String := #[]
  /-- The error that ended the drain. -/
  failure : Option IoError := none
  /-- How many polls have come to something. -/
  completed : Nat := 0
  deriving DecidableEq, Repr

namespace Drain

/-- A drain of two sources, nothing read yet. -/
def start (out err : Source) : Drain := { out := ⟨out, []⟩, err := ⟨err, []⟩ }

/-- Whether a side is still to be read. -/
def isOpen (drain : Drain) (side : Side) : Bool :=
  drain.failure.isNone &&
    match side with
    | .out => drain.outOpen
    | .err => drain.errOpen

/-- Both sides have been read to their end. -/
def finished (drain : Drain) : Bool :=
  drain.failure.isNone && !drain.outOpen && !drain.errOpen

def reader (drain : Drain) : Side → LineReader
  | .out => drain.out
  | .err => drain.err

def setReader (drain : Drain) (side : Side) (reader : LineReader) : Drain :=
  match side with
  | .out => { drain with out := reader }
  | .err => { drain with err := reader }

def close (drain : Drain) : Side → Drain
  | .out => { drain with outOpen := false }
  | .err => { drain with errOpen := false }

def accept (drain : Drain) (side : Side) : Poll → Drain
  | .pending => drain
  | .line text =>
      { drain with lines := drain.lines.push text, completed := drain.completed + 1 }
  | .ended => { drain.close side with completed := drain.completed + 1 }
  | .failed error =>
      { drain with failure := some error, completed := drain.completed + 1 }

/-- Polls one side; a side that has ended is not polled again, and none is
after a failure. -/
def step (drain : Drain) (side : Side) : Drain :=
  if drain.isOpen side then
    let (result, reader) := (drain.reader side).poll
    (drain.setReader side reader).accept side result
  else drain

/-- Polls sides as a schedule says. -/
def run (drain : Drain) (schedule : List Side) : Drain := schedule.foldl step drain

/-- The lines, each with its end. -/
def output (drain : Drain) : String :=
  String.join (drain.lines.toList.map fun line => line ++ "\n")

end Drain

end FolderScript
