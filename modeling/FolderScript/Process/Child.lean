/-
A running child: which of its streams are still there to be read, and whether
its end has been collected.  A stream that is taken away is read by nobody from
then on.  A child may be set up to be killed if it is dropped before its end is
collected.
-/
import FolderScript.Log
import FolderScript.Process.Schedule

namespace FolderScript

/-- What is left of a finished process, whatever its exit code. -/
structure Captured where
  exitCode : Int
  /-- Every line of both streams, each with its end. -/
  output : String
  deriving DecidableEq, Repr

/-- Whether the process reported success. -/
def Captured.succeeded (captured : Captured) : Bool := captured.exitCode == 0

/-- The handle on a child process. -/
structure Child where
  /-- How the child's life hangs on its readers. -/
  fate : Fate
  /-- The readers of its streams so far. -/
  readers : Readers := {}
  /-- The life that it leads. -/
  life : Life := fate readers
  /-- The time since its start. -/
  now : Duration := 0
  hasOut : Bool := true
  hasErr : Bool := true
  /-- The ending, once it has been collected. -/
  reaped : Option Ending := none
  /-- Whether a kill was issued. -/
  killed : Bool := false
  killsOnDrop : Bool := false

namespace Child

/-- A child that has just been started, and is killed if it is dropped. -/
def started (fate : Fate) : Child := { fate := fate, killsOnDrop := true }

/-- Whether a stream is still there to be read. -/
def has (child : Child) : Side → Bool
  | .out => child.hasOut
  | .err => child.hasErr

/-- The child with one stream used up. -/
def spent (child : Child) : Side → Child
  | .out => { child with hasOut := false }
  | .err => { child with hasErr := false }

/-- The child if nobody reads a stream from now on. -/
def unread (child : Child) (side : Side) : Child :=
  let readers := child.readers.leave child.now side
  { child with
    readers := readers
    life := if child.killed then child.life else child.fate readers }

/-- The child with both streams used up. -/
def reading (child : Child) : Child := (child.spent .out).spent .err

/-- Takes one stream away and lets go of it, and tells whether it was there. -/
def take (child : Child) (side : Side) : Bool × Child :=
  if child.has side then (true, (child.spent side).unread side) else (false, child)

/-- Waits for the end of the child; `none` if it does not come by the deadline. -/
def wait (child : Child) (deadline : Option Duration) :
    Option (Except IoError Ending × Child) :=
  match child.reaped with
  | some ending => some (.ok ending, child)
  | none =>
      match child.life.ending with
      | none => none
      | some (time, ending) =>
          let now := max child.now time
          if Life.inTime deadline now then
            match child.life.waitFault with
            | some error => some (.error error, { child with now := now })
            | none => some (.ok ending, { child with now := now, reaped := some ending })
          else none

/-- Issues a kill, unless the end has been collected. -/
def signalKill (child : Child) : Child :=
  if child.reaped.isSome then child
  else { child with life := child.life.killedAt child.now, killed := true }

/-- Kills the child and collects its end; tells what goes wrong with that, if anything
does. -/
def kill (child : Child) : Option IoError × Child :=
  match child.life.killFault with
  | some error => (some error, child.signalKill)
  | none =>
      match child.signalKill.wait none with
      | some (.ok _, killed) => (none, killed)
      | some (.error error, killed) => (some error, killed)
      | none => (none, child.signalKill)

/-- Lets go of the child. -/
def drop (child : Child) : Child :=
  if child.killsOnDrop then child.signalKill else child

/-- Collects the end of a child whose streams have been read. -/
def conclude (child : Child) (deadline : Option Duration) (output : String) :
    Logged (Option (Except Failure Captured) × Child) :=
  match child.wait deadline with
  | none => pure (none, child)
  | some (.error error, child) => pure (some (.error (.wait error)), child)
  | some (.ok ending, child) => do
      Logged.emit .debug .process ("Process exited with status " ++ ending.text ++
        " (code " ++ toString ending.code ++ ")")
      pure (some (.ok ⟨ending.code, output⟩), child)

/-- The time at which both streams are at their end. -/
def readUntil (child : Child) : Duration :=
  max child.now (max ((child.life.closesAt .out).getD 0) ((child.life.closesAt .err).getD 0))

/-- What comes of a child once its streams have been read as far as they go: a
failed read ends it all, and only streams read to their end let the child's own
end be collected. -/
def settle (child : Child) (deadline : Option Duration) (drained : Drain) :
    Logged (Option (Except Failure Captured) × Child) := do
  drained.lines.toList.forM fun line =>
    Logged.emit .trace .process ("output: " ++ line)
  match drained.failure with
  | some error => pure (some (.error (.readOutput error)), child)
  | none =>
      if drained.finished then
        conclude { child with now := child.readUntil } deadline drained.output
      else pure (none, { child with now := deadline.getD child.now })

/-- Reads both streams to their end, as a schedule says, then waits for the child;
`none` if that is not done by the deadline. -/
def drain (child : Child) (schedule : Schedule) (deadline : Option Duration) :
    Logged (Option (Except Failure Captured) × Child) :=
  if !child.has .out then pure (some (.error (.streamUnavailable "stdout")), child)
  else if !child.has .err then
    pure (some (.error (.streamUnavailable "stderr")), (child.take .out).2)
  else
    child.reading.settle deadline (child.life.drained schedule deadline)

end Child

end FolderScript
