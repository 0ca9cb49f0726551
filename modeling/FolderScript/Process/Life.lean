/-
The life of a process as it shows from outside: what is written to its output
streams and when, who holds them open, and how it ends.  A stream ends only
when the last of its holders has let go of it, and that may be long after the
process itself has ended.
-/
import FolderScript.Process.Ending
import FolderScript.Stream.Drain

namespace FolderScript

/-- A span of time, in microseconds. -/
abbrev Duration := Nat

namespace Duration

def ofSeconds (seconds : Nat) : Duration := seconds * 1000000

def ofMilliseconds (milliseconds : Nat) : Duration := milliseconds * 1000

/-- The whole seconds of a span. -/
def seconds (duration : Duration) : Nat := duration / 1000000

theorem seconds_ofSeconds (count : Nat) : seconds (ofSeconds count) = count :=
  Nat.mul_div_cancel count (by decide)

end Duration

/-- A process that holds the output streams: what it writes, and when it lets go
of each; times count from the start of the child. -/
structure Holder where
  writes : List (Duration × Side × Bytes) := []
  outUntil : Option Duration := none
  errUntil : Option Duration := none
  deriving DecidableEq, Repr

/-- When a holder lets go of a side; `none` is never. -/
def Holder.holdsUntil (holder : Holder) : Side → Option Duration
  | .out => holder.outUntil
  | .err => holder.errUntil

/-- The earlier of a time and a moment that may never come. -/
def earlier (time : Duration) : Option Duration → Duration
  | none => time
  | some other => min time other

/-- The holder if it dies at a time. -/
def Holder.cutAt (holder : Holder) (time : Duration) : Holder where
  writes := holder.writes.filter fun write => write.1 ≤ time
  outUntil := some (earlier time holder.outUntil)
  errUntil := some (earlier time holder.errUntil)

/-- The life of a child process. -/
structure Life where
  /-- The child itself. -/
  child : Holder
  /-- When and how the child ends; `none` is never. -/
  ending : Option (Duration × Ending)
  /-- Descendants that hold the streams too. -/
  others : List Holder := []
  /-- Reads of a stream that fail. -/
  readFaults : List (Duration × Side × IoError) := []
  /-- Why the ending cannot be collected. -/
  waitFault : Option IoError := none
  /-- Why a kill cannot be carried out. -/
  killFault : Option IoError := none
  deriving DecidableEq, Repr

/-- When the reader of each stream goes away; `none` is never. -/
structure Readers where
  outGone : Option Duration := none
  errGone : Option Duration := none
  deriving DecidableEq, Repr

namespace Readers

/-- When the reader of a side goes away. -/
def goneAt (readers : Readers) : Side → Option Duration
  | .out => readers.outGone
  | .err => readers.errGone

def leave (readers : Readers) (time : Duration) : Side → Readers
  | .out => { readers with outGone := some (earlier time readers.outGone) }
  | .err => { readers with errGone := some (earlier time readers.errGone) }

def isGone (readers : Readers) (side : Side) (time : Duration) : Bool :=
  match readers.goneAt side with
  | none => false
  | some gone => gone ≤ time

end Readers

/-- The life of a child process as it hangs on its readers: writing what nobody
can read may be the end of it. -/
abbrev Fate := Readers → Life

/-- What a reader of the streams meets. -/
inductive Happening where
  | written (side : Side) (data : Bytes)
  | closed (side : Side)
  | readFails (side : Side) (error : IoError)
  deriving DecidableEq, Repr

namespace Happening

def side : Happening → Side
  | .written side _ => side
  | .closed side => side
  | .readFails side _ => side

/-- Of what happens at one time, the ends of the streams come last. -/
def rank : Happening → Nat
  | .closed _ => 1
  | _ => 0

/-- Where a happening at a time stands among the others. -/
def place (moment : Duration × Happening) : Nat := 2 * moment.1 + moment.2.rank

end Happening

namespace Life

/-- Everyone who holds the streams. -/
def holders (life : Life) : List Holder := life.child :: life.others

/-- When the last holder lets go of a side. -/
def closesAt (life : Life) (side : Side) : Option Duration :=
  (life.holders.mapM fun (holder : Holder) => holder.holdsUntil side).map fun times =>
    times.foldl max 0

/-- What happens on the streams, in order of time. -/
def timeline (life : Life) : List (Duration × Happening) :=
  let writes := life.holders.flatMap fun holder =>
    holder.writes.map fun (time, side, data) => (time, Happening.written side data)
  let faults := life.readFaults.map fun (time, side, error) =>
    (time, Happening.readFails side error)
  let closes (side : Side) :=
    (life.closesAt side).toList.map fun time => (time, Happening.closed side)
  (writes ++ faults ++ closes .out ++ closes .err).mergeSort fun left right =>
    decide (Happening.place left ≤ Happening.place right)

def inTime (deadline : Option Duration) (time : Duration) : Bool :=
  match deadline with
  | none => true
  | some limit => decide (time ≤ limit)

/-- What has happened on the streams by a deadline. -/
def happenings (life : Life) (deadline : Option Duration) : List Happening :=
  (life.timeline.filter fun moment => inTime deadline moment.1).map Prod.snd

/-- The life if the child is killed at a time, unless it has ended by then or cannot be
killed. -/
def killedAt (life : Life) (time : Duration) : Life :=
  let killed := { life with
    child := life.child.cutAt time
    ending := some (time, .signaled 9) }
  match life.killFault, life.ending with
  | some _, _ => life
  | none, none => killed
  | none, some (ended, _) => if ended ≤ time then life else killed

end Life

end FolderScript
