/-
How the streams of a life are read: which side is polled when, and how often a look at a
side finds nothing.  Whatever a schedule says, its polls are followed by as many more of
each side as all that happens on the side can take.
-/
import FolderScript.Process.Life

namespace FolderScript

structure Schedule where
  /-- The sides that are polled, in order, for what happens. -/
  sides : List Happening → List Side
  /-- How many looks at a side find nothing after the piece of this number. -/
  idle : Side → Nat → Nat

namespace Schedule

/-- What the source of a side finds from a piece of some number on, up to the end of the
side or a read that fails on it.  A side without either is not ready for so many more
looks. -/
def source (side : Side) (more : Nat) (idle : Nat → Nat) : Nat → List Happening → Source
  | _, [] => List.replicate more .notReady
  | number, .written other data :: rest =>
      if other = side then
        .data data :: (List.replicate (idle number) .notReady ++
          source side more idle (number + 1) rest)
      else source side more idle number rest
  | number, .closed other :: rest =>
      if other = side then [.endOfInput] else source side more idle number rest
  | number, .readFails other error :: rest =>
      if other = side then [.fails error] else source side more idle number rest

/-- What the source of a side finds, with so many more looks after all that happens. -/
def sourceOf (schedule : Schedule) (happenings : List Happening) (more : Nat) (side : Side) :
    Source :=
  source side more (schedule.idle side) 0 happenings

/-- The polls that are enough for all that happens on a side. -/
def enough (schedule : Schedule) (happenings : List Happening) (side : Side) : List Side :=
  List.replicate ((schedule.sourceOf happenings 0 side).work + 1) side

def polls (schedule : Schedule) (happenings : List Happening) : List Side :=
  schedule.sides happenings ++ schedule.enough happenings .out ++
    schedule.enough happenings .err

/-- The drain of two streams on which things happen, nothing read yet. -/
def start (schedule : Schedule) (happenings : List Happening) : Drain :=
  let more := (schedule.polls happenings).length
  Drain.start (schedule.sourceOf happenings more .out) (schedule.sourceOf happenings more .err)

def outcome (schedule : Schedule) (happenings : List Happening) : Drain :=
  (schedule.start happenings).run (schedule.polls happenings)

/-- How often the side of a happening is polled if everything is read as it happens: once
for every line that gets complete, and once more; at the end also for a line without an
end. -/
def pollCount : Happening → Nat
  | .written _ data => data.count newline + 1
  | .closed _ => 2
  | .readFails .. => 1

/-- Everything is read as it happens, and nothing is there to be read in between. -/
def inOrder : Schedule where
  sides happenings := happenings.flatMap fun happening =>
    List.replicate (pollCount happening) happening.side
  idle _ _ := 1

end Schedule

/-- What a drain has read by a deadline. -/
def Life.drained (life : Life) (schedule : Schedule) (deadline : Option Duration) : Drain :=
  schedule.outcome (life.happenings deadline)

end FolderScript
