/-
Sets of characters given by their runs of code points: the first and last code
point of each run, in ascending order.
-/

namespace FolderScript

/-- Runs of code points, in ascending order. -/
abbrev Ranges := Array (Nat × Nat)

namespace Ranges

/-- Binary search for the run that holds a code point, among those of index
`low` to `low + span - 1`. -/
def search (ranges : Ranges) (code low : Nat) : Nat → Bool
  | 0 => false
  | span + 1 =>
      let middle := low + span / 2
      match ranges[middle]? with
      | none => false
      | some (first, last) =>
          if code < first then search ranges code low (span / 2)
          else if last < code then search ranges code (middle + 1) (span - span / 2)
          else true
termination_by span => span

/-- Whether a character lies in one of the runs. -/
def holds (ranges : Ranges) (char : Char) : Bool :=
  ranges.search char.toNat 0 ranges.size

end Ranges

end FolderScript
