/-
The values of a pattern script: numbers, texts, and texts from the input that may
count as numbers.
-/
import FolderScript.Machine.Awk.Number

namespace FolderScript.Awk

open Shell (Text)

inductive Value where
  /-- The value of what was never set: empty as a text, zero as a number. -/
  | unset
  | number (value : Float)
  | text (value : Text)
  /-- A text from the input that looks like a number, and the number. -/
  | input (value : Text) (meaning : Float)

namespace Value

def ofInput (text : Text) : Value :=
  match Number.whole text with
  | some meaning => .input text meaning
  | none => .text text

/-- A condition as a number. -/
def ofBool (holds : Bool) : Value := .number (if holds then 1 else 0)

def toNumber : Value → Float
  | .unset => 0
  | .number value => value
  | .text value => Number.ofText value
  | .input _ meaning => meaning

/-- The text that a value counts as; numbers that are not whole take a form. -/
def toText (form : Float → Text) : Value → Text
  | .unset => []
  | .number value => Number.text form value
  | .text value => value
  | .input value _ => value

/-- Whether a value counts as true. -/
def holds : Value → Bool
  | .unset => false
  | .number value => value != 0
  | .text value => !value.isEmpty
  | .input _ meaning => meaning != 0

def compareTexts : Text → Text → Ordering
  | [], [] => .eq
  | [], _ :: _ => .lt
  | _ :: _, [] => .gt
  | left :: lefts, right :: rights =>
      if left < right then .lt else if right < left then .gt else compareTexts lefts rights

/-- The ways to compare. -/
inductive Relation where
  | less
  | atMost
  | equal
  | different
  | more
  | atLeast
  deriving DecidableEq, Repr

namespace Relation

def ofNumbers (relation : Relation) (left right : Float) : Bool :=
  match relation with
  | .less => left < right
  | .atMost => left ≤ right
  | .equal => left == right
  | .different => left != right
  | .more => right < left
  | .atLeast => right ≤ left

/-- Whether things that compare so are related. -/
def ofOrder (relation : Relation) (order : Ordering) : Bool :=
  match relation with
  | .less => order == .lt
  | .atMost => order != .gt
  | .equal => order == .eq
  | .different => order != .eq
  | .more => order == .gt
  | .atLeast => order != .lt

end Relation

def comparable? : Value → Option Float
  | .unset => some 0
  | .number value => some value
  | .input _ meaning => some meaning
  | .text _ => none

/-- Whether values are related: as numbers if both can be, and otherwise as texts. -/
def related (form : Float → Text) (relation : Relation) (left right : Value) : Bool :=
  match left.comparable?, right.comparable? with
  | some first, some second => relation.ofNumbers first second
  | _, _ => relation.ofOrder (compareTexts (left.toText form) (right.toText form))

end Value

end FolderScript.Awk
