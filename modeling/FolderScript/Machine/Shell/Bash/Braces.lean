/-
Words with braces that stand for several words: choices between commas, and ranges
of numbers or letters.
-/
import FolderScript.Machine.Shell.Script

namespace FolderScript.Shell

namespace Braces

/-- A piece of a word: a character that was not quoted, or anything else. -/
inductive Atom where
  | char (char : Char)
  | part (part : Part)

def atoms (word : Word) : List Atom :=
  word.flatMap fun part =>
    match part with
    | .literal (first :: rest) false => (first :: rest).map Atom.char
    | other => [.part other]

/-- The word that pieces make up. -/
def wordOf : List Atom → Word
  | [] => []
  | .part part :: rest => part :: wordOf rest
  | .char char :: rest =>
      match wordOf rest with
      | .literal text false :: more => .literal (char :: text) false :: more
      | more => .literal [char] false :: more

/-- The characters of pieces that are all characters. -/
def plain? (found : List Atom) : Option Text :=
  found.mapM fun atom =>
    match atom with
    | .char char => some char
    | .part _ => none

/-- The choices up to the closing brace, and what follows it; braces within others are
passed over. -/
def choices : Nat → List Atom → List Atom → Option (List (List Atom) × List Atom)
  | _, _, [] => none
  | depth, current, .char char :: rest =>
      match char, depth with
      | '\x7b', _ => choices (depth + 1) (.char char :: current) rest
      | '\x7d', 0 => some ([current.reverse], rest)
      | '\x7d', inner + 1 => choices inner (.char char :: current) rest
      | ',', 0 =>
          (choices 0 [] rest).map fun (others, after) => (current.reverse :: others, after)
      | _, _ => choices depth (.char char :: current) rest
  | depth, current, atom :: rest => choices depth (atom :: current) rest

/-- The largest number of words that a range stands for. -/
def longestRange : Nat := 100000

def numbers (first last step : Int) : List Int :=
  let size := step.natAbs
  let size := if size = 0 then 1 else size
  let count := min ((last - first).natAbs / size) longestRange
  (List.range (count + 1)).map fun index =>
    if first ≤ last then first + (index * size : Nat) else first - (index * size : Nat)

/-- How wide the numbers of a range are, if one of its ends starts with a zero. -/
def widthOf (first last : Text) : Nat :=
  let isPadded (text : Text) : Bool :=
    let digits := if text.head? = some '-' then text.tail else text
    1 < digits.length && digits.head? == some '0'
  if isPadded first || isPadded last then max first.length last.length else 0

def padded (width : Nat) (number : Int) : Text :=
  let digits := Text.ofNat number.natAbs
  let sign : Text := if number < 0 then ['-'] else []
  sign ++ List.replicate (width - sign.length - digits.length) '0' ++ digits

def splitPoints : Text → List Text
  | [] => [[]]
  | '.' :: '.' :: rest => [] :: splitPoints rest
  | char :: rest =>
      match splitPoints rest with
      | part :: others => (char :: part) :: others
      | [] => [[char]]

def range? (text : Text) : Option (List Text) :=
  let made (first last : Text) (step : Int) : Option (List Text) :=
    match Text.toInt? first, Text.toInt? last, first, last with
    | some low, some high, _, _ =>
        let width := widthOf first last
        some ((numbers low high step).map (padded width))
    | none, none, [low], [high] =>
        if low.isAlpha && high.isAlpha then
          some ((numbers low.toNat high.toNat step).map fun code => [Char.ofNat code.toNat])
        else none
    | _, _, _, _ => none
  match splitPoints text with
  | [first, last] => made first last 1
  | [first, last, step] => (Text.toInt? step).bind (made first last)
  | _ => none

/-- The words that pieces stand for. -/
def expandAtoms : Nat → List Atom → List (List Atom)
  | 0, found => [found]
  | _ + 1, [] => [[]]
  | fuel + 1, .char '\x7b' :: rest =>
      let asIs : List (List Atom) :=
        (expandAtoms fuel rest).map fun more => .char '\x7b' :: more
      match choices 0 [] rest with
      | none => asIs
      | some ([single], after) =>
          match (plain? single).bind range? with
          | some texts =>
              let ends := expandAtoms fuel after
              texts.flatMap fun text => ends.map fun more => text.map Atom.char ++ more
          | none => asIs
      | some (several, after) =>
          let ends := expandAtoms fuel after
          (several.flatMap (expandAtoms fuel)).flatMap fun choice =>
            ends.map fun more => choice ++ more
  | fuel + 1, atom :: rest => (expandAtoms fuel rest).map fun more => atom :: more

def expand (word : Word) : List Word :=
  let found := atoms word
  let hasBrace := found.any fun atom =>
    match atom with
    | .char '\x7b' => true
    | _ => false
  if !hasBrace then [word]
  else (expandAtoms (found.length + 2) found).map wordOf

/-- A word without braces stands for itself. -/
theorem expand_of_quoted (text : Text) : expand [.literal text true] = [[.literal text true]] := by
  cases text <;> rfl

end Braces

end FolderScript.Shell
