/-
The program that checks conditions.  The number of words decides how a condition is
read; only longer ones are taken apart from the left.
-/
import FolderScript.Machine.Shell.Condition
import FolderScript.Machine.Shell.Tools.Basic

namespace FolderScript.Shell

namespace Tools

namespace Checks

/-- The relations between two words. -/
def relations : List String :=
  ["=", "==", "!=", "-eq", "-ne", "-lt", "-le", "-gt", "-ge", "-nt", "-ot", "-ef"]

def isRelation (word : Text) : Bool := relations.contains (String.ofList word)

/-- The integer that a word spells, with blanks around it or not. -/
def integer (word : Text) : Except Text Int :=
  let isGap (char : Char) : Bool := char == ' ' || char == '\t'
  let bare := ((word.dropWhile isGap).reverse.dropWhile isGap).reverse
  let digits := match bare with
    | '+' :: digits => digits
    | '-' :: digits => digits
    | digits => digits
  match if digits.all Char.isDigit then Text.toNat? digits else none with
  | some value => .ok (if bare.head? = some '-' then -Int.ofNat value else Int.ofNat value)
  | none => .error ("invalid integer ".toList ++ quoted word)

/-- An operand of a relation: a word, or the length of one. -/
structure Operand where
  word : Text
  isLength : Bool := false

def Operand.number (operand : Operand) : Except Text Int :=
  if operand.isLength then .ok (Int.ofNat operand.word.length) else integer operand.word

/-- The time at which a file was changed, if there is one. -/
def timeOf (state : State) (path : Text) : Option Moment :=
  (state.nodeAt false path).toOption.map fun (_, node) => node.modified

/-- Whether one time is later than another; one that is there is later than none. -/
def isLater : Option Moment → Option Moment → Bool
  | some left, some right => decide (right < left)
  | some _, none => true
  | none, _ => false

def related (state : State) (relation : Text) (left right : Operand) : Except Text Bool :=
  let numbers (holds : Int → Int → Bool) : Except Text Bool := do
    let first ← left.number
    let second ← right.number
    pure (holds first second)
  let files (holds : Text → Text → Bool) : Except Text Bool :=
    if left.isLength || right.isLength then
      .error (relation ++ " does not accept -l".toList)
    else .ok (holds left.word right.word)
  match String.ofList relation with
  | "=" | "==" => .ok (left.word = right.word)
  | "!=" => .ok (left.word ≠ right.word)
  | "-eq" => numbers fun left right => left == right
  | "-ne" => numbers fun left right => left != right
  | "-lt" => numbers fun left right => decide (left < right)
  | "-le" => numbers fun left right => decide (left ≤ right)
  | "-gt" => numbers fun left right => decide (right < left)
  | "-ge" => numbers fun left right => decide (right ≤ left)
  | "-nt" => files fun left right => isLater (timeOf state left) (timeOf state right)
  | "-ot" => files fun left right => isLater (timeOf state right) (timeOf state left)
  | _ => files fun left right =>
      Condition.filesRelated state left right fun left right => left.identity = right.identity

/-- Whether a word is a dash and a letter. -/
def isSwitch : Text → Bool
  | ['-', _] => true
  | _ => false

/-- A test of one word by a letter, and the words after it. -/
def letterTest (state : State) (missing : Text) : List Text → Except Text (Bool × List Text)
  | ['-', letter] :: rest =>
      let known := letter = 'n' || letter = 'z' || letter = 't' || letter = 'N' ||
        (Condition.fileTest? state letter []).isSome
      if !known then .error (quoted ['-', letter] ++ ": unary operator expected".toList)
      else
        match rest with
        | [] => .error missing
        | word :: rest =>
            match letter with
            | 'n' => .ok (word ≠ [], rest)
            | 'z' => .ok (word = [], rest)
            | 't' => (integer word).map fun _ => (false, rest)
            | _ => .ok ((Condition.fileTest? state letter word).getD false, rest)
  | _ => .error missing

/-- A relation between two operands at the front of some words, and the words after
it. -/
def relationTest (state : State) (leftIsLength : Bool) (missing : Text) :
    List Text → Except Text (Bool × List Text)
  | left :: relation :: ['-', 'l'] :: right :: rest =>
      (related state relation ⟨left, leftIsLength⟩ ⟨right, true⟩).map fun holds => (holds, rest)
  | left :: relation :: right :: rest =>
      (related state relation ⟨left, leftIsLength⟩ ⟨right, false⟩).map fun holds => (holds, rest)
  | _ => .error missing

/-- One word, which holds if there is something in it. -/
def oneWord (missing : Text) : List Text → Except Text (Bool × List Text)
  | [] => .error missing
  | word :: rest => .ok (word ≠ [], rest)

def twoWords (state : State) (missing : Text) : List Text → Except Text (Bool × List Text)
  | ['!'] :: rest => (oneWord missing rest).map fun (holds, rest) => (!holds, rest)
  | words => if words.head?.any isSwitch then letterTest state missing words else .error missing

mutual

/-- So many words at the front of some. -/
def front : Nat → State → Text → Nat → List Text → Except Text (Bool × List Text)
  | 0, _, missing, _, _ => .error missing
  | fuel + 1, state, missing, count, words =>
      match count, words with
      | 1, _ => oneWord missing words
      | 2, _ => twoWords state missing words
      | 3, _ => threeWords fuel state missing words
      | 4, ['!'] :: rest =>
          (threeWords fuel state missing rest).map fun (holds, rest) => (!holds, rest)
      | 4, ['('] :: first :: second :: [')'] :: rest =>
          (twoWords state missing [first, second]).map fun (holds, left) => (holds, left ++ rest)
      | _, _ => anyOf fuel state missing words

def threeWords : Nat → State → Text → List Text → Except Text (Bool × List Text)
  | 0, _, missing, _ => .error missing
  | fuel + 1, state, missing, words =>
      match words with
      | first :: second :: third :: rest =>
          if isRelation second then relationTest state false missing words
          else if first = ['!'] then
            (twoWords state missing (second :: third :: rest)).map fun (holds, rest) =>
              (!holds, rest)
          else if first = ['('] ∧ third = [')'] then .ok (second ≠ [], rest)
          else if second = ['-', 'a'] ∨ second = ['-', 'o'] then anyOf fuel state missing words
          else .error (quoted second ++ ": binary operator expected".toList)
      | _ => .error missing

/-- Conditions of which one has to hold. -/
def anyOf : Nat → State → Text → List Text → Except Text (Bool × List Text)
  | 0, _, missing, _ => .error missing
  | fuel + 1, state, missing, words => do
      let (holds, rest) ← allOf fuel state missing words
      match rest with
      | ['-', 'o'] :: more =>
          let (other, rest) ← anyOf fuel state missing more
          pure (holds || other, rest)
      | _ => pure (holds, rest)

/-- Conditions that all have to hold. -/
def allOf : Nat → State → Text → List Text → Except Text (Bool × List Text)
  | 0, _, missing, _ => .error missing
  | fuel + 1, state, missing, words => do
      let (holds, rest) ← single fuel state missing words
      match rest with
      | ['-', 'a'] :: more =>
          let (other, rest) ← allOf fuel state missing more
          pure (holds && other, rest)
      | _ => pure (holds, rest)

/-- One condition. -/
def single : Nat → State → Text → List Text → Except Text (Bool × List Text)
  | 0, _, missing, _ => .error missing
  | fuel + 1, state, missing, words =>
      match words with
      | [] => .error missing
      | ['!'] :: rest => (single fuel state missing rest).map fun (holds, rest) => (!holds, rest)
      | ['('] :: rest =>
          if rest = [] then .error missing
          else
            let inner := 1 + (rest.tail.takeWhile fun word => word ≠ [')']).length
            match front fuel state missing (if 4 < inner then rest.length else inner) rest with
            | .error message => .error message
            | .ok (_, []) => .error "')' expected".toList
            | .ok (holds, [')'] :: rest) => .ok (holds, rest)
            | .ok (_, word :: _) => .error ("')' expected, found ".toList ++ quoted word)
      | word :: rest =>
          if 4 ≤ words.length ∧ word = ['-', 'l'] ∧ (rest[1]?).any isRelation then
            relationTest state true missing rest
          else if 3 ≤ words.length ∧ rest.head?.any isRelation then
            relationTest state false missing words
          else if isSwitch word then letterTest state missing words
          else .ok (word ≠ [], rest)

end

/-- Whether a condition holds, taken as a whole. -/
def evaluate (state : State) (words : List Text) : Except Text Bool :=
  match words.getLast? with
  | none => .ok false
  | some last =>
      let missing := "missing argument after ".toList ++ quoted last
      match front (8 * words.length + 16) state missing words.length words with
      | .error message => .error message
      | .ok (holds, []) => .ok holds
      | .ok (_, extra :: _) => .error ("extra argument ".toList ++ quoted extra)

end Checks

/-- Ends with the status of a condition. -/
def condition (tool : String) (state : State) (words : List Text) : Flow × State :=
  match Checks.evaluate state words with
  | .ok holds => done state (if holds then 0 else 1)
  | .error message => done (complain state tool message) 2

def test : Tool := condition "test"

def bracket : Tool := fun state arguments =>
  if arguments.getLast? = some [']'] then condition "[" state arguments.dropLast
  else done (complain state "[" "missing ']'".toList) 2

end Tools

end FolderScript.Shell
