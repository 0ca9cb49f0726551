/-
Conditions of the large shell language: those that commands take as their arguments,
by their number, and those between double brackets.
-/
import FolderScript.Machine.Shell.Bash.Parameters
import FolderScript.Machine.Shell.Condition
import FolderScript.Machine.Shell.Regex

namespace FolderScript.Shell

namespace Bash

/-- Why a condition makes no sense. -/
inductive ConditionFault where
  | integer (text : Text)
  | unary (word : Text)
  | binary (word : Text)
  | many
  | argument
  | bracket
  deriving DecidableEq, Repr

def ConditionFault.message : ConditionFault → Text
  | .integer text => text ++ ": integer expression expected".toList
  | .unary word => word ++ ": unary operator expected".toList
  | .binary word => word ++ ": binary operator expected".toList
  | .many => "too many arguments".toList
  | .argument => "argument expected".toList
  | .bracket => "\x60)' expected".toList

def testLetters : List Char := "abcdefghknoprstuvwxzGLNORS".toList

/-- The relations between two operands. -/
def testRelations : List String :=
  ["=", "==", "!=", "<", ">", "-eq", "-ne", "-lt", "-le", "-gt", "-ge", "-nt", "-ot", "-ef"]

/-- Whether a word is a test with one operand. -/
def isTest : Text → Bool
  | ['-', letter] => testLetters.contains letter
  | _ => false

def isRelation (word : Text) : Bool := testRelations.contains (String.ofList word)

def isSetVariable (state : State) (operand : Text) : Bool :=
  let (name, key) := State.nameAndKey operand
  let name := state.targetOf State.longestChain name
  match key with
  | some ['@'] | some ['*'] => !(allValues state name).isEmpty
  | some key =>
      match keyOf name key state with
      | .ok (key, _) => (state.element? name key).isSome
      | .error _ => false
  | none => (plainValue? state name).isSome

def passes (state : State) (letter : Char) (operand : Text) : Bool :=
  match letter with
  | 'v' => isSetVariable state operand
  | 'o' => (List.lookup (String.ofList operand) optionNames).any state.has
  | 'R' => (state.traitsOf operand).contains 'n'
  | 'a' | 'N' => (Condition.fileTest? state 'e' operand).getD false
  | _ => (Condition.unary state letter operand).toOption.getD false

/-- Whether two texts, or two files, stand in a relation that is not one of numbers. -/
def relates (state : State) (relation left right : Text) : Bool :=
  let modified? (path : Text) : Option Moment :=
    (state.nodeAt false path).toOption.map fun found => found.2.modified
  match String.ofList relation with
  | "=" | "==" => left = right
  | "!=" => left ≠ right
  | "<" => decide (left < right)
  | ">" => decide (right < left)
  | "-nt" =>
      match modified? left, modified? right with
      | some first, some second => decide (second < first)
      | some _, none => true
      | none, _ => false
  | "-ot" =>
      match modified? left, modified? right with
      | some first, some second => decide (first < second)
      | none, some _ => true
      | _, none => false
  | "-ef" => Condition.filesRelated state left right fun left right =>
      left.identity = right.identity
  | _ => false

def numbersRelate? (relation : Text) (left right : Int) : Option Bool :=
  match String.ofList relation with
  | "-eq" => some (left == right)
  | "-ne" => some (left != right)
  | "-lt" => some (decide (left < right))
  | "-le" => some (decide (left ≤ right))
  | "-gt" => some (decide (right < left))
  | "-ge" => some (decide (right ≤ left))
  | _ => none

def isNumeric (relation : Text) : Bool := (numbersRelate? relation 0 0).isSome

/-- Whether two operands stand in a relation. -/
def related (state : State) (relation left right : Text) : Except ConditionFault Bool :=
  if isNumeric relation then do
    let integer (text : Text) : Except ConditionFault Int :=
      match Condition.integer text with
      | .ok value => .ok value
      | .error _ => .error (.integer text)
    let left ← integer left
    let right ← integer right
    pure ((numbersRelate? relation left right).getD false)
  else .ok (relates state relation left right)

mutual

/-- Conditions of which one has to hold, and the words after them. -/
def anyOf (state : State) : Nat → List Text → Except ConditionFault (Bool × List Text)
  | 0, words => .ok (false, words)
  | fuel + 1, words => do
      let (holds, rest) ← allOf state fuel words
      match rest with
      | ['-', 'o'] :: rest =>
          let (more, rest) ← anyOf state fuel rest
          pure (holds || more, rest)
      | _ => pure (holds, rest)

/-- Conditions that all have to hold, and the words after them. -/
def allOf (state : State) : Nat → List Text → Except ConditionFault (Bool × List Text)
  | 0, words => .ok (false, words)
  | fuel + 1, words => do
      let (holds, rest) ← single state fuel words
      match rest with
      | ['-', 'a'] :: rest =>
          let (more, rest) ← allOf state fuel rest
          pure (holds && more, rest)
      | _ => pure (holds, rest)

def single (state : State) : Nat → List Text → Except ConditionFault (Bool × List Text)
  | 0, words => .ok (false, words)
  | fuel + 1, words =>
      match words with
      | [] => .error .argument
      | ['!'] :: rest => do
          let (holds, rest) ← single state fuel rest
          pure (!holds, rest)
      | ['('] :: rest => do
          let (holds, rest) ← anyOf state fuel rest
          match rest with
          | [')'] :: rest => pure (holds, rest)
          | _ => throw .bracket
      | word :: rest =>
          match rest with
          | relation :: right :: more =>
              if isRelation relation then do
                pure (← related state relation word right, more)
              else if isTest word then
                .ok (passes state (word.getLastD 'e') relation, right :: more)
              else .ok (word ≠ [], rest)
          | [operand] =>
              if isTest word then .ok (passes state (word.getLastD 'e') operand, [])
              else .ok (word ≠ [], rest)
          | [] => .ok (word ≠ [], [])

end

def twoWords (state : State) (first second : Text) : Except ConditionFault Bool :=
  if first = ['!'] then .ok (second = [])
  else if isTest first then .ok (passes state (first.getLastD 'e') second)
  else .error (.unary first)

def threeWords (state : State) (first second third : Text) : Except ConditionFault Bool :=
  if isRelation second then related state second first third
  else if second = ['-', 'a'] then .ok (first ≠ [] && third ≠ [])
  else if second = ['-', 'o'] then .ok (first ≠ [] || third ≠ [])
  else if first = ['!'] then (twoWords state second third).map fun holds => !holds
  else if first = ['('] && third = [')'] then .ok (second ≠ [])
  else .error (.binary second)

def judged (state : State) (words : List Text) : Except ConditionFault Bool :=
  let whole (words : List Text) : Except ConditionFault Bool := do
    let (holds, rest) ← anyOf state (4 * words.length + 8) words
    if rest = [] then pure holds else throw .many
  match words with
  | [] => .ok false
  | [word] => .ok (word ≠ [])
  | [first, second] => twoWords state first second
  | [first, second, third] => threeWords state first second third
  | [first, second, third, fourth] =>
      if first = ['!'] then (threeWords state second third fourth).map fun holds => !holds
      else if first = ['('] && fourth = [')'] then twoWords state second third
      else whole words
  | _ => whole words

/-- A regular expression from a word: what was quoted in it stands for itself. -/
def regexText (glyphs : List Glyph) : Text :=
  glyphs.flatMap fun (char, quoted) =>
    if quoted && "\\.[]*^$+?()|\x7b\x7d".toList.contains char then ['\\', char] else [char]

/-- Whether a repetition stands where there is nothing to repeat, looking at a bounded
number of places. -/
def repeatsNothing : Nat → Bool → Text → Bool
  | 0, _, _ => false
  | _, _, [] => false
  | fuel + 1, _, '\\' :: _ :: rest => repeatsNothing fuel false rest
  | fuel + 1, atStart, char :: rest =>
      if char == '(' || char == '|' then repeatsNothing fuel true rest
      else if char == '^' then repeatsNothing fuel atStart rest
      else if atStart && (char == '*' || char == '+' || char == '?') then true
      else if char == '[' then
        let inner := (if rest.head? == some '^' then rest.drop 1 else rest).drop 1
        repeatsNothing fuel false ((inner.dropWhile (· ≠ ']')).drop 1)
      else repeatsNothing fuel false rest

/-- The highest number of a group. -/
def lastGroup : Regex → Nat
  | .group number body => max number (lastGroup body)
  | .sequence first second | .choice first second => max (lastGroup first) (lastGroup second)
  | .repeated body _ _ => lastGroup body
  | _ => 0

def matchVariable : Text := "BASH_REMATCH".toList

/-- Whether a text has a part that fits a regular expression; the parts are kept.  Nothing
is told of an expression that makes no sense. -/
def matched? (state : State) (glyphs : List Glyph) (text : Text) : Option (Bool × State) :=
  let written := regexText glyphs
  match if repeatsNothing (written.length + 1) true written then
      .error "Invalid preceding regular expression"
    else Regex.parse true written with
  | .error _ => none
  | .ok regex =>
      let subject : Regex.Subject :=
        { chars := text.toArray, ignoresCase := state.isSetting "nocasematch" }
      match regex.search? subject 0 with
      | some found =>
          let parts := (List.range (lastGroup regex + 1)).map (found.group subject)
          some (true, state.setStore matchVariable (Store.ofList parts))
      | none => some (false, state.setStore matchVariable (.indexed []))

end Bash

end FolderScript.Shell
