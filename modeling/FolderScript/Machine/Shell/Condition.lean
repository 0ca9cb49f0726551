/-
Conditions on texts, numbers and files.
-/
import FolderScript.Machine.Shell.State

namespace FolderScript.Shell

namespace Condition

/-- Why a condition makes no sense. -/
inductive Fault where
  | number (text : Text)
  /-- Something follows the word at which the condition ends. -/
  | operator (word : Text)
  | argument (relation : Text)
  | bracket
  deriving DecidableEq, Repr

def Fault.message : Fault → Text
  | .number text => "Illegal number: ".toList ++ text
  | .operator [] => "unexpected operator".toList
  | .operator word => word ++ ": unexpected operator".toList
  | .argument relation => relation ++ ": argument expected".toList
  | .bracket => "closing paren expected".toList

/-- The integer that an operand spells, with blanks around it or not. -/
def integer (text : Text) : Except Fault Int :=
  let bare := ((text.dropWhile Char.isWhitespace).reverse.dropWhile Char.isWhitespace).reverse
  match Text.toInt? bare with
  | some value =>
      if -0x8000000000000000 ≤ value ∧ value < 0x8000000000000000 then .ok value else .error (.number text)
  | none => .error (.number text)

/-- Whether a file passes a test of one letter; `none` for a letter that is no test of
files. -/
def fileTest? (state : State) (letter : Char) (path : Text) : Option Bool :=
  let node? := (state.nodeAt false path).toOption.map Prod.snd
  let isKind (kind : FileKind) : Option Bool :=
    some (node?.any fun node => state.kindOf node.entry = kind)
  let allows (bit : Nat) : Option Bool := some (node?.any fun node => node.allows bit)
  let hasBit (bit : Nat) : Option Bool := some (node?.any fun node => node.mode / bit % 2 = 1)
  match letter with
  | 'e' => some node?.isSome
  | 'f' => isKind .regular
  | 'd' => isKind .directory
  | 'p' => isKind .pipe
  | 'c' => isKind .character
  | 'b' | 'S' => some false
  | 'h' | 'L' =>
      some (((state.nodeAt true path).toOption.map Prod.snd).any fun node =>
        state.kindOf node.entry = .link)
  | 'r' => allows Node.toRead
  | 'w' => allows Node.toWrite
  | 'x' => allows Node.toSearch
  | 's' => some (node?.any fun node => state.sizeOf node.entry ≠ 0)
  | 'u' => hasBit 0o4000
  | 'g' => hasBit 0o2000
  | 'k' => hasBit 0o1000
  | 'O' | 'G' => some (node?.any Node.mine)
  | _ => none

/-- Whether a file or text passes a test of one letter. -/
def unary (state : State) (letter : Char) (operand : Text) : Except Fault Bool :=
  match letter with
  | 'n' => .ok (operand ≠ [])
  | 'z' => .ok (operand = [])
  | 't' => (integer operand).map fun _ => false
  | _ => .ok ((fileTest? state letter operand).getD false)

/-- Relations between two operands. -/
def relations : List String :=
  ["=", "!=", "<", ">", "-eq", "-ne", "-lt", "-le", "-gt", "-ge", "-nt", "-ot", "-ef"]

/-- Whether two files that are there stand in a relation. -/
def filesRelated (state : State) (left right : Text) (holds : Node → Node → Bool) : Bool :=
  match state.nodeAt false left, state.nodeAt false right with
  | .ok (_, left), .ok (_, right) => holds left right
  | _, _ => false

/-- Whether two operands stand in a relation. -/
def related (state : State) (relation left right : Text) : Except Fault Bool :=
  let numbers (holds : Int → Int → Bool) : Except Fault Bool := do
    let left ← integer left
    let right ← integer right
    pure (holds left right)
  match String.ofList relation with
  | "=" => .ok (left = right)
  | "!=" => .ok (left ≠ right)
  | "<" => .ok (decide (left < right))
  | ">" => .ok (decide (right < left))
  | "-eq" => numbers fun left right => left == right
  | "-ne" => numbers fun left right => left != right
  | "-lt" => numbers fun left right => decide (left < right)
  | "-le" => numbers fun left right => decide (left ≤ right)
  | "-gt" => numbers fun left right => decide (right < left)
  | "-nt" => .ok (filesRelated state left right fun left right =>
      decide (right.modified < left.modified))
  | "-ot" => .ok (filesRelated state left right fun left right =>
      decide (left.modified < right.modified))
  | "-ef" => .ok (filesRelated state left right fun left right =>
      left.identity = right.identity)
  | _ => numbers fun left right => decide (right ≤ left)

/-- The role of the first of some words. -/
inductive Role where
  | ending
  | operand
  | unary (letter : Char)
  | relation
  | negation
  | conjunction
  | disjunction
  | opening
  | closing
  deriving DecidableEq, Repr

/-- Letters of the tests with one operand. -/
def letters : List Char := "rwxefdcbpugkstznhOGLS".toList

/-- The role of the first of some words: a test with one operand needs one, and
is an operand itself in front of a relation. -/
def role : List Text → Role
  | [] => .ending
  | word :: rest =>
      if relations.contains (String.ofList word) then .relation
      else
        match word with
        | ['!'] => .negation
        | ['-', 'a'] => .conjunction
        | ['-', 'o'] => .disjunction
        | ['('] => if rest.isEmpty then .operand else .opening
        | [')'] => .closing
        | ['-', letter] =>
            let isOperand := match rest with
              | [] => true
              | [_] => false
              | next :: _ => relations.contains (String.ofList next)
            if letters.contains letter && !isOperand then .unary letter else .operand
        | _ => .operand

mutual

/-- Conditions of which one has to hold.  What is left starts with the last word
that was used. -/
def anyOf : Nat → State → Role → List Text → Except Fault (Bool × List Text)
  | 0, _, _, words => .ok (false, words)
  | fuel + 1, state, first, words => do
      let (holds, left) ← allOf fuel state first words
      if role left.tail = .disjunction then
        let next := left.tail.tail
        let (more, left) ← anyOf fuel state (role next) next
        pure (holds || more, left)
      else pure (holds, left)

def allOf : Nat → State → Role → List Text → Except Fault (Bool × List Text)
  | 0, _, _, words => .ok (false, words)
  | fuel + 1, state, first, words => do
      let (holds, left) ← single fuel state first words
      if role left.tail = .conjunction then
        let next := left.tail.tail
        let (more, left) ← allOf fuel state (role next) next
        pure (holds && more, left)
      else pure (holds, left)

def single : Nat → State → Role → List Text → Except Fault (Bool × List Text)
  | 0, _, _, words => .ok (false, words)
  | fuel + 1, state, first, words =>
      match first, words with
      | .ending, _ | _, [] => .ok (false, words)
      | .negation, _ :: rest => do
          let (holds, left) ← single fuel state (role rest) (if rest = [] then words else rest)
          pure (!holds, left)
      | .opening, _ :: rest =>
          if role rest = .closing then .ok (false, rest)
          else do
            let (holds, left) ← anyOf fuel state (role rest) rest
            if role left.tail = .closing then pure (holds, left.tail) else throw .bracket
      | .unary letter, _ :: operand :: rest =>
          (unary state letter operand).map fun holds => (holds, operand :: rest)
      | _, left :: rest =>
          if role rest = .relation then
            match rest with
            | relation :: right :: more => do
                pure (← related state relation left right, right :: more)
            | _ => .error (.argument (rest.headD []))
          else .ok (left ≠ [], words)

end

/-- Whether a condition holds, taken as a whole.  Three words with a relation in
the middle are that relation, whatever they look like. -/
def evaluate : State → List Text → Except Fault Bool
  | _, [] => .ok false
  | state, words => do
      let fuel := 4 * words.length + 8
      let whole (first : Role) (words : List Text) : Except Fault Bool := do
        match ← anyOf fuel state first words with
        | (_, last :: _ :: _) => throw (.operator last)
        | (holds, _) => pure holds
      match words with
      | [_, relation, _] =>
          whole (if relations.contains (String.ofList relation) then .operand
            else role words) words
      | _ => whole (role words) words

end Condition

end FolderScript.Shell
