/-
Integer arithmetic of the shell, with variables and assignments.  A side that does
not count is read, but neither computed nor assigned.
-/
import FolderScript.Machine.Shell.State

namespace FolderScript.Shell

namespace Arithmetic

/-- A piece of an expression. -/
inductive Token where
  | number (value : Int)
  | name (text : Text)
  | sign (text : String)
  /-- A character that belongs to no expression. -/
  | stray
  deriving DecidableEq, Repr

/-- Signs, longer ones before shorter ones. -/
def signs : List String :=
  ["<<=", ">>=", "<<", ">>", "<=", ">=", "==", "!=", "&&", "||", "+=", "-=", "*=", "/=",
    "%=", "&=", "|=", "^=", "+", "-", "*", "/", "%", "<", ">", "=", "!", "~", "&", "|", "^",
    "?", ":", "(", ")"]

/-- The value of a digit in bases up to sixteen, or sixteen. -/
def digitValue (char : Char) : Nat :=
  if char.isDigit then char.toNat - '0'.toNat
  else if 'a' ≤ char.toLower ∧ char.toLower ≤ 'f' then char.toLower.toNat - 'a'.toNat + 10
  else 16

/-- The number at the front of a text: octal after a zero, hexadecimal after "0x";
and what follows it. -/
def leadingNumber (text : Text) : Nat × Text :=
  let inBase (base : Nat) (text : Text) : Nat × Text :=
    let digits := text.takeWhile fun char => digitValue char < base
    (digits.foldl (fun total char => total * base + digitValue char) 0,
      text.drop digits.length)
  match text with
  | '0' :: 'x' :: char :: rest | '0' :: 'X' :: char :: rest =>
      if digitValue char < 16 then inBase 16 (char :: rest) else (0, text.drop 1)
  | '0' :: _ => inBase 8 text
  | _ => inBase 10 text

def largest : Nat := 0x7FFFFFFFFFFFFFFF

/-- The pieces of an expression. -/
def tokens : Nat → Text → List Token
  | 0, _ => []
  | _ + 1, [] => []
  | fuel + 1, char :: rest =>
      if char = ' ' ∨ char = '\t' ∨ char = '\n' then tokens fuel rest
      else if char.isDigit then
        let (value, after) := leadingNumber (char :: rest)
        .number (min value largest : Nat) :: tokens fuel after
      else if char.isAlpha ∨ char = '_' then
        let name := (char :: rest).takeWhile fun char => char.isAlphanum || char == '_'
        .name name :: tokens fuel ((char :: rest).drop name.length)
      else
        match signs.find? fun sign => sign.toList.isPrefixOf (char :: rest) with
        | none => [.stray]
        | some sign => .sign sign :: tokens fuel ((char :: rest).drop sign.length)

/-- Why an expression has no value. -/
inductive Fault where
  | division
  /-- Something else should come next. -/
  | expected (what : String)
  /-- The value of a variable is no number. -/
  | number (text : Text)
  /-- A variable is not to be changed. -/
  | fixed (name : Text)
  deriving DecidableEq, Repr

/-- The number that the value of a variable spells; a blank one counts as zero. -/
def integer (text : Text) : Except Fault Int :=
  let isGap (char : Char) : Bool := char.isWhitespace || char == '\x0b' || char == '\x0c'
  let bare := text.dropWhile isGap
  let (isNegative, digits) : Bool × Text := match bare with
    | '-' :: rest => (true, rest)
    | '+' :: rest => (false, rest)
    | _ => (false, bare)
  if bare = [] then .ok 0
  else if (digits.head?.map Char.isDigit).getD false then
    let (size, rest) := leadingNumber digits
    let value : Int := if isNegative then -size else size
    if rest.all isGap ∧ -0x8000000000000000 ≤ value ∧ value ≤ largest then .ok value
    else .error (.number text)
  else .error (.number text)

/-- The value of a variable; a missing one counts as zero. -/
def variableValue (state : State) (name : Text) : Except Fault Int :=
  integer ((state.value? name).getD [])

/-- One for true, zero for false. -/
def truth (condition : Bool) : Int := if condition then 1 else 0

/-- The lowest 64 bits as a number without a sign. -/
def bits (value : Int) : Nat := (value % 0x10000000000000000).toNat

/-- The lowest 64 bits with their sign. -/
def wrap (value : Int) : Int := Int.bmod value 0x10000000000000000

/-- How loosely a sign between two values binds, if it is one. -/
def looseness? : String → Option Nat
  | "*" | "/" | "%" => some 0
  | "+" | "-" => some 1
  | "<<" | ">>" => some 2
  | "<" | ">" | "<=" | ">=" => some 3
  | "==" | "!=" => some 4
  | "&" => some 5
  | "^" => some 6
  | "|" => some 7
  | _ => none

/-- Looser than every sign. -/
def loosest : Nat := 8

/-- The result of a sign between two values. -/
def apply (sign : String) (left right : Int) : Except Fault Int :=
  match sign with
  | "+" => .ok (wrap (left + right))
  | "-" => .ok (wrap (left - right))
  | "*" => .ok (wrap (left * right))
  | "/" => if right = 0 then .error .division else .ok (wrap (Int.tdiv left right))
  | "%" => if right = 0 then .error .division else .ok (wrap (Int.tmod left right))
  | "<<" => .ok (wrap (left * Nat.pow 2 (bits right % 64)))
  | ">>" => .ok (left >>> (bits right % 64))
  | "<" => .ok (truth (left < right))
  | ">" => .ok (truth (right < left))
  | "<=" => .ok (truth (left ≤ right))
  | ">=" => .ok (truth (right ≤ left))
  | "==" => .ok (truth (left == right))
  | "!=" => .ok (truth (left != right))
  | "&" => .ok (wrap (Nat.land (bits left) (bits right)))
  | "|" => .ok (wrap (Nat.lor (bits left) (bits right)))
  | _ => .ok (wrap (Nat.xor (bits left) (bits right)))

/-- The sign that an assignment applies before it assigns, if it is one: an empty
sign for none. -/
def assigning? : String → Option String
  | "=" => some ""
  | "+=" => some "+"
  | "-=" => some "-"
  | "*=" => some "*"
  | "/=" => some "/"
  | "%=" => some "%"
  | "<<=" => some "<<"
  | ">>=" => some ">>"
  | "&=" => some "&"
  | "|=" => some "|"
  | "^=" => some "^"
  | _ => none

/-- Gives a variable a value. -/
def assign (state : State) (name : Text) (value : Int) : Except Fault State :=
  if state.fixed.contains name then .error (.fixed name)
  else .ok (state.setVariable name (Text.ofInt value))

/-- A value, the state and the pieces that are left. -/
abbrev Step := Except Fault (Int × State × List Token)

mutual

/-- An expression with an assignment or a choice in front; `live` tells whether it
counts. -/
def full : Nat → Bool → State → List Token → Step
  | 0, _, _, _ => .error (.expected "primary")
  | fuel + 1, live, state, tokens =>
      let assigned? := match tokens with
        | .name name :: .sign sign :: rest => (assigning? sign).map fun sign =>
            (name, sign, rest)
        | _ => none
      match assigned? with
      | none => choice fuel live state tokens
      | some (name, sign, rest) => do
          let (right, state, rest) ← full fuel live state rest
          if !live then pure (right, state, rest)
          else
            let value ← if sign = "" then pure right
              else do apply sign (← variableValue state name) right
            pure (value, ← assign state name value, rest)

/-- A choice between two values. -/
def choice : Nat → Bool → State → List Token → Step
  | 0, _, _, _ => .error (.expected "primary")
  | fuel + 1, live, state, tokens => do
      let (test, state, rest) ← either fuel live state tokens
      match rest with
      | .sign "?" :: rest => do
          let (yes, state, rest) ← full fuel (live && test != 0) state rest
          match rest with
          | .sign ":" :: rest => do
              let (no, state, rest) ← choice fuel (live && test == 0) state rest
              pure (if test ≠ 0 then yes else no, state, rest)
          | _ => .error (.expected "':'")
      | _ => pure (test, state, rest)

/-- Values of which one has to be true. -/
def either : Nat → Bool → State → List Token → Step
  | 0, _, _, _ => .error (.expected "primary")
  | fuel + 1, live, state, tokens => do
      let (left, state, rest) ← both fuel live state tokens
      match rest with
      | .sign "||" :: rest => do
          let (right, state, rest) ← either fuel (live && left == 0) state rest
          pure (truth (left != 0 || right != 0), state, rest)
      | _ => pure (left, state, rest)

/-- Values that all have to be true. -/
def both : Nat → Bool → State → List Token → Step
  | 0, _, _, _ => .error (.expected "primary")
  | fuel + 1, live, state, tokens => do
      let (left, state, rest) ← joined fuel live state tokens
      match rest with
      | .sign "&&" :: rest => do
          let (right, state, rest) ← both fuel (live && left != 0) state rest
          pure (truth (left != 0 && right != 0), state, rest)
      | _ => pure (left, state, rest)

/-- Values joined by signs. -/
def joined : Nat → Bool → State → List Token → Step
  | 0, _, _, _ => .error (.expected "primary")
  | fuel + 1, live, state, tokens => do
      let (left, state, rest) ← unary fuel live state tokens
      climb fuel live loosest left state rest

/-- What follows the first of some values, as far as it binds more tightly than a
limit. -/
def climb : Nat → Bool → Nat → Int → State → List Token → Step
  | 0, _, _, _, _, _ => .error (.expected "primary")
  | fuel + 1, live, limit, left, state, tokens =>
      match tokens with
      | .sign sign :: rest =>
          match looseness? sign with
          | none => .ok (left, state, tokens)
          | some looseness =>
              if limit ≤ looseness then .ok (left, state, tokens)
              else do
                let (right, state, rest) ← unary fuel live state rest
                let (right, state, rest) ← climb fuel live looseness right state rest
                let value ← if live then apply sign left right else pure right
                climb fuel live limit value state rest
      | _ => .ok (left, state, tokens)

/-- A value with signs in front. -/
def unary : Nat → Bool → State → List Token → Step
  | 0, _, _, _ => .error (.expected "primary")
  | fuel + 1, live, state, tokens =>
      match tokens with
      | .number value :: rest => .ok (value, state, rest)
      | .name name :: rest => do
          let value ← if live then variableValue state name else pure 0
          pure (value, state, rest)
      | .sign "(" :: rest => do
          let (value, state, rest) ← full fuel live state rest
          match rest with
          | .sign ")" :: rest => pure (value, state, rest)
          | _ => .error (.expected "')'")
      | .sign "-" :: rest => do
          let (value, state, rest) ← unary fuel live state rest
          pure (wrap (-value), state, rest)
      | .sign "+" :: rest => unary fuel live state rest
      | .sign "!" :: rest => do
          let (value, state, rest) ← unary fuel live state rest
          pure (truth (value == 0), state, rest)
      | .sign "~" :: rest => do
          let (value, state, rest) ← unary fuel live state rest
          pure (-value - 1, state, rest)
      | _ => .error (.expected "primary")

end

/-- The value of an expression. -/
def evaluate (state : State) (source : Text) : Except Fault (Int × State) :=
  let found := tokens (source.length + 1) source
  match full (16 * found.length + 64) true state found with
  | .ok (value, state, []) => .ok (value, state)
  | .ok _ => .error (.expected "EOF")
  | .error fault => .error fault

/-- The complaint about an expression without a value. -/
def complaint (source : Text) (fault : Fault) : Text :=
  let about (reason : String) : Text :=
    "arithmetic expression: ".toList ++ reason.toList ++ ": \"".toList ++ source ++
      "\"".toList
  match fault with
  | .division => about "division by zero"
  | .expected what => about ("expecting " ++ what)
  | .number text => "Illegal number: ".toList ++ text
  | .fixed name => name ++ ": is read only".toList

end Arithmetic

end FolderScript.Shell
