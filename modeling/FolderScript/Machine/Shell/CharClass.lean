/-
Named classes of characters, and brackets made of characters, ranges and classes.
Only characters below 128 belong to a class.
-/

namespace FolderScript.Shell

/-- A named class of characters. -/
inductive CharClass where
  | alpha
  | digit
  | alnum
  | upper
  | lower
  | space
  | blank
  | punct
  | print
  | graph
  | cntrl
  | xdigit
  deriving DecidableEq, Repr

namespace CharClass

def ofName? : String → Option CharClass
  | "alpha" => some .alpha
  | "digit" => some .digit
  | "alnum" => some .alnum
  | "upper" => some .upper
  | "lower" => some .lower
  | "space" => some .space
  | "blank" => some .blank
  | "punct" => some .punct
  | "print" => some .print
  | "graph" => some .graph
  | "cntrl" => some .cntrl
  | "xdigit" => some .xdigit
  | _ => none

/-- Whether a character belongs to a class. -/
def holds (kind : CharClass) (char : Char) : Bool :=
  let code := char.toNat
  match kind with
  | .alpha => char.isAlpha
  | .digit => char.isDigit
  | .alnum => char.isAlphanum
  | .upper => char.isUpper
  | .lower => char.isLower
  | .space => code == 32 || (9 ≤ code && code ≤ 13)
  | .blank => code == 32 || code == 9
  | .punct => 33 ≤ code && code ≤ 126 && !char.isAlphanum
  | .print => 32 ≤ code && code ≤ 126
  | .graph => 33 ≤ code && code ≤ 126
  | .cntrl => code < 32 || code == 127
  | .xdigit => char.isDigit || ('a' ≤ char.toLower && char.toLower ≤ 'f')

end CharClass

/-- A member of a bracket. -/
inductive Member where
  | single (char : Char)
  | range (low high : Char)
  | ofKind (kind : CharClass)
  deriving DecidableEq, Repr

/-- Whether a member of a bracket stands for a character. -/
def Member.holds (char : Char) : Member → Bool
  | .single other => other == char
  | .range low high => low ≤ char && char ≤ high
  | .ofKind kind => kind.holds char

/-- A bracket: one of its members, or none of them. -/
structure Bracket where
  negated : Bool
  members : List Member
  deriving DecidableEq, Repr

namespace Bracket

def holds (bracket : Bracket) (char : Char) : Bool :=
  (bracket.members.any (Member.holds char)) != bracket.negated

/-- The class that a name between colons stands for, and what follows it. -/
def named? (text : List (Char × Bool)) : Option (CharClass × List (Char × Bool)) :=
  let name := text.takeWhile fun glyph => glyph.1.isAlpha
  match text.drop name.length with
  | (':', _) :: (']', _) :: rest =>
      (CharClass.ofName? (String.ofList (name.map Prod.fst))).map fun kind => (kind, rest)
  | _ => none

/-- The members up to the closing bracket, and what follows it.  A character that
was quoted stands for itself. -/
def membersFrom : Nat → Bool → List (Char × Bool) →
    Option (List Member × List (Char × Bool))
  | 0, _, _ => none
  | _ + 1, _, [] => none
  | fuel + 1, atStart, (char, quoted) :: rest =>
      let with1 (member : Member) (rest : List (Char × Bool)) :=
        (membersFrom fuel false rest).map fun (more, after) => (member :: more, after)
      if char = ']' ∧ !quoted ∧ !atStart then some ([], rest)
      else
        let kind? := match char, quoted, rest with
          | '[', false, (':', _) :: inner => named? inner
          | _, _, _ => none
        match kind?, rest with
        | some (kind, rest), _ => with1 (.ofKind kind) rest
        | none, ('=', _) :: (same, _) :: ('=', _) :: (']', _) :: more
        | none, ('.', _) :: (same, _) :: ('.', _) :: (']', _) :: more =>
            if char = '[' ∧ !quoted then with1 (.single same) more
            else with1 (.single char) rest
        | none, ('-', false) :: (high, highQuoted) :: more =>
            if high = ']' ∧ !highQuoted then with1 (.single char) rest
            else with1 (.range char high) more
        | none, _ => with1 (.single char) rest

/-- The bracket whose opening has been read, and what follows it. -/
def read? (glyphs : List (Char × Bool)) : Option (Bracket × List (Char × Bool)) :=
  let (negated, inside) := match glyphs with
    | ('!', false) :: rest | ('^', false) :: rest => (true, rest)
    | _ => (false, glyphs)
  (membersFrom (inside.length + 1) true inside).map fun (members, rest) =>
    (⟨negated, members⟩, rest)

end Bracket

end FolderScript.Shell
