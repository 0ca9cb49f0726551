/-
Patterns for the values of fields in a log filter.  Nothing here is ever
matched, since a directive about a value shows no event of this program; but a
filter with a pattern that is not well formed is refused as a whole.  A pattern
is refused, too, if it needs a table of all letters or could match a part of a
character.
-/
import FolderScript.Text.Alphanumeric
import FolderScript.Text.Blank

namespace FolderScript.LogPattern

/-- What holds for a part of a pattern. -/
structure Mode where
  /-- Capital and small letters count as equal. -/
  folds : Bool := false
  /-- The pattern is about characters, not about bytes. -/
  wide : Bool := true
  /-- Blanks and comments in the pattern do not count. -/
  spaced : Bool := false
  deriving DecidableEq, Repr

def dropSpace (inComment : Bool) : List Char → List Char
  | [] => []
  | char :: rest =>
      if inComment then dropSpace (char ≠ '\n') rest
      else if isBlank char then dropSpace false rest
      else if char = '#' then dropSpace true rest
      else char :: rest

/-- Drops what does not count. -/
def Mode.skip (mode : Mode) (text : List Char) : List Char :=
  if mode.spaced then dropSpace false text else text

/-- What a backslash escape stands for. -/
inductive Escape where
  /-- A character, given by the number of a byte or not. -/
  | literal (char : Char) (isByte : Bool)
  /-- One of several characters. -/
  | several
  /-- A position in the text. -/
  | position
  deriving DecidableEq, Repr

/-- The value of a hexadecimal digit. -/
def hexValue? (char : Char) : Option Nat :=
  if char.isDigit then some (char.toNat - '0'.toNat)
  else if 'a' ≤ char ∧ char ≤ 'f' then some (char.toNat - 'a'.toNat + 10)
  else if 'A' ≤ char ∧ char ≤ 'F' then some (char.toNat - 'A'.toNat + 10)
  else none

/-- The character with a number of so many hexadecimal digits, and what follows. -/
def hexChar? (mode : Mode) : Nat → Nat → List Char → Option (Char × List Char)
  | 0, value, text => if value.isValidChar then some (Char.ofNat value, text) else none
  | count + 1, value, text =>
      match mode.skip text with
      | [] => none
      | char :: rest =>
          match hexValue? char with
          | some digit => hexChar? mode count (16 * value + digit) rest
          | none => none

/-- Whether a character may stand after a backslash for itself: it is neither a
letter nor a digit, nor an angle bracket. -/
def standsForItself (char : Char) : Bool :=
  char.toNat < 0x80 && !char.isAlphanum && char ≠ '<' && char ≠ '>'

def escape? (mode : Mode) : List Char → Option (Escape × List Char)
  | [] => none
  | char :: rest =>
      let byHex (count : Nat) (isByte : Bool) : Option (Escape × List Char) :=
        (hexChar? mode count 0 rest).map fun (char, rest) =>
          (.literal char isByte, mode.skip rest)
      if standsForItself char then some (.literal char false, rest)
      else
        match char with
        | 'x' => byHex 2 true
        | 'u' => byHex 4 false
        | 'U' => byHex 8 false
        | 'd' | 's' | 'w' => if mode.wide then none else some (.several, rest)
        | 'a' => some (.literal '\x07' false, rest)
        | 'f' => some (.literal '\x0c' false, rest)
        | 't' => some (.literal '\t' false, rest)
        | 'n' => some (.literal '\n' false, rest)
        | 'r' => some (.literal '\r' false, rest)
        | 'v' => some (.literal '\x0b' false, rest)
        | 'A' | 'z' => some (.position, rest)
        | 'b' | 'B' | '<' | '>' => if mode.wide then none else some (.position, rest)
        | _ => none

/-- Whether a character may stand for itself outside of brackets. -/
def Mode.allows (mode : Mode) (char : Char) (isByte : Bool) : Bool :=
  if mode.wide then !mode.folds else !isByte || char.toNat < 0x80

/-- Whether a character may stand in brackets. -/
def Mode.allowsInside (mode : Mode) (char : Char) : Bool := mode.wide || char.toNat < 0x80

/-- The names of classes that brackets may hold. -/
def classNames : List String :=
  ["alnum", "alpha", "ascii", "blank", "cntrl", "digit", "graph", "lower", "print", "punct",
    "space", "upper", "word", "xdigit"]

/-- What follows the name of a class inside of brackets, and whether the class is
negated. -/
def className? (text : List Char) : Option (Bool × List Char) :=
  match text with
  | ':' :: rest =>
      let negated := rest.head? = some '^'
      let rest := if negated then rest.tail else rest
      let name := rest.takeWhile (· ≠ ':')
      match rest.drop name.length with
      | ':' :: ']' :: rest =>
          if classNames.contains (String.ofList name) then some (negated, rest) else none
      | _ => none
  | _ => none

/-- One end of a range: a character or something else, and what follows. -/
def member? (mode : Mode) : List Char → Option (Option Char × List Char)
  | [] => none
  | '\\' :: rest =>
      match escape? mode rest with
      | some (.literal char _, rest) =>
          if mode.allowsInside char then some (some char, rest) else none
      | some (.several, rest) => some (none, rest)
      | _ => none
  | char :: rest => if mode.allowsInside char then some (some char, rest) else none

/-- A character or a range inside of brackets, and what follows. -/
def range? (mode : Mode) (text : List Char) : Option (List Char) :=
  match member? mode text with
  | none => none
  | some (first, rest) =>
      match mode.skip rest with
      | '-' :: rest =>
          let next := mode.skip rest
          if next.head? = some ']' ∨ next.head? = some '-' then some ('-' :: rest)
          else
            match first, member? mode next with
            | some low, some (some high, rest) => if low ≤ high then some rest else none
            | _, _ => none
      | [] => none
      | rest => some rest

/-- What stands in brackets so far: how many members, how deep they are nested, and
how deep what stands before an operator is. -/
structure Members where
  count : Nat := 0
  depth : Nat := 0
  left : Option Nat := none

def Members.total (members : Members) : Nat :=
  let union := members.depth + (if members.count ≥ 2 then 1 else 0)
  match members.left with
  | none => union
  | some left => max left union + 1

mutual

/-- Brackets whose opening has been read: how deep they are nested, and what follows. -/
def bracket? (mode : Mode) : Nat → List Char → Option (Nat × List Char)
  | 0, _ => none
  | fuel + 1, text =>
      let text := mode.skip text
      let negated := text.head? = some '^'
      let text := if negated then mode.skip text.tail else text
      if (mode.wide ∧ mode.folds) ∨ (negated ∧ !mode.wide) then none
      else
        let dashes := text.takeWhile fun char =>
          char = '-' ∨ (mode.spaced ∧ isBlank char)
        let count := dashes.count '-'
        let text := text.drop dashes.length
        match count, mode.skip text with
        | 0, ']' :: rest => members? mode fuel { count := 1 } rest
        | _, text => members? mode fuel { count := count } text

/-- The members of brackets up to the end. -/
def members? (mode : Mode) : Nat → Members → List Char → Option (Nat × List Char)
  | 0, _, _ => none
  | fuel + 1, members, text =>
      let operator (rest : List Char) : Option (Nat × List Char) :=
        members? mode fuel { left := some members.total } rest
      match mode.skip text with
      | [] => none
      | ']' :: rest => some (members.total + 1, rest)
      | '&' :: '&' :: rest | '-' :: '-' :: rest | '~' :: '~' :: rest => operator rest
      | '[' :: rest =>
          match className? rest with
          | some (negated, rest) =>
              if negated ∧ !mode.wide then none
              else members? mode fuel { members with count := members.count + 1 } rest
          | none =>
              match bracket? mode fuel rest with
              | some (depth, rest) =>
                  members? mode fuel { members with
                    count := members.count + 1
                    depth := max members.depth depth } rest
              | none => none
      | text =>
          match range? mode text with
          | some rest => members? mode fuel { members with count := members.count + 1 } rest
          | none => none

end

/-- The flags at the front of a group, if they make sense: the mode they lead to, whether
there are any, whether a group follows, and the rest of the text. -/
def flags? (mode : Mode) (text : List Char) : Option (Mode × Bool × Bool × List Char) :=
  let flags := text.takeWhile fun char => char ≠ ':' ∧ char ≠ ')'
  let sound := flags.all (fun char => "imsUuxR-".toList.contains char) &&
    flags.eraseDups.length = flags.length && flags.getLast? ≠ some '-'
  let on := flags.takeWhile (· ≠ '-')
  let off := flags.drop on.length
  let state (flag : Char) (before : Bool) : Bool :=
    if on.contains flag then true else if off.contains flag then false else before
  let next : Mode := ⟨state 'i' mode.folds, state 'u' mode.wide, state 'x' mode.spaced⟩
  match sound, text.drop flags.length with
  | true, ':' :: rest => some (next, !flags.isEmpty, true, rest)
  | true, ')' :: rest => some (next, !flags.isEmpty, false, rest)
  | _, _ => none

def isGroupName : List Char → Bool
  | [] => false
  | first :: rest =>
      (first = '_' || isAlphabetic first) &&
        rest.all fun char => isAlphanumeric char || "_.[]".toList.contains char

/-- A group that is open: its mode, what stands in it so far, and how deep that is
nested.  The last item is kept apart, as it may be repeated; it is not there if it may
not. -/
structure Group where
  mode : Mode := {}
  items : Nat := 0
  settled : Nat := 0
  last : Option Nat := none
  /-- The depth of the branches before this one. -/
  branches : Option Nat := none

namespace Group

def add (group : Group) (depth : Nat) : Group :=
  { group with
    items := group.items + 1
    settled := max group.settled (group.last.getD 0)
    last := some depth }

/-- The depth of the branch at hand. -/
def branch (group : Group) : Nat :=
  max group.settled (group.last.getD 0) + (if group.items ≥ 2 then 1 else 0)

/-- Starts another branch. -/
def fork (group : Group) : Group :=
  { mode := group.mode, branches := some (max (group.branches.getD 0) group.branch) }

/-- The depth of all branches. -/
def total (group : Group) : Nat :=
  match group.branches with
  | none => group.branch
  | some others => max others group.branch + 1

end Group

/-- How deep a pattern may be nested. -/
def deepest : Nat := 250

/-- Whether the rest of a pattern is well formed inside of some groups, the innermost
apart; `names` are the names of groups that are taken. -/
def restWellFormed :
    Nat → Group → List Group → List (List Char) → List Char → Bool
  | 0, _, _, _, _ => false
  | fuel + 1, group, outer, names, text =>
      let mode := group.mode
      let opening (mode : Mode) (names : List (List Char)) (rest : List Char) : Bool :=
        restWellFormed fuel { mode := mode } (group :: outer) names rest
      let named (rest : List Char) : Bool :=
        let name := rest.takeWhile (· ≠ '>')
        match rest.drop name.length with
        | _ :: rest => isGroupName name && !names.contains name && opening mode (name :: names) rest
        | [] => false
      match mode.skip text with
      | [] => outer.isEmpty && group.total ≤ deepest
      | '(' :: rest =>
          match mode.skip rest with
          | '?' :: '=' :: _ | '?' :: '!' :: _ | '?' :: '<' :: '=' :: _ | '?' :: '<' :: '!' :: _ =>
              false
          | '?' :: 'P' :: '<' :: rest | '?' :: '<' :: rest => named rest
          | '?' :: rest =>
              match flags? mode rest with
              | some (next, _, true, rest) => opening next names rest
              | some (next, true, false, rest) =>
                  restWellFormed fuel { group.add 0 with mode := next, last := none } outer names
                    rest
              | _ => false
          | rest => opening mode names rest
      | ')' :: rest =>
          match outer with
          | [] => false
          | around :: outer => restWellFormed fuel (around.add (group.total + 1)) outer names rest
      | '|' :: rest => restWellFormed fuel group.fork outer names rest
      | '*' :: rest | '+' :: rest | '?' :: rest =>
          match group.last with
          | none => false
          | some depth =>
              let rest := if rest.head? = some '?' then rest.tail else rest
              restWellFormed fuel { group with last := some (depth + 1) } outer names rest
      | '\x7b' :: _ => false
      | '[' :: rest =>
          match bracket? mode (2 * rest.length + 2) rest with
          | some (depth, rest) => restWellFormed fuel (group.add depth) outer names rest
          | none => false
      | '\\' :: rest =>
          match escape? mode rest with
          | some (.literal char isByte, rest) =>
              mode.allows char isByte && restWellFormed fuel (group.add 0) outer names rest
          | some (_, rest) => restWellFormed fuel (group.add 0) outer names rest
          | none => false
      | '.' :: rest => mode.wide && restWellFormed fuel (group.add 0) outer names rest
      | '^' :: rest | '$' :: rest => restWellFormed fuel (group.add 0) outer names rest
      | char :: rest => mode.allows char false && restWellFormed fuel (group.add 0) outer names rest

/-- Whether a text is a decimal number, possibly with a point and an exponent. -/
def isNumber (text : List Char) : Bool :=
  let whole := text.takeWhile Char.isDigit
  let afterWhole := text.drop whole.length
  let (places, rest) := match afterWhole with
    | '.' :: rest => (rest.takeWhile Char.isDigit, rest.dropWhile Char.isDigit)
    | rest => ([], rest)
  let exponent := match rest with
    | [] => true
    | mark :: '+' :: digits | mark :: '-' :: digits | mark :: digits =>
        (mark = 'e' || mark = 'E') && !digits.isEmpty && digits.all Char.isDigit
  !(whole.isEmpty && places.isEmpty) && exponent

/-- Whether a text may stand for the value of a field: a number with a plus in
front, or a pattern. -/
def wellFormed (text : List Char) : Bool :=
  match text with
  | '+' :: rest =>
      isNumber rest ||
        ["inf", "infinity", "nan"].contains (String.ofList (rest.map Char.toLower))
  | _ => restWellFormed (text.length + 1) {} [] [] text

example : wellFormed "a(b|[^c-e])*".toList = true := by decide +kernel
example : wellFormed "(".toList = false := by decide +kernel
example : wellFormed "(?x)[a#]".toList = false := by decide +kernel
example : wellFormed "(?-u)\\d".toList = true := by decide +kernel
example : wellFormed "+1.5".toList = true := by decide +kernel

end FolderScript.LogPattern
