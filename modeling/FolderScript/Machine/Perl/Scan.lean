/-
The pieces that a list script is written in: blanks, names, numbers, signs, and texts
between marks.
-/
import FolderScript.Machine.Perl.Script

namespace FolderScript.Perl

open Shell (Text)

namespace Scan

/-- Whether a name may start with a character, or go on with it. -/
def startsName (char : Char) : Bool := char.isAlpha || char == '_'
def continuesName (char : Char) : Bool := char.isAlphanum || char == '_'

def isBlank (char : Char) : Bool := Awk.Number.isSpace char

/-- What follows a part for readers that stands between lines of the script. -/
def afterNotes : Nat → Text → Text
  | 0, text => text
  | fuel + 1, text =>
      let line := text.takeWhile (· ≠ '\n')
      let rest := text.drop (line.length + 1)
      if rest = [] || "=cut".toList.isPrefixOf line then rest else afterNotes fuel rest

/-- What follows blanks and comments. -/
def afterBlanks : Nat → Bool → Text → Text
  | 0, _, text => text
  | fuel + 1, startsLine, text =>
      match text with
      | '#' :: rest => afterBlanks fuel false (rest.dropWhile (· ≠ '\n'))
      | '\n' :: rest => afterBlanks fuel true rest
      | '=' :: char :: rest =>
          if startsLine && char.isAlpha then
            afterBlanks fuel true (afterNotes (rest.length + 1) (char :: rest))
          else text
      | char :: rest => if isBlank char then afterBlanks fuel false rest else text
      | [] => []

/-- The name at the front of a text, which may have parts with double colons between them;
empty if there is none. -/
def name : Nat → Text → Text
  | 0, _ => []
  | fuel + 1, text =>
      let first := if text.head?.any startsName then text.takeWhile continuesName else []
      match text.drop first.length with
      | ':' :: ':' :: rest =>
          if rest.head?.any startsName then
            first ++ ':' :: ':' :: name fuel rest
          else first
      | _ => first

def nameOf (text : Text) : Text := name (text.length + 1) text

/-- Without the part that means the main package. -/
def bareName (name : Text) : Text :=
  if "main::".toList.isPrefixOf name then name.drop 6
  else if "::".toList.isPrefixOf name then name.drop 2
  else name

/-- The mark that ends what another one starts. -/
def closing : Char → Char
  | '(' => ')'
  | '[' => ']'
  | '\x7b' => '\x7d'
  | '<' => '>'
  | char => char

/-- The text up to the closing mark, with marks of its own kind within, and what follows;
what a backslash stands before is passed over. -/
def enclosed (first last : Char) : Nat → Text → Option (Text × Text)
  | _, [] => none
  | _, ['\\'] => none
  | depth, '\\' :: char :: rest =>
      (enclosed first last depth rest).map fun (inner, after) => ('\\' :: char :: inner, after)
  | depth, char :: rest =>
      if char == last then
        match depth with
        | 0 => some ([], rest)
        | depth + 1 =>
            (enclosed first last depth rest).map fun (inner, after) => (char :: inner, after)
      else
        let depth := if char == first then depth + 1 else depth
        (enclosed first last depth rest).map fun (inner, after) => (char :: inner, after)

/-- A text between marks, of which the first is at the front. -/
def between (text : Text) : Option (Char × Text × Text) :=
  match text with
  | [] => none
  | first :: rest => (enclosed first (closing first) 0 rest).map fun found => (first, found)

/-- What follows a text between marks that comes first. -/
def afterMarks (text : Text) : Text :=
  match between text with
  | some (_, _, rest) => rest
  | none => []

/-- Whether what follows an opening brace makes it the start of a hash and not of a block. -/
def startsHash (text : Text) : Bool :=
  let bare := text.dropWhile isBlank
  let first := bare.headD ' '
  let isWord (char : Char) : Bool := char.isAlphanum || char == '_'
  let behind := match bare with
    | '\'' :: _ | '"' :: _ => afterMarks bare
    | 'q' :: rest =>
        let rest := if rest.head?.any fun char => char == 'q' || char == 'x' then rest.drop 1 else rest
        if rest.head?.any isWord then rest.dropWhile isWord
        else afterMarks (rest.dropWhile isBlank)
    | _ => bare.dropWhile isWord
  match bare, behind.dropWhile isBlank with
  | '\x7d' :: _, _ => true
  | _, ',' :: _ => first == 'q' || !first.isLower && behind.length < bare.length
  | _, '=' :: '>' :: _ => true
  | _, _ => false

/-- Whether a name leads to the same from every package. -/
def isCommon (name : String) : Bool :=
  name.contains ':' || !(name.toList.head?.any fun char => char.isAlpha || char == '_') ||
    ["_", "a", "b", "ENV", "ARGV", "INC", "SIG", "STDIN", "STDOUT", "STDERR"].contains name

/-- A text in which only the mark and the backslash are taken apart from what they are. -/
def plain (mark : Char) : Text → Text
  | '\\' :: char :: rest =>
      if char == '\\' || char == mark || char == closing mark then char :: plain mark rest
      else '\\' :: char :: plain mark rest
  | char :: rest => char :: plain mark rest
  | [] => []

/-- The words between blanks. -/
def words : Nat → Text → List Text
  | 0, _ => []
  | fuel + 1, text =>
      match text.dropWhile isBlank with
      | [] => []
      | bare =>
          let word := bare.takeWhile (!isBlank ·)
          word :: words fuel (bare.drop word.length)

def digit (char : Char) : Nat := Shell.Format.digitValue char

/-- The number that digits of a base spell, with lines among them. -/
def inBase (base : Nat) (digits : Text) : Nat :=
  (digits.filter (· ≠ '_')).foldl (fun total char => total * base + digit char) 0

/-- The number at the front of a text, and what follows it. -/
def number (text : Text) : Number × Text :=
  let based (base : Nat) (rest : Text) : Number × Text :=
    let digits := rest.takeWhile fun char => digit char < base || char == '_'
    (Number.ofInt (Int.ofNat (inBase base digits)), rest.drop digits.length)
  match text with
  | '0' :: 'x' :: rest | '0' :: 'X' :: rest => based 16 rest
  | '0' :: 'b' :: rest | '0' :: 'B' :: rest => based 2 rest
  | '0' :: char :: rest =>
      if char.isDigit || char == '_' then based 8 (char :: rest) else decimal text
  | _ => decimal text
where
  /-- A number in the usual way. -/
  decimal (text : Text) : Number × Text :=
    let isDigit (char : Char) : Bool := char.isDigit || char == '_'
    let front := text.takeWhile isDigit
    let rest := text.drop front.length
    let back : Text := match rest with
      | '.' :: more => if more.head? == some '.' then [] else '.' :: more.takeWhile isDigit
      | _ => []
    let rest := rest.drop back.length
    let power := rest.take (Number.exponent rest)
    (Number.ofText ((front ++ back ++ power).filter (· ≠ '_')), rest.drop power.length)

/-- Signs between two values with how tightly they bind, longer ones before shorter ones. -/
def operators : List (String × Nat) :=
  [("**=", 4), ("||=", 4), ("&&=", 4), ("//=", 4), ("<<=", 4), (">>=", 4), ("...", 6), ("<=>", 11),
    ("**", 19), ("=~", 17), ("!~", 17), ("==", 11), ("!=", 11), ("<=", 12), (">=", 12), ("&&", 8),
    ("||", 7), ("//", 7), ("..", 6), ("=>", 3), ("+=", 4), ("-=", 4), ("*=", 4), ("/=", 4),
    (".=", 4), ("%=", 4), ("x=", 4), ("&=", 4), ("|=", 4), ("^=", 4), ("<<", 14), (">>", 14),
    (",", 3), ("+", 15), ("-", 15), ("*", 16), ("/", 16), ("%", 16), (".", 15), ("<", 12),
    (">", 12), ("&", 10), ("|", 9), ("^", 9), ("=", 4), ("?", 5)]

/-- Words between two values with how tightly they bind. -/
def wordOperators : List (String × Nat) :=
  [("or", 0), ("xor", 0), ("and", 1), ("eq", 11), ("ne", 11), ("cmp", 11), ("lt", 12), ("gt", 12),
    ("le", 12), ("ge", 12)]

/-- The sign between two values at the front of a text, how tightly it binds, and what
follows it. -/
def operator? (text : Text) : Option (String × Nat × Text) :=
  let word := nameOf text
  if word ≠ [] then
    match wordOperators.find? fun entry => entry.1.toList = word with
    | some (sign, level) =>
        if "=>".toList.isPrefixOf ((text.drop word.length).dropWhile isBlank) then none
        else some (sign, level, text.drop word.length)
    | none =>
        match text with
        | 'x' :: '=' :: rest =>
            if rest.head? == some '=' || rest.head? == some '~' then some ("x", 16, '=' :: rest)
            else some ("x=", 4, rest)
        | 'x' :: rest =>
            if (word.drop 1).all Char.isDigit then some ("x", 16, rest) else none
        | _ => none
  else
    match operators.find? fun entry => entry.1.toList.isPrefixOf text with
    | some (sign, level) => some (sign, level, text.drop sign.length)
    | none => none

/-- Words that follow a whole statement. -/
def modifiers : List String := ["if", "unless", "while", "until", "for", "foreach"]

/-- Whether a value may start at the front of a text; `isLoose` tells that signs that stand
between values as well are taken to start one. -/
def startsValue (isLoose : Bool) (text : Text) : Bool :=
  let word := nameOf text
  if word ≠ [] then
    let isOperator := wordOperators.any fun entry => entry.1.toList = word
    !isOperator && word ≠ ['x'] && !modifiers.any fun entry => entry.toList = word
  else
    match text with
    | [] => false
    | '<' :: rest =>
        isLoose && (rest.head?.any fun char => startsName char || char == '$' || char == '>' || char == '<')
    | '=' :: _ => false
    | '.' :: rest => rest.head?.any Char.isDigit
    | '%' :: rest | '&' :: rest =>
        isLoose && rest.head?.any fun char => startsName char || char == '$' || char == '\x7b'
    | '-' :: rest => isLoose && rest.head? ≠ some '='
    | '+' :: rest => isLoose && rest.head? ≠ some '='
    | '/' :: _ => isLoose
    | '!' :: rest => rest.head? ≠ some '=' && rest.head? ≠ some '~'
    | char :: _ => char.isDigit || "$@\\\"'\x60([\x7b~".toList.contains char

end Scan

end FolderScript.Perl
