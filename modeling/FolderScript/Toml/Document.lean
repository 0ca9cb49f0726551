/-
TOML documents: from text to statements, and from statements to the ordered
tree of keys and values.
-/
import FolderScript.Toml.Numbers
import FolderScript.Toml.Strings
import FolderScript.Toml.Value

namespace FolderScript.Toml

/-- Arrays and inline tables may lie this deep inside each other, and dotted
keys may have this many parts. -/
def nestingLimit : Nat := 79

/-- Drops blanks. -/
def skipSpaces (input : List Char) : List Char := input.dropWhile isSpace

/-- Drops the text of a comment, up to the line end; refuses control
characters. -/
def skipComment : List Char → Option (List Char)
  | [] => some []
  | char :: rest =>
      if isPlain char then skipComment rest
      else if atNewline (char :: rest) then some (char :: rest)
      else none

/-- Drops blanks, line ends and comments, at most `fuel` of them. -/
def skipTrivia : Nat → List Char → Option (List Char)
  | 0, input => some input
  | fuel + 1, input =>
      match input with
      | [] => some []
      | char :: rest =>
          if isSpace char then skipTrivia fuel rest
          else if char = '#' then (skipComment rest).bind (skipTrivia fuel)
          else if atNewline input then skipTrivia fuel (dropNewline input)
          else some input

/-- The rest of a line: blanks and perhaps a comment, then a line end or the
end of the input. -/
def endLine (input : List Char) : Option (List Char) :=
  let rest? := match skipSpaces input with
    | '#' :: rest => skipComment rest
    | rest => some rest
  rest?.bind fun rest =>
    if rest.isEmpty then some [] else if atNewline rest then some (dropNewline rest) else none

/-- A letter, digit, underscore or hyphen. -/
def isBare (char : Char) : Bool :=
  char.isAlphanum || char == '_' || char == '-'

def simpleKey : Reader String := fun input =>
  match lineString input with
  | some result => some result
  | none =>
      match input.takeWhile isBare with
      | [] => none
      | name => some (String.ofList name, input.dropWhile isBare)

/-- The parts of a key after the first, each behind a dot. -/
def moreKeys : Nat → List Char → Option (List String × List Char)
  | 0, _ => none
  | fuel + 1, input =>
      match skipSpaces input with
      | '.' :: rest =>
          match simpleKey (skipSpaces rest) with
          | none => none
          | some (key, rest) =>
              (moreKeys fuel rest).map fun (keys, rest) => (key :: keys, rest)
      | _ => some ([], input)

/-- A key of one or more parts: those before the last, and the last. -/
def dottedKey : Reader (List String × String) := fun input =>
  match simpleKey input with
  | none => none
  | some (first, rest) =>
      match moreKeys (rest.length + 1) rest with
      | none => none
      | some (others, rest) =>
          let parts := first :: others
          if nestingLimit < parts.length then none
          else some ((parts.dropLast, parts.getLast?.getD first), rest)

/-- The values of an array after its opening bracket. -/
def items (value : Reader Value) : Nat → List Char → Option (List Value × List Char)
  | 0, _ => none
  | fuel + 1, input =>
      match skipTrivia input.length input with
      | none => none
      | some (']' :: rest) => some ([], rest)
      | some input =>
          match value input with
          | none => none
          | some (item, rest) =>
              match skipTrivia rest.length rest with
              | some (']' :: rest) => some ([item], rest)
              | some (',' :: rest) =>
                  (items value fuel rest).map fun (others, rest) => (item :: others, rest)
              | _ => none

/-- A key, an equals sign and a value. -/
def pair (value : Reader Value) : Reader (List String × String × Value) := fun input =>
  match dottedKey input with
  | none => none
  | some ((path, key), rest) =>
      match skipSpaces rest with
      | '=' :: rest =>
          (value (skipSpaces rest)).map fun (value, rest) => ((path, key, value), rest)
      | _ => none

/-- The pairs of an inline table that is not empty, after its opening brace. -/
def pairs (value : Reader Value) :
    Nat → List Char → Option (List (List String × String × Value) × List Char)
  | 0, _ => none
  | fuel + 1, input =>
      match pair value (skipSpaces input) with
      | none => none
      | some (first, rest) =>
          match skipSpaces rest with
          | '}' :: rest => some ([first], rest)
          | ',' :: rest =>
              (pairs value fuel rest).map fun (others, rest) => (first :: others, rest)
          | _ => none

def inlineTable (value : Reader Value) : Reader Value := fun input =>
  match skipSpaces input with
  | '}' :: rest => some (.table .inline [], rest)
  | _ =>
      match pairs value (input.length + 1) input with
      | none => none
      | some (pairs, rest) =>
          (Entries.ofPairs? pairs).map fun entries => (.table .inline entries, rest)

/-- A value that is no array and no table. -/
def scalarValue : Reader Value := fun input =>
  let scalar? : Option (Scalar × List Char) :=
    match input with
    | 't' :: 'r' :: 'u' :: 'e' :: rest => some (.boolean true, rest)
    | 'f' :: 'a' :: 'l' :: 's' :: 'e' :: rest => some (.boolean false, rest)
    | '"' :: _ => (anyString input).map fun (text, rest) => (.string text, rest)
    | '\'' :: _ => (anyString input).map fun (text, rest) => (.string text, rest)
    | _ => numeral input
  scalar?.map fun (scalar, rest) => (.scalar scalar, rest)

/-- A value with at most `depth` arrays and inline tables inside each other. -/
def value : Nat → Reader Value
  | 0, input => scalarValue input
  | depth + 1, input =>
      match input with
      | '[' :: rest =>
          (items (value depth) (rest.length + 1) rest).map fun (items, rest) =>
            (.array .inline items, rest)
      | '\x7b' :: rest => inlineTable (value depth) rest
      | _ => scalarValue input

/-- A header after its opening bracket. -/
def header (input : List Char) : Option (Statement × List Char) :=
  match input with
  | '[' :: rest =>
      match dottedKey (skipSpaces rest) with
      | none => none
      | some ((path, key), rest) =>
          match skipSpaces rest with
          | ']' :: ']' :: rest => some (.openArray path key, rest)
          | _ => none
  | _ =>
      match dottedKey (skipSpaces input) with
      | none => none
      | some ((path, key), rest) =>
          match skipSpaces rest with
          | ']' :: rest => some (.openTable path key, rest)
          | _ => none

def statement (input : List Char) : Option (Statement × List Char) :=
  match input with
  | '[' :: rest => header rest
  | _ =>
      (pair (value nestingLimit) input).map fun ((path, key, value), rest) =>
        (.assign path key value, rest)

/-- The statements of a document, at most `fuel` of them. -/
def statements : Nat → List Char → Option (List Statement)
  | 0, _ => none
  | fuel + 1, input =>
      match skipTrivia input.length input with
      | none => none
      | some [] => some []
      | some input =>
          match statement input with
          | none => none
          | some (first, rest) =>
              match endLine rest with
              | none => none
              | some rest => (statements fuel rest).map (first :: ·)

/-- Drops a byte order mark at the front. -/
def dropMark : List Char → List Char
  | '\uFEFF' :: rest => rest
  | input => input

/-- Reads a document. -/
def parse? (text : String) : Option Entries :=
  let input := dropMark text.toList
  (statements (input.length + 1) input).bind Entries.ofStatements?

end FolderScript.Toml
