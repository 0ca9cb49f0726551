/-
Strings of a TOML document: basic and literal, on one line or on several.  Each
reader starts after the opening quotes and returns the text and the rest.
-/

namespace FolderScript.Toml

/-- A reader takes a value off the front of the input, or refuses. -/
abbrev Reader (α : Type) := List Char → Option (α × List Char)

/-- Characters that may stand in text and comments: a tab, and all but control
characters. -/
def isPlain (char : Char) : Bool :=
  char == '\t' || (0x20 ≤ char.toNat && char.toNat ≠ 0x7F)

def isSpace (char : Char) : Bool := char == ' ' || char == '\t'

/-- The value of a hexadecimal digit. -/
def hexDigit? (char : Char) : Option Nat :=
  if '0' ≤ char ∧ char ≤ '9' then some (char.toNat - '0'.toNat)
  else if 'a' ≤ char ∧ char ≤ 'f' then some (char.toNat - 'a'.toNat + 10)
  else if 'A' ≤ char ∧ char ≤ 'F' then some (char.toNat - 'A'.toNat + 10)
  else none

/-- The character whose code point the hexadecimal digits spell. -/
def charOfHex? (digits : List Char) : Option Char :=
  match digits.mapM hexDigit? with
  | none => none
  | some values =>
      let code := values.foldl (fun code digit => code * 16 + digit) 0
      if code.isValidChar then some (Char.ofNat code) else none

/-- The character that a backslash and one letter stand for. -/
def shortEscape? : Char → Option Char
  | 'b' => some '\x08'
  | 't' => some '\t'
  | 'n' => some '\n'
  | 'f' => some '\x0C'
  | 'r' => some '\r'
  | '"' => some '"'
  | '\\' => some '\\'
  | _ => none

/-- Drops one line end at the front. -/
def dropNewline : List Char → List Char
  | '\n' :: rest => rest
  | '\r' :: '\n' :: rest => rest
  | input => input

/-- Whether a line end is next. -/
def atNewline : List Char → Bool
  | '\n' :: _ => true
  | '\r' :: '\n' :: _ => true
  | _ => false

/-- A basic string up to its closing quote. -/
def basicBody : List Char → Option (List Char × List Char)
  | '"' :: rest => some ([], rest)
  | '\\' :: 'u' :: a :: b :: c :: d :: rest =>
      match charOfHex? [a, b, c, d], basicBody rest with
      | some char, some (text, rest) => some (char :: text, rest)
      | _, _ => none
  | '\\' :: 'U' :: a :: b :: c :: d :: e :: f :: g :: h :: rest =>
      match charOfHex? [a, b, c, d, e, f, g, h], basicBody rest with
      | some char, some (text, rest) => some (char :: text, rest)
      | _, _ => none
  | '\\' :: letter :: rest =>
      match shortEscape? letter, basicBody rest with
      | some char, some (text, rest) => some (char :: text, rest)
      | _, _ => none
  | char :: rest =>
      if isPlain char && char ≠ '\\' then
        (basicBody rest).map fun (text, rest) => (char :: text, rest)
      else none
  | [] => none

/-- A literal string up to its closing quote. -/
def literalBody : List Char → Option (List Char × List Char)
  | '\'' :: rest => some ([], rest)
  | char :: rest =>
      if isPlain char then
        (literalBody rest).map fun (text, rest) => (char :: text, rest)
      else none
  | [] => none

/-- After three closing quotes: up to two more quotes still belong to the
text. -/
def extraQuotes (quote : Char) (input : List Char) : List Char × List Char :=
  match input with
  | a :: b :: rest =>
      if a = quote then if b = quote then ([a, b], rest) else ([a], b :: rest)
      else ([], input)
  | [a] => if a = quote then ([a], []) else ([], input)
  | [] => ([], [])

/-- A basic string of several lines.  After a backslash at the end of a line,
`skipping` drops blanks and line ends up to the next other character. -/
def linesBody (skipping : Bool) : List Char → Option (List Char × List Char)
  | '"' :: '"' :: '"' :: rest => some (extraQuotes '"' rest)
  | '\\' :: 'u' :: a :: b :: c :: d :: rest =>
      match charOfHex? [a, b, c, d], linesBody false rest with
      | some char, some (text, rest) => some (char :: text, rest)
      | _, _ => none
  | '\\' :: 'U' :: a :: b :: c :: d :: e :: f :: g :: h :: rest =>
      match charOfHex? [a, b, c, d, e, f, g, h], linesBody false rest with
      | some char, some (text, rest) => some (char :: text, rest)
      | _, _ => none
  | '\\' :: letter :: rest =>
      if atNewline ((letter :: rest).dropWhile isSpace) then
        if letter = '\r' then linesBody true rest.tail
        else linesBody true rest
      else
        match shortEscape? letter, linesBody false rest with
        | some char, some (text, rest) => some (char :: text, rest)
        | _, _ => none
  | '\r' :: '\n' :: rest =>
      if skipping then linesBody true rest
      else (linesBody false rest).map fun (text, rest) => ('\n' :: text, rest)
  | char :: rest =>
      if skipping && (isSpace char || char == '\n') then linesBody true rest
      else if (isPlain char || char == '\n') && char ≠ '\\' then
        (linesBody false rest).map fun (text, rest) => (char :: text, rest)
      else none
  | [] => none
termination_by input => input.length
decreasing_by all_goals (simp_all; try omega)

def literalLinesBody : List Char → Option (List Char × List Char)
  | '\'' :: '\'' :: '\'' :: rest => some (extraQuotes '\'' rest)
  | '\r' :: '\n' :: rest =>
      (literalLinesBody rest).map fun (text, rest) => ('\n' :: text, rest)
  | char :: rest =>
      if isPlain char || char == '\n' then
        (literalLinesBody rest).map fun (text, rest) => (char :: text, rest)
      else none
  | [] => none

/-- A string on one line, in either kind of quotes. -/
def lineString : Reader String
  | '"' :: rest => (basicBody rest).map fun (text, rest) => (String.ofList text, rest)
  | '\'' :: rest => (literalBody rest).map fun (text, rest) => (String.ofList text, rest)
  | _ => none

def anyString : Reader String
  | '"' :: '"' :: '"' :: rest =>
      (linesBody false (dropNewline rest)).map fun (text, rest) => (String.ofList text, rest)
  | '\'' :: '\'' :: '\'' :: rest =>
      (literalLinesBody (dropNewline rest)).map fun (text, rest) =>
        (String.ofList text, rest)
  | input => lineString input

end FolderScript.Toml
