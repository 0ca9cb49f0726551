/-
The words and signs of a pattern script.
-/
import FolderScript.Machine.Awk.Number

namespace FolderScript.Awk

open Shell (Text)

/-- A word or a sign. -/
inductive Token where
  | number (value : Float) (written : Text)
  | text (value : Text)
  | regex (source : Text)
  /-- A name, and whether a parenthesis follows it at once. -/
  | name (name : String) (isCalled : Bool)
  | builtin (name : String)
  | keyword (name : String)
  | sign (text : String)
  | lineEnd

/-- Why a script cannot be read. -/
structure Fault where
  line : Nat
  message : Text
  /-- Whether the line is told in the short way. -/
  isShort : Bool := false
  deriving DecidableEq, Repr

namespace Scan

/-- The words that statements are made of. -/
def keywords : List String :=
  ["BEGIN", "END", "function", "if", "else", "while", "for", "do", "in", "break", "continue",
    "next", "nextfile", "exit", "return", "delete", "print", "printf", "getline"]

/-- The functions that are there from the start. -/
def builtins : List String :=
  ["index", "substr", "length", "split", "match", "sub", "gsub", "sprintf", "sin", "cos",
    "atan2", "exp", "log", "sqrt", "int", "rand", "srand", "system", "close", "fflush",
    "toupper", "tolower", "mktime", "strftime", "systime"]

/-- The signs, longer ones first. -/
def signs : List String :=
  ["&&", "||", "==", "<=", ">=", "!=", "!~", "++", "--", "+=", "-=", "*=", "/=", "%=",
    "^=", ">>", "\x7b", "\x7d", "(", ")", "[", "]", ";", ",", "+", "-", "*", "/", "%", "^", "!",
    ">", "<", "|", "?", ":", "~", "$", "="]

/-- A token as messages show it. -/
def shown : Token → Text
  | .number _ written => written
  | .text value => '"' :: value ++ ['"']
  | .regex source => '/' :: source ++ ['/']
  | .name name _ | .builtin name | .keyword name => name.toList
  | .sign text => text.toList
  | .lineEnd => "end of line".toList

def endsValue : Token → Bool
  | .number .. | .text _ | .regex _ | .name .. => true
  | .builtin name => name == "length"
  | .keyword _ | .lineEnd => false
  | .sign text => text == ")" || text == "]" || text == "$" || text == "++" || text == "--"

/-- A text between quotes with its escapes read, and what follows it; a line end in it
makes no sense. -/
def quoted : Text → Option (Text × Text)
  | [] => none
  | '"' :: rest => some ([], rest)
  | '\n' :: _ => none
  | '\\' :: '\n' :: rest => quoted rest
  | '\\' :: char :: rest =>
      (quoted rest).map fun (text, after) => ('\\' :: char :: text, after)
  | char :: rest => (quoted rest).map fun (text, after) => (char :: text, after)

/-- The value of up to three digits at the front, in base eight. -/
def octal (text : Text) : Nat × Text :=
  let digits := (text.take 3).takeWhile fun char => '0' ≤ char && char ≤ '7'
  (digits.foldl (fun value digit => 8 * value + (digit.toNat - 48)) 0, text.drop digits.length)

/-- A text with its escapes read; escapes that are not known stay as they are. -/
def unescaped : Nat → Text → Text
  | 0, text => text
  | _ + 1, [] => []
  | fuel + 1, '\\' :: char :: rest =>
      let one (char : Char) : Text := char :: unescaped fuel rest
      match char with
      | 'n' => one '\n'
      | 't' => one '\t'
      | 'r' => one '\r'
      | '\\' => one '\\'
      | '"' => one '"'
      | 'a' => one '\x07'
      | 'b' => one '\x08'
      | 'f' => one '\x0c'
      | 'v' => one '\x0b'
      | 'x' =>
          let digits := (Shell.Format.hexDigits rest).take 2
          if digits = [] then '\\' :: 'x' :: unescaped fuel rest
          else Char.ofNat (Shell.Format.hexValue digits) :: unescaped fuel (rest.drop digits.length)
      | other =>
          if '0' ≤ other && other ≤ '7' then
            let (value, after) := octal (other :: rest)
            Char.ofNat (value % 256) :: unescaped fuel after
          else '\\' :: other :: unescaped fuel rest
  | fuel + 1, char :: rest => char :: unescaped fuel rest

/-- A text with its escapes read. -/
def unescape (text : Text) : Text :=
  if text.contains '\\' then unescaped (text.length + 1) text else text

/-- A pattern between slashes, and what follows it; a slash within brackets does not
end it. -/
def slashed : Bool → Text → Option (Text × Text)
  | _, [] => none
  | _, '\n' :: _ => none
  | false, '/' :: rest => some ([], rest)
  | isInside, '\\' :: '/' :: rest =>
      (slashed isInside rest).map fun (text, after) => ('/' :: text, after)
  | isInside, '\\' :: char :: rest =>
      (slashed isInside rest).map fun (text, after) => ('\\' :: char :: text, after)
  | false, '[' :: rest =>
      (slashed (rest.contains ']') rest).map fun (text, after) => ('[' :: text, after)
  | true, ']' :: rest => (slashed false rest).map fun (text, after) => (']' :: text, after)
  | isInside, char :: rest =>
      (slashed isInside rest).map fun (text, after) => (char :: text, after)

/-- Whether a character belongs to a name. -/
def isNameChar (char : Char) : Bool := char.isAlphanum || char == '_'

def ofWord (word : Text) (after : Text) : Token :=
  let name := String.ofList word
  if name == "func" then .keyword "function"
  else if keywords.contains name then .keyword name
  else if builtins.contains name then .builtin name
  else .name name (after.head? = some '(')

/-- Cuts a script into tokens with the numbers of their lines. -/
def scan : Nat → Nat → Option Token → Text → Except Fault (List (Token × Nat))
  | 0, _, _, _ => .ok []
  | _ + 1, _, _, [] => .ok []
  | fuel + 1, line, before, char :: rest =>
      let one (token : Token) (rest : Text) : Except Fault (List (Token × Nat)) := do
        let more ← scan fuel line (some token) rest
        pure ((token, line) :: more)
      let runaway (words : String) (mark : Char) : Except Fault (List (Token × Nat)) :=
        .error ⟨line, words.toList ++ mark :: (rest.takeWhile (· ≠ '\n')).take 10 ++
          " ...".toList, false⟩
      if char = '\n' then do
        let more ← scan fuel (line + 1) (some .lineEnd) rest
        pure ((.lineEnd, line) :: more)
      else if char = ' ' || char = '\t' || char = '\r' || char = '\x0c' || char = '\x0b' then
        scan fuel line before rest
      else if char = '#' then scan fuel line before (rest.dropWhile (· ≠ '\n'))
      else if char = '\\' && rest.head? = some '\n' then scan fuel (line + 1) before rest.tail
      else if char = '"' then
        match quoted rest with
        | none => runaway "runaway string constant " '"'
        | some (text, after) => one (.text (unescape text)) after
      else if char = '/' && !(before.any endsValue) then
        match slashed false rest with
        | none => runaway "runaway regular expression " '/'
        | some (source, after) => one (.regex source) after
      else if char.isDigit || (char = '.' && rest.head?.any Char.isDigit) then
        let text := char :: rest
        let isHex := char = '0' && (rest.head? = some 'x' || rest.head? = some 'X')
        match if isHex then some (0, rest) else Number.read? text with
        | some (value, after) =>
            one (.number value (text.take (text.length - after.length))) after
        | none => .error ⟨line, "unexpected character '".toList ++ [char, '\''], true⟩
      else if char.isAlpha || char = '_' then
        let word := char :: rest.takeWhile isNameChar
        let after := rest.dropWhile isNameChar
        one (ofWord word after) after
      else
        match signs.find? fun sign => sign.toList.isPrefixOf (char :: rest) with
        | some sign => one (.sign sign) (rest.drop (sign.length - 1))
        | none => .error ⟨line, "unexpected character '".toList ++ [char, '\''], true⟩

def tokens (script : Text) : Except Fault (List (Token × Nat)) :=
  scan (script.length + 1) 1 none script

end Scan

end FolderScript.Awk
