/-
How the large shell language writes texts so that it reads them back.
-/
import FolderScript.Machine.Shell.Script

namespace FolderScript.Shell

namespace Quoted

/-- The text up to the closing quote, and how many characters that took with it; a
backslash keeps a quote from closing it. -/
def closed? : Text → Option (Text × Nat)
  | [] => none
  | '\'' :: _ => some ([], 1)
  | '\\' :: char :: rest =>
      (closed? rest).map fun (text, count) => ('\\' :: char :: text, count + 2)
  | char :: rest => (closed? rest).map fun (text, count) => (char :: text, count + 1)

/-- The value of a digit to the base 16. -/
def digit (char : Char) : Nat :=
  if char.isDigit then char.toNat - 48 else char.toLower.toNat - 87

/-- Whether a character is a digit to the base 16. -/
def isHex (char : Char) : Bool :=
  char.isDigit || ('a' ≤ char.toLower && char.toLower ≤ 'f')

/-- The number that digits spell. -/
def inBase (base : Nat) (digits : Text) : Nat :=
  digits.foldl (fun number char => number * base + digit char) 0

/-- A character by its number; one that is no single byte stays as it would be written. -/
def encoded (code : Nat) : Text :=
  let digits := (Nat.toDigits 16 code).map Char.toUpper
  if code < 128 then [Char.ofNat code]
  else if digits.length ≤ 4 then '\\' :: 'u' :: List.replicate (4 - digits.length) '0' ++ digits
  else '\\' :: 'U' :: List.replicate (8 - digits.length) '0' ++ digits

/-- What the escapes in a text stand for; a zero byte ends it. -/
def unescaped : Nat → Text → Text
  | 0, _ => []
  | _ + 1, [] => []
  | fuel + 1, '\\' :: letter :: rest =>
      let single (char : Char) : Text := char :: unescaped fuel rest
      match letter with
      | 'a' => single '\x07'
      | 'b' => single '\x08'
      | 'e' | 'E' => single '\x1b'
      | 'f' => single '\x0c'
      | 'n' => single '\n'
      | 'r' => single '\r'
      | 't' => single '\t'
      | 'v' => single '\x0b'
      | '\\' | '\'' | '"' | '?' => single letter
      | 'x' =>
          let digits := (rest.take 2).takeWhile isHex
          if digits = [] then '\\' :: 'x' :: unescaped fuel rest
          else if inBase 16 digits = 0 then []
          else Char.ofNat (inBase 16 digits) :: unescaped fuel (rest.drop digits.length)
      | 'u' | 'U' =>
          let digits := (rest.take (if letter = 'u' then 4 else 8)).takeWhile isHex
          if digits = [] then '\\' :: letter :: unescaped fuel rest
          else encoded (inBase 16 digits) ++ unescaped fuel (rest.drop digits.length)
      | 'c' =>
          match rest with
          | char :: rest => Char.ofNat (Nat.land char.toUpper.toNat 31) :: unescaped fuel rest
          | [] => ['\\', 'c']
      | _ =>
          let digits := (letter :: rest.take 2).takeWhile fun char => '0' ≤ char && char ≤ '7'
          if digits = [] then '\\' :: letter :: unescaped fuel rest
          else if inBase 8 digits % 256 = 0 then []
          else Char.ofNat (inBase 8 digits % 256) ::
            unescaped fuel ((letter :: rest).drop digits.length)
  | fuel + 1, char :: rest => char :: unescaped fuel rest

def unescape (text : Text) : Text := unescaped (text.length + 1) text

/-- Whether a character cannot be shown as it is. -/
def isHidden (char : Char) : Bool := char.toNat < 32 || 126 < char.toNat

/-- A number in three digits to the base 8. -/
def octal (number : Nat) : Text :=
  [number / 64 % 8, number / 8 % 8, number % 8].map fun digit => Char.ofNat (48 + digit)

def withEscapes (text : Text) : Text :=
  let shown (char : Char) : Text := match char with
    | '\x07' => ['\\', 'a']
    | '\x08' => ['\\', 'b']
    | '\x1b' => ['\\', 'E']
    | '\x0c' => ['\\', 'f']
    | '\n' => ['\\', 'n']
    | '\r' => ['\\', 'r']
    | '\t' => ['\\', 't']
    | '\x0b' => ['\\', 'v']
    | '\\' => ['\\', '\\']
    | '\'' => ['\\', '\'']
    | _ => if isHidden char then '\\' :: octal char.toNat else [char]
  ['$', '\''] ++ text.flatMap shown ++ ['\'']

/-- Characters with a meaning of their own. -/
def isSpecial (char : Char) : Bool := " \t\n'\"\\|&;()<>!\x7b\x7d*[]?^$\x60".toList.contains char

/-- Whether a tilde or a number sign at some place has a meaning of its own. -/
def hasLeader : Option Char → Text → Bool
  | _, [] => false
  | before, char :: rest =>
      (char == '~' && (before.isNone || before == some '=' || before == some ':')) ||
        (char == '#' && (before.isNone || before == some ' ' || before == some '\t')) ||
        hasLeader (some char) rest

def isNeeded (text : Text) : Bool := text = [] || text.any isSpecial || hasLeader none text

def single (text : Text) : Text :=
  if text = ['\''] then ['\\', '\'']
  else '\'' :: text.flatMap (fun char => if char = '\'' then "'\\''".toList else [char]) ++ ['\'']

def always (text : Text) : Text := if text.any isHidden then withEscapes text else single text

def whenNeeded (text : Text) : Text :=
  if text.any isHidden then withEscapes text
  else if isNeeded text then single text
  else text

/-- A text with backslashes in front of what has a meaning of its own. -/
def backslashed (text : Text) : Text :=
  let rec go : Option Char → Text → Text
    | _, [] => []
    | before, char :: rest =>
        let isLeader := (char == '~' && (before.isNone || before == some '=' || before == some ':'))
          || (char == '#' && before.isNone)
        (if isSpecial char || char == ',' || isLeader then ['\\', char] else [char]) ++
          go (some char) rest
  if text = [] then ['\'', '\'']
  else if text.any isHidden then withEscapes text
  else go none text

def double (text : Text) : Text :=
  if text.any isHidden then withEscapes text
  else '"' :: text.flatMap (fun char =>
    if "$\x60\"\\".toList.contains char then ['\\', char] else [char]) ++ ['"']

end Quoted

end FolderScript.Shell
