/-
Quoted text, as it stands in log lines and in complaints about a value: between
double quotes, with a backslash before quotes and backslashes, short escapes
for the usual control characters and code points for what would not show.
-/
import FolderScript.Text.Hidden
import FolderScript.Text.Utf8

namespace FolderScript.Quoted

/-- Lower-case hexadecimal digits without leading zeros. -/
def hexLower (value : Nat) : String :=
  String.ofList (Nat.toDigits 16 value)

def codePoint (char : Char) : String :=
  "\\u\x7b" ++ hexLower char.toNat ++ "\x7d"

/-- One character between the quotes. -/
def char (c : Char) : String :=
  match c with
  | '"' => "\\\""
  | '\\' => "\\\\"
  | '\t' => "\\t"
  | '\r' => "\\r"
  | '\n' => "\\n"
  | '\x00' => "\\0"
  | c =>
      if c.toNat < 0x20 || c.toNat == 0x7F then codePoint c
      else if c.toNat < 0x7F then c.toString
      else if isHidden c then codePoint c
      else c.toString

def text (value : String) : String :=
  "\"" ++ String.join (value.toList.map char) ++ "\""

/-- A broken byte, by two upper-case hexadecimal digits. -/
def brokenByte (byte : UInt8) : String :=
  let digit (n : Nat) : Char := (Nat.digitChar n).toUpper
  "\\x" ++ String.ofList [digit (byte.toNat / 16), digit (byte.toNat % 16)]

/-- Bytes from a decoder state: characters as in a text, every byte of a broken
part by its value.  `held` are the bytes of the unfinished character, last
first. -/
def bytesFrom : Utf8.State → Bytes → Bytes → String
  | _, held, [] => String.join (held.reverse.map brokenByte)
  | state, held, byte :: rest =>
      match Utf8.step? state byte with
      | some (some c, next) => char c ++ bytesFrom next [] rest
      | some (none, next) => bytesFrom next (byte :: held) rest
      | none =>
          String.join (held.reverse.map brokenByte) ++
            match state, Utf8.step? .start byte with
            | .inside .., some (some c, next) => char c ++ bytesFrom next [] rest
            | .inside .., some (none, next) => bytesFrom next [byte] rest
            | _, _ => brokenByte byte ++ bytesFrom .start [] rest

def bytes (value : Bytes) : String :=
  "\"" ++ bytesFrom .start [] value ++ "\""

def list (values : List String) : String :=
  "[" ++ ", ".intercalate (values.map text) ++ "]"

/-- An optional value, its content written by `render`. -/
def option {α : Type} (render : α → String) : Option α → String
  | none => "None"
  | some value => "Some(" ++ render value ++ ")"

example : text "a\"b\\\t\x00'\u0301" = "\"a\\\"b\\\\\\t\\0'\\u\x7b301\x7d\"" := by
  decide +kernel

example : bytes [0x61, 0xE2, 0x82, 0x62, 0xFF] = "\"a\\xE2\\x82b\\xFF\"" := by
  decide +kernel

end FolderScript.Quoted
