/-
Log events as lines.  Characters that could steer a terminal are written by
their codes.
-/
import FolderScript.Log

namespace FolderScript

namespace LogEvent

/-- Two hexadecimal digits at least. -/
def hexCode (code : Nat) : String :=
  let digits := Nat.toDigits 16 code
  String.ofList (List.replicate (2 - digits.length) '0' ++ digits)

/-- One character of a message. -/
def shownChar (char : Char) : String :=
  let code := char.toNat
  if code = 0x07 ∨ code = 0x08 ∨ code = 0x0C ∨ code = 0x1B ∨ code = 0x7F then
    "\\x" ++ hexCode code
  else if 0x80 ≤ code ∧ code ≤ 0x9F then "\\u\x7b" ++ hexCode code ++ "\x7d"
  else char.toString

/-- An event as a line: what stands in front, and the message. -/
def line (lead : String) (event : LogEvent) : String :=
  lead ++ String.join (event.message.toList.map shownChar) ++ "\n"

def text (lead : Nat → Level → String) (events : List LogEvent) : String :=
  String.join (events.zipIdx.map fun (event, number) =>
    event.line (lead number event.level))

end LogEvent

end FolderScript
