/-
Text with styles for a terminal, and what of it is shown where there is none.
A style is switched by an escape sequence; showing the text plainly leaves out
every escape sequence, also one that came with a foreign part of the text, and
every control character that is not blank.
-/
import FolderScript.Text.Utf8

namespace FolderScript.Styled

/-- The character that begins an escape sequence. -/
def opener : Char := '\x1b'

def marked (text : String) : String := "\x1b[1m" ++ text ++ "\x1b[0m"

/-- Where a reader of escape sequences stands. -/
inductive State where
  | ground
  | escape
  | escapeIntermediate
  | controlEntry
  | controlParameter
  | controlIntermediate
  | controlIgnored
  | deviceEntry
  | deviceParameter
  | deviceIntermediate
  | deviceIgnored
  | deviceData
  | command
  | string
  deriving DecidableEq, Repr

/-- Whether a code lies between two others. -/
def within (code low high : Nat) : Bool := low ≤ code && code ≤ high

/-- Whether a control character acts in the middle of a sequence; elsewhere it
belongs to the sequence's data. -/
def State.acts : State → Bool
  | .ground | .escape | .escapeIntermediate | .controlEntry | .controlParameter
  | .controlIntermediate | .controlIgnored => true
  | _ => false

/-- The state after a character that is no control character. -/
def State.next (state : State) (code : Nat) : State :=
  match state with
  | .ground => .ground
  | .escape =>
      if within code 0x20 0x2F then .escapeIntermediate
      else if code = 0x50 then .deviceEntry
      else if code = 0x5B then .controlEntry
      else if code = 0x5D then .command
      else if code = 0x58 ∨ code = 0x5E ∨ code = 0x5F then .string
      else if within code 0x30 0x7E then .ground
      else .escape
  | .escapeIntermediate => if within code 0x30 0x7E then .ground else state
  | .controlEntry =>
      if within code 0x20 0x2F then .controlIntermediate
      else if within code 0x30 0x3F then .controlParameter
      else if within code 0x40 0x7E then .ground
      else state
  | .controlParameter =>
      if within code 0x20 0x2F then .controlIntermediate
      else if within code 0x3C 0x3F then .controlIgnored
      else if within code 0x40 0x7E then .ground
      else state
  | .controlIntermediate =>
      if within code 0x30 0x3F then .controlIgnored
      else if within code 0x40 0x7E then .ground
      else state
  | .controlIgnored => if within code 0x40 0x7E then .ground else state
  | .deviceEntry =>
      if within code 0x20 0x2F then .deviceIntermediate
      else if within code 0x30 0x3F then .deviceParameter
      else if within code 0x40 0x7E then .deviceData
      else state
  | .deviceParameter =>
      if within code 0x20 0x2F then .deviceIntermediate
      else if within code 0x3C 0x3F then .deviceIgnored
      else if within code 0x40 0x7E then .deviceData
      else state
  | .deviceIntermediate =>
      if within code 0x30 0x3F then .deviceIgnored
      else if within code 0x40 0x7E then .deviceData
      else state
  | .deviceIgnored | .deviceData | .command | .string => state

/-- The byte that ends the data of some sequences, also in the middle of a
character. -/
def closer : UInt8 := 0x9C

/-- Whether the closing byte ends the data that is being read. -/
def State.closes : State → Bool
  | .deviceIgnored | .deviceData | .string => true
  | _ => false

/-- One character: the state after it, and whether it is shown.  A blank that
acts in the middle of a sequence ends it. -/
def State.step (state : State) (char : Char) : State × Bool :=
  let code := char.toNat
  if code = 0x18 ∨ code = 0x1A then (.ground, false)
  else if char = opener then (.escape, false)
  else if code < 0x20 then
    if state = .command ∧ code = 0x07 then (.ground, false)
    else if state.acts ∧ (char = '\t' ∨ char = '\n' ∨ char = '\x0c' ∨ char = '\r') then
      (.ground, true)
    else (state, false)
  else if state = .ground then (.ground, code ≠ 0x7F)
  else if state.closes && (Utf8.encode (String.singleton char)).contains closer then (.ground, false)
  else (state.next code, false)

def shownFrom (state : State) : List Char → List Char
  | [] => []
  | char :: rest =>
      match state.step char with
      | (next, true) => char :: shownFrom next rest
      | (next, false) => shownFrom next rest

def plain (text : String) : String :=
  String.ofList (shownFrom .ground text.toList)

example : plain ("a" ++ marked "b\x1b[31" ++ "c\x7f") = "abc" := by decide +kernel
example : plain "\x1b]0;t\x07z\x1b(B" = "z" := by decide +kernel

end FolderScript.Styled
