/-
Numbers of a pattern script: how they are read from texts and written into them.
-/
import FolderScript.Machine.Shell.Format

namespace FolderScript.Awk

open Shell (Text)

namespace Number

/-- A number as the format of sixty-four bits spells it. -/
def decode (number : Float) : Binary64 :=
  let bits := number.toBits.toNat
  let negative := bits / Nat.pow 2 63 % 2 = 1
  let exponent := bits / Nat.pow 2 52 % 2048
  let mantissa := bits % Nat.pow 2 52
  if exponent = 2047 then (if mantissa = 0 then .infinity negative else .nan)
  else if exponent = 0 then .finite negative mantissa (-1074)
  else .finite negative (mantissa + Nat.pow 2 52) (Int.ofNat exponent - 1075)

/-- Whether a number is written with a minus sign; what is no number is. -/
def isNegative (number : Float) : Bool :=
  number.isNaN || number.toBits.toNat / Nat.pow 2 63 % 2 == 1

def size (number : Float) : Shell.Format.Magnitude :=
  match decode number with
  | .finite _ mantissa exponent => .finite (Binary64.scaled mantissa 2 exponent)
  | .infinity _ => .infinite
  | .nan => .nan

/-- The number without what stands behind its point; what is no number or too large
has no such part. -/
def whole? (number : Float) : Option Int :=
  match decode number with
  | .finite negative mantissa exponent =>
      let (top, bottom) := Binary64.scaled mantissa 2 exponent
      let value := Int.ofNat (top / bottom)
      some (if negative then -value else value)
  | _ => none

/-- The number as a whole number, if it is one that a word of the machine holds. -/
def integer? (number : Float) : Option Int :=
  match whole? number with
  | some value =>
      if -0x8000000000000000 ≤ value ∧ value < 0x10000000000000000 ∧ Float.ofInt value == number
      then some value else none
  | none => none

def ofFraction (negative : Bool) (value : Binary64.Fraction) : Float :=
  let bits : Nat := match Binary64.ofFraction negative value with
    | .finite _ mantissa exponent =>
        if mantissa = 0 then 0
        else if mantissa < Nat.pow 2 52 then mantissa
        else (exponent + 1075).toNat * Nat.pow 2 52 + (mantissa - Nat.pow 2 52)
    | .infinity _ => 2047 * Nat.pow 2 52
    | .nan => 2047 * Nat.pow 2 52 + 1
  Float.ofBits (UInt64.ofNat (bits + (if negative then Nat.pow 2 63 else 0)))

/-- The quick way for a text of a few digits. -/
def short? (text : Text) : Option (Nat × Text) :=
  let digits := text.takeWhile Char.isDigit
  if digits = [] ∨ 15 < digits.length then none
  else some (Nat.ofDigitChars 10 digits 0, text.drop digits.length)

/-- Whether a character may follow the digits of a number and belong to it. -/
def goesOn (char : Char) : Bool := ".eExXpP".toList.contains char

/-- The number at the front of a text, and what follows it. -/
def read? (text : Text) : Option (Float × Text) :=
  match short? text with
  | some (value, rest) =>
      if rest.head?.any goesOn then slow? text else some (Float.ofNat value, rest)
  | none => slow? text
where
  /-- The number in any form. -/
  slow? (text : Text) : Option (Float × Text) :=
    match Shell.Format.real? text with
    | none => none
    | some found =>
        let signed (value : Float) : Float := if found.negative then -value else value
        some (match found.size with
          | .finite (top, bottom) => (ofFraction found.negative (top, bottom), found.rest)
          | .infinite => (signed (1.0 / 0.0), found.rest)
          | .nan => (signed (0.0 / 0.0), found.rest))

def ofText (text : Text) : Float := ((read? text).map Prod.fst).getD 0

/-- Whether a character stands around numbers. -/
def isSpace (char : Char) : Bool :=
  char == ' ' || char == '\t' || char == '\n' || char == '\r' || char == '\x0b' || char == '\x0c'

def whole (text : Text) : Option Float :=
  match text.head? with
  | none => none
  | some char =>
      if char.isAlpha && !"iInN".toList.contains char then none
      else
        match read? (text.dropWhile isSpace) with
        | some (number, rest) => if rest.all isSpace then some number else none
        | none => none

def remainder (dividend divisor : Float) : Float :=
  match decode dividend, decode divisor with
  | .finite negative top topPower, .finite _ bottom bottomPower =>
      if bottom = 0 then 0.0 / 0.0
      else
        let power := min topPower bottomPower
        let aligned (mantissa : Nat) (exponent : Int) : Nat :=
          mantissa * Nat.pow 2 (exponent - power).toNat
        ofFraction negative (Binary64.scaled
          (aligned top topPower % aligned bottom bottomPower) 2 power)
  | .finite .., .infinity _ => dividend
  | _, _ => 0.0 / 0.0

def directed (directive : Shell.Format.Directive) (number : Float) : Text :=
  let isFinite : Bool := match size number with
    | .finite _ => true
    | _ => false
  let fill := if directive.has '0' && isFinite then '0' else ' '
  Shell.Format.pad directive.width (directive.has '-') fill
    (directive.signed (isNegative number)
      (Shell.Format.realText directive.conversion directive.precision (directive.has '#')
        (size number)))

def usualForm : Shell.Format.Directive := ⟨[], 0, some 6, 'g'⟩

def text (form : Float → Text) (number : Float) : Text :=
  match integer? number with
  | some value => Shell.Text.ofInt value
  | none => form number

end Number

end FolderScript.Awk
