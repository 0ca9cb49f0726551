/-
The values of a list script: numbers that are whole or not, texts, and references to
things that are kept elsewhere.
-/
import FolderScript.Machine.Awk.Printed

namespace FolderScript.Perl

open Shell (Text)

inductive Number where
  | whole (value : Int)
  | real (value : Float)

inductive Value where
  | undefined
  | number (value : Number)
  | text (value : Text)
  /-- A number that has a wording of its own. -/
  | coded (number : Nat) (wording : Text)
  /-- A reference to the thing at a place. -/
  | reference (place : Nat)

namespace Number

/-- A whole number, or the nearest other one if no word of the machine holds it. -/
def ofInt (value : Int) : Number :=
  if -0x8000000000000000 ≤ value ∧ value < 0x10000000000000000 then .whole value
  else .real (Float.ofInt value)

/-- The number of the machine that is nearest. -/
def toFloat : Number → Float
  | .whole value => Float.ofInt value
  | .real value => value

/-- The number without what stands behind its point; what is too large is cut. -/
def toInt : Number → Int
  | .whole value => value
  | .real value =>
      match Awk.Number.whole? value with
      | some integral => integral
      | none => if value.isNaN then 0 else if value < 0 then -0x8000000000000000 else -1

/-- The same number, as a whole one if it is. -/
def ofFloat (value : Float) : Number := .real value

/-- How numbers that are not whole are written. -/
def usualForm : Shell.Format.Directive := ⟨[], 0, some 15, 'g'⟩

def toText : Number → Text
  | .whole value => Shell.Text.ofInt value
  | .real value =>
      if value.isNaN then "NaN".toList
      else if value.isInf then (if value < 0 then "-Inf" else "Inf").toList
      else if value == 0 then ['0']
      else Awk.Number.directed usualForm value

def isZero : Number → Bool
  | .whole value => value == 0
  | .real value => value == 0

/-- Compares numbers; what is no number cannot be compared. -/
def compare? : Number → Number → Option Ordering
  | .whole left, .whole right => some (compare left right)
  | left, right =>
      let first := left.toFloat
      let second := right.toFloat
      if first < second then some .lt
      else if second < first then some .gt
      else if first == second then some .eq
      else none

/-- An operation on whole numbers if both are, and on all numbers otherwise. -/
def combine (onWhole : Int → Int → Int) (onReal : Float → Float → Float) : Number → Number → Number
  | .whole left, .whole right => ofInt (onWhole left right)
  | left, right => .real (onReal left.toFloat right.toFloat)

def add : Number → Number → Number := combine (· + ·) (· + ·)

def subtract : Number → Number → Number := combine (· - ·) (· - ·)

def multiply : Number → Number → Number := combine (· * ·) (· * ·)

/-- The quotient, unless it is one by zero. -/
def divide? (left right : Number) : Option Number :=
  if right.isZero then none
  else some (match left, right with
    | .whole first, .whole second =>
        if first % second = 0 then ofInt (first / second)
        else .real (Float.ofInt first / Float.ofInt second)
    | left, right => .real (left.toFloat / right.toFloat))

/-- The remainder with the sign of the divisor, unless it is one by zero. -/
def remainder? (left right : Number) : Option Number :=
  let divisor := right.toInt
  if divisor = 0 then none else some (ofInt (Int.fmod left.toInt divisor))

/-- A number that is not whole in its form, as a whole one if it is and fits. -/
def settled (value : Float) : Number :=
  match Awk.Number.integer? value with
  | some integral =>
      if -0x8000000000000000 ≤ integral ∧ integral < 0x8000000000000000 then .whole integral
      else .real value
  | none => .real value

/-- A number to the power of another.  The result for whole numbers is exact as long as the
digits of the base cannot need more than a word of the machine. -/
def power (left right : Number) : Number :=
  match left, right with
  | .whole base, .whole exponent =>
      let size := base.natAbs
      let digits := (Nat.toDigits 2 size).length
      let isTwofold := Nat.land size (size - 1) = 0
      if 0 ≤ exponent ∧ digits * exponent.toNat ≤ 64 ∧ !isTwofold then
        ofInt (Int.pow base exponent.toNat)
      else settled (Float.pow (Float.ofInt base) (Float.ofInt exponent))
  | left, right => settled (Float.pow left.toFloat right.toFloat)

def negate : Number → Number
  | .whole value => ofInt (-value)
  | .real value => .real (-value)

def bits (number : Number) : Nat := (number.toInt % 0x10000000000000000).toNat

/-- The length of the digits at the front of a text, with a point among them, and
whether they are a whole number. -/
def mantissa (text : Text) : Nat × Bool :=
  let front := text.takeWhile Char.isDigit
  match text.drop front.length with
  | '.' :: rest =>
      let back := rest.takeWhile Char.isDigit
      if front = [] ∧ back = [] then (0, true) else (front.length + 1 + back.length, false)
  | _ => (front.length, true)

/-- The length of a power of ten at the front of a text. -/
def exponent (text : Text) : Nat :=
  match text with
  | mark :: rest =>
      if mark == 'e' || mark == 'E' then
        let sign := if rest.head? == some '-' || rest.head? == some '+' then 1 else 0
        let digits := ((rest.drop sign).takeWhile Char.isDigit).length
        if digits = 0 then 0 else 1 + sign + digits
      else 0
  | [] => 0

/-- The length of the number at the front of a text without a sign, and whether it is a
whole one. -/
def extent (text : Text) : Nat × Bool :=
  let (length, isWhole) := mantissa text
  if length = 0 then (0, true)
  else
    let more := exponent (text.drop length)
    (length + more, isWhole && more = 0)

/-- The number that a text starts with, or zero; blanks may stand in front. -/
def ofText (text : Text) : Number :=
  let bare := text.dropWhile Awk.Number.isSpace
  let (isNegative, digits) : Bool × Text := match bare with
    | '-' :: rest => (true, rest)
    | '+' :: rest => (false, rest)
    | _ => (false, bare)
  let (length, isWhole) := extent digits
  let word := (digits.take 3).map Char.toLower
  let signed (value : Float) : Number := .real (if isNegative then -value else value)
  if length = 0 then
    if word = "inf".toList then signed (1.0 / 0.0)
    else if word = "nan".toList then signed (0.0 / 0.0)
    else .whole 0
  else if isWhole then
    let value : Int := Int.ofNat (Nat.ofDigitChars 10 (digits.take length) 0)
    ofInt (if isNegative then -value else value)
  else signed (Awk.Number.ofText (digits.take length))

/-- Whether a whole text is a number, up to blanks around it. -/
def isSpelledBy (text : Text) : Bool :=
  let bare := text.dropWhile Awk.Number.isSpace
  let digits := if bare.head? == some '-' || bare.head? == some '+' then bare.drop 1 else bare
  let length := (extent digits).1
  0 < length && (digits.drop length).all Awk.Number.isSpace

end Number

namespace Value

def ofInt (value : Int) : Value := .number (Number.ofInt value)

def ofNat (value : Nat) : Value := .number (Number.ofInt (Int.ofNat value))

def ofString (text : String) : Value := .text text.toList

/-- A condition as a value: one, or what is empty as a text. -/
def ofBool (holds : Bool) : Value := if holds then .ofInt 1 else .text []

def toNumber : Value → Number
  | .undefined => .whole 0
  | .number value => value
  | .text value => Number.ofText value
  | .coded code _ => .whole code
  | .reference place => .whole (94000000000000 + 24 * place)

def toInt (value : Value) : Int := value.toNumber.toInt

def toNat (value : Value) : Nat := value.toInt.toNat

/-- The text that a value counts as; what stands for a reference is found elsewhere. -/
def toText : Value → Text
  | .undefined => []
  | .number value => value.toText
  | .text value => value
  | .coded _ wording => wording
  | .reference place => Shell.Text.ofNat (94000000000000 + 24 * place)

/-- Whether a value counts as true. -/
def holds : Value → Bool
  | .undefined => false
  | .number value => !value.isZero
  | .text value => value ≠ [] ∧ value ≠ ['0']
  | .coded code _ => code ≠ 0
  | .reference _ => true

def isDefined : Value → Bool
  | .undefined => false
  | _ => true

end Value

/-- The next of the texts that are counted up by their letters and digits; nothing is told
of other texts. -/
def nextText? (text : Text) : Option Text :=
  let letters := text.takeWhile Char.isAlpha
  if text = [] || !(text.drop letters.length).all Char.isDigit then none
  else
    let (counted, carries) := text.foldr
      (fun char (done, carries) =>
        if !carries then (char :: done, false)
        else if char == 'z' then ('a' :: done, true)
        else if char == 'Z' then ('A' :: done, true)
        else if char == '9' then ('0' :: done, true)
        else (Char.ofNat (char.toNat + 1) :: done, false))
      (([] : Text), true)
    some (if !carries then counted
      else match counted with
        | '0' :: _ => '1' :: counted
        | first :: _ => first :: counted
        | [] => [])

end FolderScript.Perl
