/-
Decimals of binary64 numbers.  The shortest one that reads back as the number is found
by trying one digit, two digits and so on: of the two decimals around the number in each
grid, the first that rounds to the number wins, and of two such decimals the nearer one,
or the upper one if they are equally near.  Decimals with a wanted number of digits have
so many places after the point, or an exponent, or whichever of the two forms suits the
size of the number; there a half goes to the even neighbour.
-/
import FolderScript.Decimal.Binary64

namespace FolderScript.Binary64

/-- The numbers that round to `mantissa * 2 ^ exponent`: from a lower to an
upper end, in units of `2 ^ (exponent - 2)`. -/
structure Interval where
  low : Nat
  high : Nat
  exponent : Int
  closed : Bool

/-- The interval around a positive number.  Below a power of two the
neighbours are half as far apart. -/
def interval (mantissa : Nat) (exponent : Int) : Interval where
  low := if mantissa = Nat.pow 2 52 ∧ leastExponent < exponent then 4 * mantissa - 1
    else 4 * mantissa - 2
  high := 4 * mantissa + 2
  exponent := exponent - 2
  closed := mantissa % 2 = 0

def Fraction.below (left right : Fraction) : Bool :=
  left.1 * right.2 < right.1 * left.2

def Interval.holds (around : Interval) (value : Fraction) : Bool :=
  let low := scaled around.low 2 around.exponent
  let high := scaled around.high 2 around.exponent
  if around.closed then !Fraction.below value low && !Fraction.below high value
  else Fraction.below low value && Fraction.below value high

/-- A quotient to the nearest whole number; a half goes up. -/
def roundHalfUp (numerator denominator : Nat) : Nat :=
  (2 * numerator + denominator) / (2 * denominator)

/-- On the grid of multiples of `10 ^ place`, the decimal that reads back. -/
def onGrid? (mantissa : Nat) (exponent place : Int) : Option Nat :=
  let value := scaled mantissa 2 exponent
  let unit := scaled 1 10 place
  let floor := (value.1 * unit.2) / (value.2 * unit.1)
  let fits (digits : Nat) : Bool :=
    digits ≠ 0 && (interval mantissa exponent).holds (scaled digits 10 place)
  let nearest := roundHalfUp (value.1 * unit.2) (value.2 * unit.1)
  if fits nearest then some nearest
  else if fits floor then some floor
  else if fits (floor + 1) then some (floor + 1)
  else none

/-- The position of the first decimal digit of a positive number: the largest
`k` with `10 ^ k` not above it, searched downwards from `start`. -/
def leadingPlace (value : Fraction) (start : Int) : Nat → Int
  | 0 => start
  | fuel + 1 =>
      if Fraction.below value (scaled 1 10 start) then leadingPlace value (start - 1) fuel
      else start

/-- The first decimal found on grids that get finer from `place` on. -/
def firstOnGrid (mantissa : Nat) (exponent place : Int) : Nat → Nat × Int
  | 0 => (mantissa, place)
  | fuel + 1 =>
      match onGrid? mantissa exponent place with
      | some digits => (digits, place)
      | none => firstOnGrid mantissa exponent (place - 1) fuel

/-- Digits and place of the shortest decimal of a positive number.  The search
starts one place above the first digit, for a number just below a power of ten. -/
def shortest (mantissa : Nat) (exponent : Int) : Nat × Int :=
  let place := leadingPlace (scaled mantissa 2 exponent) 309 640
  firstOnGrid mantissa exponent (place + 1) 20

/-- The decimal `digits * 10 ^ place` with a point and at least one digit on
either side of it. -/
def positional (digits : Nat) (place : Int) : String :=
  if 0 ≤ place then
    toString digits ++ String.ofList (List.replicate place.toNat '0') ++ ".0"
  else
    let count := (-place).toNat
    let text := Nat.toDigits 10 digits
    let padded := List.replicate (count + 1 - text.length) '0' ++ text
    let whole := padded.take (padded.length - count)
    String.ofList (whole ++ '.' :: padded.drop (padded.length - count))

def text : Binary64 → String
  | .nan => "NaN"
  | .infinity negative => (if negative then "-" else "") ++ "inf"
  | .finite negative mantissa exponent =>
      let sign := if negative then "-" else ""
      if mantissa = 0 then sign ++ "0.0"
      else
        let (digits, place) := shortest mantissa exponent
        sign ++ positional digits place

example : (ofDecimal false 15 (-1)).text = "1.5" := by decide +kernel
example : (ofDecimal true 0 0).text = "-0.0" := by decide +kernel
example : (ofDecimal false 1 2).text = "100.0" := by decide +kernel
example : (ofDecimal false 123456789125 (-3)).text = "123456789.125" := by decide +kernel
example : (ofDecimal false 1 (-1)).text = "0.1" := by decide +kernel
example : (ofDecimal false 1 (-6)).text = "0.000001" := by decide +kernel
example : (ofDecimal false 70368744177664125 (-3)).text = "70368744177664.13" := by
  decide +kernel
example : (ofDecimal false 1 400).text = "inf" := by decide +kernel

namespace Fraction

/-- The nearest fraction with a mantissa of so many bits. -/
def rounded (fraction : Fraction) (bits : Nat) : Fraction :=
  if fraction.1 = 0 then fraction
  else
    let exponent : Int := (fraction.1.log2 : Int) - fraction.2.log2 - bits
    let mantissaAt (exponent : Int) : Nat :=
      let shifted := fraction.shifted exponent
      roundDiv shifted.1 shifted.2
    let fits := mantissaAt exponent < Nat.pow 2 bits
    let exponent := if fits then exponent else exponent + 1
    scaled (mantissaAt exponent) 2 exponent

/-- The fraction times a power of ten, rounded to a whole number. -/
def wholeAt (fraction : Fraction) (power : Int) : Nat :=
  if 0 ≤ power then roundDiv (fraction.1 * Nat.pow 10 power.toNat) fraction.2
  else roundDiv fraction.1 (fraction.2 * Nat.pow 10 (-power).toNat)

def pointed (digits : List Char) (places : Nat) (keepsPoint : Bool) : List Char :=
  let padded := List.replicate (places + 1 - digits.length) '0' ++ digits
  let whole := padded.take (padded.length - places)
  if places = 0 then (if keepsPoint then whole ++ ['.'] else whole)
  else whole ++ '.' :: padded.drop (padded.length - places)

def fixed (fraction : Fraction) (places : Nat) (keepsPoint : Bool) : List Char :=
  pointed (Nat.toDigits 10 (fraction.wholeAt places)) places keepsPoint

/-- The place of the first digit, up to one below it. -/
def estimatedPlace (fraction : Fraction) : Int :=
  let size (number : Nat) : Int := (Nat.toDigits 10 number).length
  size fraction.1 - size fraction.2 - 1

/-- So many digits of the fraction, and the place of the first of them. -/
def leading (fraction : Fraction) (count : Nat) : List Char × Int :=
  let at1 (place : Int) : Nat := fraction.wholeAt ((count : Int) - 1 - place)
  let low := fraction.estimatedPlace
  let place := if Nat.pow 10 count ≤ at1 low then low + 1 else low
  (Nat.toDigits 10 (at1 place), place)

/-- The exponent of a number, with a sign and at least two digits. -/
def exponentText (mark : Char) (place : Int) : List Char :=
  let digits := Nat.toDigits 10 place.natAbs
  mark :: (if place < 0 then '-' else '+') :: List.replicate (2 - digits.length) '0' ++ digits

def scientific (fraction : Fraction) (places : Nat) (keepsPoint : Bool) (mark : Char) :
    List Char :=
  if fraction.1 = 0 then pointed ['0'] places keepsPoint ++ exponentText mark 0
  else
    let (digits, place) := fraction.leading (places + 1)
    pointed digits places keepsPoint ++ exponentText mark place

def withoutZeros (text : List Char) : List Char :=
  if text.contains '.' then
    let kept := text.reverse.dropWhile (· = '0')
    (if kept.head? = some '.' then kept.drop 1 else kept).reverse
  else text

/-- The fraction with so many digits, and an exponent if it is very large or very
small; zeros at the end are kept only if asked for. -/
def general (fraction : Fraction) (count : Nat) (keepsZeros : Bool) (mark : Char) :
    List Char :=
  let count := max 1 count
  let place : Int := if fraction.1 = 0 then 0 else (fraction.leading count).2
  let trimmed (text : List Char) : List Char := if keepsZeros then text else withoutZeros text
  if -4 ≤ place ∧ place < count then
    trimmed (fraction.fixed ((count : Int) - 1 - place).toNat keepsZeros)
  else
    let text := fraction.scientific (count - 1) keepsZeros mark
    let mantissa := text.takeWhile (· ≠ mark)
    trimmed mantissa ++ text.drop mantissa.length

end Fraction

example : Fraction.fixed (5, 2) 0 false = ['2'] := by decide +kernel
example : String.ofList (Fraction.scientific (3, 2) 6 false 'e') = "1.500000e+00" := by
  decide +kernel
example : String.ofList (Fraction.general (1000000, 1) 6 false 'e') = "1e+06" := by
  decide +kernel

end FolderScript.Binary64
