/-
Numbers of the binary64 format, and the one nearest to a decimal.  All
arithmetic is exact, on natural numbers.
-/

namespace FolderScript

/-- A value of the binary64 format. -/
inductive Binary64 where
  /-- The number `mantissa * 2 ^ exponent`, with a sign that zero has too. -/
  | finite (negative : Bool) (mantissa : Nat) (exponent : Int)
  | infinity (negative : Bool)
  | nan
  deriving DecidableEq, Repr

namespace Binary64

/-- The quotient rounded to the nearest integer, a half to the even one. -/
def roundDiv (numerator denominator : Nat) : Nat :=
  let quotient := numerator / denominator
  let twice := 2 * (numerator % denominator)
  if twice < denominator then quotient
  else if denominator < twice then quotient + 1
  else quotient + quotient % 2

/-- A positive fraction as a pair of a numerator and a denominator. -/
abbrev Fraction := Nat × Nat

def scaled (value base : Nat) (exponent : Int) : Fraction :=
  if 0 ≤ exponent then (value * Nat.pow base exponent.toNat, 1)
  else (value, Nat.pow base (-exponent).toNat)

def Fraction.shifted (fraction : Fraction) (exponent : Int) : Fraction :=
  if 0 ≤ exponent then (fraction.1, fraction.2 * Nat.pow 2 exponent.toNat)
  else (fraction.1 * Nat.pow 2 (-exponent).toNat, fraction.2)

def leastExponent : Int := -1074

def greatestExponent : Int := 971

/-- The binary64 number nearest to a positive fraction. -/
def ofFraction (negative : Bool) (fraction : Fraction) : Binary64 :=
  let estimate : Int := (fraction.1.log2 : Int) - fraction.2.log2 - 53
  let first := max leastExponent estimate
  let mantissaAt (exponent : Int) : Nat :=
    let shifted := fraction.shifted exponent
    roundDiv shifted.1 shifted.2
  let exponent := if mantissaAt first < Nat.pow 2 53 then first else first + 1
  let mantissa := mantissaAt exponent
  let (mantissa, exponent) :=
    if mantissa < Nat.pow 2 53 then (mantissa, exponent) else (Nat.pow 2 52, exponent + 1)
  if greatestExponent < exponent then .infinity negative
  else .finite negative mantissa exponent

/-- The binary64 number nearest to `digits * 10 ^ exponent`.  Decimals far
outside the format's range are settled by their number of digits. -/
def ofDecimal (negative : Bool) (digits : Nat) (exponent : Int) : Binary64 :=
  let size : Int := (Nat.toDigits 10 digits).length + exponent
  if digits = 0 ∨ size < -330 then .finite negative 0 0
  else if 310 < size then .infinity negative
  else ofFraction negative (scaled digits 10 exponent)

end Binary64

end FolderScript
