/-
Numbers, dates and times of a TOML document.
-/
import FolderScript.Toml.Strings
import FolderScript.Toml.Value

namespace FolderScript.Toml

def isDecimal (char : Char) : Bool := '0' ≤ char && char ≤ '9'

/-- More digits of a number, each perhaps after one underscore. -/
def moreDigits (isDigit : Char → Bool) : List Char → List Char × List Char
  | '_' :: char :: rest =>
      if isDigit char then
        let (digits, rest) := moreDigits isDigit rest
        (char :: digits, rest)
      else ([], '_' :: char :: rest)
  | char :: rest =>
      if isDigit char then
        let (digits, rest) := moreDigits isDigit rest
        (char :: digits, rest)
      else ([], char :: rest)
  | [] => ([], [])

/-- One digit or more, underscores only between two digits. -/
def someDigits (isDigit : Char → Bool) : Reader (List Char)
  | char :: rest =>
      if isDigit char then
        let (digits, rest) := moreDigits isDigit rest
        some (char :: digits, rest)
      else none
  | [] => none

/-- The digits of a whole number: zero alone, or without a leading zero. -/
def wholeDigits : Reader (List Char)
  | '0' :: rest => some (['0'], rest)
  | input => someDigits isDecimal input

/-- An optional sign: whether it was a minus, and the rest. -/
def sign : List Char → Bool × List Char
  | '-' :: rest => (true, rest)
  | '+' :: rest => (false, rest)
  | input => (false, input)

def digitsValue (base : Nat) (digits : List Char) : Nat :=
  digits.foldl (fun value char => value * base + (hexDigit? char).getD 0) 0

def signed (negative : Bool) (value : Nat) : Int :=
  if negative then -(value : Int) else value

def fitsInteger (value : Int) : Bool := -0x8000000000000000 ≤ value && value < 0x8000000000000000

/-- An integer in a base with a letter of its own, which takes no sign. -/
def basedInteger (base : Nat) (isDigit : Char → Bool) : Reader Scalar := fun input =>
  match someDigits isDigit input with
  | none => none
  | some (digits, rest) =>
      let value : Int := digitsValue base digits
      if fitsInteger value then some (.integer value, rest) else none

def integer : Reader Scalar
  | '0' :: 'x' :: rest => basedInteger 16 (fun char => (hexDigit? char).isSome) rest
  | '0' :: 'o' :: rest => basedInteger 8 (fun char => '0' ≤ char && char ≤ '7') rest
  | '0' :: 'b' :: rest => basedInteger 2 (fun char => char == '0' || char == '1') rest
  | input =>
      let (negative, input) := sign input
      match wholeDigits input with
      | none => none
      | some (digits, rest) =>
          let value := signed negative (digitsValue 10 digits)
          if fitsInteger value then some (.integer value, rest) else none

/-- The digits after a decimal point; none without a point. -/
def fraction : Reader (List Char)
  | '.' :: rest => someDigits isDecimal rest
  | input => some ([], input)

/-- The power of ten after the letter e; none without it. -/
def power : Reader (Option Int)
  | letter :: rest =>
      if letter = 'e' ∨ letter = 'E' then
        let (negative, rest) := sign rest
        (someDigits isDecimal rest).map fun (digits, rest) =>
          (some (signed negative (digitsValue 10 digits)), rest)
      else some (none, letter :: rest)
  | [] => some (none, [])

/-- The words for infinity and for what is no number. -/
def special : Reader Scalar := fun input =>
  let (negative, rest) := sign input
  match rest with
  | 'i' :: 'n' :: 'f' :: rest => some (.float (.infinity negative), rest)
  | 'n' :: 'a' :: 'n' :: rest => some (.float .nan, rest)
  | _ => none

/-- A floating-point number with a fraction or a power.  One too large for the
format is refused, one too small for it on the negative side is not. -/
def float : Reader Scalar := fun input =>
  let (negative, input) := sign input
  match wholeDigits input with
  | none => none
  | some (whole, input) =>
      match fraction input with
      | none => none
      | some (decimals, input) =>
          match power input with
          | none => none
          | some (exponent, rest) =>
              if decimals.isEmpty ∧ exponent.isNone then none
              else
                let value := Binary64.ofDecimal negative (digitsValue 10 (whole ++ decimals))
                  (exponent.getD 0 - decimals.length)
                if value = .infinity false then none else some (.float value, rest)

/-- Exactly so many digits, as a number. -/
def fixedDigits (count : Nat) (input : List Char) : Option (Nat × List Char) :=
  let digits := input.take count
  if digits.length = count ∧ digits.all isDecimal then
    some (digitsValue 10 digits, input.drop count)
  else none

def boundedDigits (count low high : Nat) (input : List Char) : Option (Nat × List Char) :=
  (fixedDigits count input).bind fun (value, rest) =>
    if low ≤ value ∧ value ≤ high then some (value, rest) else none

def take (char : Char) : List Char → Option (List Char)
  | first :: rest => if first = char then some rest else none
  | [] => none

def daysIn (year month : Nat) : Nat :=
  if month = 2 then
    if year % 4 = 0 ∧ (year % 100 ≠ 0 ∨ year % 400 = 0) then 29 else 28
  else if month = 4 ∨ month = 6 ∨ month = 9 ∨ month = 11 then 30
  else 31

/-- A date of the calendar; returns the rest. -/
def date (input : List Char) : Option (List Char) := do
  let (year, input) ← fixedDigits 4 input
  let input ← take '-' input
  let (month, input) ← boundedDigits 2 1 12 input
  let input ← take '-' input
  let (_, rest) ← boundedDigits 2 1 (daysIn year month) input
  some rest

/-- Digits of a second after a point, if there is a point. -/
def secondFraction : List Char → Option (List Char)
  | '.' :: rest =>
      match rest.takeWhile isDecimal with
      | [] => none
      | _ => some (rest.dropWhile isDecimal)
  | input => some input

/-- A time of day; a leap second counts. -/
def time (input : List Char) : Option (List Char) := do
  let (_, input) ← boundedDigits 2 0 23 input
  let input ← take ':' input
  let (_, input) ← boundedDigits 2 0 59 input
  let input ← take ':' input
  let (_, input) ← boundedDigits 2 0 60 input
  secondFraction input

/-- The distance from universal time, if one is given. -/
def offset : List Char → Option (List Char)
  | 'Z' :: rest => some rest
  | 'z' :: rest => some rest
  | letter :: rest =>
      if letter = '+' ∨ letter = '-' then do
        let (_, input) ← boundedDigits 2 0 23 rest
        let input ← take ':' input
        let (_, input) ← boundedDigits 2 0 59 input
        some input
      else some (letter :: rest)
  | [] => some []

def timeAfterDate (input : List Char) : Option (List Char) :=
  match input with
  | letter :: rest =>
      if letter = 'T' ∨ letter = 't' ∨ letter = ' ' then
        match time rest with
        | none => some input
        | some rest => offset rest
      else some input
  | [] => some []

/-- A date, a time, or a date with a time. -/
def moment : Reader Scalar := fun input =>
  let rest? := match date input with
    | some rest => timeAfterDate rest
    | none => time input
  rest?.map fun rest =>
    (.moment (String.ofList (input.take (input.length - rest.length))), rest)

/-- A number, a date or a time. -/
def numeral : Reader Scalar := fun input =>
  match moment input with
  | some result => some result
  | none =>
      match float input with
      | some result => some result
      | none =>
          match special input with
          | some result => some result
          | none => integer input

end FolderScript.Toml
