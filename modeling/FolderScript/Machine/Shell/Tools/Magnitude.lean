/-
Numbers as the switches of tools take them: digits, and a letter that multiplies.
-/
import FolderScript.Machine.Shell.Tools.Basic

namespace FolderScript.Shell

namespace Tools

namespace Magnitude

/-- Why a number is not taken. -/
inductive Fault where
  | malformed
  | tooLarge
  | outOfRange
  deriving DecidableEq, Repr

/-- What a fault adds to a message. -/
def Fault.addition : Fault → Text
  | .malformed => []
  | .tooLarge => ": Value too large for defined data type".toList
  | .outOfRange => ": Numerical result out of range".toList

/-- The first number that is too large. -/
def limit : Nat := 18446744073709551616

/-- A power, by repeated multiplication. -/
def power (base : Nat) : Nat → Nat
  | 0 => 1
  | exponent + 1 => base * power base exponent

/-- The exponents of the letters that multiply. -/
def exponents : List (Char × Nat) :=
  [('k', 1), ('K', 1), ('M', 2), ('m', 2), ('G', 3), ('g', 3), ('T', 4), ('t', 4), ('P', 5),
    ('E', 6), ('Z', 7), ('Y', 8), ('R', 9), ('Q', 10)]

/-- The factor that a suffix stands for, if its letter is one of those allowed. -/
def factor? (letters : String) : Text → Option Nat
  | [] => some 1
  | letter :: rest =>
      if !letters.toList.contains letter then none
      else if letter = 'b' then (if rest = [] then some 512 else none)
      else if letter = 'c' then (if rest = [] then some 1 else none)
      else
        match List.lookup letter exponents, String.ofList rest with
        | some exponent, "" | some exponent, "iB" => some (power 1024 exponent)
        | some exponent, "B" => some (power 1000 exponent)
        | _, _ => none

/-- The number that a text spells, at least and at most so large. -/
def read (letters : String) (least most : Nat) (text : Text) : Except Fault Nat :=
  let bare := text.dropWhile Char.isWhitespace
  let unsigned := if bare.head? = some '+' then bare.tail else bare
  let digits := unsigned.takeWhile Char.isDigit
  let (number, suffix) : Option Nat × Text :=
    if digits = [] then
      (if text.head?.any letters.toList.contains then some 1 else none, text)
    else (Text.toNat? digits, unsigned.drop digits.length)
  match number, factor? letters suffix with
  | some number, some factor =>
      let value := number * factor
      if limit ≤ value then .error .tooLarge
      else if value < least || most < value then
        .error (if value > 1073741823 then .tooLarge else .outOfRange)
      else .ok value
  | _, _ => .error .malformed

def usualLetters : String := "bkKmMGTPEZYRQ"

/-- The complaint about a number that is not taken. -/
def refusal? (what : String) (letters : String) (least most : Nat) (text : Text) :
    Option Refusal :=
  match read letters least most text with
  | .ok _ => none
  | .error fault =>
      some { message := what.toList ++ ": ".toList ++ quoted text ++ fault.addition }

def getD (letters : String) (text : Option Text) (usual : Nat) : Nat :=
  match text.map (read letters 0 (limit - 1)) with
  | some (.ok number) => number
  | _ => usual

end Magnitude

def choiceRefusal (option : String) (valid : List String) (value : Text) : Refusal :=
  { message := "invalid argument ".toList ++ quoted value ++ " for ".toList ++
      quoted option.toList ++ "\nValid arguments are:".toList ++
      valid.flatMap fun name => "\n  - ".toList ++ quoted name.toList
    helps := true }

end Tools

end FolderScript.Shell
