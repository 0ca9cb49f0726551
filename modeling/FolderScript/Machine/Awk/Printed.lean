/-
Values written as a format asks for.
-/
import FolderScript.Machine.Awk.Value

namespace FolderScript.Awk

open Shell (Text)

namespace Printed

/-- What is wrong with a format. -/
inductive Fault where
  | tooFew
  /-- The directive with a number makes no sense. -/
  | improper (number : Nat)
  deriving DecidableEq, Repr

/-- A whole number in the way a directive asks for. -/
def whole (directive : Shell.Format.Directive) (value : Int) : Text :=
  let fill := if directive.has '0' && directive.precision.isNone then '0' else ' '
  let filled (text : Text) : Text :=
    Shell.Format.pad directive.width (directive.has '-') fill text
  let unsigned (base : Nat) (mark : Text) : Text :=
    let text := directive.wholeDigits (Shell.Format.digits base value)
    filled (if directive.has '#' && value ≠ 0 then mark ++ text else text)
  match directive.conversion with
  | 'o' => unsigned 8 ['0']
  | 'x' => unsigned 16 ['0', 'x']
  | 'X' => (unsigned 16 ['0', 'x']).map Char.toUpper
  | 'u' => unsigned 10 []
  | _ => filled (directive.signed (value < 0)
      (directive.wholeDigits (Nat.toDigits 10 value.natAbs)))

def apply (form : Float → Text) (directive : Shell.Format.Directive) (value : Value) : Text :=
  let filled (text : Text) : Text :=
    Shell.Format.pad directive.width (directive.has '-') ' ' text
  let cut (text : Text) : Text := (directive.precision.map fun count => text.take count).getD text
  match directive.conversion with
  | 's' => filled (cut (value.toText form))
  | 'c' =>
      let char : Char := match value with
        | .number number =>
            Char.ofNat (((Number.whole? number).getD 0) % 256).toNat
        | other => (other.toText form).headD (Char.ofNat 0)
      filled [char]
  | 'd' | 'i' | 'o' | 'x' | 'X' | 'u' =>
      let number := value.toNumber
      match Number.whole? number with
      | some whole' => whole directive whole'
      | none => Number.directed { directive with conversion := 'f', flags := [] } number
  | _ => Number.directed directive value.toNumber

/-- The number in a directive: written out, or the next value. -/
def count (text : Text) (values : List Value) : Option (Option Int × Text × List Value) :=
  match text with
  | '*' :: rest =>
      match values with
      | [] => none
      | value :: others => some (Number.whole? value.toNumber, rest, others)
  | _ =>
      let digits := text.takeWhile Char.isDigit
      some ((Shell.Text.toNat? digits).map Int.ofNat, text.drop digits.length, values)

def conversions : List Char := "sdicouxXeEfFgG".toList

/-- The text of a format with values filled in, as far as it makes sense. -/
def format (form : Float → Text) : Nat → Nat → Text → List Value → Text × Option Fault
  | 0, _, _, _ => ([], none)
  | _ + 1, _, [], _ => ([], none)
  | fuel + 1, number, '%' :: '%' :: rest, values =>
      let (text, fault) := format form fuel number rest values
      ('%' :: text, fault)
  | fuel + 1, number, '%' :: start, values =>
      let flags := start.takeWhile fun char => "-+ #0".toList.contains char
      match count (start.drop flags.length) values with
      | none => ([], some .tooFew)
      | some (width, rest, values) =>
          let flags := if width.any (· < 0) then '-' :: flags else flags
          let precise : Option (Option Int × Text × List Value) := match rest with
            | '.' :: more => (count more values).map fun (found, rest, values) =>
                (some (found.getD 0), rest, values)
            | _ => some (none, rest, values)
          match precise with
          | none => ([], some .tooFew)
          | some (precision, rest, values) =>
              let rest := rest.dropWhile fun char => char == 'l' || char == 'h'
              match rest, values with
              | _, [] => ([], some .tooFew)
              | [], _ => ([], some (.improper number))
              | conversion :: rest, value :: values =>
                  if !conversions.contains conversion then ([], some (.improper number))
                  else
                    let directive : Shell.Format.Directive :=
                      { flags := flags, width := (width.getD 0).natAbs
                        precision := (precision.filter (0 ≤ ·)).map Int.toNat
                        conversion := conversion }
                    let (text, fault) := format form fuel (number + 1) rest values
                    (apply form directive value ++ text, fault)
  | fuel + 1, number, char :: rest, values =>
      let (text, fault) := format form fuel number rest values
      (char :: text, fault)

/-- The way numbers are written that a format gives. -/
def numberForm (format_ : Text) (number : Float) : Text :=
  if format_ = "%.6g".toList then Number.directed Number.usualForm number
  else (format (fun _ => []) (format_.length + 1) 1 format_ [.number number]).1

end Printed

end FolderScript.Awk
