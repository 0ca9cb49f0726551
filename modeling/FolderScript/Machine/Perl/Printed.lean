/-
Values as a format asks for, characters exchanged for others, and values packed into
texts.
-/
import FolderScript.Machine.Perl.Value

namespace FolderScript.Perl

open Shell (Text)

namespace Printed

/-- A value with the text that it counts as. -/
structure Item where
  value : Value
  text : Text

/-- A whole number in the way a directive asks for. -/
def whole (directive : Shell.Format.Directive) (value : Int) : Text :=
  match directive.conversion with
  | 'b' | 'B' =>
      let bits := Nat.toDigits 2 (value % 0x10000000000000000).toNat
      let text := directive.wholeDigits bits
      let text := if directive.has '#' && value ≠ 0 then ['0', directive.conversion] ++ text else text
      Shell.Format.pad directive.width (directive.has '-')
        (if directive.has '0' && directive.precision.isNone then '0' else ' ') text
  | _ => Awk.Printed.whole directive value

def apply (directive : Shell.Format.Directive) (item : Item) : Text :=
  let fill := if directive.has '0' then '0' else ' '
  let filled (text : Text) : Text := Shell.Format.pad directive.width (directive.has '-') fill text
  let number := item.value.toNumber
  match directive.conversion with
  | 's' => filled ((directive.precision.map fun count => item.text.take count).getD item.text)
  | 'c' => filled [Char.ofNat item.value.toNat]
  | 'd' | 'i' | 'u' | 'o' | 'x' | 'X' | 'b' | 'B' =>
      match number with
      | .real value =>
          if value.isNaN || value.isInf then
            Shell.Format.pad directive.width (directive.has '-') ' ' (directive.signed false number.toText)
          else whole directive number.toInt
      | .whole value => whole directive value
  | _ =>
      match number with
      | .real value =>
          if value.isNaN || value.isInf then
            Shell.Format.pad directive.width (directive.has '-') ' ' (directive.signed false number.toText)
          else Awk.Number.directed directive value
      | .whole value => Awk.Number.directed directive (Float.ofInt value)

/-- The number in a directive: written out, or the next item. -/
def count (text : Text) (items : List Item) : Option Int × Text × List Item :=
  match text with
  | '*' :: rest =>
      match items with
      | [] => (some 0, rest, [])
      | item :: others => (some item.value.toInt, rest, others)
  | _ =>
      let digits := text.takeWhile Char.isDigit
      ((Shell.Text.toNat? digits).map Int.ofNat, text.drop digits.length, items)

def conversions : List Char := "sdicouxXbBeEfFgGaA".toList

def format (all : List Item) : Nat → Text → List Item → Text
  | 0, text, _ => text
  | _ + 1, [], _ => []
  | fuel + 1, '%' :: '%' :: rest, items => '%' :: format all fuel rest items
  | fuel + 1, '%' :: start, items =>
      let digits := start.takeWhile Char.isDigit
      let (items, start') : List Item × Text := match Shell.Text.toNat? digits, start.drop digits.length with
        | some index, '$' :: rest => (all.drop (index - 1), rest)
        | _, _ => (items, start)
      let flags := start'.takeWhile fun char => "-+ #0".toList.contains char
      let (width, rest, items) := count (start'.drop flags.length) items
      let flags := if width.any (· < 0) then '-' :: flags else flags
      let (precision, rest, items) : Option Int × Text × List Item := match rest with
        | '.' :: more =>
            let (found, rest, items) := count more items
            (some (found.getD 0), rest, items)
        | _ => (none, rest, items)
      let rest := rest.dropWhile fun char => "lhqLV".toList.contains char
      match rest with
      | [] => '%' :: format all fuel start items
      | conversion :: rest =>
          if !conversions.contains conversion then '%' :: format all fuel start items
          else
            let directive : Shell.Format.Directive :=
              { flags := flags, width := (width.getD 0).natAbs
                precision := (precision.filter (0 ≤ ·)).map Int.toNat
                conversion := conversion }
            apply directive (items.headD ⟨.undefined, []⟩) ++ format all fuel rest items.tail
  | fuel + 1, char :: rest, items => char :: format all fuel rest items

end Printed

namespace Exchange

/-- What a backslash and a character stand for. -/
def escape (char : Char) : Char :=
  match char with
  | 'n' => '\n'
  | 't' => '\t'
  | 'r' => '\r'
  | 'f' => '\x0c'
  | 'e' => '\x1b'
  | 'a' => '\x07'
  | '0' => Char.ofNat 0
  | other => other

/-- The characters that a text with ranges names. -/
def members : Nat → Text → Text
  | 0, _ => []
  | _ + 1, [] => []
  | fuel + 1, '\\' :: 'x' :: first :: second :: rest =>
      Char.ofNat (Shell.Format.digitValue first * 16 + Shell.Format.digitValue second) ::
        members fuel rest
  | fuel + 1, '\\' :: char :: rest => escape char :: members fuel rest
  | fuel + 1, first :: '-' :: last :: rest =>
      if last.toNat < first.toNat then first :: members fuel ('-' :: last :: rest)
      else ((List.range (last.toNat + 1 - first.toNat)).map fun step =>
        Char.ofNat (first.toNat + step)) ++ members fuel rest
  | fuel + 1, char :: rest => char :: members fuel rest

/-- Exchanges characters; tells how many there were. -/
def apply (wanted given : Text) (marks : List Char) (text : Text) : Text × Nat :=
  let named := members (wanted.length + 1) wanted
  let others := members (given.length + 1) given
  let isTurned := marks.contains 'c'
  let removes := marks.contains 'd'
  let others := if others = [] && !removes then (if isTurned then [] else named) else others
  let place? (char : Char) : Option Nat :=
    if isTurned then (if named.contains char then none else some 1000000) else named.findIdx? (· == char)
  let turned (char : Char) : Option (Option Char) :=
    (place? char).map fun place =>
      match others[place]? with
      | some other => some other
      | none => if removes then none else some (others.getLast?.getD char)
  let step (state : Text × Nat × Option Char) (char : Char) : Text × Nat × Option Char :=
    let (done, count, last) := state
    match turned char with
    | none => (char :: done, count, none)
    | some none => (done, count + 1, last)
    | some (some other) =>
        if marks.contains 's' && last == some other then (done, count + 1, last)
        else (other :: done, count + 1, some other)
  let (done, count, _) := text.foldl step ([], 0, none)
  (done.reverse, count)

end Exchange

namespace Packed

/-- The letters of a template with how often each counts; nothing stands for all. -/
def letters : Nat → Text → List (Char × Option Nat)
  | 0, _ => []
  | _ + 1, [] => []
  | fuel + 1, letter :: rest =>
      let rest := rest.dropWhile fun char => char == '<' || char == '>' || char == '!'
      if Awk.Number.isSpace letter then letters fuel rest
      else
        match rest with
        | '*' :: rest => (letter, none) :: letters fuel rest
        | _ =>
            let digits := rest.takeWhile Char.isDigit
            (letter, some ((Shell.Text.toNat? digits).getD 1)) :: letters fuel (rest.drop digits.length)

/-- The bytes of a number, the lowest first. -/
def bytes (count : Nat) (value : Int) : Text :=
  (List.range count).map fun index =>
    Char.ofNat ((value / Int.ofNat (Nat.pow 256 index)) % 256).toNat

/-- How many bytes a letter takes, and whether the highest comes first. -/
def width? : Char → Option (Nat × Bool)
  | 'C' | 'c' | 'U' | 'W' => some (1, false)
  | 'n' => some (2, true)
  | 'v' | 's' | 'S' => some (2, false)
  | 'N' => some (4, true)
  | 'V' | 'l' | 'L' | 'i' | 'I' => some (4, false)
  | 'q' | 'Q' | 'j' | 'J' => some (8, false)
  | _ => none

/-- The characters that pairs of digits spell. -/
def ofHex : Text → Text
  | first :: second :: rest =>
      Char.ofNat (Shell.Format.digitValue first * 16 + Shell.Format.digitValue second) :: ofHex rest
  | [first] => [Char.ofNat (Shell.Format.digitValue first * 16)]
  | [] => []

def pack : List (Char × Option Nat) → List Printed.Item → Text
  | [], _ => []
  | (letter, count) :: rest, items =>
      let text := (items.headD ⟨.undefined, []⟩).text
      let filled (fill : Char) : Text :=
        match count with
        | none => text
        | some count => text.take count ++ List.replicate (count - text.length) fill
      match letter with
      | 'a' => filled (Char.ofNat 0) ++ pack rest items.tail
      | 'A' => filled ' ' ++ pack rest items.tail
      | 'Z' => filled (Char.ofNat 0) ++ (if count.isNone then [Char.ofNat 0] else []) ++
          pack rest items.tail
      | 'H' => ofHex text ++ pack rest items.tail
      | 'x' => List.replicate (count.getD 0) (Char.ofNat 0) ++ pack rest items
      | _ =>
          match width? letter with
          | none => pack rest items
          | some (size, highFirst) =>
              let taken := items.take (count.getD items.length)
              let one (item : Printed.Item) : Text :=
                if letter == 'U' || letter == 'W' then [Char.ofNat item.value.toNat]
                else
                  let low := bytes size item.value.toInt
                  if highFirst then low.reverse else low
              taken.flatMap one ++ pack rest (items.drop taken.length)

/-- The number that bytes spell, the lowest first. -/
def number (text : Text) : Nat := text.foldr (fun char total => total * 256 + char.toNat) 0

def unpack : Nat → List (Char × Option Nat) → Text → List Value
  | 0, _, _ => []
  | _ + 1, [], _ => []
  | fuel + 1, (letter, count) :: rest, text =>
      match letter with
      | 'a' | 'A' | 'Z' =>
          let taken := text.take (count.getD text.length)
          let shown := match letter with
            | 'A' => (taken.reverse.dropWhile fun char => Awk.Number.isSpace char || char.toNat = 0).reverse
            | 'Z' => taken.takeWhile fun char => char.toNat ≠ 0
            | _ => taken
          .text shown :: unpack fuel rest (text.drop taken.length)
      | 'H' =>
          let digits := text.flatMap fun char =>
            let spelled := Nat.toDigits 16 char.toNat
            List.replicate (2 - spelled.length) '0' ++ spelled
          let taken := digits.take (count.getD digits.length)
          .text taken :: unpack fuel rest (text.drop ((taken.length + 1) / 2))
      | 'B' | 'b' =>
          let digits := text.flatMap fun char =>
            let spelled := Nat.toDigits 2 char.toNat
            let whole := List.replicate (8 - spelled.length) '0' ++ spelled
            if letter == 'b' then whole.reverse else whole
          let taken := digits.take (count.getD digits.length)
          .text taken :: unpack fuel rest (text.drop ((taken.length + 7) / 8))
      | 'x' => unpack fuel rest (text.drop (count.getD 0))
      | _ =>
          match width? letter with
          | none => unpack fuel rest text
          | some (size, highFirst) =>
              let available := text.length / size
              let taken := min (count.getD available) available
              let one (index : Nat) : Value :=
                let piece := (text.drop (index * size)).take size
                let value := number (if highFirst then piece.reverse else piece)
                if letter == 'c' && 128 ≤ value then .ofInt (Int.ofNat value - 256)
                else .ofNat value
              (List.range taken).map one ++ unpack fuel rest (text.drop (taken * size))

end Packed

end FolderScript.Perl
