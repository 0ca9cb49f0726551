/-
Dates as people write them: with names or numbers, in full or seen from now.
-/
import FolderScript.Machine.Shell.Calendar

namespace FolderScript.Shell

namespace Calendar

/-- What has been read of a date. -/
structure Found where
  date? : Option (Option Int × Nat × Nat) := none
  /-- The time of day in seconds, and the part of a second in microseconds. -/
  time? : Option (Nat × Nat) := none
  zone? : Option Int := none
  weekday? : Option (Int × Nat) := none
  years : Int := 0
  months : Int := 0
  days : Int := 0
  seconds : Int := 0
  /-- Whether the date is seen from now. -/
  isRelative : Bool := false
  deriving DecidableEq, Repr

namespace Found

def add (found : Found) (months days seconds : Int) : Found :=
  { found with
    months := found.months + months, days := found.days + days
    seconds := found.seconds + seconds, isRelative := true }

def setDate (found : Found) (year : Option Int) (month day : Nat) : Option Found :=
  if found.date?.isSome then none else some { found with date? := some (year, month, day) }

/-- Sets the time of day, which can be done once. -/
def setTime (found : Found) (hour minute second micros : Nat) : Option Found :=
  if found.time?.isSome || 24 ≤ hour || 60 ≤ minute || 61 ≤ second then none
  else some { found with time? := some (hour * 3600 + minute * 60 + second, micros) }

def setZone (found : Found) (ahead : Int) : Option Found :=
  if found.zone?.isSome then none else some { found with zone? := some ahead }

end Found

/-- The units of time: how many months, days and seconds one has. -/
def unit? (word : Text) : Option (Int × Int × Int) :=
  let single := if word.getLast? = some 's' then word.dropLast else word
  match String.ofList single with
  | "year" => some (12, 0, 0)
  | "month" => some (1, 0, 0)
  | "fortnight" => some (0, 14, 0)
  | "week" => some (0, 7, 0)
  | "day" => some (0, 1, 0)
  | "hour" => some (0, 0, 3600)
  | "minute" | "min" => some (0, 0, 60)
  | "second" | "sec" => some (0, 0, 1)
  | _ => none

/-- The place of a word among names, of which three letters are enough. -/
def indexOf? (names : List String) (word : Text) : Option Nat :=
  let bare := if word.getLast? = some '.' then word.dropLast else word
  names.findIdx? fun name =>
    let lower := name.toLower.toList
    lower = bare || lower.take 3 = bare || (lower.take 4 = bare && bare = "sept".toList)

/-- The zones that go by their names or by a letter, and the hours that they are ahead. -/
def zone? (word : Text) : Option Int :=
  match String.ofList word with
  | "utc" | "gmt" | "z" | "ut" | "wet" => some 0
  | "est" | "cdt" => some (-5 * 3600)
  | "cst" | "mdt" => some (-6 * 3600)
  | "edt" => some (-4 * 3600)
  | "mst" | "pdt" => some (-7 * 3600)
  | "pst" => some (-8 * 3600)
  | "bst" | "cet" => some 3600
  | "cest" | "eet" => some 7200
  | "jst" => some (9 * 3600)
  | _ =>
      match word with
      | [letter] =>
          let east := "abcdefghiklm".toList.findIdx? (· = letter)
          let west := "nopqrstuvwxy".toList.findIdx? (· = letter)
          (east.map fun index => (Int.ofNat index + 1) * 3600).or
            (west.map fun index => -(Int.ofNat index + 1) * 3600)
      | _ => none

/-- The year that digits mean: two of them are of this century or the last. -/
def yearOf (digits : Text) : Int :=
  let value := Int.ofNat ((Text.toNat? digits).getD 0)
  if digits.length ≤ 2 then (if value < 69 then value + 2000 else value + 1900) else value

/-- Digits at the front, their value and what follows. -/
def digitsOf (text : Text) : Text × Nat × Text :=
  let digits := text.takeWhile Char.isDigit
  (digits, (Text.toNat? digits).getD 0, text.drop digits.length)

/-- Blanks at the front are skipped. -/
def skip (text : Text) : Text := text.dropWhile fun char => char == ' ' || char == '\t' || char == '\n'

/-- A word at the front, in small letters, and what follows. -/
def wordOf (text : Text) : Text × Text :=
  let word := text.takeWhile fun char => char.isAlpha || char == '.'
  (word.map Char.toLower, text.drop word.length)

/-- The part of a second after a point. -/
def microsOf (text : Text) : Nat × Text :=
  match text with
  | '.' :: rest =>
      let (digits, _, after) := digitsOf rest
      if digits = [] then (0, text)
      else ((Text.toNat? ((digits ++ "000000".toList).take 6)).getD 0, after)
  | _ => (0, text)

/-- A distance of a zone behind a time: hours, or hours and minutes; there is none that
is further than a day. -/
def correction? (text : Text) : Option (Option Int × Text) :=
  match text with
  | sign :: rest =>
      let (digits, value, after) := digitsOf (skip rest)
      if (sign ≠ '+' ∧ sign ≠ '-') ∨ digits = [] then none
      else
        let (size, after) : Nat × Text := match after with
          | ':' :: more =>
              let (minutes, count, last) := digitsOf more
              if minutes = [] then (value * 3600, after) else (value * 3600 + count * 60, last)
          | _ => (if digits.length ≤ 2 then value * 3600
              else value / 100 * 3600 + value % 100 * 60, after)
        let ahead := if sign = '-' then -Int.ofNat size else Int.ofNat size
        some (if 86400 < size then none else some ahead, after)
  | [] => none

/-- The rest of a time of day after its hour and a colon. -/
def clock (found : Found) (hour : Nat) (text : Text) : Option (Found × Text) := do
  let (digits, minute, after) := digitsOf text
  if digits = [] then failure
  let (second, micros, after) : Nat × Nat × Text := match after with
    | ':' :: more =>
        let (seconds, second, last) := digitsOf more
        if seconds = [] then (0, 0, after)
        else
          let (micros, last) := microsOf last
          (second, micros, last)
    | _ => (0, 0, after)
  let (half, beyond) := wordOf (skip after)
  let isHalf := half = "am".toList ∨ half = "a.m.".toList ∨ half = "pm".toList ∨ half = "p.m.".toList
  let hour ← if isHalf then
      (if hour = 0 ∨ 12 < hour then none
        else some (hour % 12 + (if half.head? = some 'p' then 12 else 0)))
    else some hour
  let after := if isHalf then beyond else after
  let found ← found.setTime hour minute second micros
  match if isHalf then none else correction? (skip after) with
  | some (ahead, rest) => pure (← found.setZone (← ahead), rest)
  | none => pure (found, after)

def amount (found : Found) (count : Int) (unit : Int × Int × Int) (text : Text) : Found × Text :=
  let (word, rest) := wordOf (skip text)
  let (count, text) := if word = "ago".toList then (-count, rest) else (count, text)
  (found.add (count * unit.1) (count * unit.2.1) (count * unit.2.2), text)

/-- Something that starts with digits. -/
def numeric (found : Found) (text : Text) : Option (Found × Text) :=
  let (digits, value, after) := digitsOf text
  match after with
  | ':' :: rest => clock found value rest
  | '/' :: rest => do
      let (second, other, after) := digitsOf rest
      if second = [] then failure
      match after with
      | '/' :: rest =>
          let (third, last, after) := digitsOf rest
          if third = [] then failure
          if 4 ≤ digits.length then pure (← found.setDate (some (yearOf digits)) other last, after)
          else pure (← found.setDate (some (yearOf third)) value other, after)
      | _ => pure (← found.setDate none value other, after)
  | '-' :: rest =>
      let (second, month, after) := digitsOf rest
      let (name, beyond) := wordOf rest
      match second, after, indexOf? months name, beyond with
      | _ :: _, '-' :: rest, _, _ => do
          let (third, day, after) := digitsOf rest
          if third = [] then failure
          let found ← found.setDate (some (yearOf digits)) month day
          match after with
          | 'T' :: more =>
              let (hours, hour, last) := digitsOf more
              match hours, last with
              | _ :: _, ':' :: rest => clock found hour rest
              | _ :: _, _ => pure (← found.setTime hour 0 0 0, last)
              | _, _ => pure (found, after)
          | _ => pure (found, after)
      | _, _, some index, '-' :: rest => do
          let (third, _, after) := digitsOf rest
          if third = [] then failure
          pure (← found.setDate (some (yearOf third)) (index + 1) value, after)
      | _, _, _, _ => none
  | _ =>
      let (word, beyond) := wordOf (skip after)
      match indexOf? months word, unit? word with
      | some index, _ => do
          let (digits, _, last) := digitsOf (skip (beyond.dropWhile (· = ',')))
          if digits = [] ∨ last.head? = some ':' then
            pure (← found.setDate none (index + 1) value, beyond)
          else pure (← found.setDate (some (yearOf digits)) (index + 1) value, last)
      | none, some unit => some (amount found (Int.ofNat value) unit beyond)
      | none, none =>
          if word = "am".toList ∨ word = "pm".toList then
            if value = 0 ∨ 12 < value then none
            else (found.setTime (value % 12 + (if word = "pm".toList then 12 else 0)) 0 0 0).map
              fun found => (found, beyond)
          else
            match found.date? with
            | some (none, month, day) =>
                if found.time?.isSome || 2 < digits.length then
                  some ({ found with date? := some (some (yearOf digits), month, day) }, after)
                else none
            | _ =>
                if 4 < digits.length then
                  let year := digits.take (digits.length - 4)
                  (found.setDate (some (yearOf year)) (value / 100 % 100) (value % 100)).map
                    fun found => (found, after)
                else if digits.length ≤ 2 then
                  (found.setTime value 0 0 0).map fun found => (found, after)
                else
                  (found.setTime (value / 100) (value % 100) 0 0).map fun found => (found, after)

def ordinal? (word : Text) : Option Int :=
  match String.ofList word with
  | "last" => some (-1)
  | "this" => some 0
  | "next" | "first" => some 1
  | "third" => some 3
  | "fourth" => some 4
  | "fifth" => some 5
  | _ => none

/-- Something that starts with a letter. -/
def verbal (found : Found) (text : Text) : Option (Found × Text) :=
  let (word, rest) := wordOf text
  let after := skip rest
  match String.ofList word with
  | "now" | "today" => some ({ found with isRelative := true }, rest)
  | "tomorrow" => some (found.add 0 1 0, rest)
  | "yesterday" => some (found.add 0 (-1) 0, rest)
  | _ =>
      match indexOf? months word, indexOf? weekdays word, zone? word, unit? word,
          ordinal? word with
      | some index, _, _, _, _ => do
          let (digits, day, more) := digitsOf after
          if digits = [] then failure
          match skip more with
          | ',' :: last =>
              let (year, _, last) := digitsOf (skip last)
              if year = [] then failure
              pure (← found.setDate (some (yearOf year)) (index + 1) day, last)
          | _ => pure (← found.setDate none (index + 1) day, more)
      | _, some index, _, _, _ =>
          if found.weekday?.isSome then none
          else some ({ found with weekday? := some (0, index) },
            if after.head? = some ',' then after.tail else rest)
      | _, _, some ahead, _, _ => (found.setZone ahead).map fun found => (found, rest)
      | _, _, _, some unit, _ => some (amount found 1 unit rest)
      | _, _, _, _, some count =>
          let (second, beyond) := wordOf after
          match unit? second, indexOf? weekdays second with
          | some unit, _ => some (amount found count unit beyond)
          | none, some index =>
              if found.weekday?.isSome then none
              else some ({ found with weekday? := some (count, index) }, beyond)
          | none, none => none
      | _, _, _, _, _ => none

def parts : Nat → Found → Text → Option Found
  | 0, _, _ => none
  | fuel + 1, found, text =>
      match skip text with
      | [] => some found
      | char :: rest =>
          if char.isDigit then do
            let (found, rest) ← numeric found (char :: rest)
            parts fuel found rest
          else if char = '+' ∨ char = '-' then do
            let (digits, value, after) := digitsOf (skip rest)
            let (word, beyond) := wordOf (skip after)
            let unit ← unit? word
            if digits = [] then failure
            let count := if char = '-' then -Int.ofNat value else Int.ofNat value
            let (found, rest) := amount found count unit beyond
            parts fuel found rest
          else if char = ',' then parts fuel found rest
          else do
            let (found, rest) ← verbal found (char :: rest)
            parts fuel found rest

/-- How many days a month has. -/
def monthLength (year : Int) (month : Nat) : Nat :=
  (Civil.dayNumber year (Int.ofNat month + 1) 1 - Civil.dayNumber year month 1).toNat

def Found.moment? (found : Found) (zone : Zone) (now : Moment) : Option Moment := do
  let ahead := found.zone?.getD zone.ahead
  let today := Civil.ofSeconds (now / 1000000 + ahead)
  let year := (found.date?.bind fun date => date.1).getD today.year
  let (month, day) := (found.date?.map Prod.snd).getD (today.month, today.day)
  if month = 0 ∨ 12 < month ∨ day = 0 ∨ monthLength year month < day then failure
  let isDay := found.date?.isSome || found.weekday?.isSome
  let (time, micros) := found.time?.getD
    (if isDay then (0, 0)
      else (today.hour * 3600 + today.minute * 60 + today.second, (now % 1000000).toNat))
  let shift : Int := match found.weekday?, found.date? with
    | some (count, weekday), none =>
        let ahead := (Int.ofNat weekday - Int.ofNat today.weekday) % 7
        ahead + 7 * (count - (if 0 < count ∧ today.weekday ≠ weekday then 1 else 0))
    | _, _ => 0
  let days := Civil.dayNumber year (Int.ofNat month + found.months)
    (Int.ofNat day + found.days + shift)
  let seconds := days * Civil.dayLength + Int.ofNat time + found.seconds - ahead
  pure (seconds * 1000000 + Int.ofNat micros)

def moment? (zone : Zone) (now : Moment) (text : Text) : Option Moment :=
  match skip text with
  | '@' :: rest =>
      let (sign, digits) : Bool × Text := match skip rest with
        | '-' :: digits => (true, digits)
        | '+' :: digits => (false, digits)
        | digits => (false, digits)
      let (whole, value, after) := digitsOf digits
      let (micros, after) := microsOf after
      if whole = [] ∨ skip after ≠ [] then none
      else
        let size := Int.ofNat (value * 1000000 + micros)
        some (if sign then -size else size)
  | text => do (← parts (text.length + 1) {} text).moment? zone now

end Calendar

end FolderScript.Shell
