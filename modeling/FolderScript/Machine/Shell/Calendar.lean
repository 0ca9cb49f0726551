/-
The calendar: the date and the time of day of a moment, and how they are written.
-/
import FolderScript.Host.FileSystem
import FolderScript.Machine.Shell.Script

namespace FolderScript.Shell

/-- A date and a time of day. -/
structure Civil where
  year : Int
  /-- From 1 to 12. -/
  month : Nat
  /-- From 1 on. -/
  day : Nat
  hour : Nat := 0
  minute : Nat := 0
  second : Nat := 0
  deriving DecidableEq, Repr

namespace Civil

/-- How many seconds a day has. -/
def dayLength : Int := 86400

/-- The days from the beginning of 1970 to a date; months and days that are out of
range are carried on.  The years are counted from March, so that the odd day is the
last. -/
def dayNumber (year month day : Int) : Int :=
  let year := year + (month - 1) / 12
  let month := (month - 1) % 12 + 1
  let shifted := if month ≤ 2 then year - 1 else year
  let era := shifted / 400
  let ofEra := shifted - era * 400
  let ofYear := (153 * (if 2 < month then month - 3 else month + 9) + 2) / 5 + day - 1
  era * 146097 + ofEra * 365 + ofEra / 4 - ofEra / 100 + ofYear - 719468

def dateOf (days : Int) : Int × Nat × Nat :=
  let days := days + 719468
  let era := days / 146097
  let ofEra := days - era * 146097
  let year := (ofEra - ofEra / 1460 + ofEra / 36524 - ofEra / 146096) / 365
  let ofYear := ofEra - (365 * year + year / 4 - year / 100)
  let index := (5 * ofYear + 2) / 153
  let day := ofYear - (153 * index + 2) / 5 + 1
  let month := if index < 10 then index + 3 else index - 9
  (year + era * 400 + (if month ≤ 2 then 1 else 0), month.toNat, day.toNat)

/-- The date and time of day so many seconds after the beginning of 1970. -/
def ofSeconds (seconds : Int) : Civil :=
  let (year, month, day) := dateOf (seconds / dayLength)
  let rest := (seconds % dayLength).toNat
  { year := year, month := month, day := day
    hour := rest / 3600, minute := rest / 60 % 60, second := rest % 60 }

def toSeconds (civil : Civil) : Int :=
  dayNumber civil.year civil.month civil.day * dayLength +
    (civil.hour * 3600 + civil.minute * 60 + civil.second : Nat)

/-- The day of the week, Sunday first. -/
def weekday (civil : Civil) : Nat :=
  ((dayNumber civil.year civil.month civil.day + 4) % 7).toNat

def yearDay (civil : Civil) : Nat :=
  (dayNumber civil.year civil.month civil.day - dayNumber civil.year 1 1).toNat

/-- The year and the week in it, where weeks start on Monday and belong to the year
that most of their days are in. -/
def week (civil : Civil) : Int × Nat :=
  let days := dayNumber civil.year civil.month civil.day
  let thursday := days - (days + 3) % 7 + 3
  let (year, _, _) := dateOf thursday
  (year, ((thursday - dayNumber year 1 1) / 7 + 1).toNat)

end Civil

namespace Calendar

/-- The names of the days of the week. -/
def weekdays : List String :=
  ["Sunday", "Monday", "Tuesday", "Wednesday", "Thursday", "Friday", "Saturday"]

def months : List String :=
  ["January", "February", "March", "April", "May", "June", "July", "August", "September",
    "October", "November", "December"]

/-- A zone: its name, and by how many seconds its clocks are ahead. -/
structure Zone where
  name : Text
  ahead : Int
  deriving DecidableEq, Repr

def Zone.zero : Zone := ⟨"UTC".toList, 0⟩

/-- The zone that a text spells: a name, and the hours that its clocks are behind. -/
def Zone.ofText (text : Text) : Zone :=
  let name := text.takeWhile Char.isAlpha
  let rest := text.drop name.length
  let (sign, digits) : Int × Text := match rest with
    | '-' :: digits => (1, digits)
    | '+' :: digits => (-1, digits)
    | digits => (-1, digits)
  let hours := digits.takeWhile Char.isDigit
  let minutes := ((digits.drop hours.length).drop 1).takeWhile Char.isDigit
  if 3 ≤ name.length ∧ hours ≠ [] ∧ hours.length ≤ 2 then
    ⟨name, sign * Int.ofNat ((Text.toNat? hours).getD 0 * 3600 + (Text.toNat? minutes).getD 0 * 60)⟩
  else .zero

/-- How a field is filled up. -/
inductive Filling where
  | zeros
  | blanks
  | none
  deriving DecidableEq, Repr

/-- How a field is to be written, where that differs from the usual. -/
structure Wish where
  filling : Option Filling := Option.none
  upper : Bool := false
  swapped : Bool := false
  plus : Bool := false
  width : Option Nat := Option.none
  deriving DecidableEq, Repr

def number (wish : Wish) (usual : Filling) (width : Nat) (value : Int) : Text :=
  let digits := Text.ofNat value.natAbs
  let sign : Text := if value < 0 then ['-'] else []
  match wish.filling.getD usual with
  | .none => sign ++ digits
  | .blanks =>
      let width := wish.width.getD width
      List.replicate (width - digits.length - sign.length) ' ' ++ sign ++ digits
  | .zeros =>
      let width := wish.width.getD width
      sign ++ List.replicate (width - digits.length - sign.length) '0' ++ digits

/-- A name, in other letters if that is wished. -/
def word (wish : Wish) (text : Text) : Text :=
  let text := if wish.upper then text.map Char.toUpper else text
  let width := if wish.filling = some .none then 0 else wish.width.getD 0
  let fill := if wish.filling = some .zeros then '0' else ' '
  List.replicate (width - text.length) fill ++ text

/-- The hour as it is counted twice a day. -/
def halfHour (hour : Nat) : Nat := if hour % 12 = 0 then 12 else hour % 12

/-- How far a zone is ahead, in hours and minutes and perhaps seconds. -/
def offset (zone : Zone) (wish : Wish) (colons : Nat) : Text :=
  let size := zone.ahead.natAbs
  let sign : Text := if zone.ahead < 0 then ['-'] else ['+']
  let two (value : Nat) : Text := number {} .zeros 2 (Int.ofNat value)
  let hours := sign ++ two (size / 3600)
  match colons with
  | 0 =>
      let digits := size / 3600 * 100 + size / 60 % 60
      let body := Text.ofNat digits
      let gap := wish.width.getD 5 - 1 - body.length
      match wish.filling with
      | some .blanks => List.replicate gap ' ' ++ sign ++ body
      | some .none => sign ++ body
      | _ => sign ++ List.replicate gap '0' ++ body
  | 1 => hours ++ ':' :: two (size / 60 % 60)
  | 2 => hours ++ ':' :: two (size / 60 % 60) ++ ':' :: two (size % 60)
  | _ => hours ++ (if size % 3600 = 0 then [] else ':' :: two (size / 60 % 60))

/-- The fraction of a second, with so many digits; without a filling the zeros at its
end are left out. -/
def fraction (wish : Wish) (micros : Nat) : Text :=
  let width := wish.width.getD 9
  let digits := (number {} .zeros 6 (Int.ofNat micros) ++ "000".toList).take width
  let short := match (digits.reverse.dropWhile (· = '0')).reverse with
    | [] => ['0']
    | others => others
  match wish.filling, wish.width with
  | some .none, some _ => short
  | some .blanks, _ => short ++ List.replicate (width - short.length) ' '
  | _, _ => digits ++ List.replicate (width - digits.length) '0'

def longer? : Char → Option String
  | 'c' => some "%a %b %e %H:%M:%S %Y"
  | 'D' | 'x' => some "%m/%d/%y"
  | 'F' => some "%Y-%m-%d"
  | 'T' | 'X' => some "%H:%M:%S"
  | 'R' => some "%H:%M"
  | 'r' => some "%I:%M:%S %p"
  | _ => none

def field? (zone : Zone) (moment : Moment) (wish : Wish) (colons : Nat) (letter : Char) :
    Option Text :=
  let seconds := moment / 1000000
  let civil := Civil.ofSeconds (seconds + zone.ahead)
  let name (names : List String) (index : Nat) : Text := (names.getD index "").toList
  let count (width : Nat) (value : Nat) : Option Text :=
    some (number wish .zeros width (Int.ofNat value))
  let spaced (value : Nat) : Option Text := some (number wish .blanks 2 (Int.ofNat value))
  let text (text : Text) : Option Text :=
    some (word (if wish.swapped then { wish with upper := true } else wish) text)
  match letter with
  | 'Y' => some (number wish .zeros 4 civil.year)
  | 'C' => some (number wish .zeros 2 (civil.year / 100))
  | 'y' => some (number wish .zeros 2 (civil.year % 100))
  | 'm' => count 2 civil.month
  | 'd' => count 2 civil.day
  | 'e' => spaced civil.day
  | 'H' => count 2 civil.hour
  | 'k' => spaced civil.hour
  | 'I' => count 2 (halfHour civil.hour)
  | 'l' => spaced (halfHour civil.hour)
  | 'M' => count 2 civil.minute
  | 'S' => count 2 civil.second
  | 's' => some (number wish .zeros 1 seconds)
  | 'N' => some (fraction wish (moment % 1000000).toNat)
  | 'j' => count 3 (civil.yearDay + 1)
  | 'a' => text ((name weekdays civil.weekday).take 3)
  | 'A' => text (name weekdays civil.weekday)
  | 'b' | 'h' => text ((name months (civil.month - 1)).take 3)
  | 'B' => text (name months (civil.month - 1))
  | 'p' =>
      let half := if civil.hour < 12 then "AM" else "PM"
      some (word wish (if wish.swapped then half.toLower.toList else half.toList))
  | 'P' => some (word wish (if civil.hour < 12 then "am".toList else "pm".toList))
  | 'u' => count 1 (if civil.weekday = 0 then 7 else civil.weekday)
  | 'w' => count 1 civil.weekday
  | 'U' => count 2 ((civil.yearDay + 7 - civil.weekday) / 7)
  | 'W' => count 2 ((civil.yearDay + 7 - (civil.weekday + 6) % 7) / 7)
  | 'V' => count 2 civil.week.2
  | 'G' => some (number wish .zeros 4 civil.week.1)
  | 'g' => some (number wish .zeros 2 (civil.week.1 % 100))
  | 'q' => count 1 ((civil.month + 2) / 3)
  | 'Z' => some (word wish (if wish.swapped then zone.name.map Char.toLower else zone.name))
  | 'z' => some (offset zone wish colons)
  | 'n' => some (word wish ['\n'])
  | 't' => some (word wish ['\t'])
  | '%' => some ['%']
  | _ => none

/-- Reads the wishes in front of a letter of a pattern. -/
def wishes : Wish → Text → Wish × Text
  | wish, char :: rest =>
      match char with
      | '_' => wishes { wish with filling := some .blanks } rest
      | '-' => wishes { wish with filling := some .none } rest
      | '0' => wishes { wish with filling := some .zeros } rest
      | '^' => wishes { wish with upper := true } rest
      | '#' => wishes { wish with swapped := true } rest
      | '+' => wishes { wish with plus := true } rest
      | _ =>
          let digits := (char :: rest).takeWhile Char.isDigit
          ({ wish with width := Text.toNat? digits }, (char :: rest).drop digits.length)
  | wish, [] => (wish, [])

/-- A moment in a zone as a pattern asks for it; patterns within patterns go down so
deep. -/
def format (zone : Zone) (moment : Moment) : Nat → Text → Text
  | 0, _ => []
  | _ + 1, [] => []
  | fuel + 1, '%' :: rest =>
      let (wish, after) := wishes {} rest
      let after := match after with
        | 'E' :: more => more
        | 'O' :: more => more
        | _ => after
      let colons := (after.takeWhile (· = ':')).length
      match after.drop colons with
      | [] => '%' :: rest
      | letter :: more =>
          if 0 < colons ∧ letter ≠ 'z' then
            '%' :: rest.take (rest.length - more.length) ++ format zone moment fuel more
          else
            match longer? letter, field? zone moment wish colons letter with
            | some pattern, _ =>
                let whole := format zone moment fuel pattern.toList
                word wish whole ++ format zone moment fuel more
            | none, some text => text ++ format zone moment fuel more
            | none, none =>
                '%' :: rest.take (rest.length - more.length) ++ format zone moment fuel more
  | fuel + 1, char :: rest => char :: format zone moment fuel rest

def text (zone : Zone) (moment : Moment) (pattern : Text) : Text :=
  format zone moment (pattern.length + 64) pattern

end Calendar

end FolderScript.Shell
