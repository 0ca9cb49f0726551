/-
Sorting lines by keys.  A key is a part of each line with an order of its own; lines
whose keys are all equal are put in the order of their bytes, unless that is not
wanted.
-/
import FolderScript.Machine.Shell.CharClass
import FolderScript.Machine.Shell.Pattern
import FolderScript.Machine.Shell.Tools.Basic

namespace FolderScript.Shell

namespace Tools

/-- A decimal number as a whole number of units of a power of ten. -/
structure Decimal where
  units : Int
  places : Nat
  deriving DecidableEq, Repr

def Decimal.compare (left right : Decimal) : Ordering :=
  Ord.compare (left.units * Nat.pow 10 right.places) (right.units * Nat.pow 10 left.places)

/-- The decimal number at the front of a text, and what follows it; zero for none. -/
def leadingDecimal (text : Text) : Decimal × Text :=
  let bare := text.dropWhile CharClass.blank.holds
  let (isNegative, digits) : Bool × Text := match bare with
    | '-' :: rest => (true, rest)
    | _ => (false, bare)
  let whole := digits.takeWhile Char.isDigit
  let afterWhole := digits.drop whole.length
  let (fraction, rest) : Text × Text := match afterWhole with
    | '.' :: more =>
        let fraction := more.takeWhile Char.isDigit
        (fraction, more.drop fraction.length)
    | _ => ([], afterWhole)
  let size : Int := Nat.ofDigitChars 10 (whole ++ fraction) 0
  (⟨if isNegative then -size else size, fraction.length⟩, rest)

/-- The decimal number at the front of a text with its exponent, if it has one. -/
def leadingScientific (text : Text) : Decimal :=
  let text := match text.dropWhile CharClass.blank.holds with
    | '+' :: rest => rest
    | other => other
  let (value, rest) := leadingDecimal text
  let exponent : Option Int := match rest with
    | mark :: more =>
        if mark = 'e' ∨ mark = 'E' then
          let (isNegative, digits) : Bool × Text := match more with
            | '-' :: digits => (true, digits)
            | '+' :: digits => (false, digits)
            | digits => (false, digits)
          let digits := digits.takeWhile Char.isDigit
          if digits = [] then none
          else
            let size : Int := min (Nat.ofDigitChars 10 digits 0) 400
            some (if isNegative then -size else size)
        else none
    | [] => none
  match exponent with
  | none => value
  | some (.ofNat size) => ⟨value.units * Nat.pow 10 size, value.places⟩
  | some exponent => ⟨value.units, value.places + exponent.natAbs⟩

/-- How much a letter after a number multiplies it. -/
def magnitude : Option Char → Nat
  | some 'k' | some 'K' => 1
  | some 'M' => 2
  | some 'G' => 3
  | some 'T' => 4
  | some 'P' => 5
  | some 'E' => 6
  | _ => 0

/-- The number of a month from its first three letters, 0 for none. -/
def monthNumber (text : Text) : Nat :=
  let name := String.ofList (((text.dropWhile CharClass.blank.holds).take 3).map Char.toUpper)
  match (["JAN", "FEB", "MAR", "APR", "MAY", "JUN", "JUL", "AUG", "SEP", "OCT", "NOV",
      "DEC"]).idxOf? name with
  | some index => index + 1
  | none => 0

def compareText : Text → Text → Ordering
  | [], [] => .eq
  | [], _ => .lt
  | _, [] => .gt
  | left :: lefts, right :: rights =>
      match compare left.toNat right.toNat with
      | .eq => compareText lefts rights
      | other => other

/-- The place of a character in versions: a tilde comes before the end, letters
before all else. -/
def versionRank : Option Char → Nat
  | none => 1
  | some '~' => 0
  | some char => if char.isDigit then 1 else if char.isAlpha then char.toNat + 1
      else char.toNat + 256

/-- Compares two versions: runs of digits as numbers, the rest by place. -/
def compareVersions : Nat → Text → Text → Ordering
  | 0, _, _ => .eq
  | fuel + 1, left, right =>
      match left, right with
      | [], [] => .eq
      | _, _ =>
          let inDigits (text : Text) : Bool := (text.head?.map Char.isDigit).getD false
          if inDigits left && inDigits right then
            let leftDigits := left.takeWhile Char.isDigit
            let rightDigits := right.takeWhile Char.isDigit
            match compare (Nat.ofDigitChars 10 leftDigits 0)
                (Nat.ofDigitChars 10 rightDigits 0) with
            | .eq => compareVersions fuel (left.drop leftDigits.length)
                (right.drop rightDigits.length)
            | other => other
          else
            match compare (versionRank left.head?) (versionRank right.head?) with
            | .eq => compareVersions fuel left.tail right.tail
            | other => other

/-- Compares two texts in the order that some letters name. -/
def compareBy (order : List Char) (left right : Text) : Ordering :=
  let has (letter : Char) : Bool := order.contains letter
  let shown (text : Text) : Text :=
    let text := if has 'b' then text.dropWhile CharClass.blank.holds else text
    let text := if has 'd' then text.filter fun char =>
      CharClass.blank.holds char || char.isAlphanum else text
    let text := if has 'i' then text.filter CharClass.print.holds else text
    if has 'f' then text.map Char.toUpper else text
  if has 'n' then (leadingDecimal left).1.compare (leadingDecimal right).1
  else if has 'g' then (leadingScientific left).compare (leadingScientific right)
  else if has 'h' then
    let (leftValue, leftRest) := leadingDecimal left
    let (rightValue, rightRest) := leadingDecimal right
    let sized (value : Decimal) (rest : Text) : Int :=
      if value.units = 0 then 0
      else if value.units < 0 then -(magnitude rest.head? : Int) - 1
      else magnitude rest.head? + 1
    match compare (sized leftValue leftRest) (sized rightValue rightRest) with
    | .eq => leftValue.compare rightValue
    | other => other
  else if has 'M' then compare (monthNumber left) (monthNumber right)
  else if has 'V' then
    match compareVersions (left.length + right.length + 2) left right with
    | .eq => compareText left right
    | other => other
  else compareText (shown left) (shown right)

/-- Where a key starts or ends: the field, and the character in it. -/
structure KeyPoint where
  field : Nat
  char : Nat
  skipsBlanks : Bool
  deriving DecidableEq, Repr

/-- A key of a line, with an order of its own if it names one. -/
structure SortKey where
  start : KeyPoint
  stop : Option KeyPoint
  order : List Char
  deriving DecidableEq, Repr

/-- Skips a field; with a separator also that, unless it is the last wanted. -/
def skipField (separator : Option Char) (text : Text) : Text :=
  match separator with
  | some mark => (text.dropWhile (· ≠ mark)).drop 1
  | none => (text.dropWhile CharClass.blank.holds).dropWhile
      fun char => !CharClass.blank.holds char

def skipFields (separator : Option Char) : Nat → Text → Text
  | 0, text => text
  | count + 1, text => skipFields separator count (skipField separator text)

/-- How many characters of a line come before a point, which is counted in for an
end. -/
def pointIndex (separator : Option Char) (isStop : Bool) (point : KeyPoint) (line : Text) : Nat :=
  if isStop && point.char = 0 then
    let rest := skipFields separator point.field line
    match separator with
    | some mark =>
        let before := skipFields separator (point.field - 1) line
        line.length - before.length + (before.takeWhile (· ≠ mark)).length
    | none => line.length - rest.length
  else
    let rest := skipFields separator (point.field - 1) line
    let rest := if point.skipsBlanks then rest.dropWhile CharClass.blank.holds else rest
    let count := if isStop then point.char else point.char - 1
    min (line.length - rest.length + count) line.length

def SortKey.part (key : SortKey) (separator : Option Char) (line : Text) : Text :=
  let start := pointIndex separator false key.start line
  let stop := match key.stop with
    | none => line.length
    | some point => pointIndex separator true point line
  (line.take stop).drop start

/-- Reads a point of a key: a field, a character, and letters. -/
def keyPoint (whole text : Text) (isStop : Bool) : Except Text (KeyPoint × List Char) :=
  let fieldDigits := text.takeWhile Char.isDigit
  let rest := text.drop fieldDigits.length
  let (charDigits, rest) : Option Text × Text := match rest with
    | '.' :: more =>
        let digits := more.takeWhile Char.isDigit
        (some digits, more.drop digits.length)
    | _ => (none, rest)
  let invalid (reason : String) : Except Text (KeyPoint × List Char) :=
    .error (reason.toList ++ ": invalid field specification ".toList ++ quoted whole)
  match Text.toNat? fieldDigits with
  | none => .error ((if isStop then "invalid number after ','" else
      "invalid number at field start").toList ++ ": invalid count at start of ".toList ++
      quoted text)
  | some 0 => invalid "field number is zero"
  | some field =>
      if !isStop && charDigits.bind Text.toNat? = some 0 then
        invalid "character offset is zero"
      else if !rest.all fun char => "bdfgiMhnRrV".toList.contains char then
        invalid "stray character in field spec"
      else .ok (⟨field, (charDigits.bind Text.toNat?).getD (if isStop then 0 else 1),
        rest.contains 'b'⟩, rest)

def sortKey (text : Text) : Except Text SortKey := do
  let first := text.takeWhile (· ≠ ',')
  let (start, order) ← keyPoint text first false
  match text.drop first.length with
  | [] => pure ⟨start, none, order⟩
  | _ :: second =>
      let (stop, more) ← keyPoint text second true
      pure ⟨start, some stop, order ++ more⟩

def orderLetters : List Char := "bdfgiMhnRrV".toList

/-- How lines are compared. -/
structure SortOrder where
  separator : Option Char
  keys : List SortKey
  /-- The letters that hold where a key has none. -/
  order : List Char
  /-- Whether lines with equal keys are told apart by their bytes. -/
  thorough : Bool
  deriving DecidableEq, Repr

def turned (isReversed : Bool) (ordering : Ordering) : Ordering :=
  if isReversed then ordering.swap else ordering

/-- Compares two lines. -/
def SortOrder.compare (sorting : SortOrder) (left right : Text) : Ordering :=
  let isPlain := sorting.keys = [] && sorting.order.all (· == 'r')
  let byKeys := if isPlain then Ordering.eq
    else if sorting.keys = [] then
      turned (sorting.order.contains 'r') (compareBy sorting.order left right)
    else
      sorting.keys.foldl
        (fun found key =>
          let order := if key.order.all (· == 'b') then sorting.order ++ key.order else key.order
          let blanks := order.contains 'b'
          let key := { key with
            start := { key.start with skipsBlanks := key.start.skipsBlanks || blanks } }
          match found with
          | .eq => turned (order.contains 'r')
              (compareBy order (key.part sorting.separator left)
                (key.part sorting.separator right))
          | other => other)
        Ordering.eq
  match byKeys with
  | .eq =>
      if sorting.thorough || isPlain then
        turned (sorting.order.contains 'r') (compareText left right)
      else .eq
  | other => other

/-- Keeps the first of each run of equal lines. -/
def dropEqual (sorting : SortOrder) : List Text → List Text
  | [] => []
  | line :: rest =>
      match dropEqual sorting rest with
      | [] => [line]
      | next :: more =>
          if sorting.compare line next = .eq then line :: more else line :: next :: more

/-- The first line that is out of order, with its number. -/
def disorder? (sorting : SortOrder) (strict : Bool) : Nat → List Text → Option (Nat × Text)
  | number, first :: second :: rest =>
      match sorting.compare first second with
      | .gt => some (number + 1, second)
      | .eq => if strict then some (number + 1, second)
          else disorder? sorting strict (number + 1) (second :: rest)
      | .lt => disorder? sorting strict (number + 1) (second :: rest)
  | _, _ => none

def sort : Tool := reading "sort" ⟨"bdfgiMhnRrVcCmsuz", "koStT",
    [("numeric-sort", 'n'), ("reverse", 'r'), ("unique", 'u'), ("key", 'k'),
      ("field-separator", 't'), ("ignore-case", 'f'), ("stable", 's'), ("output", 'o'),
      ("check", 'c'), ("merge", 'm'), ("general-numeric-sort", 'g'),
      ("ignore-leading-blanks", 'b'), ("dictionary-order", 'd'), ("version-sort", 'V'),
      ("human-numeric-sort", 'h'), ("month-sort", 'M'), ("zero-terminated", 'z')], true⟩ 2
    fun state given =>
  match (given.values 'k').mapM sortKey with
  | .error message => done (complain state "sort" message) 2
  | .ok keys =>
      let order := orderLetters.filter given.has
      let unique := given.has 'u'
      let sorting : SortOrder :=
        ⟨(given.value? 't').bind List.head?, keys, order, !unique && !given.has 's'⟩
      let (files, failed, state) := loadAll "sort"
        (fun operand error =>
          (if error = .isDirectory then "read failed: " else "cannot read: ").toList ++
            nameAndReason operand error) state given.operands
      if failed then done state 2
      else
        let lines := files.flatMap fun file => textLines file.2
        if given.has 'c' || given.has 'C' then
          match disorder? sorting unique 1 lines with
          | none => done state 0
          | some (number, line) =>
              let name := (given.operands.headD ['-'])
              let state := if given.has 'C' then state
                else complain state "sort" (name ++ ':' :: Text.ofNat number ++
                  ": disorder: ".toList ++ line)
              done state 1
        else
          let sorted := lines.mergeSort fun left right => sorting.compare left right != .gt
          let shown := if unique then dropEqual sorting sorted else sorted
          match given.value? 'o' with
          | none => done (state.write 1 (endLines shown)) 0
          | some target =>
              match state.openOutput target false false with
              | .ok (channel, opened) =>
                  let written := (opened.setChannel 1 (some channel)).write 1 (endLines shown)
                  done { written with descriptors := state.descriptors } 0
              | .error _ => done (complain state "sort" ("open failed: ".toList ++
                  nameAndReason target .notFound)) 2

end Tools

end FolderScript.Shell
