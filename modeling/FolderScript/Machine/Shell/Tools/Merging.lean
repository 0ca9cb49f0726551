/-
Programs that go through two sorted files together, line by line.
-/
import FolderScript.Machine.Shell.Tools.Sort

namespace FolderScript.Shell

namespace Tools

namespace Merging

/-- A line, and what it is compared by. -/
structure Row where
  text : Text
  key : Text
  fields : List Text := []
  deriving DecidableEq, Repr

/-- When it is checked that a file is sorted. -/
inductive Checking where
  | always
  | never
  /-- Once a line without a partner was found. -/
  | onceUnpaired
  deriving DecidableEq, Repr

/-- How it is to be checked that files are sorted. -/
def Checking.ofGiven (given : Given) : Checking :=
  match given.last? ['χ', 'ν'] with
  | some 'χ' => .always
  | some _ => .never
  | none => .onceUnpaired

/-- One of two files: the lines to come, and those that were read, the last first. -/
structure Reading where
  name : Text
  ahead : List Row
  behind : List Row := []
  warned : Bool := false
  deriving DecidableEq, Repr

/-- Where going through two files has come to. -/
structure Walk where
  left : Reading
  right : Reading
  /-- Whether a line had no partner. -/
  unpaired : Bool := false
  /-- What was written, the last first. -/
  shown : List Text := []
  /-- What was complained about, the last first. -/
  told : List Text := []
  /-- Whether it ended early. -/
  stopped : Bool := false
  deriving DecidableEq, Repr

/-- What tells one of the two files from the other. -/
inductive Which where
  | first
  | second
  deriving DecidableEq, Repr

namespace Walk

def side (walk : Walk) : Which → Reading
  | .first => walk.left
  | .second => walk.right

def setSide (walk : Walk) (which : Which) (side : Reading) : Walk :=
  match which with
  | .first => { walk with left := side }
  | .second => { walk with right := side }

def show1 (walk : Walk) (text : Text) : Walk := { walk with shown := text :: walk.shown }

/-- Checks that a line does not come after the one that follows it; what is wrong is
told once for each file. -/
def check (checking : Checking) (words : Which → Reading → Row → Text) (which : Which)
    (earlier later : Row) (walk : Walk) : Walk :=
  let side := walk.side which
  let isDue := checking = .always || (checking = .onceUnpaired && walk.unpaired)
  if isDue && !side.warned && compareText earlier.key later.key = .gt then
    { (walk.setSide which { side with warned := true }) with
      told := words which side later :: walk.told
      stopped := walk.stopped || checking = .always }
  else walk

def next (checking : Checking) (words : Which → Reading → Row → Text) (which : Which)
    (walk : Walk) : Option Row × Walk :=
  let side := walk.side which
  match side.ahead with
  | [] => (none, walk)
  | row :: ahead =>
      let read := walk.setSide which { side with ahead := ahead, behind := row :: side.behind }
      match side.behind with
      | [] => (some row, read)
      | earlier :: _ => (some row, read.check checking words which earlier row)

end Walk

/-- Ends a program that went through two files. -/
def finish (tool : String) (state : State) (walk : Walk) : Flow × State :=
  let state := state.write 1 walk.shown.reverse.flatten
  let state := walk.told.reverse.foldl (fun state message => complain state tool message) state
  if walk.stopped then done state 1
  else if walk.left.warned || walk.right.warned then
    done (complain state tool "input is not in sorted order".toList) 1
  else done state 0

/-- Goes on with the contents of two operands, or complains. -/
def withFiles (tool : String) (state : State) (given : Given)
    (action : State → Text → Text → Bytes → Bytes → Flow × State) : Flow × State :=
  match given.operands with
  | [] => done (misused state tool "missing operand".toList) 1
  | [operand] => done (misused state tool ("missing operand after ".toList ++ quoted operand)) 1
  | _ :: _ :: operand :: _ =>
      done (misused state tool ("extra operand ".toList ++ quoted operand)) 1
  | [first, second] =>
      let failed (operand : Text) (error : IoError) : Flow × State :=
        done (complain state tool (if tool = "join" && error = .isDirectory then
            "read error: ".toList ++ reason error
          else nameAndReason operand error)) 1
      match load state first with
      | .error error => failed first error
      | .ok (left, state) =>
          match load state second with
          | .error error => failed second error
          | .ok (right, state) => action state first second left right

def linesOf (ending : Char) (data : Bytes) : List Text :=
  let lines := (Text.ofBytes data).splitOn ending
  if lines.getLast? = some [] then lines.dropLast else lines

namespace Common

/-- The words about a file that is not sorted. -/
def words (which : Which) (_ : Reading) (_ : Row) : Text :=
  (match which with
    | .first => "file 1 is not in sorted order"
    | .second => "file 2 is not in sorted order").toList

/-- Reads on in a file; at its end its last two lines are looked at once more. -/
def step (checking : Checking) (which : Which) (walk : Walk) : Option Row × Walk :=
  match walk.next checking words which, (walk.side which).behind with
  | (none, after), last :: earlier :: _ => (none, after.check checking words which earlier last)
  | found, _ => found

/-- How the three columns are told apart. -/
structure Form where
  given : Given
  divider : Text
  ending : Char
  checking : Checking

/-- Goes through two files from the lines that were read last, and counts those of
each column. -/
def rows (form : Form) : Nat → Option Row → Option Row → Walk → Nat × Nat × Nat → Walk × Nat × Nat × Nat
  | 0, _, _, walk, counts => (walk, counts)
  | fuel + 1, left, right, walk, counts =>
      let column (letter : Char) (depth : List Char) (row : Row) (walk : Walk) : Walk :=
        if form.given.has letter then walk
        else
          let gap := (depth.filter fun other => !form.given.has other).flatMap fun _ => form.divider
          walk.show1 (gap ++ row.text ++ [form.ending])
      let order : Ordering := match left, right with
        | some left, some right => compareText left.key right.key
        | none, _ => .gt
        | _, none => .lt
      if walk.stopped then (walk, counts)
      else
        match order, left, right with
        | .eq, some row, _ =>
            let walk := column '3' ['1', '2'] row walk
            let (left, walk) := step form.checking .first walk
            let (right, walk) := if walk.stopped then (none, walk)
              else step form.checking .second walk
            rows form fuel left right walk (counts.1, counts.2.1, counts.2.2 + 1)
        | .lt, some row, _ =>
            let walk := column '1' [] row { walk with unpaired := true }
            let (left, walk) := step form.checking .first walk
            rows form fuel left right walk (counts.1 + 1, counts.2)
        | .gt, _, some row =>
            let walk := column '2' ['1'] row { walk with unpaired := true }
            let (right, walk) := step form.checking .second walk
            rows form fuel left right walk (counts.1, counts.2.1 + 1, counts.2.2)
        | _, _, _ => (walk, counts)

end Common

namespace Join

/-- A field to be shown: the one the lines are joined by, or one of a file. -/
inductive Item where
  | joined
  | field (which : Which) (index : Nat)
  deriving DecidableEq, Repr

/-- How lines are joined and shown. -/
structure Form where
  /-- The character between fields; without one they are told apart by blanks. -/
  tab? : Option (Option Char)
  firstField : Nat
  secondField : Nat
  ignoresCase : Bool
  /-- What stands for a field that is not there. -/
  filler : Text
  items? : Option (List Item)
  ending : Char
  checking : Checking
  showsPaired : Bool
  showsFirst : Bool
  showsSecond : Bool

def fieldsOf (form : Form) (line : Text) : List Text :=
  match form.tab? with
  | none => (line.splitBy fun left right => isBlank left == isBlank right).filter
      fun part => !part.any isBlank
  | some none => [line]
  | some (some tab) => if line = [] then [] else line.splitOn tab
where
  /-- Whether a character stands between fields. -/
  isBlank (char : Char) : Bool := char == ' ' || char == '\t' || char == '\n'

def Form.fieldOf (form : Form) : Which → Nat
  | .first => form.firstField
  | .second => form.secondField

def rowOf (form : Form) (which : Which) (line : Text) : Row :=
  let fields := fieldsOf form line
  let key := fields.getD (form.fieldOf which) []
  ⟨line, if form.ignoresCase then key.map Char.toUpper else key, fields⟩

def shownField (form : Form) (row? : Option Row) (index : Nat) : Text :=
  match row?.bind fun row => row.fields[index]? with
  | some [] | none => form.filler
  | some field => field

/-- The line that two lines give, of which one may be missing. -/
def joinedLine (form : Form) (left right : Option Row) : Text :=
  let divider : Char := match form.tab? with
    | some (some tab) => tab
    | _ => ' '
  let key : Text := match left with
    | some row => shownField form (some row) form.firstField
    | none => shownField form right form.secondField
  let others (row? : Option Row) (field : Nat) : List Text :=
    match row? with
    | none => []
    | some row => (row.fields.zipIdx.filter fun item => item.2 ≠ field).map fun item =>
        if item.1 = [] then form.filler else item.1
  let parts := match form.items? with
    | none => key :: others left form.firstField ++ others right form.secondField
    | some items => items.map fun (item : Item) => match item with
        | .joined => key
        | .field .first index => shownField form left index
        | .field .second index => shownField form right index
  (parts.intersperse [divider]).flatten ++ [form.ending]

/-- The words about a file that is not sorted. -/
def words (_ : Which) (side : Reading) (row : Row) : Text :=
  Quoting.whenNeeded side.name ++ ':' :: Text.ofNat (side.behind.length) ++
    ": is not sorted: ".toList ++ row.text

/-- Shows a line without a partner. -/
def lonely (form : Form) (which : Which) (row : Row) (walk : Walk) : Walk :=
  match which with
  | .first => if form.showsFirst then walk.show1 (joinedLine form (some row) none) else walk
  | .second => if form.showsSecond then walk.show1 (joinedLine form none (some row)) else walk

/-- Reads the lines of a file that are joined by the same, and the one after them. -/
def group (form : Form) (which : Which) (key : Text) :
    Nat → List Row → Walk → List Row × Option Row × Walk
  | 0, rows, walk => (rows.reverse, none, walk)
  | fuel + 1, rows, walk =>
      match walk.next form.checking words which with
      | (none, walk) => (rows.reverse, none, walk)
      | (some row, walk) =>
          if row.key = key then group form which key fuel (row :: rows) walk
          else (rows.reverse, some row, walk)

/-- Goes to the end of a file whose partner has ended. -/
def tail (form : Form) (which : Which) : Nat → Walk → Walk
  | 0, walk => walk
  | fuel + 1, walk =>
      match walk.next form.checking words which with
      | (none, walk) => walk
      | (some row, walk) =>
          if walk.stopped then walk else tail form which fuel (lonely form which row walk)

/-- Goes through two files from the lines that were read last. -/
def rows (form : Form) : Nat → Option Row → Option Row → Walk → Walk
  | 0, _, _, walk => walk
  | fuel + 1, left, right, walk =>
      if walk.stopped then walk
      else
        match left, right with
        | some first, some second =>
            match compareText first.key second.key with
            | .lt =>
                let (left, walk) := (lonely form .first first walk).next form.checking words .first
                rows form fuel left right { walk with unpaired := true }
            | .gt =>
                let (right, walk) := (lonely form .second second walk).next form.checking words .second
                rows form fuel left right { walk with unpaired := true }
            | .eq =>
                let (lefts, left, walk) := group form .first second.key fuel [first] walk
                let (rights, right, walk) := if walk.stopped then ([], none, walk)
                  else group form .second first.key fuel [second] walk
                let pairs := lefts.flatMap fun left => rights.map fun right =>
                  joinedLine form (some left) (some right)
                let walk := if form.showsPaired && !walk.stopped then
                    { walk with shown := pairs.reverse ++ walk.shown }
                  else walk
                rows form fuel left right walk
        | some row, none => tail form .first fuel (lonely form .first row walk)
        | none, some row => tail form .second fuel (lonely form .second row walk)
        | none, none => walk

def fieldNumber (text : Text) : Except Text Nat :=
  match if text.all Char.isDigit then Text.toNat? text else none with
  | some (number + 1) => .ok number
  | _ => .error ("invalid field number: ".toList ++ quoted text)

/-- A field to be shown, as it is written. -/
def itemOf (text : Text) : Except Text Item :=
  match text with
  | ['0'] => .ok .joined
  | '0' :: _ => .error ("invalid field specifier: ".toList ++ quoted text)
  | file :: '.' :: rest =>
      if file = '1' then (fieldNumber rest).map (.field .first)
      else if file = '2' then (fieldNumber rest).map (.field .second)
      else .error ("invalid file number in field spec: ".toList ++ quoted text)
  | file :: _ =>
      if file = '1' || file = '2' then .error ("invalid field specifier: ".toList ++ quoted text)
      else .error ("invalid file number in field spec: ".toList ++ quoted text)
  | [] => .error ("invalid file number in field spec: ".toList ++ quoted text)

/-- The fields of a list, between commas or blanks. -/
def itemsOf (text : Text) : Except Text (List Item) :=
  (text.splitOnP fun char => char = ',' || char = ' ' || char = '\t').mapM itemOf

/-- The character that a value gives for what stands between fields. -/
def tabOf (text : Text) : Except Text (Option Char) :=
  match text with
  | [] => .ok none
  | [char] => .ok (some char)
  | ['\\', '0'] => .ok (some (Char.ofNat 0))
  | _ => .error ("multi-character tab ".toList ++ quoted text)

/-- Reads the switches one after the other, as far as they make sense. -/
def formOf (given : Given) : Except Text Form := do
  let mut tab : Option (Option Char) := none
  let mut first : Option Nat := none
  let mut second : Option Nat := none
  let mut filler : Option Text := none
  let mut items : Option (List Item) := none
  let clash (before now : Nat) : Text := "incompatible join fields ".toList ++
    Text.ofNat before ++ ", ".toList ++ Text.ofNat now
  for (letter, value) in given.switches do
    match letter with
    | 't' =>
        let found ← tabOf value
        if tab.isSome && tab ≠ some found then throw "incompatible tabs".toList
        tab := some found
    | '1' | '2' | 'j' =>
        let field ← fieldNumber value
        if letter ≠ '2' then
          match first with
          | some before => if before ≠ field then throw (clash before field)
          | none => first := some field
        if letter ≠ '1' then
          match second with
          | some before => if before ≠ field then throw (clash before field)
          | none => second := some field
    | 'e' =>
        if filler.isSome && filler ≠ some value then
          throw "conflicting empty-field replacement strings".toList
        filler := some value
    | 'a' | 'v' =>
        if value ≠ ['1'] && value ≠ ['2'] then
          throw ("invalid field number: ".toList ++ quoted value)
    | 'o' =>
        if value ≠ "auto".toList then items := some (items.getD [] ++ (← itemsOf value))
    | _ => pure ()
  let shows (value : Text) : Bool :=
    (given.values 'a').contains value || (given.values 'v').contains value
  return {
    tab? := tab, firstField := first.getD 0, secondField := second.getD 0
    ignoresCase := given.has 'i', filler := filler.getD [], items? := items
    ending := if given.has 'z' then Char.ofNat 0 else '\n'
    checking := .ofGiven given, showsPaired := !given.has 'v'
    showsFirst := shows ['1'], showsSecond := shows ['2'] }

/-- The fields that the first lines have, which are shown of all lines. -/
def autoItems (form : Form) (left right : Option Row) : List Item :=
  let items (which : Which) (row? : Option Row) : List Item :=
    match row? with
    | none => []
    | some row => ((List.range row.fields.length).filter (· ≠ form.fieldOf which)).map (.field which)
  .joined :: items .first left ++ items .second right

end Join

end Merging

open Merging in
def comm : Tool := readingWith "comm" ⟨"123zτχν", "δ", [("total", 'τ'), ("check-order", 'χ'),
    ("nocheck-order", 'ν'), ("output-delimiter", 'δ'), ("zero-terminated", 'z')], true⟩ 1
    (fun _ _ => none) fun state given =>
  let dividers := given.values 'δ'
  if 1 < dividers.eraseDups.length then
    done (complain state "comm" "multiple output delimiters specified".toList) 1
  else
    withFiles "comm" state given fun state first second left right =>
      let ending := if given.has 'z' then Char.ofNat 0 else '\n'
      let divider : Text := match dividers with
        | [] => ['\t']
        | [] :: _ => [Char.ofNat 0]
        | text :: _ => text
      let form : Common.Form := ⟨given, divider, ending, .ofGiven given⟩
      let sideOf (name : Text) (data : Bytes) : Reading :=
        { name := name, ahead := (linesOf ending data).map fun line => ⟨line, line, []⟩ }
      let walk : Walk := { left := sideOf first left, right := sideOf second right }
      let supply := walk.left.ahead.length + walk.right.ahead.length + 1
      let (left, walk) := Common.step form.checking .first walk
      let (right, walk) := Common.step form.checking .second walk
      let (walk, lefts, rights, both) := Common.rows form supply left right walk (0, 0, 0)
      let totals := ([Text.ofNat lefts, Text.ofNat rights, Text.ofNat both,
        "total".toList].intersperse divider).flatten ++ [ending]
      let walk := if given.has 'τ' && !walk.stopped then walk.show1 totals else walk
      if first = ['-'] && second = ['-'] then
        done (complain (state.write 1 walk.shown.reverse.flatten) "comm"
          ("-: ".toList ++ reason .badDescriptor)) 1
      else finish "comm" state walk

open Merging in
def join : Tool := reading "join" ⟨"izχνη", "12aejotv", [("ignore-case", 'i'),
    ("check-order", 'χ'), ("nocheck-order", 'ν'), ("header", 'η'), ("zero-terminated", 'z')],
    true⟩ 1 fun state given =>
  match Join.formOf given with
  | .error message => done (complain state "join" message) 1
  | .ok form =>
      if given.operands = [['-'], ['-']] then
        done (complain state "join" "both files cannot be standard input".toList) 1
      else
        withFiles "join" state given fun state first second left right =>
          let sideOf (which : Which) (name : Text) (data : Bytes) : Reading :=
            { name := name, ahead := (linesOf form.ending data).map (Join.rowOf form which) }
          let walk : Walk :=
            { left := sideOf .first first left, right := sideOf .second second right }
          let supply := walk.left.ahead.length + walk.right.ahead.length + 2
          let (left, walk) := walk.next form.checking Join.words .first
          let (right, walk) := walk.next form.checking Join.words .second
          let form := if (given.value? 'o') = some "auto".toList then
              { form with items? := some (Join.autoItems form left right) }
            else form
          if given.has 'η' && (left.isSome || right.isSome) then
            let walk := walk.show1 (Join.joinedLine form left right)
            let forget (side : Reading) : Reading := { side with behind := [] }
            let walk := { walk with left := forget walk.left, right := forget walk.right }
            let (left, walk) := walk.next form.checking Join.words .first
            let (right, walk) := walk.next form.checking Join.words .second
            finish "join" state (Join.rows form supply left right walk)
          else finish "join" state (Join.rows form supply left right walk)

end Tools

end FolderScript.Shell
