/-
Tools that cut lines into columns, put lines side by side, and bring lines to a width.
-/
import FolderScript.Machine.Shell.Tools.Counting

namespace FolderScript.Shell

namespace Tools

/-- A range of positions: from, and up to if it has an end. -/
abbrev Span := Nat × Option Nat

/-- Cuts a text at a character. -/
def splitAt (separator : Char) (text : Text) : List Text :=
  text.foldr
    (fun char (parts : List Text) =>
      match parts with
      | [] => [[char]]
      | part :: others => if char = separator then [] :: part :: others
        else (char :: part) :: others)
    [[]]

def linesEndedBy (stop : UInt8) (data : Bytes) : List Text :=
  (chunks stop data).map fun chunk =>
    Text.ofBytes (if chunk.getLast? = some stop then chunk.dropLast else chunk)

/-- What a list of positions counts, for its complaints. -/
structure Positions where
  none_ : String
  value : String
  range : String
  large : String

/-- The words for lists of fields. -/
def fieldPositions : Positions :=
  ⟨"fields are numbered from 1", "invalid field value ", "invalid field range", "field number "⟩

/-- The words for lists of bytes. -/
def bytePositions : Positions :=
  ⟨"byte/character positions are numbered from 1", "invalid byte/character position ",
    "invalid byte or character range", "byte/character offset "⟩

/-- One range of a list; what stands after it in the list is there for complaints. -/
def span (words : Positions) (item after : Text) : Except Text Span := do
  let low := item.takeWhile Char.isDigit
  let number (digits rest : Text) : Except Text Nat :=
    match Text.toNat? digits with
    | some 0 => .error words.none_.toList
    | some number =>
        if Magnitude.limit - 1 ≤ number then
          .error (words.large.toList ++ quoted digits ++ " is too large".toList)
        else .ok number
    | none => .error (if rest = [] then words.none_.toList else words.value.toList ++ quoted rest)
  match item.drop low.length with
  | [] => do
      let position ← number low []
      pure (position, some position)
  | '-' :: rest =>
      let first ← if low = [] then pure 1 else number low []
      let high := rest.takeWhile Char.isDigit
      match rest.drop high.length with
      | [] =>
          if high ≠ [] then
            if Text.toNat? high = some 0 && first > 0 then throw "invalid decreasing range".toList
            let last ← number high []
            if last < first then throw "invalid decreasing range".toList
            pure (first, some last)
          else if low = [] then throw "invalid range with no endpoint: -".toList
          else pure (first, none)
      | '-' :: _ => throw words.range.toList
      | bad => throw (words.value.toList ++ quoted (bad ++ after))
  | bad => throw (words.value.toList ++ quoted (bad ++ after))

/-- The ranges of a list such as `1,3-5,7-`; the error is a complaint. -/
def spans (words : Positions) : Nat → Text → Except Text (List Span)
  | 0, _ => .ok []
  | fuel + 1, text => do
      let isMark (char : Char) : Bool := char == ',' || char == ' ' || char == '\t'
      let item := text.takeWhile fun char => !isMark char
      let after := text.drop item.length
      let found ← span words item after
      match after with
      | [] => pure [found]
      | _ :: rest => pure (found :: (← spans words fuel rest))

def Span.holds (range : Span) (position : Nat) : Bool :=
  range.1 ≤ position && (match range.2 with
    | none => true
    | some last => position ≤ last)

/-- Ranges in order, those that overlap made one. -/
def merged (ranges : List Span) : List Span :=
  (ranges.mergeSort fun left right => left.1 ≤ right.1).foldr
    (fun range (others : List Span) =>
      match others with
      | next :: rest =>
          let overlaps := match range.2 with
            | none => true
            | some last => next.1 ≤ last
          if overlaps then
            (range.1, match range.2, next.2 with
              | some last, some other => some (max last other)
              | _, _ => none) :: rest
          else range :: others
      | [] => [range])
    []

/-- What is not in some ranges that are in order. -/
def gaps : Nat → List Span → List Span
  | start, [] => [(start, none)]
  | start, (first, last) :: rest =>
      let before := if start < first then [(start, some (first - 1))] else []
      before ++ (match last with
        | none => []
        | some last => gaps (last + 1) rest)

def pickGroups {α : Type} (ranges : List Span) (items : List α) : List (List α) :=
  (ranges.map fun range =>
    match range.2 with
    | none => items.drop (range.1 - 1)
    | some last => (items.take last).drop (range.1 - 1)).filter fun group => !group.isEmpty

def cutRefusal? (letter : Char) (value : Text) : Option Refusal :=
  if letter = 'd' && value.length > 1 then
    some ⟨"the delimiter must be a single character".toList, true⟩
  else none

def cut : Tool := readingWith "cut" ⟨"snz\x01", "bcdf\x02", [("bytes", 'b'), ("characters", 'c'),
    ("delimiter", 'd'), ("fields", 'f'), ("only-delimited", 's'), ("complement", '\x01'),
    ("output-delimiter", '\x02'), ("zero-terminated", 'z')], true⟩ 1 cutRefusal?
    fun state given =>
  let refused (message : String) : Flow × State := done (misused state "cut" message.toList) 1
  let lists := given.switches.filter fun switch => ['b', 'c', 'f'].contains switch.1
  match lists with
  | [] => refused "you must specify a list of bytes, characters, or fields"
  | _ :: _ :: _ => refused "only one list may be specified"
  | [(letter, list)] =>
      let delimiter := (given.value? 'd').getD ['\t']
      let byFields := letter = 'f'
      if given.has 'd' && !byFields then
        refused "an input delimiter may be specified only when operating on fields"
      else if given.has 's' && !byFields then
        refused ("suppressing non-delimited lines makes sense\n\tonly when operating on fields")
      else
        match spans (if byFields then fieldPositions else bytePositions) (list.length + 1) list with
        | .error message => done (misused state "cut" message) 1
        | .ok ranges =>
            let ranges := if given.has '\x01' then gaps 1 (merged ranges) else merged ranges
            let mark := delimiter.headD '\x00'
            let joiner := (given.value? '\x02').getD (if byFields then [mark] else [])
            let (files, failed, state) := loadAll "cut" nameAndReason state given.operands
            let stop := lineEnd given
            let lines := files.flatMap fun file => linesEndedBy stop file.2
            let shown := lines.filterMap fun line =>
              if !byFields then some (Text.join joiner (pickGroups ranges line))
              else if !line.contains mark then (if given.has 's' then none else some line)
              else some (Text.join joiner (pickGroups ranges (splitAt mark line)).flatten)
            let ending := Char.ofNat stop.toNat
            done (state.write 1 (shown.flatMap fun line => line ++ [ending]))
              (if failed then 1 else 0)

/-- The marks of a list of delimiters, an empty one for a backslash and a zero; none if
the list ends in a lone backslash. -/
def delimiterMarks? : Text → Option (List Text)
  | [] => some []
  | ['\\'] => none
  | '\\' :: char :: rest =>
      let mark : Text := if char = '0' then [] else
        match Format.letter? char with
        | some letter => if "bfnrtv".toList.contains char then [letter] else [char]
        | none => [char]
      (delimiterMarks? rest).map (mark :: ·)
  | char :: rest => (delimiterMarks? rest).map ([char] :: ·)

/-- The mark in front of the item at an index, the marks used in turn. -/
def markBefore (marks : List Text) (index : Nat) : Text :=
  if index = 0 || marks = [] then [] else marks.getD ((index - 1) % marks.length) []

/-- Rows of one line from each of some files, as long as one has a line left. -/
def pasteRows (marks : List Text) : Nat → List (List Text) → List Text
  | 0, _ => []
  | fuel + 1, columns =>
      if columns.all List.isEmpty then []
      else
        ((columns.zipIdx).flatMap fun (column, index) =>
          markBefore marks index ++ column.headD []) ::
          pasteRows marks fuel (columns.map List.tail)

/-- Deals lines out to so many readers in turn. -/
def deal (count : Nat) (lines : List Text) : List (List Text) :=
  (List.range count).map fun index =>
    (lines.zipIdx.filter fun (_, place) => place % count == index).map Prod.fst

def serial (marks : List Text) (lines : List Text) : Text :=
  (lines.zipIdx).flatMap fun (line, index) => markBefore marks index ++ line

def paste : Tool := reading "paste" ⟨"sz", "d", [("delimiters", 'd'), ("serial", 's'),
    ("zero-terminated", 'z')], true⟩ 1 fun state given =>
  match delimiterMarks? ((given.value? 'd').getD ['\t']) with
  | none =>
      done (complain state "paste" ("delimiter list ends with an unescaped backslash: ".toList ++
        (given.value? 'd').getD [])) 1
  | some marks =>
      let operands := if given.operands = [] then [['-']] else given.operands
      let dashes := operands.countP (· == ['-'])
      let stop := lineEnd given
      let inSeries := given.has 's'
      let (files, failed, state) := loadAll "paste" nameAndReason state
        (operands.filter (· ≠ ['-']) ++ (if dashes = 0 then [] else [['-']]))
      let unopened := operands.any fun operand =>
        operand ≠ ['-'] && !(state.stat operand).toOption.isSome
      if unopened && !inSeries then done state 1
      else
        let shared := deal (if inSeries then 1 else dashes)
          (linesEndedBy stop ((List.lookup ['-'] files).getD []))
        let (columns, _) := operands.foldl
          (fun (columns, taken) operand =>
            if operand = ['-'] then (columns ++ [shared.getD taken []], taken + 1)
            else if inSeries && (List.lookup operand files).isNone then (columns, taken)
            else (columns ++ [linesEndedBy stop ((List.lookup operand files).getD [])], taken))
          (([] : List (List Text)), 0)
        let rows := if inSeries then columns.map (serial marks)
          else pasteRows marks ((columns.map List.length).foldl max 0 + 1) columns
        done (state.write 1 (rows.flatMap fun row => row ++ [Char.ofNat stop.toNat]))
          (if failed then 1 else 0)

def columnAfter (inBytes : Bool) (column : Nat) (char : Char) : Nat :=
  if inBytes then column + 1
  else if char = '\x08' then column - 1
  else if char = '\r' then 0
  else if char = '\t' then column + 8 - column % 8
  else column + 1

/-- How lines are folded. -/
structure Folding where
  width : Nat
  atBlanks : Bool
  inBytes : Bool

namespace Folding

/-- The lines that are full once a character comes to a line that is kept turned around,
the line that is begun, and its column. -/
def step (folding : Folding) : Nat → Text → Nat → Char → List Text × Text × Nat
  | 0, line, column, char => ([], char :: line, columnAfter folding.inBytes column char)
  | fuel + 1, line, column, char =>
      let next := columnAfter folding.inBytes column char
      if next ≤ folding.width then ([], char :: line, next)
      else
        let tail := if folding.atBlanks then
            line.takeWhile fun char => !CharClass.blank.holds char
          else []
        if folding.atBlanks && tail.length < line.length then
          let start := tail.reverse.foldl (columnAfter folding.inBytes) 0
          let (full, rest) := folding.step fuel tail start char
          ((line.drop tail.length).reverse :: full, rest)
        else if line = [] then ([], [char], next)
        else
          let (full, rest) := folding.step fuel [] 0 char
          (line.reverse :: full, rest)

def lines (folding : Folding) (line : Text) : List Text :=
  let supply := line.length + 2
  let (full, last, _) := line.foldl
    (fun (found, begun, column) char =>
      let (full, begun, column) := folding.step supply begun column char
      (full.reverse ++ found, begun, column))
    (([] : List Text), ([] : Text), 0)
  (last.reverse :: full).reverse

end Folding

/-- An old way to give a width, as in `-72`, written as a switch. -/
def widthArgument : Text → Text
  | '-' :: digit :: rest => if digit.isDigit then '-' :: 'w' :: digit :: rest else '-' :: digit :: rest
  | argument => argument

def fold : Tool := fun state arguments =>
  readingWith "fold" ⟨"bs", "w", [("width", 'w'), ("spaces", 's'), ("bytes", 'b')], true⟩ 1
    (fun letter value => if letter = 'w' then
        Magnitude.refusal? "invalid number of columns" "" 1 (Magnitude.limit - 10) value
      else none)
    (fun state given =>
      let folding : Folding :=
        ⟨Magnitude.getD "" (given.value? 'w') 80, given.has 's', given.has 'b'⟩
      let (files, failed, state) := loadAll "fold" nameAndReason state given.operands
      let shown := files.flatMap fun file => (byteLines file.2).flatMap fun line =>
        let text := Text.ofBytes line
        let ends := text.getLast? = some '\n'
        Text.join ['\n'] (folding.lines (if ends then text.dropLast else text)) ++
          (if ends then ['\n'] else [])
      done (state.write 1 shown) (if failed then 1 else 0))
    state (arguments.map widthArgument)

/-- Tab stops: some columns, and how the stops go on after them. -/
structure TabStops where
  columns : List Nat
  /-- The distance of further stops; none if there are no more. -/
  further : Option Nat
  /-- Whether further stops are counted from the last column. -/
  fromLast : Bool := false

namespace TabStops

def usual : TabStops := ⟨[], some 8, false⟩

def next? (stops : TabStops) (column : Nat) : Option Nat :=
  match stops.columns.find? (column < ·), stops.further with
  | some stop, _ => some stop
  | none, some size =>
      let base := if stops.fromLast then stops.columns.getLastD 0 else 0
      some (column + size - (column - base) % size)
  | none, none => none

/-- The stops that a list spells; the error is a complaint. -/
def read (text : Text) : Except Text TabStops := do
  let isMark (char : Char) : Bool := char == ',' || char == ' ' || char == '\t'
  let items := ((text.map fun char => if isMark char then ',' else char).splitOn ',').filter
    (· ≠ [])
  let numbers ← items.mapM fun item => do
    let (mark, digits) : Option Char × Text := match item with
      | '/' :: rest => (some '/', rest)
      | '+' :: rest => (some '+', rest)
      | _ => (none, item)
    let bad := digits.dropWhile Char.isDigit
    if bad ≠ [] then
      throw ("tab size contains invalid character(s): ".toList ++ quoted bad)
    pure (mark, (Text.toNat? digits).getD 0)
  let columns := (numbers.filter fun number => number.1.isNone).map Prod.snd
  if columns.contains 0 then throw "tab size cannot be 0".toList
  if (columns.zip columns.tail).any fun (left, right) => right ≤ left then
    throw "tab sizes must be ascending".toList
  match numbers.find? fun number => number.1.isSome, columns with
  | some (mark, size), _ => pure ⟨columns, some size, mark = some '+'⟩
  | none, [] => pure usual
  | none, [size] => pure ⟨[], some size, false⟩
  | none, _ => pure ⟨columns, none, false⟩

end TabStops

/-- A line with its tabs replaced by blanks; with `initial` only those in front. -/
def untabbed (stops : TabStops) (initial : Bool) (line : Text) : Text :=
  (line.foldl
    (fun ((shown : Text), column, active) char =>
      if active && char = '\t' then
        let count := ((stops.next? column).getD (column + 1)) - column
        (List.replicate count ' ' ++ shown, column + count, active)
      else if char = '\x08' then (char :: shown, column - 1, active && !initial)
      else (char :: shown, column + 1, active && (!initial || CharClass.blank.holds char)))
    ([], 0, true)).1.reverse

/-- Old ways to give tab stops, as in `-4` or `-2,5`, written as a switch. -/
def tabsArgument : Text → Text
  | '-' :: digit :: rest => if digit.isDigit then '-' :: 't' :: digit :: rest else '-' :: digit :: rest
  | argument => argument

/-- Changes each line of some files, whose tab stops are given. -/
def withTabStops (tool : String) (letters : String) (names : List (String × Char))
    (change : Given → TabStops → Text → Text) : Tool := fun state arguments =>
  reading tool ⟨letters, "t", ("tabs", 't') :: names, true⟩ 1 (fun state given =>
    match TabStops.read (Text.join [','] (given.values 't')) with
    | .error message => done (complain state tool message) 1
    | .ok stops =>
        let (files, failed, state) := loadAll tool nameAndReason state given.operands
        let shown := (byteLines (joined files)).flatMap fun line =>
          let text := Text.ofBytes line
          if text.getLast? = some '\n' then change given stops text.dropLast ++ ['\n']
          else change given stops text
        done (state.write 1 shown) (if failed then 1 else 0))
    state (arguments.map tabsArgument)

def expand : Tool := withTabStops "expand" "i" [("initial", 'i')] fun given stops line =>
  untabbed stops (given.has 'i') line

/-- The blanks and tabs that lead from one column to another; a single blank in front of
a stop stays a blank unless blanks stand before it. -/
def tabsTo (stops : TabStops) : Nat → Nat → Nat → Text
  | 0, _, _ => []
  | fuel + 1, column, goal =>
      match stops.next? column with
      | some stop =>
          if stop ≤ goal then '\t' :: tabsTo stops fuel stop goal
          else List.replicate (goal - column) ' '
      | none => List.replicate (goal - column) ' '

/-- A line with its blanks replaced by tabs where they reach a stop; with `initial` only
those in front. -/
def tabbed (stops : TabStops) (initial : Bool) : Nat → Nat → Bool → Text → Text
  | 0, _, _, line => line
  | _ + 1, _, _, [] => []
  | fuel + 1, column, active, char :: rest =>
      if !active then char :: rest
      else if CharClass.blank.holds char then
        let gap := (char :: rest).takeWhile CharClass.blank.holds
        let goal := gap.foldl
          (fun column char => if char = '\t' then (stops.next? column).getD (column + 1)
            else column + 1)
          column
        let shown := if gap = [' '] then [' '] else tabsTo stops (goal + 1) column goal
        shown ++ tabbed stops initial fuel goal active ((char :: rest).drop gap.length)
      else char :: tabbed stops initial fuel (column + 1) (!initial) rest

def unexpand : Tool := withTabStops "unexpand" "a\x01" [("all", 'a'), ("first-only", '\x01')]
    fun given stops line =>
  let everywhere := (given.has 'a' || given.has 't') && !given.has '\x01'
  tabbed stops (!everywhere) (line.length + 1) 0 true line

end Tools

end FolderScript.Shell
