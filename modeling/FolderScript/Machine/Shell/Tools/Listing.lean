/-
The program that lists directories.
-/
import FolderScript.Machine.Shell.Calendar
import FolderScript.Machine.Shell.Tools.Magnitude
import FolderScript.Machine.Shell.Tools.Sort

namespace FolderScript.Shell

namespace Tools

/-- The names in a directory, in order. -/
def sortedNames (state : State) (position : Position) : List Text :=
  ((state.world.files.names position).map Text.ofBytes).mergeSort Pattern.notAfter

def below (path name : Text) : Text :=
  if path = [] then name
  else if path.getLast? = some '/' then path ++ name
  else path ++ '/' :: name

/-- The zone that times are told in. -/
def zoneOf (state : State) : Calendar.Zone :=
  match state.value? "TZ".toList with
  | some text => .ofText text
  | none => .zero

/-- The moment at which a program looks at the clock. -/
def now (state : State) : Moment := State.momentOf state.clock

/-- How much room a file takes, in blocks of 1024 bytes. -/
def blocksOf (state : State) (entry : Entry) : Nat :=
  match state.kindOf entry with
  | .regular => (state.sizeOf entry + 4095) / 4096 * 4
  | .directory => 4
  | _ => 0

/-- Three letters for three bits of permissions, the last as it is with a further bit. -/
def permissionLetters (bits : Nat) (special : Bool) (alone both : Char) : Text :=
  [if bits / 4 % 2 = 1 then 'r' else '-', if bits / 2 % 2 = 1 then 'w' else '-',
    if bits % 2 = 1 then (if special then both else 'x') else if special then alone else '-']

def kindLetter : FileKind → Char
  | .directory => 'd'
  | .regular => '-'
  | .link => 'l'
  | .character => 'c'
  | .pipe => 'p'

/-- The kind and the permissions of a file in ten letters. -/
def modeText (state : State) (node : Node) : Text :=
  let mode := node.mode
  kindLetter (state.kindOf node.entry) ::
    permissionLetters (mode / 64 % 8) (mode / 2048 % 2 = 1) 'S' 's' ++
    permissionLetters (mode / 8 % 8) (mode / 1024 % 2 = 1) 'S' 's' ++
    permissionLetters (mode % 8) (mode / 512 % 2 = 1) 'T' 't'

/-- How many positions stand for a file; every directory in a directory is one more. -/
def linksOf (state : State) (position : Position) (node : Node) : Nat :=
  if node.entry = .directory then
    2 + ((state.world.files.names position).filter fun name =>
      state.world.files.get? (position ++ [name]) = some .directory).length
  else state.world.files.linkCount node.identity

/-- A size with a letter for its magnitude, rounded up. -/
def humanSize (base : Nat) (size : Nat) : Text :=
  let letters := (if base = 1000 then "kMGTPE" else "KMGTPE").toList
  let rec scale (divisor : Nat) : List Char → Text
    | [] => Text.ofNat size
    | letter :: more =>
        let tenths := (size * 10 + divisor - 1) / divisor
        if tenths < 100 then
          Text.ofNat (tenths / 10) ++ '.' :: Text.ofNat (tenths % 10) ++ [letter]
        else
          let whole := (size + divisor - 1) / divisor
          if whole < base || more.isEmpty then Text.ofNat whole ++ [letter]
          else scale (divisor * base) more
  if size < base then Text.ofNat size else scale base letters

namespace Listing

/-- Something that is listed: its name, where it stands, and the file there. -/
structure Item where
  name : Text
  position : Position
  node : Node

/-- The mark after a name that tells what it names. -/
def mark (state : State) (given : Given) (node : Node) : Text :=
  let isFull := given.last? ['p', 'F', 'φ'] = some 'F'
  let isTyped := isFull || given.last? ['p', 'F', 'φ'] = some 'φ'
  match state.kindOf node.entry with
  | .directory => if isTyped || given.has 'p' then ['/'] else []
  | .link => if isTyped then ['@'] else []
  | .pipe => if isTyped then ['|'] else []
  | .regular =>
      if isFull && (node.mode / 64 % 2 = 1 || node.mode / 8 % 2 = 1 || node.mode % 2 = 1) then
        ['*'] else []
  | .character => []

/-- A name as it is written: as it is, in quotes, or with what cannot be shown replaced. -/
def written (given : Given) (name : Text) : Text :=
  match given.last? ['Q', 'b', 'N', 'q'] with
  | some 'Q' => '"' :: name.flatMap (fun char => if char = '"' then ['\\', '"']
      else Quoting.escape char) ++ ['"']
  | some 'b' => name.flatMap fun char => if char = ' ' then ['\\', ' '] else Quoting.escape char
  | some 'q' => name.map fun char => if Quoting.isShown char then char else '?'
  | _ => name

/-- Whether the listing has a line with all that is known for each name. -/
def isLong (given : Given) : Bool :=
  match given.last? ['l', 'n', 'o', 'g', 'λ', '1', 'C', 'x', 'm'] with
  | some '1' => ['l', 'n', 'o', 'g', 'λ'].any given.has
  | some letter => ['l', 'n', 'o', 'g', 'λ'].contains letter
  | none => false

/-- The part of a name from its last dot on. -/
def ending (name : Text) : Text :=
  if name.contains '.' then '.' :: (name.reverse.takeWhile (· ≠ '.')).reverse else []

/-- Items in the wanted order. -/
def arranged (state : State) (given : Given) (items : List Item) : List Item :=
  let byName := items.mergeSort fun left right => Pattern.notAfter left.name right.name
  let size (item : Item) : Nat := state.sizeOf item.node.entry
  let ordered := match given.last? ['S', 'X', 'U', 'f', 't', 'v', 'ω'] with
    | some 'S' => byName.mergeSort fun left right => size right ≤ size left
    | some 't' => byName.mergeSort fun left right =>
        decide (right.node.modified ≤ left.node.modified)
    | some 'X' => byName.mergeSort fun left right =>
        Pattern.notAfter (ending left.name) (ending right.name)
    | some 'v' => byName.mergeSort fun left right =>
        compareVersions (left.name.length + right.name.length + 1) left.name right.name ≠ .gt
    | some 'ω' => byName.mergeSort fun left right => left.name.length ≤ right.name.length
    | some 'U' | some 'f' => items
    | _ => byName
  let turned := if given.has 'r' then ordered.reverse else ordered
  if given.has 'δ' then
    let isFolder (item : Item) : Bool := item.node.entry = .directory
    turned.filter isFolder ++ turned.filter (!isFolder ·)
  else turned

/-- How wide the output may be. -/
def lineWidth (state : State) (given : Given) : Nat :=
  match given.value? 'w' with
  | some text => match Text.toNat? text with
      | some 0 => 1000000
      | some width => width
      | none => 80
  | none => ((state.value? "COLUMNS".toList).bind Text.toNat?).getD 80

/-- What fills the room from one column to another: tabs where they fit. -/
def gap (tab : Nat) : Nat → Nat → Nat → Text
  | 0, _, _ => []
  | fuel + 1, start, stop =>
      if stop ≤ start then []
      else if tab ≠ 0 ∧ (start + 1) / tab < stop / tab then
        '\t' :: gap tab fuel (start + tab - start % tab) stop
      else ' ' :: gap tab fuel (start + 1) stop

def inColumns (width tab : Nat) (names : List Text) (across : Bool) (columns : Nat) :
    Option (List Text) :=
  let rows := (names.length + columns - 1) / columns
  let index (row column : Nat) : Nat :=
    if across then row * columns + column else column * rows + row
  let columns := if across then columns else (names.length + rows - 1) / max 1 rows
  let columnWidth (column : Nat) : Nat :=
    (List.range rows).foldl (fun most row =>
      max most ((names[index row column]?.map List.length).getD 0)) 0
  let widths := (List.range columns).map fun column =>
    columnWidth column + (if column + 1 = columns then 0 else 2)
  let line (row : Nat) : Text :=
    let cells := (List.range columns).filterMap fun column => names[index row column]?
    let (text, _) := (cells.zipIdx).foldl
      (fun (done, start) (cell, column) =>
        if column + 1 = cells.length then (done ++ cell, start)
        else
          let next := start + widths.getD column 0
          (done ++ cell ++ gap tab next (start + cell.length) next, next))
      (([] : Text), 0)
    text
  if widths.foldl (· + ·) 0 < width || columns ≤ 1 then
    some ((List.range rows).map line)
  else none

/-- Names with commas, as many to a line as fit. -/
def withCommas (width : Nat) : Nat → List Text → Text
  | _, [] => []
  | column, [name] => (if column ≠ 0 ∧ width ≤ column + name.length then '\n' :: name else name)
  | column, name :: rest =>
      let broken := column ≠ 0 ∧ width ≤ column + name.length + 2
      let start := if broken then 0 else column
      let front : Text := if broken then ['\n'] else []
      let next := start + name.length + 2
      front ++ name ++ [','] ++
        (match rest with
        | follower :: others =>
            if width ≤ next + follower.length + (if others = [] then 0 else 2) then
              '\n' :: withCommas width 0 rest
            else ' ' :: withCommas width next rest
        | [] => [])

def lineEnd (given : Given) : Text := if given.has 'ζ' then [Char.ofNat 0] else ['\n']

def layOut (state : State) (given : Given) (names : List Text) : Text :=
  if names = [] then []
  else
    let width := lineWidth state given
    match given.last? ['1', 'C', 'x', 'm', 'ζ'] with
    | some 'm' => withCommas width 0 names ++ ['\n']
    | some 'C' | some 'x' =>
        let across := given.last? ['1', 'C', 'x', 'm'] = some 'x'
        let tab := ((given.value? 'T').bind Text.toNat?).getD 8
        let most := min names.length (max 1 (width / 3))
        let counts := (List.range most).reverse.map (· + 1)
        endLines ((counts.findSome? (inColumns width tab names across)).getD names)
    | _ => names.flatMap (· ++ lineEnd given)

def sizeText (given : Given) (size : Nat) : Text :=
  match given.last? ['h', 'σ', 'β'] with
  | some 'h' => humanSize 1024 size
  | some 'σ' => humanSize 1000 size
  | some 'β' =>
      let unit := max 1 (Magnitude.getD Magnitude.usualLetters (given.value? 'β') 1)
      Text.ofNat ((size + unit - 1) / unit)
  | _ => Text.ofNat size

/-- How much room files take, as it is to be written. -/
def roomText (given : Given) (blocks : Nat) : Text :=
  if (given.last? ['h', 'σ', 'β']).isSome then sizeText given (blocks * 1024)
  else Text.ofNat blocks

/-- The time of a file: with the clock if it is of the last half year, else with the
year. -/
def timeText (state : State) (given : Given) (time : Moment) : Text :=
  let pattern : Text :=
    if given.has 'λ' then "%Y-%m-%d %H:%M:%S.%N %z".toList
    else
      let isRecent := now state - 15778476000000 < time && time ≤ now state
      match given.value? 'τ' with
      | some ('+' :: pattern) => pattern
      | some text =>
          match String.ofList text with
          | "full-iso" => "%Y-%m-%d %H:%M:%S.%N %z".toList
          | "long-iso" => "%Y-%m-%d %H:%M".toList
          | "iso" => (if isRecent then "%m-%d %H:%M" else "%Y-%m-%d ").toList
          | _ => (if isRecent then "%b %e %H:%M" else "%b %e  %Y").toList
      | none => (if isRecent then "%b %e %H:%M" else "%b %e  %Y").toList
  Calendar.text (zoneOf state) time pattern

def filled (width : Nat) (left : Bool) (text : Text) : Text :=
  let room := List.replicate (width - text.length) ' '
  if left then text ++ room else room ++ text

def fileNumber (node : Node) : Nat :=
  1000000 + 100000 * node.identity.1 + node.identity.2

/-- Columns of texts side by side, each as wide as its widest. -/
def aligned (rows : List (List (Bool × Text))) : List Text :=
  let count := rows.foldl (fun most row => max most row.length) 0
  let width (column : Nat) : Nat :=
    rows.foldl (fun most row => max most ((row[column]?.map fun cell => cell.2.length).getD 0)) 0
  let widths := (List.range count).map width
  rows.map fun row =>
    (row.zip widths).flatMap fun ((left, text), width) => filled width left text ++ [' ']

/-- The fields in front of a name. -/
def fields (state : State) (given : Given) (item : Item) : List (Bool × Text) :=
  let node := item.node
  let number : List (Bool × Text) :=
    if given.has 'i' then [(false, Text.ofNat (fileNumber node))] else []
  let room : List (Bool × Text) :=
    if given.has 's' then [(false, roomText given (blocksOf state node.entry))] else []
  if !isLong given then number ++ room
  else
    let owner (name : Text) : Text :=
      if given.has 'n' then (if node.mine then Text.ofNat userNumber else ['0']) else name
    let name := owner (if node.mine then userName else "root".toList)
    let group : List (Bool × Text) :=
      if given.has 'o' || given.has 'G' then [] else [(true, name)]
    number ++ room ++
      [(true, modeText state node), (false, Text.ofNat (linksOf state item.position node))] ++
      (if given.has 'g' then [] else [(true, name)]) ++ group ++
      [(false, sizeText given (state.sizeOf node.entry)),
        (false, timeText state given node.modified)]

/-- A name with its mark, and where a link leads. -/
def shown (state : State) (given : Given) (item : Item) : Text :=
  match item.node.entry with
  | .link target =>
      if isLong given then
        let aim := (state.world.files.nodeAt false item.position.dropLast ⟨target⟩).toOption
        written given item.name ++ " -> ".toList ++ written given (Text.ofBytes target) ++
          (match aim with
          | some (_, node) => mark state given node
          | none => [])
      else written given item.name ++ mark state given item.node
  | _ => written given item.name ++ mark state given item.node

def listed (state : State) (given : Given) (items : List Item) : Text :=
  let names := items.map (shown state given)
  let cells := items.map (fields state given)
  if cells.all List.isEmpty then layOut state given names
  else
    let lines := (aligned cells).zip names |>.map fun (front, name) => front ++ name
    if isLong given then lines.flatMap (· ++ lineEnd given) else layOut state given lines

/-- What stands at a name in a directory, seen through links if that is wished. -/
def itemAt (state : State) (given : Given) (position : Position) (name : Text) : Item :=
  let directory := position
  let found (keepsLink : Bool) : Option (Position × Node) :=
    (state.world.files.nodeAt keepsLink directory ⟨Text.toBytes name⟩).toOption
  let (place, node) := ((if given.has 'L' then found false else none).or (found true)).getD
    (position ++ [Text.toBytes name], Node.root)
  ⟨name, place, node⟩

def isListed (given : Given) (name : Text) : Bool :=
  let all := given.has 'a' || given.has 'A' || given.has 'f'
  let fits (pattern : Text) : Bool := Pattern.holds (pattern.map fun char => (char, false)) name
  (all || name.head? ≠ some '.') && !(given.has 'B' && name.getLast? = some '~') &&
    !(given.values 'I').any fits && (all || !(given.values 'η').any fits)

def inside (state : State) (given : Given) (position : Position) : List Item :=
  let names := (sortedNames state position).filter (isListed given)
  let names := if given.last? ['a', 'A', 'f'] = some 'a' || given.has 'f' then
      [['.'], ['.', '.']] ++ names else names
  arranged state given (names.map (itemAt state given position))

def content (state : State) (given : Given) (position : Position) : Text :=
  let items := inside state given position
  let total := items.foldl (fun total item => total + blocksOf state item.node.entry) 0
  let head : Text := if isLong given || given.has 's' then
      "total ".toList ++ roomText given total ++ lineEnd given else []
  head ++ listed state given items

/-- A directory and, if wanted, all below it, each with a title; a directory that
cannot be read is told apart. -/
def deep (state : State) (given : Given) : Nat → Text → Position → List (Except Text Text)
  | 0, _, _ => []
  | depth + 1, path, position =>
      if !(state.nodeOf position).allows Node.toRead then [.error path]
      else
        let first := written given path ++ ":\n".toList ++ content state given position
        .ok first :: (inside state given position).flatMap fun item =>
          let inner := position ++ [Text.toBytes item.name]
          if item.node.entry = .directory ∧ item.name ≠ ['.'] ∧ item.name ≠ ['.', '.'] then
            deep state given depth (below path item.name) inner
          else []

end Listing

/-- How deep directories are looked into. -/
def deepest : Nat := 1000

/-- The switches of the listing that choose between words. -/
def listingWords : List (Char × String × List (String × Char)) :=
  [('ο', "--sort", [("none", 'U'), ("time", 't'), ("size", 'S'), ("extension", 'X'),
      ("version", 'v'), ("width", 'ω')]),
    ('κ', "--format", [("verbose", 'l'), ("long", 'l'), ("commas", 'm'), ("horizontal", 'x'),
      ("across", 'x'), ("vertical", 'C'), ("single-column", '1')]),
    ('ι', "--indicator-style", [("none", 'N'), ("slash", 'p'), ("file-type", 'φ'),
      ("classify", 'F')])]

/-- The switches with those that words choose in place of the words. -/
def withWords (given : Given) : Given :=
  { given with switches := given.switches.map fun (letter, value) =>
      match listingWords.find? fun entry => entry.1 == letter with
      | some (_, _, words) =>
          match words.find? fun entry => entry.1.toList == value with
          | some (_, meant) => (meant, [])
          | none => (letter, value)
      | none => (letter, value) }

def ls : Tool := readingWith "ls" ⟨"aAbBcCdfFghHiklLmnNopqQrRsStuUvxXZ1GDλσφδζθγ",
    "IwTτβηοκι", [("all", 'a'), ("almost-all", 'A'), ("escape", 'b'), ("ignore-backups", 'B'),
    ("directory", 'd'), ("classify", 'F'), ("recursive", 'R'), ("reverse", 'r'),
    ("quote-name", 'Q'), ("color", 'γ'), ("group-directories-first", 'δ'),
    ("human-readable", 'h'), ("si", 'σ'), ("inode", 'i'), ("size", 's'), ("literal", 'N'),
    ("hide-control-chars", 'q'), ("show-control-chars", 'N'), ("no-group", 'G'),
    ("numeric-uid-gid", 'n'), ("dereference", 'L'), ("dereference-command-line", 'H'),
    ("file-type", 'φ'), ("full-time", 'λ'), ("zero", 'ζ'), ("author", 'θ'),
    ("kibibytes", 'k'), ("ignore", 'I'), ("hide", 'η'), ("width", 'w'), ("tabsize", 'T'),
    ("time-style", 'τ'), ("block-size", 'β'), ("sort", 'ο'), ("format", 'κ'),
    ("indicator-style", 'ι')], true⟩ 2
    (fun letter value =>
      match listingWords.find? fun entry => entry.1 == letter with
      | some (_, option, words) =>
          if words.any fun entry => entry.1.toList == value then none
          else some (choiceRefusal option (words.map Prod.fst) value)
      | none => none)
    fun state given =>
  let given := withWords given
  let operands := if given.operands = [] then [['.']] else given.operands
  let follows := given.has 'L' || given.has 'H' ||
    !(Listing.isLong given || given.has 'd' || given.has 'F')
  let lookUp (operand : Text) : Except IoError (Position × Node) :=
    match if follows then state.nodeAt false operand else state.nodeAt true operand with
    | .ok (position, node) =>
        if given.has 'L' || given.has 'H' || node.entry = .directory then .ok (position, node)
        else state.nodeAt true operand
    | .error error => if given.has 'L' then .error error else state.nodeAt true operand
  let (state, found, failed) := operands.foldl
    (fun (state, found, failed) operand =>
      match lookUp operand with
      | .error error =>
          (complain state "ls" ("cannot access ".toList ++ named operand ++ ": ".toList ++
            reason error), found, true)
      | .ok (position, node) => (state, found ++ [⟨operand, position, node⟩], failed))
    (state, ([] : List Listing.Item), false)
  let isFolder (item : Listing.Item) : Bool := item.node.entry = .directory && !given.has 'd'
  let files := Listing.arranged state given (found.filter (!isFolder ·))
  let folders := Listing.arranged state given (found.filter isFolder)
  let titled := given.has 'R' || 1 < operands.length
  let plain := Listing.listed state given files
  let blocks : List (Except Text Text) := folders.flatMap fun item =>
    if given.has 'R' then Listing.deep state given deepest item.name item.position
    else if !item.node.allows Node.toRead then [.error item.name]
    else if titled then
      [.ok (Listing.written given item.name ++ ":\n".toList ++
        Listing.content state given item.position)]
    else [.ok (Listing.content state given item.position)]
  let unread := blocks.filterMap fun block => match block with
    | .error path => some path
    | .ok _ => none
  let state := unread.foldl
    (fun state path => complain state "ls" ("cannot open directory ".toList ++ named path ++
      ": ".toList ++ reason .permissionDenied)) state
  let texts := blocks.filterMap Except.toOption
  let texts := if plain = [] then texts else plain :: texts
  done (state.write 1 (Text.join ['\n'] texts)) (if failed || unread ≠ [] then 2 else 0)

end Tools

end FolderScript.Shell
