/-
The program that walks through directories, tests what it meets and acts on it.
-/
import FolderScript.Machine.Shell.Regex
import FolderScript.Machine.Shell.Tools.Removing

namespace FolderScript.Shell

namespace Tools

/-- Starts a program by its name with arguments in a process of its own, and
follows it to its end; the error is for a program that cannot be started. -/
abbrev Launch := State → List Text → Except IoError (Flow × State)

namespace Find

/-- A comparison with a number: more than it, less than it, or the same. -/
inductive Comparison where
  | more
  | less
  | same
  deriving DecidableEq, Repr

/-- How the bits of permissions compare with others. -/
inductive Bits where
  | exactly
  | allOf
  | someOf
  deriving DecidableEq, Repr

/-- What is asked about each thing that is met, and done with it. -/
inductive Expression where
  | constant (holds : Bool)
  | name (pattern : Text) (ignoresCase : Bool)
  | path (pattern : Text) (ignoresCase : Bool)
  | linkName (pattern : Text) (ignoresCase : Bool)
  | regex (pattern : Regex) (ignoresCase : Bool)
  | kind (letters : Text) (throughLinks : Bool)
  | empty
  | size (comparison : Comparison) (count unit : Nat)
  | allows (bit : Nat)
  | permissions (bits : Bits) (mode : Nat)
  /-- Whether it belongs to the one who asks. -/
  | owner (isMine : Bool)
  | links (comparison : Comparison) (count : Nat)
  | number (comparison : Comparison) (count : Nat)
  | newer (time : Moment)
  | same (identity : Nat × Nat)
  /-- How many units ago it was changed; parts of a unit may count as one. -/
  | age (comparison : Comparison) (count : Int) (unit : Int) (roundsUp : Bool)
  | print (finish : Char)
  | format (text : Text)
  | list
  /-- As `print` and `format`, into a file. -/
  | printTo (file : Text) (finish : Char)
  | formatTo (file : Text) (text : Text)
  | exec (words : List Text) (asks inPlace : Bool)
  /-- One call for all paths, told apart by a number. -/
  | execAll (number : Nat) (words : List Text)
  | delete
  | prune
  | quit
  | negation (body : Expression)
  | both (first second : Expression)
  | either (first second : Expression)
  | sequence (first second : Expression)

/-- Whether something is done besides going on. -/
def Expression.acts : Expression → Bool
  | .print _ | .format _ | .list | .printTo .. | .formatTo .. | .exec .. | .execAll ..
  | .delete => true
  | .negation body => body.acts
  | .both first second | .either first second | .sequence first second =>
      first.acts || second.acts
  | _ => false

/-- The calls that wait for all paths. -/
def Expression.batches : Expression → List (Nat × List Text)
  | .execAll index words => [(index, words)]
  | .negation body => body.batches
  | .both first second | .either first second | .sequence first second =>
      first.batches ++ second.batches
  | _ => []

/-- The files that an expression writes to. -/
def Expression.targets : Expression → List Text
  | .printTo file _ | .formatTo file _ => [file]
  | .negation body => body.targets
  | .both first second | .either first second | .sequence first second =>
      first.targets ++ second.targets
  | _ => []

/-- How far to look, and in which order. -/
structure Limits where
  most : Option Nat := none
  least : Nat := 0
  insideFirst : Bool := false
  deriving DecidableEq, Repr

/-- The words that are left, the limits so far, and the number for the next call
that waits. -/
structure Cursor where
  words : List Text
  limits : Limits := {}
  number : Nat := 0
  /-- Whether regular expressions are of the extended kind. -/
  extended : Option Bool := none
  /-- The machine as it is when the expression is read. -/
  state : State

/-- A reader of expressions; the error is a complaint. -/
abbrev Reading := StateT Cursor (Except Text)

/-- Takes the next word. -/
def take : Reading (Option Text) := do
  match (← get).words with
  | [] => pure none
  | word :: rest => do
      modify fun cursor => { cursor with words := rest }
      pure (some word)

/-- Looks at the next word. -/
def peek : Reading (Option Text) := do pure (← get).words.head?

/-- A word in the quotes of complaints. -/
def marked (word : Text) : Text := '\x60' :: word ++ ['\'']

def argument (test : Text) : Reading Text := do
  match ← take with
  | some word => pure word
  | none => throw ("missing argument to ".toList ++ marked test)

def number (test : Text) : Reading Nat := do
  let text ← argument test
  match Text.toNat? text with
  | some number => pure number
  | none => throw ("Expected a positive decimal integer argument to ".toList ++ test ++
      ", but got ".toList ++ quoted text)

def comparisonOf (text : Text) : Comparison × Text :=
  match text with
  | '+' :: rest => (.more, rest)
  | '-' :: rest => (.less, rest)
  | _ => (.same, text)

/-- Takes a number to compare with. -/
def compared (test : Text) : Reading (Comparison × Nat) := do
  let text ← argument test
  let (comparison, digits) := comparisonOf text
  match Text.toNat? digits with
  | some count => pure (comparison, count)
  | none => throw ("invalid argument ".toList ++ marked text ++ " to ".toList ++ marked test)

/-- Takes the path of a file that is there. -/
def present (test : Text) : Reading Node := do
  let path ← argument test
  match (← get).state.nodeAt false path with
  | .ok (_, node) => pure node
  | .error error => throw (quoted path ++ ": ".toList ++ reason error)

/-- The extended form of a pattern where groups and choices have backslashes and
repetitions have none. -/
def extendedForm : Text → Text
  | '\\' :: char :: rest =>
      if "(|)".toList.contains char then char :: extendedForm rest
      else '\\' :: char :: extendedForm rest
  | char :: rest =>
      if "(|)\x7b\x7d".toList.contains char then '\\' :: char :: extendedForm rest
      else char :: extendedForm rest
  | [] => []

/-- Takes a regular expression. -/
def pattern (test : Text) : Reading Regex := do
  let text ← argument test
  let parsed := match (← get).extended with
    | some extended => Regex.parse extended text
    | none => Regex.parse true (extendedForm text)
  match parsed with
  | .ok pattern => pure pattern
  | .error message => throw message.toList

/-- Takes permissions to compare with. -/
def permissionsOf (test : Text) : Reading Expression := do
  let text ← argument test
  let (bits, rest) : Bits × Text := match text with
    | '-' :: rest => (.allOf, rest)
    | '/' :: rest => (.someOf, rest)
    | _ => (.exactly, text)
  match Mode.ofText? rest with
  | some mode => pure (.permissions bits (mode.apply 0 false 0))
  | none => throw ("invalid mode ".toList ++ quoted text)

/-- Takes the name of a user, and tells whether it is the one who asks. -/
def ownerOf (test : Text) : Reading Expression := do
  let text ← argument test
  if text = userName ∨ Text.toNat? text = some userNumber then pure (.owner true)
  else if text = "root".toList ∨ Text.toNat? text = some 0 then pure (.owner false)
  else if (Text.toNat? text).isSome then pure (.constant false)
  else throw (quoted text ++ " is not the name of a known user".toList)

def limit (change : Limits → Limits) : Reading Expression := do
  modify fun cursor => { cursor with limits := change cursor.limits }
  pure (.constant true)

def sizeOf? (text : Text) : Option (Comparison × Nat × Nat) :=
  let (comparison, rest) := comparisonOf text
  let digits := rest.takeWhile Char.isDigit
  let unit? : Option Nat := match rest.drop digits.length with
    | [] | ['b'] => some 512
    | ['c'] => some 1
    | ['w'] => some 2
    | ['k'] => some 1024
    | ['M'] => some 1048576
    | ['G'] => some 1073741824
    | _ => none
  match Text.toNat? digits, unit? with
  | some count, some unit => some (comparison, count, unit)
  | _, _ => none

def callWords (test : Text) : Nat → List Text → Reading (List Text × Bool)
  | 0, words => pure (words, false)
  | fuel + 1, words => do
      match ← take with
      | none => throw ("missing argument to ".toList ++ marked test)
      | some [';'] =>
          if words = [] then throw ("missing argument to ".toList ++ marked test)
          else pure (words, false)
      | some ['+'] =>
          if words.getLast? = some "\x7b\x7d".toList then pure (words, true)
          else callWords test fuel (words ++ [['+']])
      | some word => callWords test fuel (words ++ [word])

mutual

/-- Takes expressions with commas between them. -/
def lists : Nat → Reading Expression
  | 0 => pure (.constant true)
  | fuel + 1 => do
      let first ← alternatives fuel
      match ← peek with
      | some [','] => do
          let _ ← take
          pure (.sequence first (← lists fuel))
      | _ => pure first

/-- Takes expressions of which one has to hold. -/
def alternatives : Nat → Reading Expression
  | 0 => pure (.constant true)
  | fuel + 1 => do
      let first ← conjunctions fuel
      match (← peek).map String.ofList with
      | some "-o" | some "-or" => do
          let _ ← take
          pure (.either first (← alternatives fuel))
      | _ => pure first

/-- Takes expressions that all have to hold. -/
def conjunctions : Nat → Reading Expression
  | 0 => pure (.constant true)
  | fuel + 1 => do
      let first ← single fuel
      match (← peek).map String.ofList with
      | none | some "-o" | some "-or" | some "," | some ")" => pure first
      | some "-a" | some "-and" => do
          let _ ← take
          pure (.both first (← conjunctions fuel))
      | some _ => pure (.both first (← conjunctions fuel))

/-- Takes a single test or action. -/
def single : Nat → Reading Expression
  | 0 => pure (.constant true)
  | fuel + 1 => do
      match ← take with
      | none => throw "invalid expression; expected to find a ')' but didn't see one. Perhaps you need an extra predicate after '('".toList
      | some word =>
          match String.ofList word with
          | "(" => do
              match ← peek with
              | none => throw "invalid expression; expected to find a ')' but didn't see one. Perhaps you need an extra predicate after '('".toList
              | some [')'] => throw "invalid expression; empty parentheses are not allowed.".toList
              | some _ => do
                  let body ← lists fuel
                  match ← take with
                  | some [')'] => pure body
                  | _ => throw "invalid expression; I was expecting to find a ')' somewhere but did not see one.".toList
          | "!" | "-not" => do
              match ← peek with
              | none => throw "expected an expression after '!'".toList
              | some _ => pure (.negation (← single fuel))
          | "-name" => pure (.name (← argument word) false)
          | "-iname" => pure (.name (← argument word) true)
          | "-path" | "-wholename" => pure (.path (← argument word) false)
          | "-ipath" => pure (.path (← argument word) true)
          | "-iwholename" => pure (.path (← argument word) true)
          | "-lname" => pure (.linkName (← argument word) false)
          | "-ilname" => pure (.linkName (← argument word) true)
          | "-regex" => pure (.regex (← pattern word) false)
          | "-iregex" => pure (.regex (← pattern word) true)
          | "-regextype" => do
              let text ← argument word
              modify fun cursor =>
                { cursor with extended := match String.ofList text with
                    | "emacs" | "findutils-default" => none
                    | "posix-basic" | "grep" | "sed" | "ed" => some false
                    | _ => some true }
              pure (.constant true)
          | "-type" | "-xtype" => do
              let letters := (← argument word).filter (· ≠ ',')
              match letters.find? fun letter => !"bcdpflsD".toList.contains letter with
              | some letter => throw ("Unknown argument to ".toList ++ word ++ ": ".toList ++ [letter])
              | none => pure (.kind letters (word = "-xtype".toList))
          | "-empty" => pure .empty
          | "-true" => pure (.constant true)
          | "-false" | "-nouser" | "-nogroup" => pure (.constant false)
          | "-executable" => pure (.allows Node.toSearch)
          | "-readable" => pure (.allows Node.toRead)
          | "-writable" => pure (.allows Node.toWrite)
          | "-mount" | "-xdev" | "-noleaf" | "-daystart" | "-follow" | "-warn" | "-nowarn"
          | "-ignore_readdir_race" | "-noignore_readdir_race" => pure (.constant true)
          | "-perm" => permissionsOf word
          | "-user" | "-uid" | "-group" | "-gid" => ownerOf word
          | "-links" => do
              let (comparison, count) ← compared word
              pure (.links comparison count)
          | "-inum" => do
              let (comparison, count) ← compared word
              pure (.number comparison count)
          | "-newer" | "-anewer" | "-cnewer" | "-newermm" =>
              pure (.newer (← present word).modified)
          | "-newermt" => do
              let text ← argument word
              let state := (← get).state
              match Calendar.moment? (zoneOf state) (now state) text with
              | some moment => pure (.newer moment)
              | none => throw ("I cannot figure out how to interpret ".toList ++ quoted text ++
                  " as a date or time".toList)
          | "-samefile" => pure (.same (← present word).identity)
          | "-mtime" | "-atime" | "-ctime" => do
              let (comparison, count) ← compared word
              pure (.age comparison (Int.ofNat count) 86400 false)
          | "-mmin" | "-amin" | "-cmin" => do
              let (comparison, count) ← compared word
              pure (.age comparison (Int.ofNat count) 60 true)
          | "-size" => do
              let text ← argument word
              match sizeOf? text with
              | some (comparison, count, unit) => pure (.size comparison count unit)
              | none => throw ("invalid -size type ".toList ++ marked text)
          | "-print" => pure (.print '\n')
          | "-print0" => pure (.print (Char.ofNat 0))
          | "-printf" => pure (.format (← argument word))
          | "-ls" => pure .list
          | "-fprint" => pure (.printTo (← argument word) '\n')
          | "-fprint0" => pure (.printTo (← argument word) (Char.ofNat 0))
          | "-fprintf" => do
              let file ← argument word
              pure (.formatTo file (← argument word))
          | "-delete" => do
              let _ ← limit fun limits => { limits with insideFirst := true }
              pure .delete
          | "-prune" => pure .prune
          | "-quit" => pure .quit
          | "-depth" | "-d" => limit fun limits => { limits with insideFirst := true }
          | "-maxdepth" => do
              let most ← number word
              limit fun limits => { limits with most := some most }
          | "-mindepth" => do
              let least ← number word
              limit fun limits => { limits with least := least }
          | "-exec" | "-execdir" | "-ok" | "-okdir" => do
              let (words, all) ← callWords word ((← get).words.length + 1) []
              let count := (← get).number
              modify fun cursor => { cursor with number := count + 1 }
              let inPlace := word = "-execdir".toList ∨ word = "-okdir".toList
              pure (if all && !inPlace then .execAll count words.dropLast
                else .exec words (word = "-ok".toList ∨ word = "-okdir".toList) inPlace)
          | _ =>
              if word.head? = some '-' then throw ("unknown predicate ".toList ++ marked word)
              else throw ("paths must precede expression: ".toList ++ marked word)

end

/-- Something that is met on the way. -/
structure Met where
  path : Text
  /-- The operand that led there. -/
  start : Text
  position : Position
  node : Node
  depth : Nat

structure Walk where
  state : State
  pruned : Bool := false
  quits : Bool := false
  failed : Bool := false
  endless : Bool := false
  /-- The paths for calls that wait, last first. -/
  waiting : List (Nat × Text) := []

def letterOf (state : State) (entry : Entry) : Char :=
  match state.kindOf entry with
  | .regular => 'f'
  | kind => kindLetter kind

def fits (pattern text : Text) (ignoresCase : Bool) : Bool :=
  let lower (text : Text) : Text := if ignoresCase then text.map Char.toLower else text
  let rec glyphs : Text → List Glyph
    | '\\' :: char :: rest => (char, true) :: glyphs rest
    | char :: rest => (char, false) :: glyphs rest
    | [] => []
  Pattern.holds (glyphs (lower pattern)) (lower text)

/-- The words of a call with the path in place of braces. -/
def filled (words : List Text) (path : Text) : List Text :=
  let rec fill : Text → Text
    | '\x7b' :: '\x7d' :: rest => path ++ fill rest
    | char :: rest => char :: fill rest
    | [] => []
  words.map fill

/-- The path without the operand that led there. -/
def Met.below (met : Met) : Text :=
  if met.depth = 0 then [] else (met.path.drop met.start.length).dropWhile (· = '/')

def Met.directory (met : Met) : Text :=
  let path := withoutSlashes met.path
  if path = ['/'] then []
  else if path.contains '/' then
    let front := (path.reverse.dropWhile (· ≠ '/')).reverse
    if front = ['/'] then [] else withoutSlashes front
  else ['.']

/-- The file that a link leads to, or the file itself. -/
def aimOf (state : State) (met : Met) : Option Node :=
  match met.node.entry with
  | .link _ =>
      (state.world.files.nodeAt false met.position.dropLast
        ⟨met.position.getLastD []⟩).toOption.map Prod.snd
  | _ => some met.node

def timeField (state : State) (met : Met) (letter : Char) : Text :=
  let time := met.node.modified
  let digits (count : Nat) : Text := Calendar.number {} .zeros count (time % 1000000)
  match letter with
  | '@' => Text.ofInt (time / 1000000) ++ '.' :: digits 6 ++ "0000".toList
  | '+' => Calendar.text (zoneOf state) time "%Y-%m-%d+%H:%M:%S".toList ++ '.' :: digits 6 ++
      "0000".toList
  | 'S' => Calendar.text (zoneOf state) time "%S".toList ++ '.' :: digits 6 ++ "0000".toList
  | 'T' | 'X' => Calendar.text (zoneOf state) time "%H:%M:%S".toList ++ '.' :: digits 6 ++
      "0000".toList
  | other => Calendar.text (zoneOf state) time ['%', other]

/-- What a letter of a format stands for, and whether it is a number. -/
def field? (state : State) (met : Met) (letter : Char) : Option Text :=
  let node := met.node
  let owner (isNumber : Bool) : Text :=
    if node.mine then (if isNumber then Text.ofNat userNumber else userName)
    else if isNumber then ['0'] else "root".toList
  match letter with
  | 'p' => some met.path
  | 'f' => some (lastName met.path)
  | 'h' => some met.directory
  | 'P' => some met.below
  | 'H' => some met.start
  | 's' => some (Text.ofNat (state.sizeOf node.entry))
  | 'd' => some (Text.ofNat met.depth)
  | 'y' => some [letterOf state node.entry]
  | 'Y' => some (match aimOf state met with
      | some aim => [letterOf state aim.entry]
      | none => ['N'])
  | 'l' => some (match node.entry with
      | .link target => Text.ofBytes target
      | _ => [])
  | 'm' => some (Nat.toDigits 8 node.mode)
  | 'M' => some (modeText state node)
  | 'n' => some (Text.ofNat (linksOf state met.position node))
  | 'i' => some (Text.ofNat (Listing.fileNumber node))
  | 'k' => some (Text.ofNat (blocksOf state node.entry))
  | 'b' => some (Text.ofNat (2 * blocksOf state node.entry))
  | 'u' | 'g' => some (owner false)
  | 'U' | 'G' => some (owner true)
  | 't' | 'a' | 'c' => some (Calendar.text (zoneOf state) node.modified "%a %b %e %H:%M:%S".toList ++
      '.' :: Calendar.number {} .zeros 6 (node.modified % 1000000) ++ "0000 ".toList ++
      Calendar.text (zoneOf state) node.modified "%Y".toList)
  | 'D' => some ['1']
  | 'F' => some "ext4".toList
  | '%' => some ['%']
  | _ => none

/-- A format with what it asks for filled in. -/
def formatted (state : State) (met : Met) : Nat → Text → Text
  | 0, _ => []
  | _ + 1, [] => []
  | fuel + 1, '%' :: rest =>
      let flags := rest.takeWhile fun char => "-+ 0#".toList.contains char
      let after := rest.drop flags.length
      let width := after.takeWhile Char.isDigit
      let after := after.drop width.length
      let precision : Option Nat := match after with
        | '.' :: digits => some ((Text.toNat? (digits.takeWhile Char.isDigit)).getD 0)
        | _ => none
      let after := match after with
        | '.' :: digits => digits.dropWhile Char.isDigit
        | _ => after
      let padded (text : Text) : Text :=
        let text := match precision with
          | some count => text.take count
          | none => text
        let room := (Text.toNat? width).getD 0 - text.length
        if flags.contains '-' then text ++ List.replicate room ' '
        else List.replicate room (if flags.contains '0' then '0' else ' ') ++ text
      match after with
      | [] => ['%']
      | letter :: more =>
          if letter = 'T' ∨ letter = 'A' ∨ letter = 'C' then
            match more with
            | kind :: more => padded (timeField state met kind) ++ formatted state met fuel more
            | [] => ['%', letter]
          else
            match field? state met letter with
            | some text => padded text ++ formatted state met fuel more
            | none => '%' :: letter :: formatted state met fuel more
  | fuel + 1, '\\' :: letter :: rest =>
      if Format.isOctal letter then
        let (value, after) := Format.octal 3 (letter :: rest)
        Char.ofNat (value % 256) :: formatted state met fuel after
      else
        match letter, Format.letter? letter with
        | 'c', _ => []
        | '\\', _ => '\\' :: formatted state met fuel rest
        | _, some char => char :: formatted state met fuel rest
        | _, none => '\\' :: letter :: formatted state met fuel rest
  | fuel + 1, char :: rest => char :: formatted state met fuel rest

def listLine (state : State) (met : Met) : Text :=
  let right (width : Nat) (text : Text) : Text := Listing.filled width false text
  let left (width : Nat) (text : Text) : Text := Listing.filled width true text
  let field (letter : Char) : Text := (field? state met letter).getD []
  right 9 (field 'i') ++ [' '] ++ right 6 (field 'k') ++ [' '] ++ field 'M' ++ [' '] ++
    right 3 (field 'n') ++ [' '] ++ left 8 (field 'u') ++ [' '] ++ left 8 (field 'g') ++ [' '] ++
    right 8 (field 's') ++ [' '] ++
    Listing.timeText state { switches := [], operands := [] } met.node.modified ++ [' '] ++
    met.path ++
    (match met.node.entry with
      | .link target => " -> ".toList ++ Text.ofBytes target
      | _ => []) ++ ['\n']

/-- Makes a call, and tells whether it succeeded. -/
def call (launch : Launch) (walk : Walk) (words : List Text) : Bool × Walk :=
  match launch walk.state words with
  | .error error =>
      (false, { walk with
        state := complain walk.state "find" (quoted (words.headD []) ++ ": ".toList ++
          reason error) })
  | .ok (.forever, state) => (false, { walk with state := state, endless := true, quits := true })
  | .ok (flow, state) => (flow.statusOf state = 0, { walk with state := state })

/-- Makes a call about something that is met, perhaps from its directory, and perhaps
only if that is agreed to. -/
def callFor (launch : Launch) (met : Met) (walk : Walk) (words : List Text)
    (asks inPlace : Bool) : Bool × Walk :=
  let name := if inPlace then "./".toList ++ lastName met.path else met.path
  let (agreed, walk) := if asks then
      let question := "< ".toList ++ words.headD [] ++ " ... ".toList ++ met.path ++
        " > ? ".toList
      let (agreed, state) := agrees walk.state question
      (agreed, { walk with state := state })
    else (true, walk)
  if !agreed then (false, walk)
  else if inPlace then
    let home := walk.state.directory
    let (holds, after) := call launch
      { walk with state := { walk.state with directory := met.position.dropLast } }
      (filled words name)
    (holds, { after with state := { after.state with directory := home } })
  else call launch walk (filled words name)

def addTo (state : State) (file text : Text) : State :=
  match state.openOutput file true false with
  | .ok (channel, state) =>
      let before := state.channel? 3
      (((state.setChannel 3 (some channel)).write 3 text)).setChannel 3 before
  | .error _ => state

/-- Whether one number stands to another as is asked. -/
def Comparison.holds (comparison : Comparison) (value count : Int) : Bool :=
  match comparison with
  | .more => count < value
  | .less => value < count
  | .same => value = count

/-- Whether an expression holds for what is met; actions are carried out. -/
def evaluate (launch : Launch) (met : Met) : Expression → Walk → Bool × Walk
  | .constant holds, walk => (holds, walk)
  | .name pattern ignoresCase, walk => (fits pattern (lastName met.path) ignoresCase, walk)
  | .path pattern ignoresCase, walk => (fits pattern met.path ignoresCase, walk)
  | .linkName pattern ignoresCase, walk =>
      (match met.node.entry with
        | .link target => fits pattern (Text.ofBytes target) ignoresCase
        | _ => false, walk)
  | .regex pattern ignoresCase, walk =>
      let subject : Regex.Subject := { chars := met.path.toArray, ignoresCase }
      (((Regex.sequence pattern .lineEnd).matchAt? subject 0).isSome, walk)
  | .kind letters throughLinks, walk =>
      let letter := if throughLinks then
          match aimOf walk.state met with
          | some aim => letterOf walk.state aim.entry
          | none => 'l'
        else letterOf walk.state met.node.entry
      (letters.contains letter, walk)
  | .empty, walk =>
      (match met.node.entry with
        | .directory => (walk.state.world.files.names met.position).isEmpty
        | .file data => data.isEmpty
        | _ => false, walk)
  | .size comparison count unit, walk =>
      let size := (walk.state.sizeOf met.node.entry + unit - 1) / unit
      (comparison.holds (Int.ofNat size) (Int.ofNat count), walk)
  | .allows bit, walk => ((aimOf walk.state met).any fun aim => aim.allows bit, walk)
  | .permissions bits mode, walk =>
      let own := met.node.mode
      (match bits with
        | .exactly => own = mode
        | .allOf => Nat.land own mode = mode
        | .someOf => mode = 0 || Nat.land own mode ≠ 0, walk)
  | .owner isMine, walk => (met.node.mine == isMine, walk)
  | .links comparison count, walk =>
      (comparison.holds (Int.ofNat (linksOf walk.state met.position met.node)) (Int.ofNat count),
        walk)
  | .number comparison count, walk =>
      (comparison.holds (Int.ofNat (Listing.fileNumber met.node)) (Int.ofNat count), walk)
  | .newer time, walk => (decide (time < met.node.modified), walk)
  | .same identity, walk => (met.node.identity = identity, walk)
  | .age comparison count unit roundsUp, walk =>
      let age := (now walk.state - met.node.modified) / 1000000
      (comparison.holds (if roundsUp then (age + unit - 1) / unit else age / unit) count, walk)
  | .print finish, walk =>
      (true, { walk with state := walk.state.write 1 (met.path ++ [finish]) })
  | .format text, walk =>
      (true, { walk with
        state := walk.state.write 1 (formatted walk.state met (text.length + 1) text) })
  | .list, walk => (true, { walk with state := walk.state.write 1 (listLine walk.state met) })
  | .printTo file finish, walk =>
      (true, { walk with state := addTo walk.state file (met.path ++ [finish]) })
  | .formatTo file text, walk =>
      (true, { walk with
        state := addTo walk.state file (formatted walk.state met (text.length + 1) text) })
  | .exec words asks inPlace, walk => callFor launch met walk words asks inPlace
  | .execAll number _, walk =>
      (true, { walk with waiting := (number, met.path) :: walk.waiting })
  | .delete, walk =>
      let refused (error : IoError) : Bool × Walk :=
        (false, { walk with
          failed := true
          state := complain walk.state "find" ("cannot delete ".toList ++ quoted met.path ++
            ": ".toList ++ reason error) })
      if met.depth = 0 ∧ lastName met.path = ['.'] then (true, walk)
      else if met.node.entry = .directory ∧ walk.state.world.files.names met.position ≠ [] then
        refused .directoryNotEmpty
      else if !walk.state.mayChange met.position.dropLast then refused .permissionDenied
      else (true, { walk with state := walk.state.removeEntry met.position })
  | .prune, walk => (true, { walk with pruned := true })
  | .quit, walk => (true, { walk with quits := true })
  | .negation body, walk =>
      let (holds, walk) := evaluate launch met body walk
      (!holds, walk)
  | .both first second, walk =>
      let (holds, walk) := evaluate launch met first walk
      if holds && !walk.quits then evaluate launch met second walk else (holds, walk)
  | .either first second, walk =>
      let (holds, walk) := evaluate launch met first walk
      if holds || walk.quits then (holds, walk) else evaluate launch met second walk
  | .sequence first second, walk =>
      let (_, walk) := evaluate launch met first walk
      if walk.quits then (false, walk) else evaluate launch met second walk

def visit (launch : Launch) (follows : Bool) (limits : Limits) (expression : Expression) :
    Nat → Met → Walk → Walk
  | 0, _, walk => walk
  | fuel + 1, met, walk =>
      if walk.quits then walk
      else
        let test (walk : Walk) : Walk :=
          if limits.least ≤ met.depth then (evaluate launch met expression walk).2 else walk
        let inside (walk : Walk) : Walk :=
          if met.node.entry ≠ .directory || limits.most.any (· ≤ met.depth) then walk
          else if !(walk.state.nodeOf met.position).allows Node.toRead then
            { walk with
              failed := true
              state := complain walk.state "find" (quoted met.path ++ ": ".toList ++
                reason .permissionDenied) }
          else
            (sortedNames walk.state met.position).foldl
              (fun walk name =>
                let place := met.position ++ [Text.toBytes name]
                let files := walk.state.world.files
                let direct := (files.node? place).map fun node => (place, node)
                let followed := (files.nodeAt false met.position
                  ⟨Text.toBytes name⟩).toOption
                match if follows then followed.or direct else direct with
                | none => walk
                | some (position, node) =>
                    visit launch follows limits expression fuel
                      ⟨below met.path name, met.start, position, node, met.depth + 1⟩ walk)
              walk
        if limits.insideFirst then test (inside walk)
        else
          let tested := test { walk with pruned := false }
          if tested.pruned || tested.quits then { tested with pruned := false }
          else inside tested

/-- Makes the calls that have waited for all paths. -/
def finish (launch : Launch) (expression : Expression) (walk : Walk) : Walk :=
  expression.batches.foldl
    (fun walk (number, words) =>
      let paths := (walk.waiting.reverse.filter fun entry => entry.1 = number).map Prod.snd
      if paths = [] then walk
      else
        let (succeeded, walk) := call launch walk (words ++ paths)
        { walk with failed := walk.failed || !succeeded })
    walk

end Find

/-- Walks through the operands. -/
def find (launch : Launch) : Tool := fun state arguments =>
  let isWay (argument : Text) : Bool :=
    argument = "-L".toList || argument = "-H".toList || argument = "-P".toList
  let ways := arguments.takeWhile isWay
  let way := ways.getLastD "-P".toList
  let arguments := arguments.drop ways.length
  let isPath (argument : Text) : Bool :=
    argument.head? ≠ some '-' && argument ≠ ['('] && argument ≠ ['!']
  let paths := arguments.takeWhile isPath
  let words := arguments.drop paths.length
  let follows := way = "-L".toList || words.contains "-follow".toList
  let read : Except Text (Find.Expression × Find.Cursor) :=
    if words = [] then .ok (.print '\n', { words := [], state := state })
    else (Find.lists (4 * words.length + 8)).run { words := words, state := state }
  match read with
  | .error message => done (complain state "find" message) 1
  | .ok (expression, cursor) =>
      match cursor.words with
      | word :: _ =>
          done (complain state "find" (if word = [')'] then
            "invalid expression; you have too many ')'".toList
            else "paths must precede expression: ".toList ++ Find.marked word)) 1
      | [] =>
          let expression := if expression.acts then expression
            else .both expression (.print '\n')
          let emptied := expression.targets.foldl
            (fun (state : State) file =>
              ((state.openOutput file false false).toOption.map Prod.snd).getD state) state
          let walk := (if paths = [] then [['.']] else paths).foldl
            (fun (walk : Find.Walk) path =>
              if walk.quits then walk
              else
                let direct := walk.state.nodeAt true path
                let found := if follows || way = "-H".toList then
                    (match walk.state.nodeAt false path with
                    | .ok found => .ok found
                    | .error _ => direct)
                  else direct
                match found with
                | .error error =>
                    { walk with
                      failed := true
                      state := complain walk.state "find" (quoted path ++ ": ".toList ++
                        reason error) }
                | .ok (position, node) =>
                    Find.visit launch follows cursor.limits expression deepest
                      ⟨path, path, position, node, 0⟩ walk)
            ({ state := emptied } : Find.Walk)
          let walk := Find.finish launch expression walk
          if walk.endless then (.forever, walk.state)
          else done walk.state (if walk.failed then 1 else 0)

end Tools

end FolderScript.Shell
