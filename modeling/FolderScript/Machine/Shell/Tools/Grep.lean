/-
The program that shows the lines of files that fit a pattern.
-/
import FolderScript.Machine.Shell.Pattern
import FolderScript.Machine.Shell.Regex.Rich
import FolderScript.Machine.Shell.Tools.Listing
import FolderScript.Machine.Shell.Tools.Magnitude
import FolderScript.Machine.Shell.Tools.Parts

namespace FolderScript.Shell

namespace Tools

namespace Grep

def known : Switches where
  plain := "EFGPaHILRTUVZbchilnoqrsuvwxyzγλντ"
  valued := "efmABCdDγβσικξχδ"
  names := [("extended-regexp", 'E'), ("fixed-strings", 'F'), ("fixed-regexp", 'F'),
    ("basic-regexp", 'G'), ("perl-regexp", 'P'), ("text", 'a'), ("with-filename", 'H'),
    ("byte-offset", 'b'), ("count", 'c'), ("no-filename", 'h'), ("ignore-case", 'i'),
    ("no-ignore-case", 'ν'), ("files-with-matches", 'l'), ("files-without-match", 'L'),
    ("line-number", 'n'), ("only-matching", 'o'), ("quiet", 'q'), ("silent", 'q'),
    ("recursive", 'r'), ("dereference-recursive", 'R'), ("no-messages", 's'),
    ("invert-match", 'v'), ("word-regexp", 'w'), ("line-regexp", 'x'), ("null", 'Z'),
    ("null-data", 'z'), ("initial-tab", 'T'), ("line-buffered", 'λ'), ("version", 'V'),
    ("unix-byte-offsets", 'u'), ("binary", 'U'), ("regexp", 'e'), ("file", 'f'),
    ("max-count", 'm'), ("after-context", 'A'), ("before-context", 'B'), ("context", 'C'),
    ("directories", 'd'), ("devices", 'D'), ("include", 'ι'), ("exclude", 'ξ'),
    ("exclude-from", 'χ'), ("exclude-dir", 'δ'), ("label", 'κ'), ("color", 'γ'),
    ("colour", 'γ'), ("binary-files", 'β'), ("group-separator", 'σ'),
    ("no-group-separator", 'τ')]

def contextNumber (argument : Text) : Text :=
  match argument with
  | '-' :: digits => if (Text.toNat? digits).isSome then '-' :: 'C' :: digits else argument
  | _ => argument

/-- Whether the last of several switches is the first of them. -/
def isOn (given : Given) (on off : List Char) : Bool :=
  (given.last? (on ++ off)).any on.contains

def ignoresCase (given : Given) : Bool := isOn given ['i', 'y'] ['ν']

/-- What follows a bracket of an expression whose opening was read, and its text. -/
def afterBracket (text : Text) : Text × Text :=
  let (front, rest) := match text with
    | '^' :: ']' :: rest => (['^', ']'], rest)
    | '^' :: rest => (['^'], rest)
    | ']' :: rest => ([']'], rest)
    | _ => ([], text)
  let rec go : Nat → Text → Text × Text
    | 0, text => ([], text)
    | _ + 1, [] => ([], [])
    | fuel + 1, char :: rest =>
        if char = ']' then ([], rest)
        else
          let kind? := match char, rest with
            | '[', ':' :: _ | '[', '.' :: _ | '[', '=' :: _ => rest.head?
            | _, _ => none
          match kind? with
          | none =>
              let (inner, after) := go fuel rest
              (char :: inner, after)
          | some kind =>
              let name := rest.tail.takeWhile (· ≠ kind)
              let (inner, after) := go fuel (rest.drop (name.length + 3))
              (char :: rest.take (name.length + 3) ++ inner, after)
  let (inner, after) := go (rest.length + 1) rest
  (front ++ inner, after)

/-- Whether a bracket looks like a class without brackets of its own. -/
def isLoneClass (inside : Text) : Bool :=
  2 < inside.length && inside.head? == some ':' && inside.getLast? == some ':'

/-- The repetitions of an extended expression that have nothing to repeat, and whether a
class stands without brackets of its own. -/
def strayParts : Nat → Bool → Text → List String × Bool
  | 0, _, _ => ([], false)
  | _ + 1, _, [] => ([], false)
  | fuel + 1, atStart, char :: rest =>
      let warned (what : String) : List String × Bool :=
        let (more, lone) := strayParts fuel atStart rest
        (if atStart then what :: more else more, lone)
      match char with
      | '\\' => strayParts fuel false (rest.drop 1)
      | '[' =>
          let (inside, rest) := afterBracket rest
          let (more, lone) := strayParts fuel false rest
          (more, lone || isLoneClass inside)
      | '(' | '|' | '^' => strayParts fuel true rest
      | '*' => warned "* at start of expression"
      | '+' => warned "+ at start of expression"
      | '?' => warned "? at start of expression"
      | '\x7b' =>
          match Regex.interval? true rest with
          | some (_, _, rest) =>
              let (more, lone) := strayParts fuel atStart rest
              (if atStart then "\x7b...\x7d at start of expression" :: more else more, lone)
          | none => strayParts fuel false rest
      | _ => strayParts fuel false rest

/-- The regular expression for one pattern. -/
def pattern (given : Given) (text : Text) : Except String Regex := do
  let body ← match given.last? ['E', 'F', 'G', 'P'] with
    | some 'F' => pure (Regex.literal text)
    | some 'P' => do
        let (regex, _, _) ← Regex.Rich.parse true { ignoresCase := ignoresCase given } text
        pure regex
    | kind =>
        if (strayParts (text.length + 1) true text).2 then
          throw "character class syntax is [[:space:]], not [:space:]"
        Regex.parse (kind == some 'E') text
  pure (if given.has 'x' then .sequence .lineStart (.sequence body .lineEnd)
    else if given.has 'w' then .sequence (.apart true) (.sequence body (.apart false))
    else body)

/-- A line with its number, where it starts, and whether it was looked for. -/
structure Line where
  number : Nat
  offset : Nat
  text : Text
  selected : Bool
  deriving DecidableEq, Repr

structure Search where
  given : Given
  regex : Regex
  /-- How many lines of a file are enough. -/
  most : Option Nat
  before : Option Nat
  after : Option Nat
  /-- Whether lines are shown with the names of their files. -/
  named : Bool
  /-- Whether what is found is painted. -/
  painted : Bool

namespace Search

def subject (search : Search) (line : Text) : Regex.Subject :=
  { chars := line.toArray
    ignoresCase := ignoresCase search.given
    takesFirst := search.given.has 'P'
    whole := search.regex }

def selects (search : Search) (line : Text) : Bool :=
  (search.regex.search? (search.subject line) 0).isSome != search.given.has 'v'

/-- What lines end with. -/
def stop (search : Search) : Char := if search.given.has 'z' then '\x00' else '\n'

def isBinary (search : Search) (data : Bytes) : Bool :=
  data.contains 0 && !search.given.has 'z'

/-- How binary files are taken. -/
def binaryKind (given : Given) : Option Text :=
  match given.last? ['a', 'I', 'β'] with
  | some 'a' => some "text".toList
  | some 'I' => some "without-match".toList
  | some _ => given.value? 'β'
  | none => none

/-- The lines of a file; a zero byte ends one where it makes the file binary. -/
def lines (search : Search) (data : Bytes) : List Text :=
  if search.given.has 'z' then
    (chunks 0 data).map fun chunk =>
      Text.ofBytes (if chunk.getLast? = some 0 then chunk.dropLast else chunk)
  else if search.isBinary data && binaryKind search.given ≠ some "text".toList then
    textLines (data.map fun byte => if byte = 0 then newline else byte)
  else textLines data

/-- The lines with whether each is wanted, until enough of them are. -/
def scan (search : Search) : Nat → Nat → Nat → List Text → List Line
  | _, _, _, [] => []
  | found, number, offset, line :: rest =>
      if search.most.any (· ≤ found) then
        (line :: rest).zipIdx.map fun (line, index) => ⟨number + index, 0, line, false⟩
      else
        let selected := search.selects line
        ⟨number, offset, line, selected⟩ ::
          search.scan (if selected then found + 1 else found) (number + 1)
            (offset + line.length + 1) rest

/-- The parts of a line that fit, with their offsets. -/
def fitting (search : Search) (subject : Regex.Subject) : Nat → Nat → List (Nat × Text)
  | 0, _ => []
  | fuel + 1, index =>
      match search.regex.search? subject index with
      | none => []
      | some found =>
          if found.stop = found.start then search.fitting subject fuel (found.start + 1)
          else (found.start, found.group subject 0) :: search.fitting subject fuel found.stop

def paint (search : Search) (colour : String) (text : Text) : Text :=
  if search.painted then
    "\x1b[".toList ++ colour.toList ++ "m\x1b[K".toList ++ text ++ "\x1b[m\x1b[K".toList
  else text

def afterName (search : Search) (mark : Char) : Text :=
  if search.given.has 'Z' then ['\x00'] else search.paint "36" [mark]

/-- What stands in front of a line; `width` is for numbers that are lined up. -/
def label (search : Search) (width : Nat) (name : Text) (line : Line) (mark : Char)
    (offset : Nat) : Text :=
  let given := search.given
  let number (value : Nat) : Text :=
    let digits := Text.ofNat value
    search.paint "32" (List.replicate (width - digits.length) ' ' ++ digits) ++
      search.paint "36" [mark]
  let parts := (if search.named then search.paint "35" name ++ search.afterName mark else []) ++
    (if given.has 'n' then number line.number else []) ++
    (if given.has 'b' then number offset else [])
  if given.has 'T' && parts ≠ [] && line.text ≠ [] then parts ++ ['\t'] else parts

/-- A line with what fits in it painted. -/
def highlighted (search : Search) (text : Text) : Text :=
  let parts := search.fitting (search.subject text) (text.length + 2) 0
  let (shown, reached) := parts.foldl
    (fun (shown, reached) (start, part) =>
      (shown ++ (text.drop reached).take (start - reached) ++ search.paint "01;31" part,
        start + part.length))
    ([], 0)
  shown ++ text.drop reached

def render (search : Search) (width : Nat) (name : Text) (line : Line) : Text :=
  if search.given.has 'o' then
    if !line.selected || search.given.has 'v' then []
    else
      (search.fitting (search.subject line.text) (line.text.length + 2) 0).flatMap
        fun (start, part) =>
          search.label width name line ':' (line.offset + start) ++ search.paint "01;31" part ++
            [search.stop]
  else
    let isFound := line.selected != search.given.has 'v'
    search.label width name line (if line.selected then ':' else '-') line.offset ++
      (if search.painted && isFound then search.highlighted line.text else line.text) ++
      [search.stop]

/-- The lines that were looked for or are near one that was; the numbers tell how far
back the last one that was looked for is, and whether the next one is near. -/
def near (search : Search) (lines : List Line) : List Line :=
  let before := search.before.getD 0
  let after := search.after.getD 0
  let ahead := (lines.foldr
    (fun line (marks, distance) =>
      let distance := if line.selected then 0 else distance + 1
      (decide (distance ≤ before) :: marks, distance))
    (([] : List Bool), before + 1)).1
  ((lines.zip ahead).foldl
    (fun (kept, distance) (line, isAhead) =>
      let distance := if line.selected then 0 else distance + 1
      (if isAhead || decide (distance ≤ after) then line :: kept else kept, distance))
    (([] : List Line), after + 1)).1.reverse

/-- What stands between groups of lines. -/
def separator (search : Search) : Text :=
  if search.before.isNone && search.after.isNone then []
  else
    match search.given.last? ['σ', 'τ'] with
    | some 'τ' => []
    | some _ => search.paint "36" ((search.given.value? 'σ').getD []) ++ ['\n']
    | none => search.paint "36" ['-', '-'] ++ ['\n']

/-- The lines that are shown, with a mark between groups of them. -/
def renderAll (search : Search) (width : Nat) (name : Text) : Option Nat → List Line → Text
  | _, [] => []
  | last, line :: rest =>
      let marked := last.any (· + 1 < line.number)
      (if marked then search.separator else []) ++ search.render width name line ++
        search.renderAll width name (some line.number) rest

/-- What is shown of a file, whether something was found in it, and how much of it had to
be read; `isFirst` tells that nothing was shown before. -/
def ofFile (search : Search) (isFirst : Bool) (width : Nat) (name : Text) (data : Bytes) :
    Text × Bool × Nat :=
  let given := search.given
  let kind := binaryKind given
  let isSkipped := search.isBinary data && kind == some "without-match".toList
  let lines := if isSkipped then [] else search.scan 0 1 0 (search.lines data)
  let chosen := lines.filter Line.selected
  let found := !chosen.isEmpty
  let needed := match search.most, chosen.getLast? with
    | some most, some line =>
        if chosen.length = most then line.offset + line.text.length + 1 else data.length
    | _, _ => data.length
  let label := if search.named then search.paint "35" name ++ search.afterName ':' else []
  let listed := search.paint "35" name ++ [if given.has 'Z' then '\x00' else '\n']
  let shown : Text :=
    if given.has 'q' then []
    else
      match given.last? ['l', 'L'] with
      | some 'L' => if found then [] else listed
      | some _ => if found then listed else []
      | none =>
          if given.has 'c' then label ++ Text.ofNat chosen.length ++ ['\n']
          else if search.isBinary data && kind ≠ some "text".toList then
            if found then "grep: ".toList ++ name ++ ": binary file matches\n".toList else []
          else
            let shown := if search.before.isNone && search.after.isNone then chosen
              else search.near lines
            (if !isFirst && !shown.isEmpty then search.separator else []) ++
              search.renderAll width name none shown
  (shown, found, needed)

end Search

/-- Whether the last part of a path fits one of several patterns. -/
def fitsAny (patterns : List Text) (name : Text) : Bool :=
  let base := (name.reverse.takeWhile (· ≠ '/')).reverse
  patterns.any fun pattern =>
    let glyphs := pattern.map fun char => (char, false)
    Pattern.holds glyphs base || (pattern.contains '/' && Pattern.holds glyphs name)

/-- Whether a file is looked into. -/
def isWanted (given : Given) (name : Text) : Bool :=
  (given.values 'ι' = [] || fitsAny (given.values 'ι') name) && !fitsAny (given.values 'ξ') name

/-- The files below a directory, in the order of their names. -/
def filesBelow (state : State) (given : Given) : Nat → Text → Position → List Text
  | 0, _, _ => []
  | depth + 1, path, position =>
      (sortedNames state position).flatMap fun name =>
        let inner := position ++ [Text.toBytes name]
        let full := below path name
        let follow (target : Except IoError (Position × Entry)) : List Text :=
          match target with
          | .ok (inner, .directory) =>
              if fitsAny (given.values 'δ') name then []
              else filesBelow state given depth full inner
          | .ok (_, .file _) | .ok (_, .program _) => if isWanted given full then [full] else []
          | _ => []
        match state.world.files.get? inner with
        | some .directory => follow (.ok (inner, .directory))
        | some (.link _) => if given.has 'R' then follow (state.stat full) else []
        | some entry => follow (.ok (inner, entry))
        | none => []

def directoryAction (given : Given) : Text :=
  match given.last? ['r', 'R', 'd'] with
  | some 'd' => (given.value? 'd').getD []
  | some _ => "recurse".toList
  | none => "read".toList

/-- The operands of a search with directories replaced by the files in them. -/
def operandsOf (state : State) (given : Given) : List Text :=
  let deep := directoryAction given = "recurse".toList
  let below (operand : Text) : List Text :=
    match state.stat operand with
    | .ok (position, .directory) =>
        if !deep then [operand]
        else if fitsAny (given.values 'δ') operand then []
        else filesBelow state given deepest operand position
    | _ => if operand = ['-'] || isWanted given operand then [operand] else []
  if given.operands = [] then
    if deep then filesBelow state given deepest [] state.directory else [['-']]
  else given.operands.flatMap below

/-- How wide numbers are that are lined up. -/
def numberWidth (given : Given) (isFile : Bool) (size : Nat) : Nat :=
  if !given.has 'T' then 0
  else if !isFile then 19
  else (Text.ofNat (if given.has 'n' then size + 1 else size)).length

/-- What is known while files are searched. -/
structure Progress where
  state : State
  found : Bool := false
  failed : Bool := false
  shown : Bool := false

def Search.visit (search : Search) (progress : Progress) (operand : Text) : Progress :=
  let given := search.given
  let state := progress.state
  let name := if operand = ['-'] then (given.value? 'κ').getD "(standard input)".toList
    else operand
  let refused (message : Text) : Progress :=
    { progress with
      state := if given.has 's' then state else complain state "grep" message
      failed := true }
  if given.has 'q' && progress.found then progress
  else
    match load state operand with
    | .error error =>
        if error = .isDirectory && directoryAction given = "skip".toList then progress
        else refused (bareNameAndReason name error)
    | .ok (data, loaded) =>
        let isQuiet := given.has 'q' || given.has 'l' || given.has 'L' || search.most == some 1
        if !isQuiet && operand ≠ ['-'] && isOutput state operand then
          { refused (name ++ ": input file is also the output".toList) with
            state := complain state "grep" (name ++ ": input file is also the output".toList) }
        else
          let isFile := operand ≠ ['-'] || !isPipe state
          let width := numberWidth given isFile data.length
          let (shown, here, needed) := search.ofFile (!progress.shown) width name data
          let loaded := if operand = ['-'] && needed < data.length && !isPipe state then
              state.putBack loaded 0 State.blockSize needed
            else loaded
          { state := loaded.write 1 shown
            found := progress.found || here
            failed := progress.failed
            shown := progress.shown || !shown.isEmpty }

/-- Searches files in turn; the status tells whether something was found, and
whether something went wrong. -/
def Search.run (search : Search) (state : State) (operands : List Text) : Flow × State :=
  let progress := operands.foldl search.visit { state := state }
  done progress.state
    (if search.given.has 'q' && progress.found then 0 else if progress.failed then 2
      else if progress.found then 0 else 1)

/-- Complains about how the search was called. -/
def usage (state : State) : Flow × State :=
  done (state.write 2 "Usage: grep [OPTION]... PATTERNS [FILE]...\nTry 'grep --help' for more information.\n".toList) 2

/-- The lines of all patterns: of the switches, of files, or of the first operand. -/
def patternsOf (state : State) (given : Given) :
    Except Text (Option (List Text × List Text) × State) :=
  let cut (text : Text) : List Text := if text = [] then [[]] else
    Text.lines (if text.getLast? = some '\n' then text ++ ['\n'] else text)
  let chosen := given.switches.filter fun switch => switch.1 == 'e' || switch.1 == 'f'
  if chosen = [] then
    match given.operands with
    | [] => .ok (none, state)
    | first :: rest => .ok (some (cut first, rest), state)
  else do
    let (patterns, state) ← chosen.foldlM
      (fun ((patterns, state) : List Text × State) (letter, value) =>
        if letter == 'e' then pure (patterns ++ cut value, state)
        else
          match load state value with
          | .error error => throw (bareNameAndReason value error)
          | .ok (data, state) => pure (patterns ++ textLines data, state))
      ([], state)
    pure (some (patterns, given.operands), state)

/-- Whether an argument of the switch for colours asks for them. -/
def asksColour (value : Text) : Bool :=
  ["always", "yes", "force"].contains (String.ofList value)

/-- What is wrong with the values of switches, if something is. -/
def fault? (given : Given) : Option Text :=
  let contextFault := ['A', 'B', 'C'].findSome? fun letter =>
    (given.value? letter).filter fun text => (Text.toNat? text).isNone
  let count? := given.value? 'm'
  match contextFault with
  | some text => some (text ++ ": invalid context length argument".toList)
  | none =>
      if count?.any fun text => (Text.toInt? text).isNone then some "invalid max count".toList
      else if (given.values 'β').any fun value =>
          !(["binary", "text", "without-match"].contains (String.ofList value)) then
        some "unknown binary-files type".toList
      else none

/-- A search with a notation that goes without saying. -/
def searchAs (implied : List (Char × Text)) : Tool := fun state arguments =>
  match known.accept (arguments.map contextNumber) with
  | .error message => usage (complain state "grep" message)
  | .ok given =>
      let given := { given with switches := implied ++ given.switches }
      let state := if given.has 'u' then
          complain state "grep" "warning: --unix-byte-offsets (-u) is obsolete".toList
        else state
      let badAction := (given.values 'd').find? fun value =>
        !(["read", "recurse", "skip"].contains (String.ofList value))
      let kinds := ['E', 'F', 'G', 'P'].filter given.has
      match fault? given, badAction with
      | _, some value =>
          let refusal := choiceRefusal "--directories" ["read", "recurse", "skip"] value
          done (usage (complain state "grep" refusal.message)).2 1
      | some message, _ => done (complain state "grep" message) 2
      | none, none =>
        if 1 < kinds.length then
          done (complain state "grep" "conflicting matchers specified".toList) 2
        else if given.has 'V' then
          done (state.write 1 "grep (GNU grep) 3.11\n".toList) 0
        else
        match patternsOf state given with
        | .error message => done (complain state "grep" message) 2
        | .ok (none, state) => usage state
        | .ok (some (patterns, operands), state) =>
            if given.has 'P' && 1 < patterns.length then
              done (complain state "grep"
                "the -P option only supports a single pattern".toList) 2
            else
            let state := if given.has 'E' then
                patterns.foldl
                  (fun state text => (strayParts (text.length + 1) true text).1.foldl
                    (fun state warning => complain state "grep" ("warning: ".toList ++ warning.toList))
                    state)
                  state
              else state
            match patterns.mapM (pattern given) with
            | .error message => done (complain state "grep" message.toList) 2
            | .ok regexes =>
                let given := { given with operands := operands }
                let deep := directoryAction given = "recurse".toList
                let isFile := operands.length = 1 && match state.stat (operands.headD []) with
                  | .ok (_, .directory) => false
                  | _ => true
                let named := match given.last? ['h', 'H'] with
                  | some letter => letter == 'H'
                  | none => if deep then !isFile else 1 < operands.length
                let context (letter : Char) : Option Nat :=
                  ((given.value? letter).orElse fun _ => given.value? 'C').bind Text.toNat?
                let search : Search :=
                  { given := given
                    regex := Regex.anyOf regexes
                    most := ((given.value? 'm').bind Text.toInt?).bind fun count =>
                      if count < 0 then none else some count.toNat
                    before := context 'B'
                    after := context 'A'
                    named := named
                    painted := (given.value? 'γ').any asksColour }
                search.run state (operandsOf state given)

end Grep

def grep : Tool := Grep.searchAs []

def egrep : Tool := Grep.searchAs [('E', [])]

def fgrep : Tool := Grep.searchAs [('F', [])]

end Tools

end FolderScript.Shell
