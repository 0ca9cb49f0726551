/-
The stream editor: carrying out a script on lines.
-/
import FolderScript.Machine.Shell.Tools.Files
import FolderScript.Machine.Shell.Tools.SedScript

namespace FolderScript.Shell

namespace Sed

/-- A line that waits to be read: its text, whether it has an end, and the file it
comes from. -/
structure Line where
  text : Text
  ended : Bool
  file : Text
  deriving DecidableEq, Repr

/-- Whether a step is inside of its range, and up to which line. -/
inductive Span where
  | outside
  | upTo (line : Nat)
  | open
  deriving DecidableEq, Repr

/-- The editor at work. -/
structure Editor where
  script : Script
  silent : Bool
  waiting : List Line
  space : Text := []
  ended : Bool := true
  file : Text := []
  held : Text := []
  number : Nat := 0
  spans : Array Span := #[]
  /-- What is written at the end of the cycle. -/
  queue : List Text := []
  substituted : Bool := false
  lastPattern : Option Regex := none
  /-- What was written, last first. -/
  written : List Text := []
  /-- Whether what was written last lacks a line end. -/
  dangling : Bool := false
  /-- What goes to other files, last first. -/
  files : List (Text × Text) := []
  /-- The contents of files that may be read. -/
  contents : Text → Text := fun _ => []

namespace Editor

def put (editor : Editor) (text : Text) : Editor :=
  if text = [] then editor
  else if editor.dangling then
    { editor with written := text :: ['\n'] :: editor.written, dangling := false }
  else { editor with written := text :: editor.written }

/-- Writes a line, without an end if the line that was read has none. -/
def putLine (editor : Editor) (text : Text) : Editor :=
  if editor.ended then editor.put (text ++ ['\n'])
  else { (editor.put text) with dangling := true }

/-- Writes a line to another file. -/
def putFile (editor : Editor) (name text : Text) : Editor :=
  if name = "/dev/stdout".toList then editor.putLine text
  else { editor with files := (name, text ++ ['\n']) :: editor.files }

/-- Writes what had to wait for the end of the cycle. -/
def flush (editor : Editor) : Editor :=
  { (editor.queue.reverse.foldl put editor) with queue := [] }

/-- Whether the line at hand is the last one. -/
def isLast (editor : Editor) : Bool := editor.waiting.isEmpty

/-- The text that is searched. -/
def subject (editor : Editor) (wanted : Wanted) : Regex.Subject :=
  { chars := editor.space.toArray, ignoresCase := wanted.ignoresCase, hasLines := wanted.hasLines }

/-- The regular expression of a pattern, which is remembered. -/
def regexOf (editor : Editor) (wanted : Wanted) : Option Regex × Editor :=
  match wanted.regex with
  | some regex => (some regex, { editor with lastPattern := some regex })
  | none => (editor.lastPattern, editor)

/-- Whether a pattern is found. -/
def finds (editor : Editor) (wanted : Wanted) : Bool × Editor :=
  match editor.regexOf wanted with
  | (some regex, editor) => ((regex.search? (editor.subject wanted) 0).isSome, editor)
  | (none, editor) => (false, editor)

def fits (editor : Editor) : Address → Bool × Editor
  | .line number => (editor.number = number, editor)
  | .last => (editor.isLast, editor)
  | .pattern wanted => editor.finds wanted
  | .step first step =>
      (if step = 0 then editor.number = first
        else first ≤ editor.number && (editor.number - first) % step = 0, editor)

/-- Changes the span of a step. -/
def setSpan (editor : Editor) (index : Nat) (span : Span) : Editor :=
  { editor with spans := editor.spans.setIfInBounds index span }

/-- The span that a range has after its first line. -/
def opened (editor : Editor) (index : Nat) (stop : Bound) : Editor :=
  let upTo (line : Nat) : Editor :=
    editor.setSpan index (if line ≤ editor.number then .outside else .upTo line)
  match stop with
  | .line number => upTo number
  | .more count => upTo (editor.number + count)
  | .multiple count =>
      upTo (if count = 0 then editor.number
        else (editor.number + count - 1) / count * count)
  | .last => editor.setSpan index (if editor.isLast then .outside else .open)
  | .pattern _ => editor.setSpan index .open

/-- Whether a step is for the line at hand. -/
def chooses (editor : Editor) (index : Nat) (step : Step) : Bool × Editor :=
  let (chosen, editor) : Bool × Editor := match step.start, step.stop with
    | none, _ => (true, editor)
    | some start, none => editor.fits start
    | some start, some stop =>
        let enter (editor : Editor) : Bool × Editor :=
          let (holds, editor) := editor.fits start
          if holds then (true, editor.opened index stop) else (false, editor)
        match editor.spans.getD index .outside with
        | .upTo line =>
            if line < editor.number then enter (editor.setSpan index .outside)
            else
              (true, if line = editor.number then editor.setSpan index .outside else editor)
        | .open =>
            let (ends, editor) : Bool × Editor := match stop with
              | .pattern wanted => editor.finds wanted
              | _ => (editor.isLast, editor)
            (true, if ends then editor.setSpan index .outside else editor)
        | .outside => enter editor
  (chosen != step.negated, editor)

/-- Takes the next line in. -/
def advance (editor : Editor) : Option Editor :=
  match editor.waiting with
  | [] => none
  | line :: waiting =>
      some { editor with
        waiting := waiting
        space := line.text
        ended := line.ended
        file := line.file
        number := editor.number + 1 }

end Editor

/-- A text with changes of case as they come up: for the next character, and for
all that follow. -/
structure Cased where
  once : Option Char := none
  lasting : Option Char := none
  /-- The characters so far, last first. -/
  chars : Text := []

namespace Cased

def add (cased : Cased) (char : Char) : Cased :=
  let apply (letter : Option Char) (char : Char) : Char := match letter with
    | some 'U' | some 'u' => char.toUpper
    | some 'L' | some 'l' => char.toLower
    | _ => char
  { cased with
    once := none
    chars := apply (cased.once.orElse fun _ => cased.lasting) char :: cased.chars }

/-- Adds a part of a replacement. -/
def addPiece (group : Nat → Text) (cased : Cased) : Piece → Cased
  | .letter char => cased.add char
  | .group number => (group number).foldl add cased
  | .caseChange letter =>
      if letter = 'u' ∨ letter = 'l' then { cased with once := some letter }
      else if letter = 'E' then { cased with lasting := none, once := none }
      else { cased with lasting := some letter }

end Cased

def replacementFor (subject : Regex.Subject) (found : Regex.Match) (parts : List Piece) : Text :=
  (parts.foldl (Cased.addPiece fun number => found.group subject number) {}).chars.reverse

/-- Replaces matches from an index on: gives the pieces that the text is made of,
and whether anything was replaced.  `done` is where the last match ended. -/
def replaced (how : Substitution) (regex : Regex) (subject : Regex.Subject) :
    Nat → Nat → Nat → Option Nat → List Text × Bool
  | 0, index, _, _ => ([subject.slice index subject.chars.size], false)
  | fuel + 1, index, count, done =>
      match regex.search? subject index with
      | none => ([subject.slice index subject.chars.size], false)
      | some found =>
          let before := subject.slice index found.start
          if found.start = found.stop ∧ done = some found.start then
            if subject.chars.size ≤ index then ([[]], false)
            else
              let (more, any) := replaced how regex subject fuel (index + 1) count none
              (subject.slice index (index + 1) :: more, any)
          else
            let count := count + 1
            let isChosen := if how.isGlobal then how.first ≤ count else count = how.first
            let shown := if isChosen then replacementFor subject found how.replacement
              else found.group subject 0
            if isChosen ∧ !how.isGlobal then
              ([before, shown, subject.slice found.stop subject.chars.size], true)
            else if found.start = found.stop then
              let step := subject.slice found.stop (found.stop + 1)
              if subject.chars.size ≤ found.stop then ([before, shown], isChosen)
              else
                let (more, any) := replaced how regex subject fuel (found.stop + 1) count none
                (before :: shown :: step :: more, any || isChosen)
            else
              let (more, any) :=
                replaced how regex subject fuel found.stop count (some found.stop)
              (before :: shown :: more, any || isChosen)

/-- A character as it is shown without doubt. -/
def clearChar (char : Char) : Text :=
  match char with
  | '\\' => "\\\\".toList
  | '\x07' => "\\a".toList
  | '\x08' => "\\b".toList
  | '\x0c' => "\\f".toList
  | '\n' => "\\n".toList
  | '\r' => "\\r".toList
  | '\t' => "\\t".toList
  | '\x0b' => "\\v".toList
  | other =>
      let code := other.toNat
      if 32 ≤ code ∧ code ≤ 126 then [other]
      else
        let digits := Nat.toDigits 8 code
        '\\' :: List.replicate (3 - digits.length) '0' ++ digits

/-- How long the lines of a clear text may be. -/
def clearWidth : Nat := 69

/-- A text without doubt, cut into lines. -/
def clearText (text : Text) : Text :=
  let (shown, _) := text.foldl
    (fun ((shown : Text), (width : Nat)) char =>
      let next := clearChar char
      if clearWidth < width + next.length then
        (next.reverse ++ '\n' :: '\\' :: shown, next.length)
      else (next.reverse ++ shown, width + next.length))
    ([], 0)
  ('\n' :: '$' :: shown).reverse

/-- How a script goes on after a step. -/
inductive Onward where
  | at (index : Nat)
  /-- The cycle ends; the line is printed or not. -/
  | cycleEnds (prints : Bool)
  /-- The cycle starts again without a new line. -/
  | again
  | stop (code : Nat) (prints : Bool)

/-- Carries out the action of a step. -/
def act (editor : Editor) (index : Nat) (step : Step) : Onward × Editor :=
  let next : Onward := .at (index + 1)
  match step.action with
  | .block _ | .nothing => (next, editor)
  | .substitute how =>
      match editor.regexOf how.wanted with
      | (none, editor) => (next, editor)
      | (some regex, editor) =>
          let subject := editor.subject how.wanted
          let (texts, any) := replaced how regex subject (2 * subject.chars.size + 4) 0 0 none
          if !any then (next, editor)
          else
            let after := { editor with space := texts.flatten, substituted := true }
            let after := if how.prints then after.putLine after.space else after
            (next, match how.file with
              | some name => after.putFile name after.space
              | none => after)
  | .translate pairs =>
      let space := editor.space.map fun char => (List.lookup char pairs).getD char
      (next, { editor with space := space })
  | .print => (next, editor.putLine editor.space)
  | .printFirst => (next, editor.put (editor.space.takeWhile (· ≠ '\n') ++ ['\n']))
  | .delete => (.cycleEnds false, editor)
  | .deleteFirst =>
      if editor.space.contains '\n' then
        let space := (editor.space.dropWhile (· ≠ '\n')).drop 1
        (.again, { editor with space := space })
      else (.cycleEnds false, editor)
  | .next =>
      if editor.isLast then (.stop 0 true, editor)
      else
        let printed := if editor.silent then editor else editor.putLine editor.space
        (next, (printed.flush.advance).getD printed)
  | .append =>
      if editor.isLast then (.stop 0 true, editor)
      else
        let flushed := editor.flush
        match flushed.advance with
        | some after => (next, { after with space := editor.space ++ '\n' :: after.space })
        | none => (next, flushed)
  | .quit code prints => (.stop code prints, editor)
  | .number => (next, editor.put (Text.ofNat editor.number ++ ['\n']))
  | .addText text => (next, { editor with queue := text :: editor.queue })
  | .insertText text => (next, editor.put text)
  | .changeText text =>
      let ranged := step.stop.isSome && !step.negated
      let isEnd := editor.spans.getD index .outside = .outside
      (.cycleEnds false, if ranged && !isEnd then editor else editor.put text)
  | .hold more =>
      let held := if more then editor.held ++ '\n' :: editor.space else editor.space
      (next, { editor with held := held })
  | .fetch more =>
      let space := if more then editor.space ++ '\n' :: editor.held else editor.held
      (next, { editor with space := space })
  | .exchange => (next, { editor with space := editor.held, held := editor.space })
  | .branch label onSuccess =>
      let goes := match onSuccess with
        | none => true
        | some wanted => editor.substituted == wanted
      let after := if onSuccess.isSome then { editor with substituted := false } else editor
      if !goes then (next, after)
      else if label = [] then (.cycleEnds true, after)
      else (.at ((List.lookup label editor.script.labels).getD 0), after)
  | .readFile name => (next, { editor with queue := editor.contents name :: editor.queue })
  | .writeFile name => (next, editor.putFile name editor.space)
  | .list => (next, editor.put (clearText editor.space))
  | .empty => (next, { editor with space := [] })
  | .fileName => (next, editor.put (editor.file ++ ['\n']))

/-- Prints the line at hand if that goes without saying, and what had to wait. -/
def closeCycle (editor : Editor) (prints : Bool) : Editor :=
  (if prints && !editor.silent then editor.putLine editor.space else editor).flush

/-- Carries out steps; every one of them takes from a supply.  Gives the exit code,
or nothing if the script does not end. -/
def run : Nat → Nat → Editor → Option Nat × Editor
  | 0, _, editor => (none, editor)
  | fuel + 1, index, editor =>
      let onward : Onward × Editor :=
        match editor.script.steps[index]? with
        | none => (.cycleEnds true, editor)
        | some step =>
            let (chosen, editor) := editor.chooses index step
            match chosen, step.action with
            | true, _ => act editor index step
            | false, .block endsAt => (.at endsAt, editor)
            | false, _ => (.at (index + 1), editor)
      match onward with
      | (.at next, editor) => run fuel next editor
      | (.again, editor) => run fuel 0 (closeCycle editor false)
      | (.stop code prints, editor) => (some code, closeCycle editor prints)
      | (.cycleEnds prints, editor) =>
          match (closeCycle editor prints).advance with
          | none => (some 0, closeCycle editor prints)
          | some after => run fuel 0 { after with substituted := false }

/-- How many steps a script may take. -/
def supply : Nat := 20000000

/-- Carries out a script on all lines. -/
def Editor.start (editor : Editor) : Option Nat × Editor :=
  let ready := { editor with
    spans := editor.script.steps.map fun (step : Step) => if step.fromZero then .open else .outside }
  match ready.advance with
  | none => (some 0, ready)
  | some after => run supply 0 after

end Sed

namespace Tools

def sedLines (name : Text) (separator : Char) (data : Bytes) : List Sed.Line :=
  let text := Text.ofBytes data
  let parts := text.foldr
    (fun char (parts : List Text) =>
      match parts with
      | [] => [[char]]
      | part :: others => if char = separator then [] :: part :: others
        else (char :: part) :: others)
    [[]]
  let ended := parts.dropLast.map fun part => ⟨part, true, name⟩
  match parts.getLast? with
  | some [] | none => ended
  | some part => ended ++ [⟨part, false, name⟩]

/-- A complaint about a script, with its place. -/
def sedFault (texts : List Text) (fault : Sed.Fault) : Text :=
  match fault.left with
  | none => fault.message.toList
  | some left =>
      let total := (Text.join ['\n'] texts).length
      let consumed := total - left
      let (number, place) := texts.foldl
        (fun ((number, place, found) : Nat × Nat × Bool) text =>
          if found then (number, place, true)
          else if place ≤ text.length then (number, place, true)
          else (number + 1, place - text.length - 1, false))
        (1, consumed, false) |> fun (number, place, _) => (number, place)
      "-e expression #".toList ++ Text.ofNat number ++ ", char ".toList ++ Text.ofNat place ++
        ": ".toList ++ fault.message.toList

/-- The files that a script writes to, in order. -/
def sedTargets (script : Sed.Script) : List Text :=
  (script.steps.toList.filterMap fun step =>
    match step.action with
    | .writeFile name => some name
    | .substitute how => how.file
    | _ => none).eraseDups.filter fun name =>
      name ≠ "/dev/stdout".toList && name ≠ "/dev/stderr".toList

def putText (state : State) (path text : Text) : State :=
  match state.placeFor path with
  | .error _ => state
  | .ok position =>
      match state.world.files.get? position with
      | none | some (.file _) => state.putEntry position (.file (Text.toBytes text))
      | some _ => state

/-- The switches of the editor, with the ending for copies apart. -/
def sedArguments (arguments : List Text) : List Text × Option Text :=
  let isInPlace (argument : Text) : Bool :=
    "-i".toList.isPrefixOf argument || "--in-place".toList.isPrefixOf argument
  let before := arguments.takeWhile (· ≠ ['-', '-'])
  let after := arguments.drop before.length
  let ending := (before.find? isInPlace).map fun argument =>
    if "--in-place=".toList.isPrefixOf argument then argument.drop 11
    else if "--in-place".toList.isPrefixOf argument then []
    else argument.drop 2
  (before.filter (!isInPlace ·) ++ after, ending)

/-- Loads the inputs of the editor; what cannot be read is complained about. -/
def sedInputs (state : State) (operands : List Text) : List (Text × Bytes) × Bool × State :=
  (if operands = [] then [['-']] else operands).foldl
    (fun (found, failed, state) operand =>
      match load state operand with
      | .ok (data, state) => (found ++ [(operand, data)], failed, state)
      | .error error =>
          let words := if error = .isDirectory then "read error on " else "can't read "
          (found, true, complain state "sed" (words.toList ++ bareNameAndReason operand error)))
    ([], false, state)

def sed : Tool := fun state arguments =>
  let (arguments, ending) := sedArguments arguments
  let known : Switches := ⟨"nErsuz", "efl", [("quiet", 'n'), ("silent", 'n'),
    ("expression", 'e'), ("file", 'f'), ("regexp-extended", 'E'), ("separate", 's'),
    ("unbuffered", 'u'), ("null-data", 'z'), ("line-length", 'l'), ("posix", 'u'),
    ("debug", 'u'), ("sandbox", 'u')], true⟩
  let usage (state : State) : Flow × State := done (state.write 2
    "Usage: sed [OPTION]... \x7bscript-only-if-no-other-script\x7d [input-file]...\n".toList) 1
  match known.accept arguments with
  | .error message => usage (complain state "sed" message)
  | .ok given =>
      let texts? : Except Text (List Text × List Text) :=
        let chosen := given.switches.filter fun switch => switch.1 == 'e' || switch.1 == 'f'
        if chosen = [] then
          match given.operands with
          | [] => .ok ([], [])
          | first :: rest => .ok ([first], rest)
        else do
          let texts ← chosen.mapM fun (letter, value) =>
            if letter = 'e' then .ok value
            else
              match load state value with
              | .ok (data, _) =>
                  let text := Text.ofBytes data
                  .ok (if text.getLast? = some '\n' then text.dropLast else text)
              | .error error =>
                  .error ("couldn't open file ".toList ++ value ++ ": ".toList ++ reason error)
          pure (texts, given.operands)
      match texts? with
      | .error message => done (complain state "sed" message) 1
      | .ok ([], _) => usage state
      | .ok (texts, operands) =>
          match Sed.read (given.has 'E' || given.has 'r') (Text.join ['\n'] texts) with
          | .error fault => done (complain state "sed" (sedFault texts fault)) 1
          | .ok script => edit state given script operands ending
            ("#n".toList.isPrefixOf (texts.headD []) &&
              ((texts.headD []).drop 2).head?.all (· = '\n'))
where
  /-- Carries out a script on files. -/
  edit (state : State) (given : Given) (script : Sed.Script) (operands : List Text)
      (ending : Option Text) (silent : Bool) : Flow × State :=
    let (inputs, failed, state) := sedInputs state operands
    let separator := if given.has 'z' then Char.ofNat 0 else '\n'
    let contents (name : Text) : Text :=
      match load state name with
      | .ok (data, _) => Text.ofBytes data
      | .error _ => []
    let linesOf (input : Text × Bytes) : List Sed.Line :=
      sedLines (if input.1 = ['-'] then ['-'] else input.1) separator input.2
    let apart := given.has 's' || ending.isSome
    let batches := if apart then inputs.map fun input => (input, linesOf input)
      else [((inputs.headD ([], [])), inputs.flatMap linesOf)]
    let (state, code?, files) := batches.foldl
      (fun ((state, code?, files) : State × Option Nat × List (Text × Text)) (input, lines) =>
        if code? ≠ some 0 then (state, code?, files)
        else
          let editor : Sed.Editor :=
            { script := script
              silent := silent || given.has 'n'
              waiting := lines
              contents := contents }
          let (code?, editor) := editor.start
          let text := editor.written.reverse.flatten
          let state := match ending with
            | none => state.write 1 text
            | some ending =>
                let kept := if ending = [] then state
                  else putText state (input.1 ++ ending) (Text.ofBytes input.2)
                putText kept input.1 text
          (state, code?, editor.files ++ files))
      (state, some 0, [])
    let state := (sedTargets script).foldl
      (fun state name => putText state name
        (files.reverse.flatMap fun entry => if entry.1 = name then entry.2 else [])) state
    match code? with
    | none => (.forever, state)
    | some code => done state (if code = 0 && failed then 2 else code)

end Tools

end FolderScript.Shell
