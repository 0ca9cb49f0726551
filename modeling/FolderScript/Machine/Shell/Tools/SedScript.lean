/-
Scripts of the stream editor as data, and how they are read.
-/
import FolderScript.Machine.Shell.Format
import FolderScript.Machine.Shell.Regex

namespace FolderScript.Shell

namespace Sed

/-- A pattern; without a regular expression it is the one used last. -/
structure Wanted where
  regex : Option Regex
  ignoresCase : Bool := false
  hasLines : Bool := false

/-- Which lines something starts at. -/
inductive Address where
  | line (number : Nat)
  | last
  | pattern (wanted : Wanted)
  /-- Every so many lines from a first one on. -/
  | step (first step : Nat)

/-- Where a range of lines ends. -/
inductive Bound where
  | line (number : Nat)
  | last
  | pattern (wanted : Wanted)
  /-- So many lines further on. -/
  | more (count : Nat)
  /-- At the next multiple. -/
  | multiple (count : Nat)

/-- A part of a replacement. -/
inductive Piece where
  | letter (char : Char)
  | group (number : Nat)
  /-- A change of case: of all that follows, of the next character, or none. -/
  | caseChange (letter : Char)

structure Substitution where
  wanted : Wanted
  replacement : List Piece
  isGlobal : Bool
  /-- The match that is replaced first. -/
  first : Nat
  prints : Bool
  file : Option Text

inductive Action where
  /-- Goes on after the command of this number unless the lines are wanted. -/
  | block (endsAt : Nat)
  | nothing
  | substitute (how : Substitution)
  | translate (pairs : List (Char × Char))
  | print
  | printFirst
  | delete
  | deleteFirst
  | next
  | append
  | quit (code : Nat) (prints : Bool)
  | number
  | addText (text : Text)
  | insertText (text : Text)
  | changeText (text : Text)
  | hold (more : Bool)
  | fetch (more : Bool)
  | exchange
  /-- Goes on at a label; `when` tells whether that hangs on a substitution. -/
  | branch (label : Text) (onSuccess : Option Bool)
  | readFile (name : Text)
  | writeFile (name : Text)
  | list
  | empty
  | fileName

/-- A command with the lines it is for. -/
structure Step where
  start : Option Address
  stop : Option Bound
  /-- Whether the end of the range is looked for in its first line too. -/
  fromZero : Bool
  negated : Bool
  action : Action

/-- A script: its commands, and where its labels are. -/
structure Script where
  steps : Array Step
  labels : List (Text × Nat)

/-- A mistake: how much of the script was left, and what is wrong; without a place
it concerns the whole. -/
structure Fault where
  left : Option Nat
  message : String

abbrev Reading := StateT Text (Except Fault)

/-- Gives up. -/
def fail {α : Type} (message : String) : Reading α := do
  throw ⟨some (← get).length, message⟩

/-- Takes the next character. -/
def take : Reading (Option Char) := do
  match ← get with
  | [] => pure none
  | char :: rest => do
      set rest
      pure (some char)

def blanks : Reading Unit := modify (·.dropWhile fun char => char == ' ' || char == '\t')

/-- Takes a number. -/
def digits : Reading Nat := do
  let found := (← get).takeWhile Char.isDigit
  modify (·.drop found.length)
  pure (Nat.ofDigitChars 10 found 0)

/-- The text up to a mark, with the backslashes before marks removed; in a pattern
a bracket does not hide the mark. -/
def upTo (mark : Char) (isPattern : Bool) : Text → Option (Text × Text)
  | [] => none
  | '\\' :: char :: rest =>
      (upTo mark isPattern rest).map fun (text, after) =>
        if char = mark then ((if isPattern then [char] else ['\\', char]) ++ text, after)
        else ('\\' :: char :: text, after)
  | char :: rest =>
      if char = mark then some ([], rest)
      else if char = '\n' ∧ isPattern then none
      else (upTo mark isPattern rest).map fun (text, after) => (char :: text, after)

/-- A numbered character, and what follows it. -/
def coded? (char : Char) (rest : Text) : Option (Char × Text) :=
  let read (base most : Nat) : Option (Char × Text) :=
    let found := (rest.take most).takeWhile fun digit => Format.digitValue digit < base
    if found = [] then none
    else
      let value := found.foldl (fun total digit => total * base + Format.digitValue digit) 0
      some (Char.ofNat (value % 256), rest.drop found.length)
  match char with
  | 'x' => read 16 2
  | 'o' => read 8 3
  | 'd' => read 10 3
  | _ => none

/-- The pattern with line ends in brackets and numbered characters written out. -/
def plainPattern : Nat → Bool → Text → Text
  | 0, _, text => text
  | _ + 1, _, [] => []
  | fuel + 1, true, '\\' :: 'n' :: rest => '\n' :: plainPattern fuel true rest
  | fuel + 1, true, '\\' :: 't' :: rest => '\t' :: plainPattern fuel true rest
  | fuel + 1, true, '[' :: ':' :: rest => '[' :: ':' :: plainPattern fuel true rest
  | fuel + 1, true, ':' :: ']' :: rest => ':' :: ']' :: plainPattern fuel true rest
  | fuel + 1, true, ']' :: rest => ']' :: plainPattern fuel false rest
  | fuel + 1, true, char :: rest => char :: plainPattern fuel true rest
  | fuel + 1, false, '\\' :: char :: rest =>
      match coded? char rest with
      | some (found, rest) =>
          (if "*.[]^$/\\+?".toList.contains found then ['\\', found] else [found]) ++
            plainPattern fuel false rest
      | none => '\\' :: char :: plainPattern fuel false rest
  | fuel + 1, false, '[' :: '^' :: ']' :: rest => '[' :: '^' :: ']' :: plainPattern fuel true rest
  | fuel + 1, false, '[' :: ']' :: rest => '[' :: ']' :: plainPattern fuel true rest
  | fuel + 1, false, '[' :: rest => '[' :: plainPattern fuel true rest
  | fuel + 1, false, char :: rest => char :: plainPattern fuel false rest

/-- The regular expression of a pattern. -/
def compile (extended : Bool) (text : Text) : Reading (Option Regex) := do
  let plain := plainPattern (text.length + 1) false text
  if text = [] then pure none
  else if extended ∧ (text.head? = some '*' ∨ text.head? = some '+' ∨ text.head? = some '?') then
    fail "Invalid preceding regular expression"
  else
    match Regex.parse extended plain with
    | .ok regex => pure (some regex)
    | .error message => fail message

/-- The highest group of a regular expression. -/
def groupCount : Regex → Nat
  | .group number body => max number (groupCount body)
  | .choice first second | .sequence first second => max (groupCount first) (groupCount second)
  | .repeated body _ _ => groupCount body
  | _ => 0

/-- The parts of a replacement. -/
def pieces : Nat → Text → List Piece
  | 0, _ => []
  | _ + 1, [] => []
  | fuel + 1, '\\' :: char :: rest =>
      if char.isDigit then .group (char.toNat - '0'.toNat) :: pieces fuel rest
      else if "ULulE".toList.contains char then .caseChange char :: pieces fuel rest
      else
        match coded? char rest, char with
        | some (found, rest), _ => .letter found :: pieces fuel rest
        | none, '&' | none, '\\' | none, 'b' => .letter char :: pieces fuel rest
        | none, _ => .letter ((Format.letter? char).getD char) :: pieces fuel rest
  | fuel + 1, '&' :: rest => .group 0 :: pieces fuel rest
  | fuel + 1, char :: rest => .letter char :: pieces fuel rest

def addressFlags : Nat → Bool → Bool → Reading (Bool × Bool)
  | 0, ignoresCase, hasLines => pure (ignoresCase, hasLines)
  | fuel + 1, ignoresCase, hasLines => do
      match ← get with
      | 'I' :: rest => do
          set rest
          addressFlags fuel true hasLines
      | 'M' :: rest => do
          set rest
          addressFlags fuel ignoresCase true
      | _ => pure (ignoresCase, hasLines)

def pattern (extended : Bool) (mark : Char) : Reading Wanted := do
  match upTo mark true (← get) with
  | none => do
      set ([] : Text)
      fail "unterminated address regex"
  | some (text, rest) => do
      set rest
      let (ignoresCase, hasLines) ← addressFlags 5 false false
      let regex ← compile extended text
      pure ⟨regex, ignoresCase, hasLines⟩

def address? (extended : Bool) : Reading (Option Address) := do
  match ← get with
  | '/' :: rest => do
      set rest
      pure (some (.pattern (← pattern extended '/')))
  | '\\' :: mark :: rest => do
      set rest
      pure (some (.pattern (← pattern extended mark)))
  | '$' :: rest => do
      set rest
      pure (some .last)
  | char :: _ =>
      if char.isDigit then do
        let number ← digits
        match ← get with
        | '~' :: rest => do
            set rest
            pure (some (.step number (← digits)))
        | _ => pure (some (.line number))
      else pure none
  | [] => pure none

/-- Takes the end of a range, after its comma. -/
def bound (extended : Bool) : Reading Bound := do
  blanks
  match ← get with
  | '+' :: rest => do
      set rest
      pure (.more (← digits))
  | '~' :: rest => do
      set rest
      pure (.multiple (← digits))
  | _ => do
      match ← address? extended with
      | some (.line number) | some (.step number _) => pure (.line number)
      | some .last => pure .last
      | some (.pattern wanted) => pure (.pattern wanted)
      | none => do
          let _ ← take
          fail "unexpected \x60,'"

def endCommand : Reading Unit := do
  blanks
  match ← get with
  | [] | '\x7d' :: _ | '#' :: _ => pure ()
  | char :: rest =>
      if char = '\n' ∨ char = ';' then set rest
      else do
        set rest
        fail "extra characters after command"

def restOfLine : Reading Text := do
  blanks
  let text := (← get).takeWhile (· ≠ '\n')
  modify fun left => left.drop (text.length + 1)
  pure text

/-- A text up to a line end that no backslash hides, without its backslashes, and
what follows it. -/
def freeText : Nat → Text → Text × Text
  | 0, text => (text, [])
  | _ + 1, [] => ([], [])
  | _ + 1, ['\\'] => ([], [])
  | fuel + 1, '\\' :: char :: rest =>
      let (more, after) := freeText fuel rest
      (((if char = '\\' then some char else Format.letter? char).getD char) :: more, after)
  | _ + 1, '\n' :: rest => ([], rest)
  | fuel + 1, char :: rest =>
      let (more, after) := freeText fuel rest
      (char :: more, after)

def addedText : Reading Text := do
  blanks
  match ← get with
  | [] => fail "expected \\ after \x60a', \x60c' or \x60i'"
  | text => do
      let body := match text with
        | '\\' :: rest =>
            let inner := rest.dropWhile fun char => char == ' ' || char == '\t'
            match inner with
            | '\n' :: body => body
            | _ => rest
        | _ => text
      let (found, after) := freeText (body.length + 1) body
      set after
      pure (if body = [] then [] else found ++ ['\n'])

/-- The flags of a substitution as they are read. -/
structure Flags where
  isGlobal : Bool := false
  prints : Bool := false
  ignoresCase : Bool := false
  hasLines : Bool := false
  first : Option Nat := none
  file : Option Text := none

/-- Takes the flags of a substitution. -/
def flags : Nat → Flags → Reading Flags
  | 0, found => pure found
  | fuel + 1, found => do
      match ← get with
      | [] => pure found
      | char :: rest =>
          if char.isDigit then do
            let number ← digits
            if number = 0 then fail "number option to \x60s' command may not be zero"
            else if found.first.isSome then fail "multiple number options to \x60s' command"
            else flags fuel { found with first := some number }
          else do
            set rest
            match char with
            | 'g' =>
                if found.isGlobal then fail "multiple \x60g' options to \x60s' command"
                else flags fuel { found with isGlobal := true }
            | 'p' =>
                if found.prints then fail "multiple \x60p' options to \x60s' command"
                else flags fuel { found with prints := true }
            | 'i' | 'I' => flags fuel { found with ignoresCase := true }
            | 'm' | 'M' => flags fuel { found with hasLines := true }
            | 'e' => flags fuel found
            | 'w' => do
                let name ← restOfLine
                if name = [] then fail "missing filename in r/R/w/W commands"
                else pure { found with file := some name }
            | '\n' | ';' => pure found
            | '\x7d' | '#' => do
                set (char :: rest)
                pure found
            | ' ' | '\t' => flags fuel found
            | _ => fail "unknown option to \x60s'"

/-- Takes the rest of a substitution. -/
def substitution (extended : Bool) : Reading Action := do
  match ← take with
  | none => fail "unterminated \x60s' command"
  | some mark =>
      match upTo mark true (← get) with
      | none => do
          set ([] : Text)
          fail "unterminated \x60s' command"
      | some (text, rest) =>
          match upTo mark false rest with
          | none => do
              set ([] : Text)
              fail "unterminated \x60s' command"
          | some (replacement, rest) => do
              set rest
              let found ← flags 100 {}
              let regex ← compile extended text
              let unmarked := replacement
              let parts := pieces (unmarked.length + 1) unmarked
              let highest := parts.foldl (fun most part => match part with
                | .group number => max most number
                | _ => most) 0
              if (regex.map fun regex => decide (groupCount regex < highest)).getD false then
                fail ("invalid reference \\" ++ toString highest ++ " on \x60s' command's RHS")
              else
                let wanted : Wanted := ⟨regex, found.ignoresCase, found.hasLines⟩
                pure (.substitute ⟨wanted, parts, found.isGlobal, found.first.getD 1,
                  found.prints, found.file⟩)

/-- The characters of one side of a translation. -/
def lettersOf (mark : Char) : Text → Text
  | '\\' :: char :: rest =>
      if char = mark then char :: lettersOf mark rest
      else if char = 'n' then '\n' :: lettersOf mark rest
      else if char = 't' then '\t' :: lettersOf mark rest
      else if char = '\\' then '\\' :: lettersOf mark rest
      else '\\' :: char :: lettersOf mark rest
  | char :: rest => char :: lettersOf mark rest
  | [] => []

/-- Takes the rest of a translation. -/
def translation : Reading Action := do
  let unfinished : Reading Action := do
    set ([] : Text)
    fail "unterminated \x60y' command"
  match ← take with
  | none => unfinished
  | some mark =>
      match upTo mark false (← get) with
      | none => unfinished
      | some (left, rest) =>
          match upTo mark false rest with
          | none => unfinished
          | some (right, rest) => do
              set rest
              let lefts := lettersOf mark left
              let rights := lettersOf mark right
              if lefts.length ≠ rights.length then
                fail "strings for \x60y' command are different lengths"
              else do
                endCommand
                pure (.translate (lefts.zip rights))

/-- Takes the number after a command, if there is one. -/
def exitCode : Reading Nat := do
  blanks
  let code ← digits
  endCommand
  pure code

def label : Reading Text := do
  blanks
  let text := (← get).takeWhile fun char => char ≠ '\n' && char ≠ ';'
  modify fun left => left.drop text.length
  let name := (text.reverse.dropWhile fun char => char == ' ' || char == '\t').reverse
  let name := if name.getLast? = some '\x7d' then name.dropLast else name
  if text.getLast? = some '\x7d' ∧ name.length < text.length then
    modify ('\x7d' :: ·)
  endCommand
  pure name

def fileName : Reading Text := do
  let name ← restOfLine
  if name = [] then fail "missing filename in r/R/w/W commands" else pure name

/-- Takes the rest of a command, after its letter. -/
def action (extended : Bool) (letter : Char) : Reading Action := do
  let simple (action : Action) : Reading Action := do
    endCommand
    pure action
  match letter with
  | 's' => substitution extended
  | 'y' => translation
  | 'p' => simple .print
  | 'P' => simple .printFirst
  | 'd' => simple .delete
  | 'D' => simple .deleteFirst
  | 'n' => simple .next
  | 'N' => simple .append
  | '=' => simple .number
  | 'h' => simple (.hold false)
  | 'H' => simple (.hold true)
  | 'g' => simple (.fetch false)
  | 'G' => simple (.fetch true)
  | 'x' => simple .exchange
  | 'z' => simple .empty
  | 'F' => simple .fileName
  | 'l' => do
      let _ ← exitCode
      pure .list
  | 'q' => pure (.quit (← exitCode) true)
  | 'Q' => pure (.quit (← exitCode) false)
  | 'a' => pure (.addText (← addedText))
  | 'i' => pure (.insertText (← addedText))
  | 'c' => pure (.changeText (← addedText))
  | 'b' => pure (.branch (← label) none)
  | 't' => pure (.branch (← label) (some true))
  | 'T' => pure (.branch (← label) (some false))
  | 'r' => pure (.readFile (← fileName))
  | 'w' => pure (.writeFile (← fileName))
  | _ => fail ("unknown command: \x60" ++ String.ofList [letter] ++ "'")

/-- What was read so far: commands, open blocks and labels. -/
structure Draft where
  steps : Array Step := #[]
  blocks : List Nat := []
  labels : List (Text × Nat) := []

/-- Takes the exclamation marks after an address. -/
def negation : Reading Bool := do
  blanks
  match ← get with
  | '!' :: rest => do
      set rest
      blanks
      match ← get with
      | '!' :: rest => do
          set rest
          fail "multiple \x60!'s"
      | _ => pure true
  | _ => pure false

def commands (extended : Bool) : Nat → Draft → Reading Draft
  | 0, draft => pure draft
  | fuel + 1, draft => do
      modify (·.dropWhile fun char => char.isWhitespace || char == ';')
      match ← get with
      | [] => pure draft
      | '#' :: rest => do
          set ((rest.dropWhile (· ≠ '\n')).drop 1)
          commands extended fuel draft
      | _ => do
          let start ← address? extended
          blanks
          let stop ← match start, ← get with
            | some _, ',' :: rest => do
                set rest
                pure (some (← bound extended))
            | _, _ => pure none
          let negated ← negation
          let fromZero := match start with
            | some (.line 0) => true
            | _ => false
          let step (action : Action) : Step := ⟨start, stop, fromZero, negated, action⟩
          let zeroFits := match stop with
            | some (.pattern _) => true
            | _ => false
          match ← take with
          | none => fail "missing command"
          | some letter =>
              if letter = '\n' ∨ letter = ';' then fail "missing command"
              else if fromZero ∧ !zeroFits then fail "invalid usage of line address 0"
              else
                match letter with
                | '\x7b' =>
                    commands extended fuel { draft with
                      steps := draft.steps.push (step (.block 0))
                      blocks := draft.steps.size :: draft.blocks }
                | '\x7d' =>
                    match draft.blocks with
                    | [] => fail "unexpected \x60\x7d'"
                    | opened :: blocks => do
                        if start.isSome then fail "\x7d doesn't want any addresses"
                        endCommand
                        let steps := draft.steps.modify opened fun step =>
                          { step with action := .block draft.steps.size }
                        commands extended fuel { draft with
                          steps := steps.push ⟨none, none, false, false, .nothing⟩
                          blocks := blocks }
                | ':' => do
                    if start.isSome then fail ": doesn't want any addresses"
                    blanks
                    let name := (← get).takeWhile fun char =>
                      !char.isWhitespace && char ≠ ';'
                    modify fun left => left.drop name.length
                    if name = [] then fail "\":\" lacks a label"
                    commands extended fuel { draft with
                      labels := (name, draft.steps.size) :: draft.labels }
                | _ => do
                    if stop.isSome ∧ (letter = 'q' ∨ letter = 'Q') then
                      fail "command only uses one address"
                    let found ← action extended letter
                    commands extended fuel { draft with steps := draft.steps.push (step found) }

/-- The label that a step needs and that is not there. -/
def missingLabel? (draft : Draft) : Option Text :=
  draft.steps.toList.findSome? fun step =>
    match step.action with
    | .branch label _ =>
        if label = [] ∨ (List.lookup label draft.labels).isSome then none else some label
    | _ => none

def read (extended : Bool) (text : Text) : Except Fault Script := do
  let (draft, _) ← (commands extended (text.length + 2) {}).run text
  if draft.blocks ≠ [] then throw ⟨some (text.length), "unmatched \x60\x7b'"⟩
  match missingLabel? draft with
  | some label => throw ⟨none, "can't find label for jump to \x60" ++ String.ofList label ++ "'"⟩
  | none => pure ⟨draft.steps, draft.labels⟩

end Sed

end FolderScript.Shell
