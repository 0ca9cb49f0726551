/-
Reading shell scripts.  A script is read one line of commands at a time, so that
what stands before a mistake is still carried out.
-/
import FolderScript.Machine.Shell.Bash.Braces
import FolderScript.Machine.Shell.Bash.Quoting

namespace FolderScript.Shell

/-- The text that is left, and the line it starts on. -/
structure Cursor where
  rest : Text
  line : Nat := 1
  /-- Lines further down that have been taken already; they are counted at the
  next line end. -/
  taken : Nat := 0
  /-- Words that stand for others where a command starts. -/
  aliases : List (Text × Text) := []
  /-- The words that are being replaced: how much text is left where what stands in
  for them ends, and whether it ends in a blank. -/
  stands : List (Text × Nat × Bool) := []
  /-- Whether the text is a file, whose lines are shown if that is asked for. -/
  isFile : Bool := false
  dialect : Dialect := .dash
  /-- Whether patterns may have groups in them. -/
  hasGroups : Bool := false
  /-- Whether a line that is given up is followed by the next. -/
  isOuter : Bool := false
  /-- What is to be warned of, each with its line. -/
  warnings : List (Nat × Text) := []
  deriving DecidableEq, Repr

/-- A mistake in a script. -/
structure SyntaxFault where
  line : Nat
  message : String
  /-- Whether the text has ended too early. -/
  isEnd : Bool := false
  /-- Whether the line that it stands on is shown. -/
  showsLine : Bool := false
  deriving DecidableEq, Repr

abbrev Reader := StateT Cursor (Except SyntaxFault)

/-- Characters that end a word. -/
def isMeta (char : Char) : Bool :=
  char == ' ' || char == '\t' || char == '\n' || char == ';' || char == '&' ||
    char == '|' || char == '<' || char == '>' || char == '(' || char == ')'

def startsName (char : Char) : Bool := char.isAlpha || char == '_'

def isNameChar (char : Char) : Bool := char.isAlphanum || char == '_'

def isName (text : Text) : Bool :=
  match text with
  | [] => false
  | first :: rest => startsName first && rest.all isNameChar

/-- Builtins whose failure ends the shell, and whose names no function may have. -/
def specialBuiltins : List String :=
  ["break", ":", ".", "continue", "eval", "exec", "exit", "export", "local", "readonly",
    "return", "set", "shift", "times", "trap", "unset"]

namespace Reader

/-- How deep commands may be nested, and how long they may be. -/
def supply : Nat := 1000000000

def fault {α : Type} (message : String) : Reader α := do
  throw { line := (← get).line, message := message }

def isLarge : Reader Bool := do
  pure ((← get).dialect == .bash)

/-- Gives up at the end of the text because something is not closed that was opened on a
line. -/
def unclosed {α : Type} (line : Nat) (closing : String) (message : String) : Reader α := do
  if ← isLarge then
    throw { line := line, message := "unexpected EOF while looking for matching \x60" ++ closing ++ "'" }
  else fault message

def openedAt {α : Type} (line : Nat) (closing : String) (inner : Reader α) : Reader α :=
  fun cursor =>
    match inner cursor with
    | .error found =>
        if found.message == "unexpected EOF while looking for matching \x60" ++ closing ++ "'" then
          .error { found with line := line }
        else .error found
    | result => result

/-- The cursor further on, past so many line ends. -/
def Cursor.moved (cursor : Cursor) (rest : Text) (lines : Nat) : Cursor :=
  if lines = 0 then { cursor with rest := rest }
  else { cursor with rest := rest, line := cursor.line + lines + cursor.taken, taken := 0 }

/-- Goes so many characters on. -/
def advance (count : Nat) : Reader Unit :=
  modify fun cursor =>
    Cursor.moved cursor (cursor.rest.drop count) ((cursor.rest.take count).count '\n')

/-- The text up to a backquote, and how many characters that took.  In a quoted
text a double quote loses its backslash too. -/
def scanBackquote (quoted : Bool) : Text → Option (Text × Nat)
  | [] => none
  | '`' :: _ => some ([], 1)
  | '\\' :: char :: rest =>
      (scanBackquote quoted rest).map fun (text, count) =>
        if char = '`' ∨ char = '\\' ∨ char = '$' ∨ (char = '"' ∧ quoted) then
          (char :: text, count + 2)
        else ('\\' :: char :: text, count + 2)
  | char :: rest =>
      (scanBackquote quoted rest).map fun (text, count) => (char :: text, count + 1)

def parameterName (text : Text) : Text :=
  match text with
  | char :: _ =>
      if startsName char then text.takeWhile isNameChar
      else if char.isDigit then text.takeWhile Char.isDigit
      else if "@*#?$!-".toList.contains char then [char]
      else []
  | [] => []

/-- How far a word goes. -/
inductive Extent where
  /-- To the next character that ends a word. -/
  | word
  /-- To the closing double quote. -/
  | quote
  /-- To the closing brace, inside a quoted text or not. -/
  | brace (quoted : Bool)
  /-- To the two brackets that close arithmetic, inside so many others. -/
  | arithmetic (depth : Nat)
  /-- To the bracket that closes a group of a pattern, inside so many others. -/
  | group (depth : Nat)
  /-- To the blank after a regular expression, inside so many brackets. -/
  | regex (depth : Nat)
  /-- To the bracket that closes a key, inside so many others. -/
  | key (depth : Nat)
  /-- To the end of a text that is fed to a command. -/
  | all
  deriving DecidableEq, Repr

/-- Whether literal characters are quoted. -/
def Extent.isQuoted : Extent → Bool
  | .word | .brace false | .group _ | .regex _ | .key _ => false
  | _ => true

/-- Whether a character stands for itself. -/
def Extent.takes (extent : Extent) (char : Char) : Bool :=
  char != '\\' && char != '$' && char != '`' &&
    match extent with
    | .word => char != '"' && char != '\'' && !isMeta char
    | .quote => char != '"'
    | .brace true => char != '"' && char != '\x7d'
    | .brace false => char != '"' && char != '\'' && char != '\x7d'
    | .arithmetic _ => char != '(' && char != ')'
    | .group _ => char != '"' && char != '\'' && char != '(' && char != ')'
    | .regex depth => char != '"' && char != '\'' && char != '(' && char != ')' &&
        !(depth == 0 && (char == ' ' || char == '\t' || char == '\n'))
    | .key _ => char != '"' && char != '\'' && char != '[' && char != ']'
    | .all => true

/-- Whether a backslash takes the meaning of a character. -/
def Extent.escapes (extent : Extent) (char : Char) : Bool :=
  match extent with
  | .word | .brace false | .group _ | .regex _ | .key _ => true
  | .quote | .arithmetic _ => "$`\"\\".toList.contains char
  | .brace true => "$`\"\\\x7d".toList.contains char
  | .all => "$`\\".toList.contains char

/-- The text after blanks and a comment, and how many lines have ended. -/
def afterBlanks : Text → Nat → Text × Nat
  | ' ' :: rest, lines | '\t' :: rest, lines => afterBlanks rest lines
  | '\\' :: '\n' :: rest, lines => afterBlanks rest (lines + 1)
  | '#' :: rest, lines => (rest.dropWhile (· ≠ '\n'), lines)
  | text, lines => (text, lines)

/-- The text after blanks, comments and line ends, and how many lines have ended;
`hidden` tells whether a comment is being passed. -/
def afterLines (hidden : Bool) : Text → Nat → Text × Nat
  | '\n' :: rest, lines => afterLines false rest (lines + 1)
  | '\\' :: '\n' :: rest, lines => afterLines hidden rest (lines + 1)
  | char :: rest, lines =>
      if hidden || char = ' ' || char = '\t' then afterLines hidden rest lines
      else if char = '#' then afterLines true rest lines
      else (char :: rest, lines)
  | [], lines => ([], lines)

/-- Skips blanks and comments, not line ends. -/
def blanks : Reader Unit :=
  modify fun cursor =>
    let (rest, lines) := afterBlanks cursor.rest 0
    Cursor.moved cursor rest lines

/-- Skips blanks, comments and line ends. -/
def newlines : Reader Unit :=
  modify fun cursor =>
    let (rest, lines) := afterLines false cursor.rest 0
    Cursor.moved cursor rest lines

/-- Words with a meaning of their own where a command may start. -/
def keywords : List String :=
  ["if", "then", "else", "elif", "fi", "while", "until", "do", "done", "for", "in", "case",
    "esac", "\x7b", "\x7d", "!"]

/-- Words that end a list of commands. -/
def closers : List String := ["then", "else", "elif", "fi", "do", "done", "esac", "\x7d"]

/-- The characters up to the next that ends a word. -/
def bareWord : Reader Text := do
  pure ((← get).rest.takeWhile fun char => !isMeta char)

/-- Words with a meaning of their own in the large language only. -/
def largeKeywords : List String := ["[[", "function", "time"]

/-- The keyword that comes next. -/
def keyword? : Reader (Option String) := do
  blanks
  let word ← bareWord
  match keywords.find? fun name => name.toList == word with
  | some name => pure (some name)
  | none =>
      if ← isLarge then pure (largeKeywords.find? fun name => name.toList == word)
      else pure none

/-- Whether a text comes next. -/
def looksAt (text : String) : Reader Bool := do
  pure (text.toList.isPrefixOf (← get).rest)

def leadingDigit (text : Text) : Text := (text.take 1).filter Char.isDigit

def tokenName : Reader String := do
  match (← get).rest with
  | [] => pure "end of file"
  | '\n' :: _ => pure "newline"
  | '&' :: '&' :: _ => pure "\"&&\""
  | '|' :: '|' :: _ => pure "\"||\""
  | ';' :: ';' :: _ => pure "\";;\""
  | '<' :: _ | '>' :: _ => pure "redirection"
  | char :: rest =>
      if isMeta char then pure ("\"" ++ char.toString ++ "\"")
      else
        let digits := leadingDigit (char :: rest)
        match (char :: rest).drop digits.length with
        | '<' :: _ | '>' :: _ => pure (if digits = [] then "word" else "redirection")
        | _ =>
            match ← keyword? with
            | some name => pure ("\"" ++ name ++ "\"")
            | none => pure "word"

/-- The signs of the large language, longer ones before shorter ones. -/
def largeSigns : List String :=
  ["<<<", "<<-", "&>>", ";;&", "&&", "||", "|&", ";;", ";&", "<<", ">>", "<&", ">&", "<>", ">|",
    "&>", ";", "&", "|", "<", ">", "(", ")"]

/-- Complains about the next token in the words of the large language. -/
def largeUnexpected {α : Type} : Reader α := do
  let cursor ← get
  match cursor.rest with
  | [] => throw { line := cursor.line, message := "syntax error: unexpected end of file", isEnd := true }
  | '\n' :: _ =>
      throw { line := cursor.line, message := "syntax error near unexpected token \x60newline'"
              showsLine := true }
  | rest =>
      let token := match largeSigns.find? fun sign => sign.toList.isPrefixOf rest with
        | some sign => sign
        | none => String.ofList (rest.takeWhile fun char => !isMeta char)
      throw { line := cursor.line
              message := "syntax error near unexpected token \x60" ++ token ++ "'"
              showsLine := true }

/-- Complains about the next token. -/
def unexpected {α : Type} (expected : Option String) : Reader α := do
  if ← isLarge then largeUnexpected
  let token ← tokenName
  match expected with
  | none => fault ("Syntax error: " ++ token ++ " unexpected")
  | some name =>
      fault ("Syntax error: " ++ token ++ " unexpected (expecting " ++ name ++ ")")

/-- Takes a keyword that has to come next. -/
def expectKeyword (name : String) : Reader Unit := do
  if (← keyword?) == some name then advance name.length
  else unexpected (some ("\"" ++ name ++ "\""))

/-- Takes a text that has to come next. -/
def expect (text : String) : Reader Unit := do
  blanks
  if ← looksAt text then advance text.length else unexpected (some ("\"" ++ text ++ "\""))

/-- Whether a list of commands ends here. -/
def atCloser : Reader Bool := do
  let next ← keyword?
  match next, (← get).rest with
  | _, [] => pure true
  | _, ')' :: _ => pure true
  | _, ';' :: ';' :: _ => pure true
  | _, ';' :: '&' :: _ => isLarge
  | some name, _ => pure (closers.contains name)
  | none, _ => pure false

/-- Cuts a text that is fed to a command out of the lines below; gives it, the
lines after it, and how many lines it took. -/
def cutHere (delimiter : Text) (strip : Bool) : List Text → List Text × List Text × Nat
  | [] => ([], [], 0)
  | line :: rest =>
      let line := if strip then line.dropWhile (· = '\t') else line
      if line = delimiter then ([], rest, 1)
      else
        let (body, after, count) := cutHere delimiter strip rest
        (line :: body, after, count + 1)

/-- Takes the text that is fed to a command from the lines below. -/
def hereText (delimiter : Text) (strip : Bool) : Reader Text := do
  let cursor ← get
  let line := cursor.rest.takeWhile (· ≠ '\n')
  let below := Text.lines (cursor.rest.drop (line.length + 1))
  let (body, after, count) := cutHere delimiter strip below
  let left := after.flatMap fun line => line ++ ['\n']
  let left := if cursor.rest.getLast? = some '\n' then left else left.dropLast
  let isOpen := cursor.dialect == .bash && count == body.length
  let warning := "here-document at line ".toList ++ Text.ofNat cursor.line ++
    " delimited by end-of-file (wanted \x60".toList ++ delimiter ++ "')".toList
  set { cursor with
    rest := line ++ '\n' :: left
    taken := cursor.taken + count
    warnings := if isOpen then
        cursor.warnings ++ [(cursor.line + cursor.taken + count, warning)]
      else cursor.warnings }
  pure (body.flatMap fun line => line ++ ['\n'])

/-- The sign of a redirection, with the descriptor that it is for by itself. -/
def redirectionSign : Text → Option (Nat × Redirect × Nat)
  | '>' :: '>' :: _ => some (2, .append, 1)
  | '>' :: '&' :: _ => some (2, .copy, 1)
  | '>' :: '|' :: _ => some (2, .overwrite, 1)
  | '>' :: _ => some (1, .output, 1)
  | '<' :: '<' :: '-' :: _ => some (3, .here, 0)
  | '<' :: '<' :: _ => some (2, .here, 0)
  | '<' :: '&' :: _ => some (2, .copy, 0)
  | '<' :: '>' :: _ => some (2, .both, 0)
  | '<' :: _ => some (1, .input, 0)
  | _ => none

/-- The sign of a redirection of the large language only. -/
inductive LargeRedirection where
  /-- A word as the text that is fed to a command. -/
  | word
  /-- Both output streams. -/
  | streams (action : Redirect)
  deriving DecidableEq, Repr

/-- The redirection of the large language only that starts a text, and its size. -/
def largeRedirection? : Text → Option (LargeRedirection × Nat)
  | '<' :: '<' :: '<' :: _ => some (.word, 3)
  | '&' :: '>' :: '>' :: _ => some (.streams .append, 3)
  | '&' :: '>' :: _ => some (.streams .output, 2)
  | _ => none

/-- The run of characters that stand for themselves; a group of a pattern ends it. -/
def plainRun (extent : Extent) (hasGroups : Bool) : Text → Text
  | [] => []
  | char :: rest =>
      if !extent.takes char then []
      else if hasGroups && "?*+@!".toList.contains char && rest.head? == some '(' then []
      else char :: plainRun extent hasGroups rest

/-- A word cut at the first of some characters that was not quoted, if there is one. -/
def cutWord (marks : List Char) : Word → Option (Word × Word)
  | [] => none
  | .literal text false :: rest =>
      let front := text.takeWhile fun char => !marks.contains char
      if front.length < text.length then
        some (if front = [] then [] else [.literal front false],
          let behind := text.drop (front.length + 1)
          if behind = [] then rest else .literal behind false :: rest)
      else (cutWord marks rest).map fun (first, second) => (.literal text false :: first, second)
  | part :: rest => (cutWord marks rest).map fun (first, second) => (part :: first, second)

/-- Whether a key in brackets with an assignment after it comes next; the brackets have to
close on the same line. -/
def hasKeyedAssignment : Nat → Text → Bool
  | _, [] => false
  | depth, char :: rest =>
      match char with
      | '[' => hasKeyedAssignment (depth + 1) rest
      | ']' =>
          if depth ≤ 1 then "=".toList.isPrefixOf rest || "+=".toList.isPrefixOf rest
          else hasKeyedAssignment (depth - 1) rest
      | '\n' => false
      | _ => hasKeyedAssignment depth rest

/-- The commands that take lists of values as their arguments. -/
def listTakers : List String := ["declare", "typeset", "local", "readonly", "export"]

/-- The name of an assignment that comes next. -/
def assignment? : Reader (Option Text) := do
  let rest := (← get).rest
  let name := rest.takeWhile isNameChar
  match name, rest.drop name.length with
  | first :: _, '=' :: _ => pure (if startsName first then some name else none)
  | _, _ => pure none

/-- Forgets the words whose stand-ins have been passed, and tells whether one of these
ended in a blank: then the next word may be replaced too. -/
def passed : Reader Bool := do
  let cursor ← get
  if cursor.stands.isEmpty then pure false
  else
    let left := cursor.rest.length
    let (ended, others) := cursor.stands.partition fun stand => left ≤ stand.2.1
    set { cursor with stands := others }
    pure (ended.any fun stand => stand.2.2)

/-- Puts words in place of the word that stands for them, as often as there is
one.  Within what stands in for a word, the word itself stands for nothing. -/
def replaceAlias : Nat → Reader Unit
  | 0 => pure ()
  | fuel + 1 => do
      if (← get).aliases.isEmpty then pure ()
      else
        let _ ← passed
        let cursor ← get
        let word ← bareWord
        match List.lookup word cursor.aliases with
        | none => pure ()
        | some value =>
            if cursor.stands.any fun stand => stand.1 = word then pure ()
            else
              let rest := cursor.rest.drop word.length
              let endsBlank := value.getLast?.any fun char => char == ' ' || char == '\t'
              set { cursor with
                rest := value ++ rest
                stands := (word, rest.length, endsBlank) :: cursor.stands }
              blanks
              replaceAlias fuel

/-- One command after another, if there is another. -/
def joined (first second : Command) : Command :=
  match second with
  | .nothing => first
  | _ => .sequence first second

mutual

def parts : Nat → Extent → Reader Word
  | 0, _ => pure []
  | fuel + 1, extent => do
      let quoted := extent.isQuoted
      match (← get).rest with
      | [] =>
          let line := (← get).line
          match extent with
          | .quote => unclosed line "\"" "Syntax error: Unterminated quoted string"
          | .brace true => unclosed line "\x7d" "Syntax error: Unterminated quoted string"
          | .brace false => unclosed line "\x7d" "Syntax error: Missing '\x7d'"
          | .arithmetic _ => unclosed line ")" "Syntax error: Missing '))'"
          | .group _ => unclosed line ")" ""
          | .key _ => unclosed line "]" ""
          | _ => pure []
      | ['\\'] => do
          advance 1
          pure (.literal ['\\'] true :: (← parts fuel extent))
      | '\\' :: '\n' :: _ => do
          advance 2
          parts fuel extent
      | '\\' :: char :: _ => do
          advance 2
          let text := if extent.escapes char then [char] else ['\\', char]
          pure (.literal text true :: (← parts fuel extent))
      | '$' :: _ => do
          let part ← dollar fuel quoted
          pure (part :: (← parts fuel extent))
      | '`' :: rest =>
          match scanBackquote (extent = .quote || extent = .brace true) rest with
          | none => unclosed (← get).line "\x60" "Syntax error: EOF in backquote substitution"
          | some (text, count) => do
              let cursor ← get
              set { cursor with rest := text, taken := 0 }
              let body ← list fuel true
              blanks
              if !(← get).rest.isEmpty then unexpected none
              set cursor
              advance (count + 1)
              pure (.output body quoted :: (← parts fuel extent))
      | char :: rest =>
          let cursor ← get
          let isGroup := cursor.hasGroups && !quoted && "?*+@!".toList.contains char &&
            rest.head? == some '('
          let isPassage := cursor.dialect == .bash && extent == .word && char == '<' &&
            rest.head? == some '('
          if isGroup then do
            advance 2
            let inner ← parts fuel (.group 0)
            pure (.literal [char, '('] false :: inner ++ .literal [')'] false ::
              (← parts fuel extent))
          else if isPassage then do
            advance 2
            let body ← list fuel true
            expect ")"
            pure (.passage body :: (← parts fuel extent))
          else if extent.takes char then do
            let run := plainRun extent (cursor.hasGroups && !quoted) (char :: rest)
            advance run.length
            pure (.literal run quoted :: (← parts fuel extent))
          else
            match extent, char with
            | .group depth, '(' => do
                advance 1
                pure (.literal ['('] false :: (← parts fuel (.group (depth + 1))))
            | .group 0, ')' => do
                advance 1
                pure []
            | .group (depth + 1), ')' => do
                advance 1
                pure (.literal [')'] false :: (← parts fuel (.group depth)))
            | .regex depth, '(' => do
                advance 1
                pure (.literal ['('] false :: (← parts fuel (.regex (depth + 1))))
            | .regex (depth + 1), ')' => do
                advance 1
                pure (.literal [')'] false :: (← parts fuel (.regex depth)))
            | .key depth, '[' => do
                advance 1
                pure (.literal ['['] false :: (← parts fuel (.key (depth + 1))))
            | .key 0, ']' => do
                advance 1
                pure []
            | .key (depth + 1), ']' => do
                advance 1
                pure (.literal [']'] false :: (← parts fuel (.key depth)))
            | .quote, _ => do
                advance 1
                pure []
            | .brace _, '\x7d' => do
                advance 1
                pure []
            | .brace true, _ => do
                advance 1
                let inner ← parts fuel .quote
                pure (.literal [] true :: inner ++ (← parts fuel extent))
            | .arithmetic depth, '(' => do
                advance 1
                pure (.literal ['('] true :: (← parts fuel (.arithmetic (depth + 1))))
            | .arithmetic (depth + 1), _ => do
                advance 1
                pure (.literal [')'] true :: (← parts fuel (.arithmetic depth)))
            | .arithmetic 0, _ =>
                if rest.head? = some ')' then do
                  advance 2
                  pure []
                else do
                  if cursor.dialect == .bash then fault "unexpected \x60)'"
                  advance 1
                  pure (.literal [')'] true :: (← parts fuel extent))
            | _, '"' => do
                advance 1
                let inner ← openedAt cursor.line "\"" (parts fuel .quote)
                let present := match inner with
                  | [.parameter ['@'] none _ _] | [.parameter _ (some [.literal ['@'] _]) _ _] =>
                      []
                  | _ => [Part.literal [] true]
                pure (present ++ inner ++ (← parts fuel extent))
            | _, '\'' =>
                let text := rest.takeWhile (· ≠ '\'')
                if text.length = rest.length then
                  unclosed cursor.line "'" "Syntax error: Unterminated quoted string"
                else do
                  advance (text.length + 2)
                  pure (.literal text true :: (← parts fuel extent))
            | _, _ => pure []

def dollar : Nat → Bool → Reader Part
  | 0, quoted => pure (.literal ['$'] quoted)
  | fuel + 1, quoted => do
      match (← get).rest with
      | _ :: '\x7b' :: _ => do
          advance 2
          braced fuel quoted
      | _ :: '(' :: '(' :: _ => do
          let start ← get
          if start.dialect == .dash then
            advance 3
            pure (.arithmetic (← parts fuel (.arithmetic 0)) quoted)
          else
            let computed? ← try
                advance 3
                pure (some (← parts fuel (.arithmetic 0)))
              catch _ => do
                set start
                pure none
            match computed? with
            | some expression => pure (.arithmetic expression quoted)
            | none => outputOf fuel quoted
      | _ :: '(' :: _ => outputOf fuel quoted
      | '$' :: '\'' :: rest =>
          if (← isLarge) && !quoted then
            match Quoted.closed? rest with
            | none => unclosed (← get).line "'" ""
            | some (text, count) => do
                advance (count + 2)
                pure (.literal (Quoted.unescape text) true)
          else do
            advance 1
            pure (.literal ['$'] quoted)
      | '$' :: '"' :: _ =>
          if (← isLarge) && !quoted then do
            advance 1
            pure (.literal [] false)
          else do
            advance 1
            pure (.literal ['$'] quoted)
      | _ :: rest =>
          match parameterName rest with
          | [] => do
              advance 1
              pure (.literal ['$'] quoted)
          | char :: more => do
              let name := if char.isDigit then [char] else char :: more
              advance (name.length + 1)
              pure (.parameter name none .plain quoted)
      | [] => pure (.literal [] quoted)

/-- The commands whose output is taken, between brackets. -/
def outputOf : Nat → Bool → Reader Part
  | 0, quoted => pure (.literal ['$'] quoted)
  | fuel + 1, quoted => do
      advance 2
      let body ← list fuel true
      if (← isLarge) && (← get).rest.isEmpty then
        throw { line := (← get).line
                message := "unexpected EOF while looking for matching \x60)'"
                isEnd := true }
      expect ")"
      pure (.output body quoted)

/-- The key that stands after a name, if one does. -/
def index? : Nat → Reader (Option Word)
  | 0 => pure none
  | fuel + 1 => do
      if ← looksAt "[" then
        advance 1
        pure (some (← parts fuel (.key 0)))
      else pure none

/-- A parameter within braces, in the large language. -/
def largeBraced : Nat → Bool → Reader Part
  | 0, quoted => pure (.parameter [] none .bad quoted)
  | fuel + 1, quoted => do
      let rest := (← get).rest
      let startsParameter (text : Text) : Bool := !(parameterName text).isEmpty
      match rest with
      | '#' :: more =>
          let name := parameterName more
          let isMeasured := match name, more.drop name.length with
            | [], _ => false
            | _, '\x7d' :: _ => true
            | char :: _, '[' :: _ => startsName char
            | _, _ => false
          if isMeasured then do
            advance (name.length + 1)
            let index ← index? fuel
            if ← looksAt "\x7d" then
              advance 1
              pure (.parameter name index .length quoted)
            else
              let _ ← parts fuel (.brace quoted)
              pure (.parameter name index .bad quoted)
          else largeParameter fuel quoted id
      | '!' :: more =>
          let name := parameterName more
          match startsParameter more, more.drop name.length with
          | true, '*' :: '\x7d' :: _ => do
              advance (name.length + 3)
              pure (.names name true quoted)
          | true, '@' :: '\x7d' :: _ => do
              advance (name.length + 3)
              pure (.names name false quoted)
          | true, '[' :: '@' :: ']' :: '\x7d' :: _ => do
              advance (name.length + 5)
              pure (.parameter name (some [.literal ['@'] false]) .keys quoted)
          | true, '[' :: '*' :: ']' :: '\x7d' :: _ => do
              advance (name.length + 5)
              pure (.parameter name (some [.literal ['*'] false]) .keys quoted)
          | true, _ => do
              advance 1
              largeParameter fuel quoted .via
          | false, _ => largeParameter fuel quoted id
      | _ => largeParameter fuel quoted id

/-- A parameter with its key and what is done with its value. -/
def largeParameter : Nat → Bool → (Modifier → Modifier) → Reader Part
  | 0, quoted, _ => pure (.parameter [] none .bad quoted)
  | fuel + 1, quoted, turn => do
      let start := (← get).rest
      let name := parameterName start
      advance name.length
      let index ← if name.head?.any startsName then index? fuel else pure none
      let found ← if name = [] then do
          let _ ← parts fuel (.brace quoted)
          pure .bad
        else largeModifier fuel quoted
      match found with
      | .bad =>
          let shown := start.take (start.length - (← get).rest.length)
          pure (.parameter (['$', '\x7b'] ++ shown) none .bad quoted)
      | found => pure (.parameter name index (turn found) quoted)

/-- What stands after the name within braces, in the large language. -/
def largeModifier : Nat → Bool → Reader Modifier
  | 0, _ => pure .bad
  | fuel + 1, quoted => do
      let pattern (count : Nat) : Reader Word := do
        advance count
        let cursor ← get
        set { cursor with hasGroups := true }
        let word ← parts fuel (.brace false)
        modify fun after => { after with hasGroups := cursor.hasGroups }
        pure word
      let exchanged (place : Exchange) (count : Nat) : Reader Modifier := do
        let whole ← pattern count
        match cutWord ['/'] whole with
        | some (first, second) => pure (.exchange place first second)
        | none => pure (.exchange place whole [])
      match (← get).rest with
      | '^' :: '^' :: _ => do pure (.recase (some true) true (← pattern 2))
      | '^' :: _ => do pure (.recase (some true) false (← pattern 1))
      | ',' :: ',' :: _ => do pure (.recase (some false) true (← pattern 2))
      | ',' :: _ => do pure (.recase (some false) false (← pattern 1))
      | '~' :: '~' :: _ => do pure (.recase none true (← pattern 2))
      | '~' :: _ => do pure (.recase none false (← pattern 1))
      | '/' :: '/' :: _ => exchanged .all 2
      | '/' :: '#' :: _ => exchanged .front 2
      | '/' :: '%' :: _ => exchanged .back 2
      | '/' :: _ => exchanged .first 1
      | '#' :: '#' :: _ => do pure (.cut true true (← pattern 2))
      | '#' :: _ => do pure (.cut true false (← pattern 1))
      | '%' :: '%' :: _ => do pure (.cut false true (← pattern 2))
      | '%' :: _ => do pure (.cut false false (← pattern 1))
      | '@' :: letter :: '\x7d' :: _ => do
          advance 3
          pure (if "QEPAaUuLKk".toList.contains letter then .form letter else .bad)
      | ':' :: sign :: _ =>
          if "-=+?".toList.contains sign then modifier fuel quoted
          else do
            advance 1
            let whole ← parts fuel (.brace false)
            match cutWord [':'] whole with
            | some (start, length) => pure (.slice start (some length))
            | none => pure (if whole.isEmpty then .bad else .slice whole none)
      | _ => modifier fuel quoted

/-- A parameter within braces. -/
def braced : Nat → Bool → Reader Part
  | 0, quoted => pure (.parameter [] none .bad quoted)
  | fuel + 1, quoted => do
      if ← isLarge then openedAt (← get).line "\x7d" (largeBraced fuel quoted)
      else
      let rest := (← get).rest
      let measured := match rest with
        | '#' :: more =>
            let name := parameterName more
            if (more.drop name.length).head? = some '\x7d' then name else []
        | _ => []
      if measured ≠ [] then
        advance (measured.length + 2)
        pure (.parameter measured none .length quoted)
      else if rest.head? = some '#' && rest[1]? ≠ some '\x7d' && rest[2]? = some '\x7d' then
        advance 3
        pure (.parameter [] none .bad quoted)
      else
        let name := parameterName rest
        advance name.length
        let modifier ← if name = [] then do
            let _ ← parts fuel (.brace quoted)
            pure .bad
          else modifier fuel quoted
        pure (.parameter name none modifier quoted)

/-- What stands after the name within braces. -/
def modifier : Nat → Bool → Reader Modifier
  | 0, _ => pure .bad
  | fuel + 1, quoted => do
      let word (count : Nat) : Reader Word := do
        advance count
        parts fuel (.brace quoted)
      let pattern (count : Nat) : Reader Word := do
        advance count
        parts fuel (.brace false)
      match (← get).rest with
      | '\x7d' :: _ => do
          advance 1
          pure .plain
      | ':' :: '-' :: _ => do pure (.fallback true (← word 2))
      | '-' :: _ => do pure (.fallback false (← word 1))
      | ':' :: '=' :: _ => do pure (.assign true (← word 2))
      | '=' :: _ => do pure (.assign false (← word 1))
      | ':' :: '+' :: _ => do pure (.replace true (← word 2))
      | '+' :: _ => do pure (.replace false (← word 1))
      | ':' :: '?' :: _ => do pure (.require true (← word 2))
      | '?' :: _ => do pure (.require false (← word 1))
      | '#' :: '#' :: _ => do pure (.cut true true (← pattern 2))
      | '#' :: _ => do pure (.cut true false (← pattern 1))
      | '%' :: '%' :: _ => do pure (.cut false true (← pattern 2))
      | '%' :: _ => do pure (.cut false false (← pattern 1))
      | ':' :: '\x7d' :: _ => do
          let _ ← word 2
          pure .bad
      | _ => do
          let _ ← word 0
          pure .bad

def largeRedirection : Nat → Nat → LargeRedirection → Nat → Reader (List Redirection)
  | 0, _, _, _ => pure []
  | fuel + 1, descriptor, kind, size => do
      advance size
      blanks
      let target ← parts fuel .word
      if target.isEmpty then unexpected none
      pure (match kind with
        | .word => [.of descriptor .here (target ++ [.literal ['\n'] true])]
        | .streams action => [.of 1 action target, .of 2 .copy [.literal ['1'] false]])

/-- The redirections that the next sign stands for, if there is one. -/
def redirection? : Nat → Reader (Option (List Redirection))
  | 0 => pure none
  | fuel + 1 => do
      blanks
      let cursor ← get
      let rest := cursor.rest
      let digits := if cursor.dialect == .bash then rest.takeWhile Char.isDigit
        else leadingDigit rest
      let after := rest.drop digits.length
      let large? := if cursor.dialect == .bash then largeRedirection? after else none
      let isPassage := cursor.dialect == .bash && "<(".toList.isPrefixOf after
      match large?, if isPassage then none else redirectionSign after with
      | some (kind, size), _ => do
          advance digits.length
          pure (some (← largeRedirection fuel ((Text.toNat? digits).getD 0) kind size))
      | none, none => pure none
      | none, some (size, action, usual) => do
          let strips := (rest.drop digits.length).take 3 = ['<', '<', '-']
          advance (digits.length + size)
          blanks
          let target ← parts fuel .word
          if target.isEmpty then unexpected none
          let descriptor := (Text.toNat? digits).getD usual
          if action = .here then
            let below := (← get).line + (← get).taken + 1
            let text ← hereText (target.flatMap Part.text) strips
            if target.any Part.isQuotedText then
              pure (some [.of descriptor action [.literal text true]])
            else
              let cursor ← get
              set { cursor with rest := text, line := below, taken := 0 }
              let word ← parts fuel .all
              set cursor
              pure (some [.of descriptor action word])
          else
            let isFile := action == .copy && usual == 1 && digits.isEmpty &&
              cursor.dialect == .bash && match target with
                | [.literal text _] => !(text.all fun char => char.isDigit || char == '-')
                | _ => false
            pure (some (if isFile then
                [.of 1 .output target, .of 2 .copy [.literal ['1'] false]]
              else [.of descriptor action target]))

/-- All redirections that come next. -/
def redirections : Nat → Reader (List Redirection)
  | 0 => pure []
  | fuel + 1 => do
      match ← redirection? fuel with
      | none => pure []
      | some found => pure (found ++ (← redirections fuel))

/-- The values in brackets, of which the opening one was read. -/
def items : Nat → Reader (List (Option Word × Word))
  | 0 => unexpected none
  | fuel + 1 => do
      newlines
      match (← get).rest with
      | [] => unclosed ((← get).line) ")" ""
      | ')' :: _ => do
          advance 1
          pure []
      | rest => do
          if rest.head? == some '[' && hasKeyedAssignment 0 rest then
            advance 1
            let key ← parts fuel (.key 0)
            advance 1
            let value ← parts fuel .word
            pure ((some key, value) :: (← items fuel))
          else
            let word ← parts fuel .word
            if word.isEmpty then unexpected none
            pure ((Braces.expand word).map (fun one => (none, one)) ++ (← items fuel))

/-- An assignment of the large language that comes next, if one does. -/
def largeAssignment? : Nat → Reader (Option Assignment)
  | 0 => pure none
  | fuel + 1 => do
      let rest := (← get).rest
      let name := rest.takeWhile isNameChar
      if !isName name then pure none
      else
        let after := rest.drop name.length
        let hasIndex := after.head? == some '[' && hasKeyedAssignment 0 after
        if !hasIndex && !"=".toList.isPrefixOf after && !"+=".toList.isPrefixOf after then pure none
        else do
          advance name.length
          let index ← if hasIndex then index? fuel else pure none
          let adds ← looksAt "+="
          advance (if adds then 2 else 1)
          if ← looksAt "(" then
            advance 1
            pure (some (.of name index adds [.items (← items fuel)]))
          else pure (some (.of name index adds (← parts fuel .word)))

/-- An argument that gives a name several values, if one comes next. -/
def listArgument? : Nat → Reader (Option Word)
  | 0 => pure none
  | fuel + 1 => do
      let rest := (← get).rest
      let name := rest.takeWhile isNameChar
      let after := rest.drop name.length
      let sign := if "+=(".toList.isPrefixOf after then 2 else 1
      if isName name && ("=(".toList.isPrefixOf after || "+=(".toList.isPrefixOf after) then do
        advance (name.length + sign + 1)
        let found ← items fuel
        pure (some [.literal (name ++ after.take sign) false, .items found])
      else pure none

/-- The rest of a simple command, or a function that is defined. -/
def simple : Nat → Nat → List Assignment → List Word → List Redirection → Reader Command
  | 0, _, _, _, _ => unexpected none
  | fuel + 1, line, assignments, words, redirections => do
      if !(← get).aliases.isEmpty then
        blanks
        if (← passed) || words.isEmpty then replaceAlias supply
      match ← redirection? fuel with
      | some found => simple fuel line assignments words (found.reverse ++ redirections)
      | none =>
          let large ← isLarge
          let assigned? ← if !words.isEmpty then pure none
            else if large then largeAssignment? fuel
            else
              match ← assignment? with
              | some name => do
                  advance (name.length + 1)
                  pure (some (Assignment.of name none false (← parts fuel .word)))
              | none => pure none
          let takesLists := large && match words.getLast? with
            | some [.literal name false] => listTakers.contains (String.ofList name)
            | _ => false
          match assigned? with
          | some assignment => simple fuel line (assignment :: assignments) words redirections
          | none =>
              let listed? ← if takesLists then listArgument? fuel else pure none
              let found ← match listed? with
                | some word => pure word
                | none => parts fuel .word
              if !found.isEmpty then
                let several := if large && listed?.isNone then Braces.expand found else [found]
                simple fuel line assignments (several.reverse ++ words) redirections
              else
                match assignments, words, redirections with
                | [], [], [] => unexpected none
                | [], [name], [] =>
                    if ← looksAt "(" then do
                      advance 1
                      expect ")"
                      let text := name.flatMap Part.text
                      if !large &&
                          (!isName text || specialBuiltins.contains (String.ofList text)) then
                        fault "Syntax error: Bad function name"
                      newlines
                      pure (.define text (← command fuel))
                    else pure (.simple line [] [name] [])
                | _, _, _ => pure (.simple line assignments.reverse words.reverse
                    redirections.reverse)

/-- The patterns of a clause, up to the closing bracket. -/
def patterns : Nat → Reader (List Word)
  | 0 => pure []
  | fuel + 1 => do
      blanks
      let pattern ← parts fuel .word
      blanks
      if ← looksAt "|" then
        advance 1
        pure (pattern :: (← patterns fuel))
      else
        expect ")"
        pure [pattern]

/-- Words up to the end of a line or a semicolon. -/
def wordList : Nat → Reader (List Word)
  | 0 => pure []
  | fuel + 1 => do
      blanks
      let found ← parts fuel .word
      if found.isEmpty then pure []
      else
        let several := if ← isLarge then Braces.expand found else [found]
        pure (several ++ (← wordList fuel))

/-- Commands up to a word or sign that closes them; there may have to be one. -/
def list : Nat → Bool → Reader Command
  | 0, _ => unexpected none
  | fuel + 1, mayBeEmpty => do
      newlines
      if (← get).rest.isEmpty || ((← atCloser) && mayBeEmpty) then pure .nothing
      else
        let first ← andOr fuel
        blanks
        let large ← isLarge
        match (← get).rest with
        | ';' :: ';' :: _ => pure first
        | ';' :: next :: _ => do
            if large && next = '&' then pure first
            else
              advance 1
              pure (joined first (← list fuel true))
        | ';' :: _ | '\n' :: _ => do
            advance 1
            pure (joined first (← list fuel true))
        | '&' :: _ => do
            advance 1
            pure (joined (.background first) (← list fuel true))
        | _ => pure first

/-- Pipelines joined by conditions. -/
def andOr : Nat → Reader Command
  | 0 => unexpected none
  | fuel + 1 => do
      let first ← pipeline fuel
      andOrRest fuel first

/-- What follows the first pipeline. -/
def andOrRest : Nat → Command → Reader Command
  | 0, first => pure first
  | fuel + 1, first => do
      blanks
      match (← get).rest with
      | '&' :: '&' :: _ => do
          advance 2
          newlines
          let second ← pipeline fuel
          andOrRest fuel (.andThen first second)
      | '|' :: '|' :: _ => do
          advance 2
          newlines
          let second ← pipeline fuel
          andOrRest fuel (.orElse first second)
      | _ => pure first

/-- Commands joined by pipes. -/
def pipeline : Nat → Reader Command
  | 0 => unexpected none
  | fuel + 1 => do
      if (← keyword?) == some "!" then
        advance 1
        pure (.pipeline true (← stages fuel))
      else if (← keyword?) == some "time" then
        advance 4
        blanks
        if ← looksAt "-p" then advance 2
        pure (.timed (← pipeline fuel))
      else
        match ← stages fuel with
        | [single] => pure single
        | several => pure (.pipeline false several)

def stages : Nat → Reader (List Command)
  | 0 => unexpected none
  | fuel + 1 => do
      let line := (← get).line
      let first ← command fuel
      blanks
      if (← isLarge) && (← looksAt "|&") then
        advance 2
        newlines
        pure (.redirected line first [.of 2 .copy [.literal ['1'] false]] :: (← stages fuel))
      else if (← looksAt "|") && !(← looksAt "||") then
        advance 1
        newlines
        pure (first :: (← stages fuel))
      else pure [first]

def command : Nat → Reader Command
  | 0 => unexpected none
  | fuel + 1 => do
      blanks
      if (← keyword?).isNone then replaceAlias supply
      let line := (← get).line
      let withRedirections (body : Command) : Reader Command := do
        match ← redirections fuel with
        | [] => pure body
        | found => pure (.redirected line body found)
      match ← keyword?, (← get).rest with
      | some name, _ =>
          if closers.contains name || name == "!" || name == "in" then unexpected none
          else do
            advance name.length
            withRedirections (← compound fuel line name)
      | none, '(' :: next :: _ => do
          let cursor ← get
          let computed? ← if next == '(' && (← isLarge) then
              try
                advance 2
                pure (some (← parts fuel (.arithmetic 0)))
              catch _ => do
                set cursor
                pure none
            else pure none
          match computed? with
          | some expression => withRedirections (.compute line expression)
          | none => do
              advance 1
              let body ← list fuel false
              expect ")"
              withRedirections (.subshell body)
      | none, _ => simple fuel line [] [] []

/-- What follows the keyword that opens a command on some line. -/
def compound : Nat → Nat → String → Reader Command
  | 0, _, _ => unexpected none
  | fuel + 1, line, name => do
      match name with
      | "\x7b" => do
          let body ← list fuel false
          expectKeyword "\x7d"
          pure body
      | "if" => conditional fuel
      | "while" => loop fuel false
      | "until" => loop fuel true
      | "[[" => do
          let condition ← testEither fuel
          newlines
          if ← looksAt "]]" then
            advance 2
            pure (.test line condition)
          else unexpected none
      | "function" => do
          blanks
          let functionName ← bareWord
          advance functionName.length
          blanks
          if ← looksAt "(" then
            advance 1
            expect ")"
          newlines
          pure (.define functionName (← command fuel))
      | "for" => do
          blanks
          if (← isLarge) && (← looksAt "((") then countLoop fuel line
          else
          let variableName ← bareWord
          if !(← isLarge) && !isName variableName then
            fault "Syntax error: Bad for loop variable"
          advance variableName.length
          newlines
          let words ←
            if (← keyword?) == some "in" then do
              advance 2
              let found ← wordList fuel
              blanks
              if !(← looksAt ";") && !(← looksAt "\n") then unexpected none
              advance 1
              pure (some found)
            else do
              blanks
              if (← looksAt ";") && !(← looksAt ";;") then advance 1
              pure none
          newlines
          expectKeyword "do"
          let body ← list fuel false
          expectKeyword "done"
          pure (.each line variableName words body)
      | _ => do
          blanks
          let subject ← parts fuel .word
          if subject.isEmpty then unexpected (some "word")
          newlines
          expectKeyword "in"
          let found ← clauses fuel
          expectKeyword "esac"
          pure (.choose line subject found)

/-- A loop with three expressions. -/
def countLoop : Nat → Nat → Reader Command
  | 0, _ => unexpected none
  | fuel + 1, line => do
      advance 2
      let whole ← parts fuel (.arithmetic 0)
      let bare := whole.map fun part =>
        match part with
        | .literal text _ => .literal text false
        | other => other
      let (start, rest) := (cutWord [';'] bare).getD (bare, [])
      let (test, step) := (cutWord [';'] rest).getD (rest, [])
      blanks
      if ← looksAt ";" then advance 1
      newlines
      if (← keyword?) == some "\x7b" then
        advance 1
        let body ← list fuel false
        expectKeyword "\x7d"
        pure (.count line start test step body)
      else
        expectKeyword "do"
        let body ← list fuel false
        expectKeyword "done"
        pure (.count line start test step body)

/-- Conditions of which one has to hold. -/
def testEither : Nat → Reader Test
  | 0 => unexpected none
  | fuel + 1 => do
      let first ← testBoth fuel
      newlines
      if ← looksAt "||" then
        advance 2
        pure (.either first (← testEither fuel))
      else pure first

/-- Conditions that all have to hold. -/
def testBoth : Nat → Reader Test
  | 0 => unexpected none
  | fuel + 1 => do
      let first ← testTerm fuel
      newlines
      if ← looksAt "&&" then
        advance 2
        pure (.both first (← testBoth fuel))
      else pure first

/-- One condition. -/
def testTerm : Nat → Reader Test
  | 0 => unexpected none
  | fuel + 1 => do
      newlines
      if ← looksAt "(" then
        advance 1
        let inner ← testEither fuel
        newlines
        expect ")"
        pure inner
      else
        let front ← bareWord
        if front == ['!'] then
          advance 1
          pure (.negation (← testTerm fuel))
        else
          let left ← parts fuel .word
          if left.isEmpty then unexpected none
          blanks
          let next ← bareWord
          match front, next with
          | ['-', letter], _ =>
              let isRelation := next == ['='] || next == ['=', '='] || next == ['!', '=']
              let isTest := "abcdefghknoprstuvwxzGLNORS".toList.contains letter
              let isOver := next == "]]".toList || (← looksAt "&&") || (← looksAt "||") ||
                (← looksAt ")")
              if isTest && !isOver && !isRelation then
                pure (.unary letter (← parts fuel .word))
              else testRelation fuel left
          | _, _ => testRelation fuel left

/-- What follows the left side of a relation, if one follows. -/
def testRelation : Nat → Word → Reader Test
  | 0, _ => unexpected none
  | fuel + 1, left => do
      let right (extent : Extent) : Reader Word := do
        blanks
        let cursor ← get
        set { cursor with hasGroups := true }
        let word ← parts fuel extent
        modify fun after => { after with hasGroups := cursor.hasGroups }
        if word.isEmpty then unexpected none
        pure word
      let next ← bareWord
      match String.ofList next with
      | "=~" => do
          advance 2
          pure (.binary left next (← right (.regex 0)))
      | "=" | "==" | "!=" | "-eq" | "-ne" | "-lt" | "-le" | "-gt" | "-ge" | "-nt" | "-ot" | "-ef" => do
          advance next.length
          pure (.binary left next (← right .word))
      | _ =>
          if (← looksAt "<") || (← looksAt ">") then
            let sign := (← get).rest.take 1
            advance 1
            pure (.binary left sign (← right .word))
          else pure (.word left)

/-- What stands after a test keyword. -/
def conditional : Nat → Reader Command
  | 0 => unexpected none
  | fuel + 1 => do
      let test ← list fuel false
      expectKeyword "then"
      let body ← list fuel false
      match ← keyword? with
      | some "elif" => do
          advance 4
          pure (.conditional test body (← conditional fuel))
      | some "else" => do
          advance 4
          let otherwise ← list fuel false
          expectKeyword "fi"
          pure (.conditional test body otherwise)
      | _ => do
          expectKeyword "fi"
          pure (.conditional test body .nothing)

def loop : Nat → Bool → Reader Command
  | 0, _ => unexpected none
  | fuel + 1, untilTrue => do
      let test ← list fuel false
      expectKeyword "do"
      let body ← list fuel false
      expectKeyword "done"
      pure (.loop untilTrue test body)

def clauses : Nat → Reader (List (List Word × Command × ClauseEnd))
  | 0 => unexpected none
  | fuel + 1 => do
      newlines
      if (← keyword?) == some "esac" then pure []
      else
        if ← looksAt "(" then advance 1
        let found ← patterns fuel
        let body ← list fuel true
        newlines
        if (← isLarge) && (← looksAt ";;&") then
          advance 3
          pure ((found, body, .tries) :: (← clauses fuel))
        else if (← isLarge) && (← looksAt ";&") then
          advance 2
          pure ((found, body, .falls) :: (← clauses fuel))
        else if ← looksAt ";;" then
          advance 2
          pure ((found, body, .stops) :: (← clauses fuel))
        else if (← keyword?) == some "esac" then pure [(found, body, .stops)]
        else unexpected (some "\";;\"")

end

def lineRest : Nat → Reader Command
  | 0 => unexpected none
  | fuel + 1 => do
      let first ← andOr fuel
      blanks
      let more (first : Command) : Reader Command := do
        advance 1
        blanks
        match (← get).rest with
        | [] | '\n' :: _ => pure first
        | _ => pure (.sequence first (← lineRest fuel))
      match (← get).rest with
      | [] => pure first
      | '\n' :: _ => do
          advance 1
          pure first
      | ';' :: ';' :: _ => unexpected none
      | ';' :: _ => more first
      | '&' :: _ => more (.background first)
      | _ => unexpected none

def nextLine : Reader (Option Command) := do
  newlines
  if (← get).rest.isEmpty then pure none
  else
    if ← atCloser then unexpected none
    pure (some (← lineRest supply))

end Reader

end FolderScript.Shell
