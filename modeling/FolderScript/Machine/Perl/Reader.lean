/-
Reads a list script: from its text to expressions and statements.
-/
import FolderScript.Machine.Perl.Scan

namespace FolderScript.Perl

open Shell (Text)

namespace Reader

/-- How far a script has been read. -/
structure Cursor where
  rest : Text
  /-- What was left before the piece that was read last. -/
  before : Text := []
  /-- The number of lines up to the end of what is left, and whether the last one is empty. -/
  lines : Nat
  endsLine : Bool := true
  /-- Whether braces or brackets are missing somewhere. -/
  lacksEnd : Bool := false
  /-- The name of the script. -/
  title : Text
  /-- The functions that are known, and those among them that take no arguments. -/
  known : List String := []
  constants : List String := []
  package : String := "main"
  endings : List (List Statement) := []
  data : Option Text := none

abbrev Read := StateT Cursor (Except Text)

/-- The line of what comes next. -/
def line : Read Nat := do
  let cursor ← get
  let here := cursor.lines - cursor.rest.count '\n'
  return if cursor.rest = [] && cursor.endsLine then here - 1 else here

/-- Goes past blanks and comments. -/
def skip : Read Unit :=
  modify fun cursor =>
    { cursor with rest := Scan.afterBlanks (cursor.rest.length + 1) false cursor.rest }

def goTo (rest : Text) : Read Unit :=
  modify fun cursor => { cursor with rest := rest }

/-- What is left, after blanks and comments. -/
def ahead : Read Text := do
  skip
  return (← get).rest

/-- Where a script makes no sense. -/
def place : Read Text := do
  return " at ".toList ++ (← get).title ++ " line ".toList ++ Shell.Text.ofNat (← line)

def fail {α : Type} (message : Text) : Read α := do
  throw (message ++ (← place) ++ ".\n".toList)

/-- The end of a script that was not read to its end. -/
def aborted (title : Text) : Text :=
  "Execution of ".toList ++ title ++ " aborted due to compilation errors.\n".toList

/-- The piece at the front of a text, as messages show it. -/
def piece (text : Text) : Nat :=
  let word := Scan.nameOf text
  match text with
  | '"' :: _ | '\'' :: _ =>
      match Scan.between text with
      | some (_, _, rest) => text.length - rest.length
      | none => 1
  | _ =>
      if word ≠ [] then word.length
      else
        match Scan.operator? text with
        | some (sign, _, _) => sign.length
        | none => 1

/-- Fails at what comes next. -/
def unexpected {α : Type} : Read α := do
  let text ← ahead
  let cursor ← get
  let shown := match text with
    | [] => ", at EOF".toList
    | _ =>
        let since := cursor.before.length - text.length
        ", near \"".toList ++ cursor.before.take (since + piece text) ++ ['"']
  let place ← place
  let missing : Text := if text = [] && cursor.lacksEnd then
      "Missing right curly or square bracket".toList ++ place ++ ", at end of line\n".toList
    else []
  throw (missing ++ "syntax error".toList ++ place ++ shown ++ ['\n'] ++ aborted cursor.title)

/-- Remembers where the next piece starts. -/
def remember : Read Unit :=
  modify fun cursor => { cursor with before := cursor.rest }

/-- Whether a sign comes next. -/
def isAt (sign : String) : Read Bool := do return sign.toList.isPrefixOf (← ahead)

/-- Goes past a sign, if it comes next. -/
def accept (sign : String) : Read Bool := do
  if ← isAt sign then
    remember
    modify fun cursor => { cursor with rest := cursor.rest.drop sign.length }
    return true
  else return false

/-- Goes past a sign that has to come next. -/
def expect (sign : String) : Read Unit := do
  if !(← accept sign) then unexpected

/-- The word that comes next. -/
def word : Read String := do return String.ofList (Scan.nameOf (← ahead))

/-- Goes past a word. -/
def pass (word : String) : Read Unit := do
  remember
  modify fun cursor => { cursor with rest := cursor.rest.drop word.length }

/-- Reads a text on its own, with the lines counted as they are. -/
def within {α : Type} (text : Text) (action : Read α) : Read α := do
  let before ← get
  let here ← line
  set { before with
    rest := text, before := text, lines := here + text.count '\n', endsLine := false }
  let result ← action
  modify fun cursor => { cursor with
    rest := before.rest, before := before.before, lines := before.lines
    endsLine := before.endsLine }
  return result

/-- A text between marks that comes next. -/
def marked : Read (Char × Text) := do
  let text := (← get).rest
  match Scan.between text with
  | some (mark, inner, rest) =>
      remember
      goTo rest
      return (mark, inner)
  | none =>
      let mark := text.headD '"'
      let quote : Char := if mark == '"' then '\'' else '"'
      fail ("Can't find string terminator ".toList ++ [quote, Scan.closing mark, quote] ++
        " anywhere before EOF".toList)

/-- The letters that come next. -/
def letters : Read (List Char) := do
  let found := (← get).rest.takeWhile Char.isAlpha
  modify fun cursor => { cursor with rest := cursor.rest.drop found.length }
  return found

/-- A text between marks in the place of another one; two pairs of brackets may enclose
them. -/
def second (mark : Char) (text : Text) : Read Text := do
  if Scan.closing mark == mark then
    match Scan.enclosed mark mark 0 text with
    | some (inner, rest) =>
        goTo rest
        return inner
    | none => fail "Substitution replacement not terminated".toList
  else
    goTo text
    skip
    return (← marked).2

def linesUpTo (mark : Text) (isIndented : Bool) : Nat → Text → Option (List Text × Text)
  | 0, _ => none
  | fuel + 1, text =>
      if text = [] then none
      else
        let line := text.takeWhile (· ≠ '\n')
        let rest := text.drop (line.length + 1)
        let shown := if isIndented then line.dropWhile Scan.isBlank else line
        if shown = mark then some ([], rest)
        else (linesUpTo mark isIndented fuel rest).map fun (lines, rest) => (line :: lines, rest)

/-- Lines without the blanks that all of them start with. -/
def outdented (lines : List Text) : List Text :=
  let filled := lines.filter fun line => !line.all Scan.isBlank
  let depth := (filled.map fun line => (line.takeWhile Scan.isBlank).length).foldl min 1000
  lines.map fun line => line.drop (if filled = [] then 0 else depth)

/-- The text that follows in the next lines, and whether it is taken as it is. -/
def lineText : Read (Text × Bool) := do
  let isIndented ← accept "~"
  let text := (← get).rest
  let (mark, isPlain, rest) : Text × Bool × Text := match Scan.between text with
    | some ('"', inner, rest) => (inner, false, rest)
    | some ('\'', inner, rest) => (inner, true, rest)
    | _ =>
        let name := Scan.nameOf text
        (name, false, text.drop name.length)
  let line := rest.takeWhile (· ≠ '\n')
  let below := rest.drop (line.length + 1)
  match linesUpTo mark isIndented (below.length + 1) below with
  | none =>
      fail ("Can't find string terminator \"".toList ++ mark ++ "\" anywhere before EOF".toList)
  | some (lines, after) =>
      goTo (line ++ '\n' :: after)
      let lines := if isIndented then outdented lines else lines
      return (lines.flatMap fun line => line ++ ['\n'], isPlain)

def ofCode (code : Nat) : Char := Char.ofNat code

/-- What a backslash and a character stand for in a text, and what follows. -/
def escaped (char : Char) (rest : Text) : Text × Text :=
  let based (base count : Nat) (text : Text) : Text × Text :=
    let digits := (text.take count).takeWhile fun char => Scan.digit char < base
    ([ofCode (Scan.inBase base digits)], text.drop digits.length)
  let braced (base : Nat) (text : Text) : Text × Text :=
    let digits := text.takeWhile (· ≠ '\x7d')
    ([ofCode (Scan.inBase base (digits.filter fun char => Scan.digit char < base))],
      text.drop (digits.length + 1))
  match char, rest with
  | 'n', _ => (['\n'], rest)
  | 't', _ => (['\t'], rest)
  | 'r', _ => (['\r'], rest)
  | 'a', _ => (['\x07'], rest)
  | 'b', _ => (['\x08'], rest)
  | 'e', _ => (['\x1b'], rest)
  | 'f', _ => (['\x0c'], rest)
  | 'x', '\x7b' :: rest => braced 16 rest
  | 'o', '\x7b' :: rest => braced 8 rest
  | 'N', '\x7b' :: 'U' :: '+' :: rest => braced 16 rest
  | 'x', _ => based 16 2 rest
  | 'c', char :: rest => ([ofCode ((char.toUpper.toNat + 64) % 128)], rest)
  | _, _ => if char.isDigit then based 8 3 (char :: rest) else ([char], rest)

/-- The functions that letters after a backslash apply to what follows. -/
def applied? : Char → Option String
  | 'U' => some "uc"
  | 'L' => some "lc"
  | 'Q' => some "quotemeta"
  | 'F' => some "fc"
  | _ => none

/-- Variables with signs for names that texts may show. -/
def shownSigns : List Char := "&!@0;,./\\?+\x60'".toList

def startsVariable (inPattern : Bool) (rest : Text) : Bool :=
  match rest with
  | [] => false
  | '$' :: next :: _ => Scan.startsName next || next == '\x7b' || next == '$' || !inPattern
  | '#' :: next :: _ => !inPattern && (Scan.startsName next || next == '\x7b' || next == '$')
  | '\x7b' :: _ => true
  | ':' :: ':' :: char :: _ => Scan.startsName char
  | char :: _ =>
      Scan.continuesName char || (char == '&') || (!inPattern && (shownSigns.contains char || char == '$'))

/-- Whether an index follows within a text: what stands in brackets may be meant as the
characters of a pattern, or as a number of repetitions. -/
def hasIndex (inPattern : Bool) (text : Text) : Bool :=
  match text with
  | '[' :: rest =>
      if inPattern then
        let inner := rest.takeWhile (· ≠ ']')
        let bare := if inner.head? == some '-' || inner.head? == some '$' then inner.drop 1 else inner
        bare ≠ [] && (if inner.head? == some '$' then bare.all Scan.continuesName
          else bare.all Char.isDigit)
      else
        let next := rest.headD ']'
        next.isDigit || next == '$' || next == '-' || Scan.startsName next
  | '\x7b' :: rest => !(inPattern && rest.head?.any fun char => char.isDigit || char == ',')
  | _ => false

/-- The functions that take one value, or what is at hand. -/
def singular : List String :=
  ["defined", "ref", "scalar", "lc", "uc", "lcfirst", "ucfirst", "fc", "length", "chr", "ord",
    "int", "abs", "sqrt", "sin", "cos", "exp", "log", "hex", "oct", "rand", "srand", "quotemeta",
    "chomp", "chop", "exists", "delete", "each", "keys", "values", "undef", "pos", "readline",
    "close", "chdir", "rmdir", "readlink", "stat", "lstat", "require", "sleep", "exit", "umask",
    "localtime", "gmtime", "caller", "alarm", "fileno", "eof", "shift", "pop", "lock", "closedir",
    "readdir", "chroot", "study", "evaltext"]

/-- The functions that take no values. -/
def bareFunctions : List String :=
  ["time", "times", "wait", "wantarray", "getppid", "fork", "__SUB__", "break"]

/-- The functions that take several values. -/
def plural : List String :=
  ["push", "unshift", "splice", "join", "split", "sprintf", "die", "warn", "reverse", "unlink",
    "open", "system", "exec", "kill", "pack", "unpack", "index", "rindex", "substr", "binmode",
    "mkdir", "rename", "opendir", "read", "sysread", "syswrite", "sysopen", "seek", "tell",
    "truncate", "select", "chmod", "chown", "utime", "link", "symlink", "waitpid", "bless", "atan2",
    "printf", "crypt", "vec", "tie", "untie", "local", "pipe", "glob", "getc", "setpgrp", "exit"]

def isFunction (name : String) : Bool :=
  singular.contains name || bareFunctions.contains name || plural.contains name

def fileLetters : List Char := "edfrwxszlpSbctuogkTBMAC".toList

def constantNames : Expr → List String
  | .list (.constant (.text name) :: _) => [String.ofList name]
  | .constant (.text name) => [String.ofList name]
  | .makeHash items => items.flatMap fun
      | .list parts => (parts.zipIdx.filter fun entry => entry.2 % 2 = 0).filterMap fun
          | (.constant (.text name), _) => some (String.ofList name)
          | _ => none
      | _ => []
  | _ => []

def itemsOf : Expr → List Expr
  | .list items => items
  | other => [other]

def atHand : Expr := .named .scalar "_"

def textExpr (text : Text) : Expr := .constant (.text text)

/-- The name of a bare word that is a key, if only that stands between braces. -/
def bareKey? (text : Text) : Option (Text × Text) :=
  let text := text.dropWhile Scan.isBlank
  let sign : Text := if text.head? == some '-' then ['-'] else []
  let name := (text.drop sign.length).takeWhile Scan.continuesName
  match ((text.drop (sign.length + name.length)).dropWhile Scan.isBlank) with
  | '\x7d' :: rest =>
      if name.head?.any Scan.startsName then some (sign ++ name, rest) else none
  | _ => none

/-- Whether a bare word stands before an arrow that makes it a text. -/
def isBeforeArrow (rest : Text) : Bool :=
  "=>".toList.isPrefixOf (Scan.afterBlanks (rest.length + 1) false rest)

/-- Joins parts to one text. -/
def textOf : List Expr → Expr
  | [] => textExpr []
  | [.constant value] => .constant value
  | parts => .joined parts

/-- What is applied to a value: a pattern, or what changes it. -/
def bound (subject : Expr) (negated : Bool) : Expr → Expr
  | .fits none _ pattern marks => .fits (some subject) negated pattern marks
  | .exchange none pattern replacement marks => .exchange (some subject) pattern replacement marks
  | .transliterate none wanted given marks => .transliterate (some subject) wanted given marks
  | other => .fits (some subject) negated other []

/-- A number that comes next. -/
def numeral : Read Expr := do
  remember
  let (value, rest) := Scan.number (← get).rest
  goTo rest
  return .constant (.number value)

/-- A condition of a loop: a line that is read goes to the variable at hand, and only its
end is looked for. -/
def asked : Expr → Expr
  | .readLine handle => .function "defined" [.assign atHand (.readLine handle)]
  | .assign target (.readLine handle) =>
      if target.isPlural then .assign target (.readLine handle)
      else .function "defined" [.assign target (.readLine handle)]
  | .function "readdir" arguments =>
      .function "defined" [.assign atHand (.function "readdir" arguments)]
  | .assign target (.function name arguments) =>
      if (name == "readdir" || name == "shift" || name == "each" || name == "readline") &&
          !target.isPlural && name ≠ "shift" then
        .function "defined" [.assign target (.function name arguments)]
      else .assign target (.function name arguments)
  | other => other

mutual

/-- An expression whose signs bind at least so tightly. -/
def expression : Nat → Nat → Read Expr
  | 0, _ => unexpected
  | fuel + 1, least => do
      let name ← word
      if least ≤ 2 && name == "not" && !isBeforeArrow ((← ahead).drop 3) then
        pass name
        let operand ← expression fuel 2
        climb fuel least (.unary "!" operand)
      else
        let first ← signed fuel
        climb fuel least first
termination_by structural fuel => fuel

/-- What follows a first value. -/
def climb : Nat → Nat → Expr → Read Expr
  | 0, _, first => return first
  | fuel + 1, least, first => do
      match Scan.operator? (← ahead) with
      | none => return first
      | some (sign, level, rest) =>
          if level < least then return first
          else
            match sign with
            | "," | "=>" =>
                let items ← following fuel
                climb fuel least (.list (first :: items))
            | "?" =>
                remember
                goTo rest
                let yes ← expression fuel 4
                expect ":"
                let no ← expression fuel 4
                climb fuel least (.choice first yes no)
            | _ =>
                remember
                goTo rest
                if level = 4 then
                  let value ← expression fuel 4
                  let inner := String.ofList sign.toList.dropLast
                  climb fuel least (if sign == "=" then .assign first value
                    else .update inner first value)
                else if sign == "=~" || sign == "!~" then
                  let pattern ← signed fuel
                  climb fuel least (bound first (sign == "!~") pattern)
                else
                  let right ← expression fuel (if sign == "**" then level else level + 1)
                  climb fuel least (match sign with
                    | "&&" | "||" | "//" | "and" | "or" | "xor" => .logical sign first right
                    | ".." | "..." => .range first right
                    | _ => .binary sign first right)
termination_by structural fuel => fuel

/-- The items after a first one. -/
def following : Nat → Read (List Expr)
  | 0 => return []
  | fuel + 1 => do
      if (← accept "=>") || (← accept ",") then
        if (← isAt ",") || (← isAt "=>") then following fuel
        else if Scan.startsValue true (← ahead) then
          let item ← expression fuel 4
          return item :: (← following fuel)
        else return []
      else return []
termination_by structural fuel => fuel

/-- A value with signs in front. -/
def signed : Nat → Read Expr
  | 0 => unexpected
  | fuel + 1 => do
      match ← ahead with
      | '!' :: rest => unary fuel "!" rest
      | '~' :: rest => unary fuel "~" rest
      | '\\' :: rest => do
          remember
          goTo rest
          return .refer (← expression fuel 19)
      | '+' :: '+' :: rest => do
          goTo rest
          return .step true true (← signed fuel)
      | '-' :: '-' :: rest => do
          goTo rest
          return .step true false (← signed fuel)
      | '-' :: letter :: rest =>
          let name := Scan.nameOf (letter :: rest)
          if isBeforeArrow ((letter :: rest).drop name.length) && name ≠ [] then
            goTo ((letter :: rest).drop name.length)
            return textExpr ('-' :: name)
          else if name.length = 1 && fileLetters.contains letter && Scan.startsValue true
              (rest.dropWhile Scan.isBlank) then
            goTo rest
            return .fileTest letter (← signed fuel)
          else if name.length = 1 && fileLetters.contains letter then
            goTo rest
            return .fileTest letter atHand
          else unary fuel "-" (letter :: rest)
      | '+' :: rest => do
          goTo rest
          signed fuel
      | _ => do
          let value ← term fuel
          let value ← postfixes fuel value
          if ← accept "++" then return .step false true value
          else if ← accept "--" then return .step false false value
          else if (← isAt "**") && !(← isAt "**=") then
            expect "**"
            return .binary "**" value (← signed fuel)
          else return value
termination_by structural fuel => fuel

/-- A value behind a sign. -/
def unary : Nat → String → Text → Read Expr
  | 0, _, _ => unexpected
  | fuel + 1, sign, rest => do
      remember
      goTo rest
      return .unary sign (← signed fuel)
termination_by structural fuel => fuel

/-- What a name or an expression after a sign leads to. -/
def target : Nat → Kind → Read Expr
  | 0, _ => unexpected
  | fuel + 1, kind => do
      match (← get).rest with
      | '\x7b' :: '^' :: rest =>
          let name := rest.takeWhile (· ≠ '\x7d')
          goTo (rest.drop (name.length + 1))
          return .named kind ("^" ++ String.ofList name)
      | '\x7b' :: rest =>
          match bareKey? rest with
          | some (name, after) =>
              goTo after
              return .named kind (String.ofList name)
          | none =>
              let (_, inner) ← marked
              let body ← within inner (statements fuel)
              return .followed kind (match body with
                | [.simple _ expr] => expr
                | _ => .block body)
      | '$' :: rest =>
          if rest.head?.any fun char => Scan.startsName char || char == '$' || char == '\x7b' || char == ':' then
            goTo rest
            return .followed kind (← target fuel .scalar)
          else
            goTo rest
            return .named kind "$"
      | '^' :: letter :: rest =>
          goTo rest
          return .named kind (String.ofList ['^', letter])
      | text =>
          let name := Scan.nameOf text
          if name ≠ [] then
            goTo (text.drop name.length)
            return .named kind (String.ofList (Scan.bareName name))
          else
            match text with
            | [] => unexpected
            | char :: rest =>
                let digits := text.takeWhile Char.isDigit
                goTo (if digits = [] then rest else text.drop digits.length)
                return .named kind (String.ofList (if digits = [] then [char] else digits))
termination_by structural fuel => fuel

/-- The key between braces, the first of which has been read. -/
def key : Nat → Read Expr
  | 0 => unexpected
  | fuel + 1 => do
      match bareKey? (← get).rest with
      | some (name, rest) =>
          goTo rest
          return textExpr name
      | none =>
          let key ← expression fuel 0
          expect "\x7d"
          return key
termination_by structural fuel => fuel

/-- What stands between brackets or braces that have been opened. -/
def index : Nat → Read Expr
  | 0 => unexpected
  | fuel + 1 => do
      let index ← expression fuel 0
      expect "]"
      return index
termination_by structural fuel => fuel

/-- A part of an array or a hash that an expression leads to. -/
def part : Nat → (Kind → Expr) → Read (Option Expr)
  | 0, _ => return none
  | fuel + 1, base => do
      match (← get).rest with
      | '[' :: rest =>
          goTo rest
          return some (.item (base .array) (← index fuel))
      | '\x7b' :: rest =>
          goTo rest
          return some (.entry (base .hash) (← key fuel))
      | _ => return none
termination_by structural fuel => fuel

/-- What follows a sign for one value. -/
def scalarTerm : Nat → Read Expr
  | 0 => unexpected
  | fuel + 1 => do
      match (← get).rest with
      | '#' :: '\x7b' :: rest =>
          goTo ('\x7b' :: rest)
          return .lastIndex (← target fuel .array)
      | '#' :: '$' :: rest =>
          goTo ('$' :: rest)
          return .lastIndex (← target fuel .array)
      | '#' :: char :: rest =>
          if Scan.startsName char then
            goTo (char :: rest)
            return .lastIndex (← target fuel .array)
          else plainScalar fuel
      | _ => plainScalar fuel
termination_by structural fuel => fuel

/-- A variable for one value, or a part of one for several. -/
def plainScalar : Nat → Read Expr
  | 0 => unexpected
  | fuel + 1 => do
      let found ← target fuel .scalar
      let base (kind : Kind) : Expr := match found with
        | .named _ name => .named kind name
        | .followed _ inner => .followed kind inner
        | other => other
      let mayHaveParts := match found with
        | .named _ name => name.toList.head?.any fun char =>
            Scan.startsName char || char == '+' || char == '-' || char == '!'
        | _ => true
      if mayHaveParts then
        match ← part fuel base with
        | some found => return found
        | none => return found
      else return found
termination_by structural fuel => fuel

/-- What follows a sign for several values. -/
def arrayTerm : Nat → Read Expr
  | 0 => unexpected
  | fuel + 1 => do
      let found ← target fuel .array
      let base (kind : Kind) : Expr := match found with
        | .named _ name => .named kind name
        | .followed _ inner => .followed kind inner
        | other => other
      match (← get).rest with
      | '[' :: rest =>
          goTo rest
          return .items (base .array) (← index fuel)
      | '\x7b' :: rest =>
          goTo rest
          let keys ← key fuel
          return .entries (base .hash) keys
      | _ => return found
termination_by structural fuel => fuel

/-- What follows a sign for a function. -/
def codeTerm : Nat → Read Expr
  | 0 => unexpected
  | fuel + 1 => do
      let found ← target fuel .code
      match ← ahead with
      | '(' :: _ => do
          let arguments ← enclosedItems fuel
          return match found with
            | .named _ name => .call name (some arguments)
            | .followed _ inner => .invoke inner arguments
            | other => .invoke other arguments
      | _ =>
          return match found with
            | .followed _ inner => .invoke inner [.named .array "_"]
            | other => other
termination_by structural fuel => fuel

/-- The items between parentheses. -/
def enclosedItems : Nat → Read (List Expr)
  | 0 => unexpected
  | fuel + 1 => do
      expect "("
      if ← accept ")" then return []
      else
        let inner ← expression fuel 0
        expect ")"
        return itemsOf inner
termination_by structural fuel => fuel

/-- What is taken from a value: its parts, or what comes of calls. -/
def postfixes : Nat → Expr → Read Expr
  | 0, value => return value
  | fuel + 1, value => do
      let text := (← get).rest
      let isPart := match value with
        | .item .. | .entry .. | .invoke .. | .method .. => true
        | _ => false
      match text with
      | '[' :: rest =>
          match value with
          | .list _ =>
              goTo rest
              postfixes fuel (.pick value (← index fuel))
          | _ => if isPart then more fuel value else return value
      | '\x7b' :: _ => if isPart then more fuel value else return value
      | '(' :: _ =>
          match value with
          | .item .. | .entry .. | .invoke .. =>
              postfixes fuel (.invoke value (← enclosedItems fuel))
          | _ => return value
      | _ =>
          if ← isAt "->" then
            expect "->"
            skip
            arrow fuel value
          else return value
termination_by structural fuel => fuel

/-- A part of what a value leads to, and what follows. -/
def more : Nat → Expr → Read Expr
  | 0, value => return value
  | fuel + 1, value => do
      match ← part fuel (.followed · value) with
      | some found => postfixes fuel found
      | none => return value
termination_by structural fuel => fuel

def arrow : Nat → Expr → Read Expr
  | 0, value => return value
  | fuel + 1, value => do
      match (← get).rest with
      | '[' :: _ | '\x7b' :: _ => more fuel value
      | '(' :: _ => postfixes fuel (.invoke value (← enclosedItems fuel))
      | '@' :: '*' :: rest =>
          goTo rest
          return .followed .array value
      | '%' :: '*' :: rest =>
          goTo rest
          return .followed .hash value
      | '$' :: '*' :: rest =>
          goTo rest
          return .followed .scalar value
      | '$' :: '#' :: '*' :: rest =>
          goTo rest
          return .lastIndex (.followed .array value)
      | '@' :: '[' :: rest =>
          goTo rest
          return .items (.followed .array value) (← index fuel)
      | '@' :: '\x7b' :: rest =>
          goTo rest
          return .entries (.followed .hash value) (← key fuel)
      | '$' :: rest =>
          goTo rest
          let name ← target fuel .scalar
          methodCall fuel value name
      | text =>
          let name := Scan.nameOf text
          if name = [] then unexpected
          else
            goTo (text.drop name.length)
            methodCall fuel value (textExpr name)
termination_by structural fuel => fuel

def methodCall : Nat → Expr → Expr → Read Expr
  | 0, value, _ => return value
  | fuel + 1, value, name => do
      let arguments ← if (← get).rest.head? == some '(' then enclosedItems fuel else pure []
      postfixes fuel (.method value name arguments)
termination_by structural fuel => fuel

/-- A value without signs around it. -/
def term : Nat → Read Expr
  | 0 => unexpected
  | fuel + 1 => do
      match ← ahead with
      | [] => unexpected
      | '$' :: rest =>
          remember
          goTo rest
          scalarTerm fuel
      | '@' :: rest =>
          remember
          goTo rest
          arrayTerm fuel
      | '%' :: rest =>
          remember
          goTo rest
          target fuel .hash
      | '&' :: rest =>
          remember
          goTo rest
          codeTerm fuel
      | '"' :: _ => do
          let (_, inner) ← marked
          within inner (return textOf (← pieces fuel false false []))
      | '\'' :: _ => do
          let (mark, inner) ← marked
          return textExpr (Scan.plain mark inner)
      | '\x60' :: _ => do
          let (_, inner) ← marked
          return .output (← within inner (return textOf (← pieces fuel false false [])))
      | '/' :: _ => do
          let (mark, inner) ← marked
          patternTerm fuel mark inner
      | '(' :: _ => return .list (← enclosedItems fuel)
      | '[' :: rest =>
          remember
          goTo rest
          if ← accept "]" then return .makeArray []
          else
            let inner ← index fuel
            return .makeArray (itemsOf inner)
      | '\x7b' :: rest =>
          remember
          goTo rest
          if ← accept "\x7d" then return .makeHash []
          else
            let inner ← expression fuel 0
            expect "\x7d"
            return .makeHash [.list (itemsOf inner)]
      | '<' :: '<' :: char :: rest =>
          if char == '"' || char == '\'' || char == '~' || Scan.startsName char then
            goTo (char :: rest)
            let (text, isPlain) ← lineText
            if isPlain then return textExpr text
            else within text (return textOf (← pieces fuel false false []))
          else if char == '>' then
            goTo (rest.drop 1)
            return .readLine (textExpr "ARGV".toList)
          else unexpected
      | '<' :: _ => do
          let (_, inner) ← marked
          match inner with
          | [] => return .readLine (textExpr "ARGV".toList)
          | '$' :: name =>
              if name.all Scan.continuesName then
                return .readLine (.named .scalar (String.ofList name))
              else return .function "glob" [← within inner (return textOf (← pieces fuel false false []))]
          | _ =>
              if inner.all Scan.continuesName then return .readLine (textExpr inner)
              else return .function "glob" [← within inner (return textOf (← pieces fuel false false []))]
      | '*' :: rest =>
          let name := Scan.nameOf rest
          if name = [] then unexpected
          else
            remember
            goTo (rest.drop name.length)
            return textExpr (Scan.bareName name)
      | '.' :: char :: _ => if char.isDigit then numeral else unexpected
      | '-' :: rest => unary fuel "-" rest
      | char :: _ =>
          if char.isDigit then numeral
          else if Scan.startsName char || char == ':' then wordTerm fuel
          else unexpected
termination_by structural fuel => fuel

/-- A pattern between marks, with the letters that follow it. -/
def patternTerm : Nat → Char → Text → Read Expr
  | 0, _, _ => unexpected
  | fuel + 1, mark, inner => do
      let source ← if mark == '\'' then pure (textExpr inner)
        else within inner (return textOf (← pieces fuel true false []))
      let marks ← letters
      return .fits none false source marks
termination_by structural fuel => fuel

/-- The parts of a text: what stands as it is, and what is put in.  `done` is what has been
read so far, the last first. -/
def pieces : Nat → Bool → Bool → Text → Read (List Expr)
  | 0, _, _, done => return [textExpr done.reverse]
  | fuel + 1, inPattern, isInner, done => do
      let before : List Expr := if done = [] then [] else [textExpr done.reverse]
      match (← get).rest with
      | [] => return before
      | '\\' :: 'E' :: rest =>
          goTo rest
          if isInner then return before else pieces fuel inPattern isInner done
      | '\\' :: char :: rest =>
          match applied? char with
          | some function =>
              goTo rest
              let inner ← pieces fuel inPattern true []
              return before ++ .function function [textOf inner] ::
                (← pieces fuel inPattern isInner [])
          | none =>
              if inPattern then
                goTo rest
                pieces fuel inPattern isInner (char :: '\\' :: done)
              else if char == 'u' || char == 'l' then
                goTo rest
                let after ← pieces fuel inPattern isInner []
                return before ++
                  [.function (if char == 'u' then "ucfirst" else "lcfirst") [textOf after]]
              else
                let (text, rest) := escaped char rest
                goTo rest
                pieces fuel inPattern isInner (text.reverse ++ done)
      | '$' :: rest =>
          if startsVariable inPattern rest then
            goTo rest
            let value ← embedded fuel inPattern
            return before ++ value :: (← pieces fuel inPattern isInner [])
          else
            goTo rest
            pieces fuel inPattern isInner ('$' :: done)
      | '@' :: rest =>
          if rest.head?.any fun char => Scan.startsName char || char == '\x7b' || char == '$' || char == ':' then
            goTo rest
            let list ← arrayTerm fuel
            return before ++ .spread list :: (← pieces fuel inPattern isInner [])
          else
            goTo rest
            pieces fuel inPattern isInner ('@' :: done)
      | char :: rest =>
          goTo rest
          pieces fuel inPattern isInner (char :: done)
termination_by structural fuel => fuel

/-- A variable within a text, whose sign has been read. -/
def embedded : Nat → Bool → Read Expr
  | 0, _ => unexpected
  | fuel + 1, inPattern => do
      match (← get).rest with
      | '#' :: _ => scalarTerm fuel
      | _ =>
          let found ← target fuel .scalar
          let base (kind : Kind) : Expr := match found with
            | .named _ name => .named kind name
            | .followed _ inner => .followed kind inner
            | other => other
          let mayHaveParts := match found with
            | .named _ name => name.toList.head?.any fun char =>
                Scan.startsName char || char == '+' || char == '-'
            | _ => true
          if mayHaveParts && hasIndex inPattern (← get).rest then
            match ← part fuel base with
            | some inner => embeddedParts fuel inPattern inner
            | none => return found
          else
            let rest := (← get).rest
            if "->[".toList.isPrefixOf rest || "->\x7b".toList.isPrefixOf rest then
              goTo (rest.drop 2)
              match ← part fuel (.followed · found) with
              | some inner => embeddedParts fuel inPattern inner
              | none => return found
            else return found
termination_by structural fuel => fuel

/-- Further parts within a text. -/
def embeddedParts : Nat → Bool → Expr → Read Expr
  | 0, _, value => return value
  | fuel + 1, inPattern, value => do
      let text := (← get).rest
      let rest := if "->[".toList.isPrefixOf text || "->\x7b".toList.isPrefixOf text then
        text.drop 2 else text
      if hasIndex inPattern rest then
        goTo rest
        match ← part fuel (.followed · value) with
        | some inner => embeddedParts fuel inPattern inner
        | none => return value
      else return value
termination_by structural fuel => fuel

/-- Something that starts with a word. -/
def wordTerm : Nat → Read Expr
  | 0 => unexpected
  | fuel + 1 => do
      let name ← word
      let text ← ahead
      let rest := text.drop name.length
      if isBeforeArrow rest then
        pass name
        return textExpr name.toList
      else
        match name with
        | "" => unexpected
        | "my" | "our" | "state" => declaration fuel name
        | "local" =>
            pass name
            return .kept (← postfixes fuel (← term fuel))
        | "sub" =>
            pass name
            return .closure (← body fuel)
        | "do" =>
            pass name
            if ← isAt "\x7b" then return .block (← block fuel)
            else return .function "do" [← expression fuel 13]
        | "eval" =>
            pass name
            if ← isAt "\x7b" then return .attempt (← block fuel)
            else argument fuel "evaltext"
        | "q" | "qq" | "qw" | "qx" | "m" | "qr" | "s" | "tr" | "y" => quotation fuel name
        | "print" | "say" => printTerm fuel name
        | "printf" => printTerm fuel name
        | "sort" => sortTerm fuel
        | "map" | "grep" => mapTerm fuel name
        | "return" =>
            pass name
            if Scan.startsValue true (← ahead) then
              return .function "return" [← expression fuel 3]
            else return .function "return" []
        | "next" | "last" | "redo" =>
            pass name
            let label ← word
            if label ≠ "" && !Scan.modifiers.contains label && label ≠ "and" && label ≠ "or" then
              pass label
              return .function name [textExpr label.toList]
            else return .function name []
        | "__PACKAGE__" =>
            pass name
            return textExpr (← get).package.toList
        | "__FILE__" =>
            pass name
            return textExpr (← get).title
        | "__LINE__" =>
            let here ← line
            pass name
            return .constant (.ofNat here)
        | _ => callTerm fuel name
termination_by structural fuel => fuel

def declaration : Nat → String → Read Expr
  | 0, _ => unexpected
  | fuel + 1, name => do
      pass name
      let isShared := name == "our"
      if ← isAt "(" then
        let targets ← enclosedItems fuel
        return .own isShared targets true
      else
        match ← ahead with
        | '$' :: rest =>
            goTo rest
            return .own isShared [← target fuel .scalar] false
        | '@' :: rest =>
            goTo rest
            return .own isShared [← target fuel .array] false
        | '%' :: rest =>
            goTo rest
            return .own isShared [← target fuel .hash] false
        | _ => unexpected
termination_by structural fuel => fuel

/-- Texts and patterns behind a word. -/
def quotation : Nat → String → Read Expr
  | 0, _ => unexpected
  | fuel + 1, name => do
      let text ← ahead
      let rest := text.drop name.length
      let bare := rest.dropWhile Scan.isBlank
      let start := if rest.head? == some '#' then rest else bare
      if start.head?.any fun char => char == ',' || char == ';' || char == ')' || Scan.continuesName char then
        callTerm fuel name
      else
        remember
        goTo start
        let whole (inner : Text) : Read Expr :=
          within inner (return textOf (← pieces fuel false false []))
        let (mark, inner) ← marked
        match name with
        | "q" => return textExpr (Scan.plain mark inner)
        | "qq" => whole inner
        | "qw" => return .list ((Scan.words (inner.length + 1) inner).map textExpr)
        | "qx" => return .output (← if mark == '\'' then pure (textExpr inner) else whole inner)
        | "m" => patternTerm fuel mark inner
        | "qr" =>
            match ← patternTerm fuel mark inner with
            | .fits _ _ source marks => return .pattern source marks
            | other => return other
        | "s" => do
            let replacement ← second mark (← get).rest
            let marks ← letters
            let source ← if mark == '\'' then pure (textExpr inner)
              else within inner (return textOf (← pieces fuel true false []))
            let value ← if marks.contains 'e' then
                within replacement (return .block (← statements fuel))
              else if mark == '\'' then pure (textExpr replacement)
              else whole replacement
            return .exchange none source value marks
        | _ => do
            let given ← second mark (← get).rest
            let marks ← letters
            return .transliterate none inner given marks
termination_by structural fuel => fuel

/-- A function that writes, and what it writes. -/
def printTerm : Nat → String → Read Expr
  | 0, _ => unexpected
  | fuel + 1, name => do
      pass name
      let isEnclosed ← isAt "("
      if isEnclosed then expect "("
      let handle ← handleTerm fuel
      let arguments ← if Scan.startsValue true (← ahead) then
          (do
            let inner ← expression fuel (if isEnclosed then 0 else 3)
            return match inner with
              | .list items => if handle.isNone || !isEnclosed then [.list items] else items
              | other => [other] : Read (List Expr))
        else pure []
      if isEnclosed then expect ")"
      return .print name handle arguments
termination_by structural fuel => fuel

/-- The name of what is written to, or a value for it, if it comes next. -/
def handleTerm : Nat → Read (Option Expr)
  | 0 => return none
  | fuel + 1 => do
      match ← ahead with
      | '\x7b' :: _ => do
          let (_, inner) ← marked
          let body ← within inner (statements fuel)
          return some (match body with
            | [.simple _ expr] => expr
            | _ => .block body)
      | '$' :: rest =>
          let name := Scan.nameOf rest
          let after := rest.drop name.length
          let next := after.dropWhile Scan.isBlank
          let isHandle := name ≠ [] && after.head?.any Scan.isBlank &&
            (next.head?.any fun char => char.isAlphanum || "\"'$@\\\x60".toList.contains char) &&
            (Scan.operator? next).isNone && !Scan.modifiers.any fun entry =>
              entry.toList = Scan.nameOf next
          if isHandle then
            goTo after
            return some (.named .scalar (String.ofList name))
          else return none
      | text =>
          let name := Scan.nameOf text
          let after := text.drop name.length
          let next := after.dropWhile Scan.isBlank
          let isUpper := name ≠ [] && name.all fun char => char.isUpper || char.isDigit || char == '_'
          let goesOn := match next with
            | ',' :: _ | '(' :: _ | '.' :: _ | '-' :: '>' :: _ => false
            | _ => true
          let isKnown := (← get).constants.contains (String.ofList name)
          if isUpper && goesOn && !isKnown && !"__".toList.isPrefixOf name then
            goTo after
            return some (textExpr name)
          else return none
termination_by structural fuel => fuel

/-- A list in order. -/
def sortTerm : Nat → Read Expr
  | 0 => unexpected
  | fuel + 1 => do
      pass "sort"
      let isEnclosed ← accept "("
      let order : Option Expr ← match ← ahead with
        | '\x7b' :: _ => do pure (some (.block (← block fuel)))
        | '$' :: rest =>
            let name := Scan.nameOf rest
            match (rest.drop name.length).dropWhile Scan.isBlank with
            | '@' :: _ => do
                goTo (rest.drop name.length)
                pure (some (.invoke (.named .scalar (String.ofList name)) []))
            | _ => pure none
        | text => do
            let name := Scan.nameOf text
            let next := (text.drop name.length).dropWhile Scan.isBlank
            if name ≠ [] && !isFunction (String.ofList name) && (next.head? == some '@') &&
                !(["map", "grep", "sort", "reverse", "keys", "values"].contains (String.ofList name)) then
              goTo (text.drop name.length)
              pure (some (.call (String.ofList name) (some [])))
            else pure none
      let _ ← accept ","
      let list ← if Scan.startsValue true (← ahead) then
          (do return itemsOf (← expression fuel 3) : Read (List Expr))
        else pure []
      if isEnclosed then expect ")"
      return .ordered order list
termination_by structural fuel => fuel

/-- What comes of each value of a list, or those for which something holds. -/
def mapTerm : Nat → String → Read Expr
  | 0, _ => unexpected
  | fuel + 1, name => do
      pass name
      let isEnclosed ← accept "("
      let text ← ahead
      if text.head? == some '\x7b' && !Scan.startsHash (text.drop 1) then
        let inner ← if ((text.drop 1).dropWhile Scan.isBlank).head? == some '\x7b' then
            (do
              expect "\x7b"
              let first ← plainStatement fuel (← line)
              let rest ← statements fuel
              expect "\x7d"
              return first ++ rest : Read (List Statement))
          else block fuel
        let _ ← accept ","
        let list ← if Scan.startsValue true (← ahead) then
            (do return itemsOf (← expression fuel 3) : Read (List Expr))
          else pure []
        if isEnclosed then expect ")"
        return .mapped (name == "grep") (.block inner) list
      else
        let inner ← expression fuel 4
        expect ","
        let list ← if Scan.startsValue true (← ahead) then
            (do return itemsOf (← expression fuel 3) : Read (List Expr))
          else pure []
        if isEnclosed then expect ")"
        return .mapped (name == "grep") inner list
termination_by structural fuel => fuel

/-- A function with at most one value. -/
def argument : Nat → String → Read Expr
  | 0, _ => unexpected
  | fuel + 1, name => do
      if ← isAt "(" then return .function name (← enclosedItems fuel)
      else
        let isLoose := !(name == "shift" || name == "pop")
        if Scan.startsValue isLoose (← ahead) then
          return .function name [← expression fuel 13]
        else return .function name []
termination_by structural fuel => fuel

def callTerm : Nat → String → Read Expr
  | 0, _ => unexpected
  | fuel + 1, name => do
      pass name
      let cursor ← get
      let isOwn := cursor.known.contains name
      if cursor.constants.contains name then
        let _ ← if ← isAt "()" then accept "()" else pure true
        return .call name (some [])
      else if !isOwn && bareFunctions.contains name then
        let _ ← if ← isAt "(" then enclosedItems fuel else pure []
        return .function name []
      else if !isOwn && singular.contains name then argument fuel name
      else if ← isAt "(" then
        let arguments ← enclosedItems fuel
        return if !isOwn && isFunction name then .function name arguments
          else .call name (some arguments)
      else if !isOwn && isFunction name || isOwn then
        let arguments ← if Scan.startsValue true (← ahead) then
            (do return itemsOf (← expression fuel 3) : Read (List Expr))
          else pure []
        return if isOwn then .call name (some arguments) else .function name arguments
      else return .call name none
termination_by structural fuel => fuel

/-- The statements between braces. -/
def block : Nat → Read (List Statement)
  | 0 => unexpected
  | fuel + 1 => do
      expect "\x7b"
      let package := (← get).package
      let found ← statements fuel
      modify fun cursor => { cursor with package := package }
      expect "\x7d"
      return found
termination_by structural fuel => fuel

/-- The body of a function, with the names of its arguments in front if they are given. -/
def body : Nat → Read (List Statement)
  | 0 => unexpected
  | fuel + 1 => do
      if ← isAt "(" then
        let (_, inner) ← marked
        let found ← block fuel
        if inner.any Char.isAlpha then
          let first ← within ("my (".toList ++ inner ++ ") = @_;".toList) (statements fuel)
          return first ++ found
        else return found
      else block fuel
termination_by structural fuel => fuel

/-- Statements up to the end of the text or of the block. -/
def statements : Nat → Read (List Statement)
  | 0 => unexpected
  | fuel + 1 => do
      match ← ahead with
      | [] | '\x7d' :: _ => return []
      | ';' :: rest =>
          goTo rest
          statements fuel
      | _ =>
          let name ← word
          if name == "__END__" || name == "__DATA__" then
            let rest := (← get).rest
            let line := rest.takeWhile (· ≠ '\n')
            modify fun cursor => { cursor with rest := [], data := some (rest.drop (line.length + 1)) }
            return []
          else
            let first ← statement fuel
            return first ++ (← statements fuel)
termination_by structural fuel => fuel

def statement : Nat → Read (List Statement)
  | 0 => unexpected
  | fuel + 1 => do
      let here ← line
      let name ← word
      let text ← ahead
      let rest := text.drop name.length
      let next := rest.dropWhile Scan.isBlank
      let isLabel := name ≠ "" && next.head? == some ':' && next[1]? != some ':' &&
        name.toList.all (fun char => char.isUpper || char.isDigit || char == '_')
      if isLabel then
        goTo (next.drop 1)
        labelled fuel (← line) name (← word)
      else if name == "" && text.head? == some '\x7b' && !Scan.startsHash (text.drop 1) then
        return [.bare here "" (← block fuel)]
      else
        match name with
        | "if" | "unless" =>
            pass name
            let condition ← guard fuel (name == "unless")
            let yes ← block fuel
            let (choices, otherwise) ← others fuel
            return [.branch here ((condition, yes) :: choices) otherwise]
        | "while" | "until" | "for" | "foreach" => labelled fuel here "" name
        | "sub" =>
            if next.head? == some '\x7b' then plainStatement fuel here
            else
              pass name
              let name ← word
              let package := (← get).package
              let whole := if package == "main" || name.contains ':' then name
                else package ++ "::" ++ name
              pass name
              modify fun cursor => { cursor with known := name :: cursor.known }
              if ← accept ";" then return []
              else return [.define whole (← body fuel)]
        | "package" =>
            pass name
            let name ← word
            pass name
            let before := (← get).package
            modify fun cursor => { cursor with package := name }
            if ← isAt "\x7b" then
              let inner ← block fuel
              modify fun cursor => { cursor with package := before }
              return [.bare here "" (.simple here (.function "package" [textExpr name.toList]) :: inner)]
            else return [.simple here (.function "package" [textExpr name.toList])]
        | "use" | "no" =>
            pass name
            settings fuel here
        | "BEGIN" | "INIT" | "CHECK" | "UNITCHECK" =>
            if next.head? == some '\x7b' then
              pass name
              return [.bare here "BEGIN" (← block fuel)]
            else plainStatement fuel here
        | "END" =>
            if next.head? == some '\x7b' then
              pass name
              let inner ← block fuel
              modify fun cursor => { cursor with endings := inner :: cursor.endings }
              return []
            else plainStatement fuel here
        | _ => plainStatement fuel here
termination_by structural fuel => fuel

/-- A condition between parentheses. -/
def guard : Nat → Bool → Read Expr
  | 0, _ => unexpected
  | fuel + 1, negated => do
      expect "("
      let condition ← expression fuel 0
      expect ")"
      return if negated then .unary "!" condition else condition
termination_by structural fuel => fuel

/-- The further choices of a branch. -/
def others : Nat → Read (List (Expr × List Statement) × List Statement)
  | 0 => unexpected
  | fuel + 1 => do
      match ← word with
      | "elsif" =>
          pass "elsif"
          let condition ← guard fuel false
          let yes ← block fuel
          let (choices, otherwise) ← others fuel
          return ((condition, yes) :: choices, otherwise)
      | "else" =>
          pass "else"
          return ([], ← block fuel)
      | _ => return ([], [])
termination_by structural fuel => fuel

/-- What is done before a loop goes on. -/
def continuation : Nat → Read (List Statement)
  | 0 => return []
  | fuel + 1 => do
      if (← word) == "continue" then
        pass "continue"
        block fuel
      else return []
termination_by structural fuel => fuel

/-- A loop or a block with a label. -/
def labelled : Nat → Nat → String → String → Read (List Statement)
  | 0, _, _, _ => unexpected
  | fuel + 1, here, label, name => do
      match name with
      | "while" | "until" =>
          pass name
          expect "("
          let condition ← if ← isAt ")" then pure (.constant (.ofInt 1)) else expression fuel 0
          expect ")"
          let condition := if name == "until" then .unary "!" condition else asked condition
          let inner ← block fuel
          return [.loop here label condition inner (← continuation fuel)]
      | "for" | "foreach" =>
          pass name
          let name ← word
          if name == "my" || name == "our" || name == "state" then
            let target ← declaration fuel name
            let list ← enclosedItems fuel
            let inner ← block fuel
            return [.each here label target (.list list) inner]
          else
            match ← ahead with
            | '$' :: rest =>
                goTo rest
                let found ← target fuel .scalar
                let list ← enclosedItems fuel
                let inner ← block fuel
                return [.each here label found (.list list) inner]
            | _ => counting fuel here label
      | "" => return [.bare here label (← block fuel)]
      | _ => statement fuel
termination_by structural fuel => fuel

def counting : Nat → Nat → String → Read (List Statement)
  | 0, _, _ => unexpected
  | fuel + 1, here, label => do
      expect "("
      let optional : Read (Option Expr) := do
        if (← isAt ";") || (← isAt ")") then return none
        else return some (← expression fuel 0)
      let first ← optional
      if ← accept ";" then
        let condition ← optional
        expect ";"
        let next ← optional
        expect ")"
        let inner ← block fuel
        let simple (expr : Expr) : Statement := .simple here expr
        return [.bare here "" ((first.map simple).toList ++
          [.loop here label (condition.getD (.constant (.ofInt 1))) inner (next.map simple).toList])]
      else
        expect ")"
        let inner ← block fuel
        return [.each here label atHand (.list first.toList) inner]
termination_by structural fuel => fuel

/-- Settings for the script, of which only constants and kinships count. -/
def settings : Nat → Nat → Read (List Statement)
  | 0, _ => unexpected
  | fuel + 1, here => do
      let name ← word
      if name == "" then
        let (_, rest) := Scan.number ((← ahead).dropWhile (· == 'v'))
        goTo (rest.dropWhile fun char => char.isDigit || char == '.')
      else pass name
      let _ ← if name ≠ "" && (← ahead).head?.any Char.isDigit then
          (do
            goTo (Scan.number (← ahead)).2
            return true : Read Bool)
        else pure false
      let arguments ← if Scan.startsValue true (← ahead) then
          (do return some (← expression fuel 3) : Read (Option Expr))
        else pure none
      match name, arguments with
      | "Time::HiRes", _ => return [.simple here (.function "finely" [])]
      | "constant", some given =>
          modify fun cursor =>
            { cursor with constants := constantNames given ++ cursor.constants }
          return [.simple here (.function "constant" [given])]
      | "parent", some given | "base", some given =>
          return [.simple here (.function "kin" [textExpr (← get).package.toList, given])]
      | _, _ => return []
termination_by structural fuel => fuel

/-- An expression as a statement, with what may follow it. -/
def plainStatement : Nat → Nat → Read (List Statement)
  | 0, _ => unexpected
  | fuel + 1, here => do
      let expr ← expression fuel 0
      let found ← modified fuel here expr
      match ← ahead with
      | [] | '\x7d' :: _ => return found
      | ';' :: _ =>
          expect ";"
          return found
      | _ => unexpected
termination_by structural fuel => fuel

/-- A statement with a condition or a loop behind it. -/
def modified : Nat → Nat → Expr → Read (List Statement)
  | 0, _, _ => unexpected
  | fuel + 1, here, expr => do
      let name ← word
      let simple : List Statement := [.simple here expr]
      if Scan.modifiers.contains name then
        pass name
        let condition ← expression fuel 0
        match name, expr with
        | "if", _ => return [.branch here [(condition, simple)] []]
        | "unless", _ => return [.branch here [(.unary "!" condition, simple)] []]
        | "while", .block _ => return [.repetition here expr condition]
        | "until", .block _ => return [.repetition here expr (.unary "!" condition)]
        | "while", _ => return [.loop here "" (asked condition) simple []]
        | "until", _ => return [.loop here "" (.unary "!" condition) simple []]
        | _, _ => return [.each here "" atHand (.list [condition]) simple]
      else return simple
termination_by structural fuel => fuel

end

def script (title text : Text) : Except Text Script := do
  let opened := text.count '\x7b' + text.count '['
  let closed := text.count '\x7d' + text.count ']'
  let start : Cursor :=
    { rest := text, lines := text.count '\n' + 1, title := title
      endsLine := text.getLast? == some '\n', lacksEnd := closed < opened }
  let reading : Read (List Statement) := do
    let found ← statements (40 * text.length + 400)
    match ← ahead with
    | [] => return found
    | _ =>
        throw ("Unmatched right curly bracket".toList ++ (← place) ++ ", at end of line\n".toList ++
          "syntax error".toList ++ (← place) ++ ", near \"\x7d\"\n".toList ++ aborted title)
  let (body, cursor) ← reading.run start
  pure { body := body, endings := cursor.endings, data := cursor.data }

end Reader

end FolderScript.Perl
