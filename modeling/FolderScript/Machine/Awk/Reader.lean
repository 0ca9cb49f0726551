/-
Reads a pattern script: from tokens to rules and functions, and which parameters of
functions are tables.
-/
import FolderScript.Machine.Awk.Script
import FolderScript.Machine.Awk.Token

namespace FolderScript.Awk

open Shell (Text Regex)

namespace Reader

/-- The characters that mean something in a pattern. -/
def isSpecial (char : Char) : Bool := "\\^$.[]|()*+?\x7b\x7d".toList.contains char

/-- What a letter after a backslash stands for in a pattern, and what follows. -/
def escaped (char : Char) (rest : Text) : Char × Text :=
  match char with
  | 'n' => ('\n', rest)
  | 't' => ('\t', rest)
  | 'r' => ('\r', rest)
  | 'a' => ('\x07', rest)
  | 'b' => ('\x08', rest)
  | 'f' => ('\x0c', rest)
  | 'v' => ('\x0b', rest)
  | other =>
      if '0' ≤ other && other ≤ '7' then
        let (value, after) := Scan.octal (other :: rest)
        (Char.ofNat (value % 256), after)
      else (other, rest)

/-- The members within brackets, where a backslash takes away the meaning of what
follows it: those that keep their place, and whether a bracket or a dash is one. -/
def members : Nat → Text → Option (Text × Bool × Bool × Text)
  | 0, _ => none
  | _ + 1, [] => none
  | _ + 1, ']' :: rest => some ([], false, false, rest)
  | fuel + 1, '\\' :: char :: rest =>
      let (char, rest) := escaped char rest
      (members fuel rest).map fun (inside, bracket, dash, after) =>
        if char = ']' then (inside, true, dash, after)
        else if char = '-' then (inside, bracket, true, after)
        else (char :: inside, bracket, dash, after)
  | fuel + 1, '[' :: mark :: rest =>
      if mark = ':' then
        let name := rest.takeWhile Char.isAlpha
        match rest.drop name.length with
        | ':' :: ']' :: more =>
            (members fuel more).map fun (inside, others) =>
              ("[:".toList ++ name ++ ":]".toList ++ inside, others)
        | _ => (members fuel (mark :: rest)).map fun (inside, others) => ('[' :: inside, others)
      else (members fuel (mark :: rest)).map fun (inside, others) => ('[' :: inside, others)
  | fuel + 1, char :: rest =>
      (members fuel rest).map fun (inside, others) => (char :: inside, others)

/-- A pattern in the usual notation. -/
def usual : Nat → Text → Text
  | 0, text => text
  | _ + 1, [] => []
  | fuel + 1, '\\' :: char :: rest =>
      let (char, after) := escaped char rest
      if isSpecial char then '\\' :: char :: usual fuel after else char :: usual fuel after
  | fuel + 1, '[' :: rest =>
      let (front, body) : Text × Text := match rest with
        | '^' :: more => (['^'], more)
        | _ => ([], rest)
      let (first, body) : Text × Text := match body with
        | ']' :: more => ([']'], more)
        | _ => ([], body)
      match members (body.length + 1) body with
      | none => '[' :: usual fuel rest
      | some (inside, bracket, dash, after) =>
          let first := if bracket then [']'] else first
          '[' :: front ++ first ++ inside ++ (if dash then ['-'] else []) ++ ']' :: usual fuel after
  | fuel + 1, char :: rest => char :: usual fuel rest

/-- The pattern that a text spells. -/
def regexOf (source : Text) : Except String Regex :=
  if source.all fun char => !isSpecial char then .ok (Regex.literal source)
  else Regex.parse true (usual (source.length + 1) source)

/-- How far a script has been read. -/
structure Cursor where
  rest : List (Token × Nat)
  /-- The parameters of the function that is read. -/
  parameters : List String := []
  isFunction : Bool := false
  /-- Whether next records may be asked for. -/
  mayNext : Bool := true
  loops : Nat := 0
  /-- How many braces and parentheses are open. -/
  braces : Nat := 0
  lastLine : Nat := 1

abbrev Read := StateT Cursor (Except Fault)

def peek : Read (Option Token) := do return ((← get).rest.head?).map Prod.fst

def second : Read (Option Token) := do return ((← get).rest[1]?).map Prod.fst

/-- Goes past a token. -/
def skip : Read Unit :=
  modify fun cursor => { cursor with
    rest := cursor.rest.tail, lastLine := (cursor.rest.head?.map Prod.snd).getD cursor.lastLine }

/-- The line of the next token. -/
def line : Read Nat := do
  let cursor ← get
  return (cursor.rest.head?.map Prod.snd).getD (cursor.lastLine + 1)

def fail {α : Type} (message : String) : Read α := do
  throw ⟨(← get).lastLine, message.toList, false⟩

/-- Fails at the next token. -/
def unexpected {α : Type} : Read α := do
  match ← peek with
  | none =>
      let cursor ← get
      if 0 < cursor.braces then
        throw ⟨cursor.lastLine + 1, "missing \x7d near end of file".toList, false⟩
      else throw ⟨cursor.lastLine, "syntax error at or near end of line".toList, false⟩
  | some token =>
      throw ⟨← line, "syntax error at or near ".toList ++ Scan.shown token, false⟩

/-- Whether the next token is a sign. -/
def isAt (text : String) : Read Bool := do
  match ← peek with
  | some (.sign found) => return found == text
  | _ => return false

/-- Whether the next token is a word. -/
def isAtWord (name : String) : Read Bool := do
  match ← peek with
  | some (.keyword found) => return found == name
  | _ => return false

/-- Goes past a sign, if it is next. -/
def accept (text : String) : Read Bool := do
  if ← isAt text then
    skip
    return true
  else return false

/-- Goes past a sign that has to be next. -/
def expect (text : String) : Read Unit := do
  if !(← accept text) then unexpected

/-- Goes past line ends. -/
def skipLines : Nat → Read Unit
  | 0 => return
  | fuel + 1 => do
      match ← peek with
      | some .lineEnd =>
          skip
          skipLines fuel
      | _ => return

/-- More line ends than there are. -/
def manyLines : Nat := 100000

def placeOf (name : String) : Read Place := do
  match (← get).parameters.findIdx? (· == name) with
  | some index => return .here index
  | none => return .shared name

def assignment? : String → Option (Option Operation)
  | "=" => some none
  | "+=" => some (some .add)
  | "-=" => some (some .subtract)
  | "*=" => some (some .multiply)
  | "/=" => some (some .divide)
  | "%=" => some (some .remainder)
  | "^=" => some (some .power)
  | _ => none

def relation? : String → Option Value.Relation
  | "<" => some .less
  | "<=" => some .atMost
  | "==" => some .equal
  | "!=" => some .different
  | ">" => some .more
  | ">=" => some .atLeast
  | _ => none

def startsValue : Token → Bool
  | .number .. | .text _ | .regex _ | .name .. | .builtin _ => true
  | .sign text => text == "$" || text == "(" || text == "!" || text == "-" || text == "+" ||
      text == "++" || text == "--"
  | .keyword _ | .lineEnd => false

/-- How many arguments a function that is there from the start takes. -/
def arity : String → Nat × Nat
  | "index" | "atan2" => (2, 2)
  | "substr" => (2, 3)
  | "length" => (0, 1)
  | "split" => (2, 3)
  | "match" => (2, 2)
  | "sub" | "gsub" => (2, 3)
  | "sprintf" => (1, 1000)
  | "sin" | "cos" | "exp" | "log" | "sqrt" | "int" | "system" | "close" | "toupper" | "tolower"
  | "mktime" => (1, 1)
  | "srand" | "fflush" => (0, 1)
  | "strftime" => (0, 3)
  | _ => (0, 0)

/-- What a place between tokens allows. -/
structure Setting where
  /-- Whether a greater-than sign compares. -/
  greater : Bool := true
  /-- Whether `in` looks into a table. -/
  membership : Bool := true

/-- The end of parentheses. -/
def closing : Read Unit := do
  match ← peek with
  | some (.sign ")") => skip
  | some (.sign "\x7d") => throw ⟨← line, "missing ) near \x7d".toList, false⟩
  | some .lineEnd => throw ⟨← line, "missing ) near end of line".toList, false⟩
  | _ => unexpected

mutual

/-- An expression. -/
def expr (setting : Setting) : Nat → Read Expr
  | 0 => unexpected
  | fuel + 1 => do
      let condition ← orExpr setting fuel
      if ← accept "?" then
        skipLines manyLines
        let yes ← expr setting fuel
        skipLines manyLines
        expect ":"
        skipLines manyLines
        let no ← expr setting fuel
        return .choice condition yes no
      else return condition

def orExpr (setting : Setting) : Nat → Read Expr
  | 0 => unexpected
  | fuel + 1 => do
      let left ← andExpr setting fuel
      if ← accept "||" then
        skipLines manyLines
        return .or left (← orExpr setting fuel)
      else return left

def andExpr (setting : Setting) : Nat → Read Expr
  | 0 => unexpected
  | fuel + 1 => do
      let left ← inExpr setting fuel
      if ← accept "&&" then
        skipLines manyLines
        return .and left (← andExpr setting fuel)
      else return left

def inExpr (setting : Setting) : Nat → Read Expr
  | 0 => unexpected
  | fuel + 1 => do
      let left ← matchExpr setting fuel
      memberships setting fuel left

def memberships (setting : Setting) : Nat → Expr → Read Expr
  | 0, _ => unexpected
  | fuel + 1, left => do
      if setting.membership && (← isAtWord "in") then
        skip
        match ← peek with
        | some (.name name _) =>
            skip
            let place ← placeOf name
            let keys : List Expr := match left with
              | .tuple items => items
              | other => [other]
            memberships setting fuel (.isIn keys place)
        | _ => unexpected
      else return left

def matchExpr (setting : Setting) : Nat → Read Expr
  | 0 => unexpected
  | fuel + 1 => do
      let left ← compareExpr setting fuel
      matches_ setting fuel left

def matches_ (setting : Setting) : Nat → Expr → Read Expr
  | 0, _ => unexpected
  | fuel + 1, left => do
      if ← accept "~" then
        matches_ setting fuel (.fits left (← compareExpr setting fuel))
      else if ← accept "!~" then
        matches_ setting fuel (.not (.fits left (← compareExpr setting fuel)))
      else return left

def compareExpr (setting : Setting) : Nat → Read Expr
  | 0 => unexpected
  | fuel + 1 => do
      let left ← concatExpr setting fuel
      match ← peek with
      | some (.sign text) =>
          match relation? text with
          | some relation =>
              if text == ">" && !setting.greater then return left
              else
                skip
                return .compare relation left (← concatExpr setting fuel)
          | none => return left
      | _ => return left

def concatExpr (setting : Setting) : Nat → Read Expr
  | 0 => unexpected
  | fuel + 1 => do
      let left ← addExpr setting fuel
      concats setting fuel left

def concats (setting : Setting) : Nat → Expr → Read Expr
  | 0, _ => unexpected
  | fuel + 1, left => do
      match ← peek with
      | some token =>
          let starts := match token with
            | .sign text => text == "$" || text == "(" || text == "!" || text == "++" || text == "--"
            | other => startsValue other
          match left with
          | .tuple _ => return left
          | _ =>
              if starts then concats setting fuel (.concat left (← addExpr setting fuel))
              else return left
      | none => return left

def addExpr (setting : Setting) : Nat → Read Expr
  | 0 => unexpected
  | fuel + 1 => do
      let left ← mulExpr setting fuel
      adds setting fuel left

def adds (setting : Setting) : Nat → Expr → Read Expr
  | 0, _ => unexpected
  | fuel + 1, left => do
      if ← accept "+" then adds setting fuel (.binary .add left (← mulExpr setting fuel))
      else if ← accept "-" then adds setting fuel (.binary .subtract left (← mulExpr setting fuel))
      else return left

def mulExpr (setting : Setting) : Nat → Read Expr
  | 0 => unexpected
  | fuel + 1 => do
      let left ← unaryExpr setting fuel
      muls setting fuel left

def muls (setting : Setting) : Nat → Expr → Read Expr
  | 0, _ => unexpected
  | fuel + 1, left => do
      if ← accept "*" then muls setting fuel (.binary .multiply left (← unaryExpr setting fuel))
      else if ← accept "/" then muls setting fuel (.binary .divide left (← unaryExpr setting fuel))
      else if ← accept "%" then
        muls setting fuel (.binary .remainder left (← unaryExpr setting fuel))
      else return left

def unaryExpr (setting : Setting) : Nat → Read Expr
  | 0 => unexpected
  | fuel + 1 => do
      if ← accept "!" then return .not (← unaryExpr setting fuel)
      else if ← accept "-" then return .negative (← unaryExpr setting fuel)
      else if ← accept "+" then return .positive (← unaryExpr setting fuel)
      else powerExpr setting fuel

def powerExpr (setting : Setting) : Nat → Read Expr
  | 0 => unexpected
  | fuel + 1 => do
      let left ← postfixExpr setting fuel
      if ← accept "^" then
        if ← accept "-" then return .binary .power left (.negative (← powerExpr setting fuel))
        else if ← accept "+" then return .binary .power left (← powerExpr setting fuel)
        else return .binary .power left (← powerExpr setting fuel)
      else return left

/-- A value, with what is assigned to it or added to it, and what is read into it. -/
def postfixExpr (setting : Setting) : Nat → Read Expr
  | 0 => unexpected
  | fuel + 1 => do
      let value ← primary setting fuel
      let value ← if value.isTarget then do
          if ← accept "++" then pure (Expr.step value 1 true)
          else if ← accept "--" then pure (Expr.step value (-1) true)
          else
            match ← peek with
            | some (.sign text) =>
                match assignment? text with
                | some none =>
                    skip
                    skipLines manyLines
                    pure (Expr.assign value (← expr setting fuel))
                | some (some operation) =>
                    skip
                    skipLines manyLines
                    pure (Expr.update value operation (← expr setting fuel))
                | none => pure value
            | _ => pure value
        else pure value
      pipes setting fuel value

/-- Commands whose output is read. -/
def pipes (setting : Setting) : Nat → Expr → Read Expr
  | 0, _ => unexpected
  | fuel + 1, value => do
      match ← peek, ← second with
      | some (.sign "|"), some (.keyword "getline") =>
          skip
          skip
          let target ← target? setting fuel
          pipes setting fuel (.readCommand target value)
      | _, _ => return value

/-- What something is read into, if it is told. -/
def target? (setting : Setting) : Nat → Read (Option Expr)
  | 0 => unexpected
  | fuel + 1 => do
      match ← peek with
      | some (.sign "$") => return some (← primary setting fuel)
      | some (.name _ false) => return some (← primary setting fuel)
      | _ => return none

/-- A value that stands alone. -/
def primary (setting : Setting) : Nat → Read Expr
  | 0 => unexpected
  | fuel + 1 => do
      match ← peek with
      | some (.number value _) =>
          skip
          return .constant (.number value)
      | some (.text value) =>
          skip
          return .constant (.text value)
      | some (.regex source) =>
          let here ← line
          skip
          match regexOf source with
          | .ok regex => return .regex source regex
          | .error message => throw ⟨here, "regular expression compile failed (".toList ++
              message.toList ++ ")\n".toList ++ source, false⟩
      | some (.sign "$") =>
          skip
          if ← accept "++" then return .field (.step (← primary setting fuel) 1 false)
          else if ← accept "--" then return .field (.step (← primary setting fuel) (-1) false)
          else if ← accept "-" then return .field (.negative (← primary setting fuel))
          else if ← accept "+" then return .field (← primary setting fuel)
          else if ← accept "!" then return .field (.not (← primary setting fuel))
          else return .field (← primary setting fuel)
      | some (.sign "++") =>
          skip
          let target ← primary setting fuel
          if target.isTarget then return .step target 1 false else unexpected
      | some (.sign "--") =>
          skip
          let target ← primary setting fuel
          if target.isTarget then return .step target (-1) false else unexpected
      | some (.sign "-") =>
          skip
          return .negative (← unaryExpr setting fuel)
      | some (.sign "+") =>
          skip
          return .positive (← unaryExpr setting fuel)
      | some (.sign "!") =>
          skip
          return .not (← unaryExpr setting fuel)
      | some (.sign "(") =>
          skip
          skipLines manyLines
          let first ← expr {} fuel
          skipLines manyLines
          if ← isAt "," then
            let others ← moreItems fuel
            expect ")"
            return .tuple (first :: others)
          else
            closing
            return first
      | some (.name name called) =>
          skip
          if called then
            expect "("
            let arguments ← items fuel
            closing
            return .call name arguments
          else if ← accept "[" then
            let subscripts ← subscripts fuel
            return .item (← placeOf name) subscripts
          else return .variable_ (← placeOf name)
      | some (.builtin name) =>
          skip
          if name == "length" && !(← isAt "(") then return .builtin name []
          else if ← accept "(" then
            let arguments ← items fuel
            closing
            let (least, most) := arity name
            if arguments.length < least || most < arguments.length then
              fail ("wrong number of arguments in call to " ++ name)
            else return .builtin name arguments
          else unexpected
      | some (.keyword "getline") =>
          skip
          let target ← target? setting fuel
          if ← accept "<" then return .readFile target (← primary setting fuel)
          else return .readMain target
      | _ => unexpected

/-- Expressions after commas. -/
def moreItems : Nat → Read (List Expr)
  | 0 => unexpected
  | fuel + 1 => do
      if ← accept "," then
        skipLines manyLines
        let item ← expr {} fuel
        skipLines manyLines
        return item :: (← moreItems fuel)
      else return []

/-- Expressions between parentheses, perhaps none. -/
def items : Nat → Read (List Expr)
  | 0 => unexpected
  | fuel + 1 => do
      skipLines manyLines
      if ← isAt ")" then return []
      else
        let first ← expr {} fuel
        skipLines manyLines
        return first :: (← moreItems fuel)

/-- The subscripts of a table, up to the bracket. -/
def subscripts : Nat → Read (List Expr)
  | 0 => unexpected
  | fuel + 1 => do
      let first ← expr {} fuel
      let others ← moreItems fuel
      expect "]"
      return first :: others

end

/-- Whether a statement ends before the next token. -/
def isAtEnd : Read Bool := do
  match ← peek with
  | none | some .lineEnd => return true
  | some (.sign text) => return text == ";" || text == "\x7d"
  | _ => return false

/-- Goes past what ends a statement. -/
def terminate : Read Unit := do
  match ← peek with
  | some .lineEnd =>
      skip
      skipLines manyLines
  | some (.sign ";") =>
      skip
      skipLines manyLines
  | some (.sign "\x7d") => return
  | none => return
  | _ => unexpected

/-- Where output is to go, if that is told. -/
def outputTarget (fuel : Nat) : Read (Option (Way × Expr)) := do
  let setting : Setting := { greater := false }
  if ← accept ">" then return some (.onto, ← expr setting fuel)
  else if ← accept ">>" then return some (.behind, ← expr setting fuel)
  else if ← accept "|" then return some (.into, ← expr setting fuel)
  else return none

/-- Expressions to be shown. -/
def outputItems : Nat → Read (List Expr)
  | 0 => unexpected
  | fuel + 1 => do
      let first ← expr { greater := false } fuel
      if ← accept "," then
        skipLines manyLines
        return first :: (← outputItems fuel)
      else return [first]

/-- What is to be shown, and where. -/
def output (fuel : Nat) : Read (List Expr × Option (Way × Expr)) := do
  match ← peek with
  | some (.sign ">") | some (.sign ">>") | some (.sign "|") => return ([], ← outputTarget fuel)
  | _ =>
      if ← isAtEnd then return ([], none)
      else
        let items ← outputItems fuel
        let target ← outputTarget fuel
        match items with
        | [.tuple items] => return (items, target)
        | items => return (items, target)

def simple (fuel : Nat) : Read Statement := do
  match ← peek with
  | some (.keyword "print") =>
      skip
      let (items, target) ← output fuel
      return .print items target
  | some (.keyword "printf") =>
      skip
      let (items, target) ← output fuel
      if items.isEmpty then unexpected else return .printf items target
  | some (.keyword "next") =>
      if !(← get).mayNext || (← get).isFunction then fail "improper use of next"
      else
        skip
        return .next
  | some (.keyword "nextfile") =>
      if !(← get).mayNext || (← get).isFunction then fail "improper use of nextfile"
      else
        skip
        return .nextFile
  | some (.keyword "break") =>
      if (← get).loops = 0 then fail "break statement outside of loop"
      else
        skip
        return .break_
  | some (.keyword "continue") =>
      if (← get).loops = 0 then fail "next statement outside of loop"
      else
        skip
        return .continue_
  | some (.keyword "exit") =>
      skip
      if ← isAtEnd then return .exit none else return .exit (some (← expr {} fuel))
  | some (.keyword "return") =>
      if !(← get).isFunction then fail "return outside function body"
      else
        skip
        if ← isAtEnd then return .return_ none else return .return_ (some (← expr {} fuel))
  | some (.keyword "delete") =>
      skip
      let isWrapped ← accept "("
      match ← peek with
      | some (.name name _) =>
          skip
          let place ← placeOf name
          let keys ← if ← accept "[" then subscripts fuel else pure []
          if isWrapped then expect ")"
          return .delete place keys
      | _ => unexpected
  | _ => return .evaluate (← expr {} fuel)

def looping {α : Type} (body : Read α) : Read α := do
  modify fun cursor => { cursor with loops := cursor.loops + 1 }
  let value ← body
  modify fun cursor => { cursor with loops := cursor.loops - 1 }
  return value

mutual

def statement : Nat → Read Statement
  | 0 => unexpected
  | fuel + 1 => do
      match ← peek with
      | some (.sign "\x7b") => block fuel
      | some (.sign ";") =>
          skip
          skipLines manyLines
          return .block []
      | some (.keyword "if") =>
          skip
          expect "("
          let condition ← expr {} fuel
          closing
          skipLines manyLines
          let yes ← statement fuel
          skipLines manyLines
          if (← isAt ";") && (match ← second with
              | some (.keyword "else") => true
              | _ => false) then skip
          if ← isAtWord "else" then
            skip
            skipLines manyLines
            return .choose condition yes (← statement fuel)
          else return .choose condition yes (.block [])
      | some (.keyword "while") =>
          skip
          expect "("
          let condition ← expr {} fuel
          closing
          if ← accept ";" then return .whileLoop condition (.block [])
          else
            skipLines manyLines
            return .whileLoop condition (← looping (statement fuel))
      | some (.keyword "do") =>
          skip
          skipLines manyLines
          let body ← looping (statement fuel)
          skipLines manyLines
          if (← isAt ";") then
            skip
            skipLines manyLines
          if ← isAtWord "while" then
            skip
            expect "("
            let condition ← expr {} fuel
            closing
            terminate
            return .untilLoop body condition
          else unexpected
      | some (.keyword "for") => forStatement fuel
      | _ =>
          let found ← simple fuel
          terminate
          return found

/-- A loop that counts, or one over the keys of a table. -/
def forStatement : Nat → Read Statement
  | 0 => unexpected
  | fuel + 1 => do
      skip
      expect "("
      let ahead := (← get).rest.map Prod.fst
      match ahead with
      | .name target _ :: .keyword "in" :: .name table _ :: .sign ")" :: _ =>
          skip
          skip
          skip
          skip
          skipLines manyLines
          let target ← placeOf target
          let table ← placeOf table
          return .forEach target table (← looping (statement fuel))
      | _ =>
          let first ← if ← isAt ";" then pure none else pure (some (← expr {} fuel))
          expect ";"
          skipLines manyLines
          let condition ← if ← isAt ";" then pure none else pure (some (← expr {} fuel))
          expect ";"
          skipLines manyLines
          let next ← if ← isAt ")" then pure none else pure (some (← expr {} fuel))
          closing
          if ← accept ";" then return .forLoop first condition next (.block [])
          else
            skipLines manyLines
            return .forLoop first condition next (← looping (statement fuel))

/-- Statements between braces. -/
def block : Nat → Read Statement
  | 0 => unexpected
  | fuel + 1 => do
      expect "\x7b"
      modify fun cursor => { cursor with braces := cursor.braces + 1 }
      skipLines manyLines
      let found ← statements fuel
      expect "\x7d"
      modify fun cursor => { cursor with braces := cursor.braces - 1 }
      match ← peek with
      | some (.sign ";") =>
          skip
          skipLines manyLines
      | some .lineEnd => skipLines manyLines
      | _ => pure ()
      return .block found

def statements : Nat → Read (List Statement)
  | 0 => unexpected
  | fuel + 1 => do
      skipLines manyLines
      if ← isAt "\x7d" then return []
      else
        match ← peek with
        | none => unexpected
        | some _ =>
            let first ← statement fuel
            return first :: (← statements fuel)

end

/-- The names of parameters, up to the parenthesis. -/
def parameters : Nat → Read (List String)
  | 0 => unexpected
  | fuel + 1 => do
      skipLines manyLines
      match ← peek with
      | some (.sign ")") =>
          skip
          return []
      | some (.name name _) =>
          skip
          skipLines manyLines
          if ← accept "," then return name :: (← parameters fuel)
          else if ← accept ")" then return [name]
          else unexpected
      | _ => unexpected

def function (fuel : Nat) : Read Function := do
  skip
  match ← peek with
  | some (.name name _) =>
      skip
      expect "("
      let names ← parameters fuel
      skipLines manyLines
      modify fun cursor => { cursor with parameters := names, isFunction := true }
      let body ← block fuel
      modify fun cursor => { cursor with parameters := [], isFunction := false }
      return { name := name, parameters := names, body := body }
  | _ => unexpected

def rule (fuel : Nat) : Read Rule := do
  let special (pattern : Pattern) : Read Rule := do
    skip
    if ← isAt "\x7b" then
      modify fun cursor => { cursor with mayNext := false }
      let body ← block fuel
      modify fun cursor => { cursor with mayNext := true }
      return ⟨pattern, some body⟩
    else unexpected
  match ← peek with
  | some (.keyword "BEGIN") => special .begin_
  | some (.keyword "END") => special .end_
  | some (.sign "\x7b") => return ⟨.always, some (← block fuel)⟩
  | some (.sign "\x7d") => do
      let here ← line
      throw ⟨here, "extra '\x7d'\nawk: line ".toList ++ Shell.Text.ofNat here ++
        ": syntax error at or near end of line".toList, false⟩
  | _ =>
      let first ← expr {} fuel
      let pattern ← if ← accept "," then do
          skipLines manyLines
          pure (Pattern.between first (← expr {} fuel))
        else pure (Pattern.when first)
      if ← isAt "\x7b" then return ⟨pattern, some (← block fuel)⟩
      else
        match ← peek with
        | none | some .lineEnd | some (.sign ";") => return ⟨pattern, none⟩
        | _ => unexpected

/-- Rules and functions up to the end. -/
def script : Nat → Read Script
  | 0 => unexpected
  | fuel + 1 => do
      skipLines manyLines
      match ← peek with
      | none => return ⟨[], []⟩
      | some (.sign ";") =>
          skip
          script fuel
      | some (.keyword "function") =>
          let found ← function fuel
          let rest ← script fuel
          return { rest with functions := found :: rest.functions }
      | some _ =>
          let found ← rule fuel
          let rest ← script fuel
          return { rest with rules := found :: rest.rules }

end Reader

namespace Usage

/-- What an expression does with a variable. -/
inductive Use where
  | asTable (place : Place)
  /-- It is handed to a function as an argument. -/
  | handed (function : String) (index : Nat) (place : Place)
  | called (function : String)
  deriving DecidableEq, Repr

/-- What the parts of an expression do, down to a depth. -/
def ofExpr : Nat → Expr → List Use
  | 0, _ => []
  | fuel + 1, expr =>
      let own : List Use := match expr with
        | .item place _ | .isIn _ place => [.asTable place]
        | .builtin "split" (_ :: .variable_ place :: _) => [.asTable place]
        | .call name arguments =>
            .called name :: arguments.zipIdx.filterMap fun (argument, index) =>
              match argument with
              | .variable_ place => some (.handed name index place)
              | _ => none
        | _ => []
      own ++ expr.parts.flatMap (ofExpr fuel)

/-- What a statement does, down to a depth. -/
def ofStatement : Nat → Statement → List Use
  | 0, _ => []
  | fuel + 1, statement =>
      let each (exprs : List Expr) : List Use := exprs.flatMap (ofExpr fuel)
      match statement with
      | .block statements => statements.flatMap (ofStatement fuel)
      | .print arguments target | .printf arguments target =>
          each (arguments ++ (target.map Prod.snd).toList)
      | .evaluate expr => each [expr]
      | .choose condition yes no =>
          each [condition] ++ ofStatement fuel yes ++ ofStatement fuel no
      | .whileLoop condition body | .untilLoop body condition =>
          each [condition] ++ ofStatement fuel body
      | .forLoop first condition next body =>
          each (first.toList ++ condition.toList ++ next.toList) ++ ofStatement fuel body
      | .forEach _ table body => .asTable table :: ofStatement fuel body
      | .exit value | .return_ value => each value.toList
      | .delete table subscripts => .asTable table :: each subscripts
      | .next | .nextFile | .break_ | .continue_ => []

/-- How deep scripts go. -/
def depth : Nat := 100000

/-- The functions with what is known of their tables once more looked at. -/
def refine (functions : List Function) : List Function :=
  functions.map fun function =>
    let uses := ofStatement depth function.body
    let isTable (index : Nat) : Bool := uses.any fun use => match use with
      | .asTable (.here other) => other == index
      | .handed name position (.here other) =>
          other == index && functions.any fun callee =>
            callee.name == name && callee.tables.getD position false
      | _ => false
    { function with tables := (List.range function.parameters.length).map isTable }

/-- Looks at the functions again as long as there may be something new. -/
def refined : Nat → List Function → List Function
  | 0, functions => functions
  | count + 1, functions => refined count (refine functions)

def called (script : Script) : List String :=
  let ofRule (rule : Rule) : List Use :=
    (match rule.pattern with
      | .when condition => ofExpr depth condition
      | .between first last => ofExpr depth first ++ ofExpr depth last
      | _ => []) ++ ((rule.action.map (ofStatement depth)).getD [])
  let uses := script.rules.flatMap ofRule ++
    script.functions.flatMap fun function => ofStatement depth function.body
  uses.filterMap fun use => match use with
    | .called name => some name
    | _ => none

end Usage

def Script.ofText (text : Text) : Except Fault Script := do
  let tokens ← Scan.tokens text
  let start : Reader.Cursor := { rest := tokens }
  let (script, _) ← (Reader.script (20 * tokens.length + 100)).run start
  let lines := text.count '\n'
  match (Usage.called script).find? fun name =>
      !(script.functions.any fun function => function.name == name) with
  | some name =>
      throw ⟨lines + 2, ("function " ++ name ++ " never defined").toList, false⟩
  | none =>
      pure { script with
        functions := Usage.refined (script.functions.length + 1) script.functions }

end FolderScript.Awk
