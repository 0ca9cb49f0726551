/-
Arithmetic of the large shell language: the value of a variable is an expression
itself, and values by numbers and keys can be read and assigned.
-/
import FolderScript.Machine.Shell.Arithmetic
import FolderScript.Machine.Shell.Bash.Values

namespace FolderScript.Shell

namespace Expression

/-- Why an expression has no value. -/
inductive Fault where
  /-- The expression, what is wrong, and the text from where it goes wrong. -/
  | syntaxError (source : Text) (message : String) (token : Text)
  | fixed (name : Text)
  | unset (name : Text)
  | subscript (name : Text)
  deriving DecidableEq, Repr

def Fault.message : Fault → Text
  | .syntaxError source message token =>
      source.dropWhile Char.isWhitespace ++ ": ".toList ++ message.toList ++
        " (error token is \"".toList ++ token ++ "\")".toList
  | .fixed name => name ++ ": readonly variable".toList
  | .unset name => name ++ ": unbound variable".toList
  | .subscript name => name ++ ": bad array subscript".toList

/-- A piece of an expression. -/
inductive Token where
  | number (digits : Text)
  | name (name : Text) (index : Option Text)
  | sign (text : String)
  /-- A character that belongs to no expression. -/
  | stray
  | ending
  deriving DecidableEq, Repr

/-- Signs, longer ones before shorter ones. -/
def signs : List String :=
  ["<<=", ">>=", "**", "<<", ">>", "<=", ">=", "==", "!=", "&&", "||", "++", "--", "+=", "-=",
    "*=", "/=", "%=", "&=", "|=", "^=", "+", "-", "*", "/", "%", "<", ">", "=", "!", "~", "&",
    "|", "^", "?", ":", "(", ")", ","]

/-- The text up to the bracket that closes one which has been opened, and what follows
it. -/
def upToBracket : Nat → Text → Option (Text × Text)
  | _, [] => none
  | depth, char :: rest =>
      if char = ']' && depth = 0 then some ([], rest)
      else
        let depth := if char = '[' then depth + 1 else if char = ']' then depth - 1 else depth
        (upToBracket depth rest).map fun (inner, after) => (char :: inner, after)

/-- The next piece of an expression, the text that it starts, and what follows it. -/
def token (text : Text) : Token × Text × Text :=
  let text := text.dropWhile Char.isWhitespace
  match text with
  | [] => (.ending, [], [])
  | char :: _ =>
      if char.isDigit then
        let digits := text.takeWhile fun char => char.isAlphanum || "#@_".toList.contains char
        (.number digits, text, text.drop digits.length)
      else if char.isAlpha || char == '_' then
        let name := text.takeWhile fun char => char.isAlphanum || char == '_'
        match text.drop name.length with
        | '[' :: rest =>
            match upToBracket 0 rest with
            | some (index, after) => (.name name (some index), text, after)
            | none => (.name name none, text, '[' :: rest)
        | rest => (.name name none, text, rest)
      else
        match signs.find? fun sign => sign.toList.isPrefixOf text with
        | some sign => (.sign sign, text, text.drop sign.length)
        | none => (.stray, text, text.drop 1)

/-- The next piece after a value: a double sign with no name behind it is two single
ones. -/
def tokenBehind (text : Text) : Token × Text × Text :=
  match token text with
  | (.sign sign, here, after) =>
      let isName := (after.dropWhile Char.isWhitespace).head?.any fun char =>
        char.isAlpha || char == '_'
      if (sign == "++" || sign == "--") && !isName then
        (.sign (if sign == "++" then "+" else "-"), here, here.drop 1)
      else (.sign sign, here, after)
  | found => found

/-- An expression that has been read. -/
inductive Tree where
  | number (value : Int)
  | name (name : Text) (index : Option Text)
  | unary (sign : String) (inner : Tree)
  /-- Two sides, with the text from the right one on. -/
  | binary (sign : String) (left right : Tree) (place : Text)
  /-- An assignment, with the sign that is applied before it. -/
  | assign (sign : String) (name : Text) (index : Option Text) (value : Tree) (place : Text)
  /-- A step up or down, before the value is taken or after it. -/
  | step (isBefore isUp : Bool) (name : Text) (index : Option Text)
  | choice (test yes no : Tree)

/-- How tightly a sign between two values binds, if it is one. -/
def tightness? : String → Option Nat
  | "," => some 1
  | "||" => some 4
  | "&&" => some 5
  | "|" => some 6
  | "^" => some 7
  | "&" => some 8
  | "==" | "!=" => some 9
  | "<" | ">" | "<=" | ">=" => some 10
  | "<<" | ">>" => some 11
  | "+" | "-" => some 12
  | "*" | "/" | "%" => some 13
  | "**" => some 14
  | _ => none

def assignTightness : Nat := 2
def choiceTightness : Nat := 3

def digitValue (base : Nat) (char : Char) : Nat :=
  if char.isDigit then char.toNat - 48
  else if char.isLower then char.toNat - 87
  else if char.isUpper then (if base ≤ 36 then char.toNat - 55 else char.toNat - 29)
  else if char = '@' then 62
  else 63

def numberOf (source digits : Text) : Except Fault Int :=
  let fault (message : String) : Except Fault Int := .error (.syntaxError source message digits)
  let inBase (base : Nat) (digits : Text) : Except Fault Int :=
    if digits.any fun char => char == '#' then fault "invalid number"
    else if digits.any fun char => base ≤ digitValue base char then fault "value too great for base"
    else .ok (Arithmetic.wrap
      (digits.foldl (fun total char => total * base + digitValue base char) 0 : Nat))
  match digits with
  | '0' :: 'x' :: rest | '0' :: 'X' :: rest => inBase 16 rest
  | '0' :: rest => if rest.contains '#' then fault "invalid number" else inBase 8 rest
  | _ =>
      let front := digits.takeWhile (· ≠ '#')
      match digits.drop front.length with
      | _ :: rest =>
          match Text.toNat? front with
          | some base =>
              if base < 2 ∨ 64 < base then fault "invalid arithmetic base"
              else if rest = [] then fault "invalid integer constant"
              else inBase base rest
          | none => fault "invalid arithmetic base"
      | [] => inBase 10 digits

/-- What has been read, with the text from the last piece on, and what follows it. -/
structure Read where
  tree : Tree
  last : Text
  rest : Text

mutual

/-- An expression whose signs bind at least so tightly; `last` is the text from the last
piece on. -/
def read (source : Text) : Nat → Nat → Text → Text → Except Fault Read
  | 0, _, last, _ => .error (.syntaxError source "expression recursion level exceeded" last)
  | fuel + 1, least, last, text => do
      let first ← operand source fuel last text
      more source fuel least first

/-- What follows a first side. -/
def more (source : Text) : Nat → Nat → Read → Except Fault Read
  | 0, _, first => .ok first
  | fuel + 1, least, first =>
      match tokenBehind first.rest with
      | (.sign sign, here, after) =>
          match sign with
          | "?" =>
              if choiceTightness < least then .ok first
              else do
                let yes ← read source fuel 1 here after
                match token yes.rest with
                | (.sign ":", here, after) =>
                    let no ← read source fuel choiceTightness here after
                    more source fuel least ⟨.choice first.tree yes.tree no.tree, no.last, no.rest⟩
                | (.ending, _, _) =>
                    throw (.syntaxError source "\x60:' expected for conditional expression" yes.last)
                | (_, here, _) =>
                    throw (.syntaxError source "\x60:' expected for conditional expression" here)
          | _ =>
              match Arithmetic.assigning? sign, tightness? sign with
              | some inner, _ =>
                  if assignTightness < least then
                    .error (.syntaxError source "attempted assignment to non-variable" here)
                  else
                    match first.tree with
                    | .name name index => do
                        let value ← read source fuel assignTightness here after
                        more source fuel least
                          ⟨.assign inner name index value.tree after, value.last, value.rest⟩
                    | _ => .error (.syntaxError source "attempted assignment to non-variable" here)
              | none, some tight =>
                  if tight < least then .ok first
                  else do
                    let inner := if sign == "**" then tight else tight + 1
                    let inner := if sign == "," then assignTightness else inner
                    let second ← read source fuel inner here after
                    more source fuel least
                      ⟨.binary sign first.tree second.tree
                        (after.dropWhile Char.isWhitespace), second.last, second.rest⟩
              | none, none => .ok first
      | _ => .ok first

/-- A single operand with the signs in front of it. -/
def operand (source : Text) : Nat → Text → Text → Except Fault Read
  | 0, last, _ => .error (.syntaxError source "expression recursion level exceeded" last)
  | fuel + 1, last, text =>
      match token text with
      | (.number digits, here, after) => do
          let value ← numberOf source digits
          pure ⟨.number value, here, after⟩
      | (.name name index, here, after) =>
          match token after with
          | (.sign "++", later, rest) => .ok ⟨.step false true name index, later, rest⟩
          | (.sign "--", later, rest) => .ok ⟨.step false false name index, later, rest⟩
          | _ => .ok ⟨.name name index, here, after⟩
      | (.sign sign, here, after) =>
          match sign with
          | "(" => do
              let inner ← read source fuel 1 here after
              match token inner.rest with
              | (.sign ")", later, rest) => pure ⟨inner.tree, later, rest⟩
              | (.ending, _, _) => throw (.syntaxError source "missing \x60)'" inner.last)
              | (_, later, _) => throw (.syntaxError source "missing \x60)'" later)
          | "++" | "--" =>
              match token after with
              | (.name name index, later, rest) =>
                  .ok ⟨.step true (sign == "++") name index, later, rest⟩
              | _ => do
                  let half := if sign == "++" then "+" else "-"
                  let inner ← operand source fuel here after
                  pure ⟨.unary half (.unary half inner.tree), inner.last, inner.rest⟩
          | "-" | "+" | "!" | "~" => do
              let inner ← operand source fuel here after
              pure ⟨.unary sign inner.tree, inner.last, inner.rest⟩
          | _ => .error (.syntaxError source "syntax error: operand expected" here)
      | (.stray, here, _) => .error (.syntaxError source "syntax error: operand expected" here)
      | (.ending, _, _) => .error (.syntaxError source "syntax error: operand expected" last)

end

/-- Reads a whole expression; a blank one counts as zero. -/
def parse (source : Text) : Except Fault Tree := do
  if source.all Char.isWhitespace then pure (.number 0)
  else
    let whole ← read source (8 * source.length + 32) 1 source source
    match token whole.rest with
    | (.ending, _, _) => pure whole.tree
    | (.stray, here, _) => throw (.syntaxError source "syntax error: invalid arithmetic operator" here)
    | (_, here, _) => throw (.syntaxError source "syntax error in expression" here)

/-- A number to the power of another. -/
def power (base : Int) : Nat → Int
  | 0 => 1
  | exponent + 1 => Arithmetic.wrap (power base exponent * base)

/-- The result of a sign between two values. -/
def apply (source : Text) (sign : String) (left right : Int) (place : Text) : Except Fault Int :=
  if sign == "**" then
    if right < 0 then .error (.syntaxError source "exponent less than 0" place)
    else .ok (power left (min right.toNat 100000))
  else
    match Arithmetic.apply sign left right with
    | .ok value => .ok value
    | .error _ => .error (.syntaxError source "division by 0" place)

/-- The largest number of expressions that are the values of variables in others. -/
def deepest : Nat := 1024

/-- Gives a variable a number. -/
def store (name : Text) (key : Option Text) (number : Int) (state : State) :
    Except Fault (Int × State) :=
  let name := state.targetOf State.longestChain name
  if state.fixed.contains name then .error (.fixed name)
  else
    .ok (number, match key with
      | some key => state.setElement name key (Text.ofInt number)
      | none => state.setVariable name (Text.ofInt number))

mutual

def value (source : Text) : Nat → Tree → State → Except Fault (Int × State)
  | 0, _, _ => .error (.syntaxError source "expression recursion level exceeded" source)
  | fuel + 1, tree, state =>
      match tree with
      | .number value => .ok (value, state)
      | .name name index => do
          let (key, state) ← keyOf fuel name index state
          current fuel name key state
      | .unary sign inner => do
          let (number, state) ← value source fuel inner state
          pure (match sign with
            | "-" => Arithmetic.wrap (-number)
            | "!" => Arithmetic.truth (number == 0)
            | "~" => -number - 1
            | _ => number, state)
      | .binary sign left right place => do
          let (first, state) ← value source fuel left state
          match sign with
          | "&&" =>
              if first = 0 then pure (0, state)
              else
                let (second, state) ← value source fuel right state
                pure (Arithmetic.truth (second != 0), state)
          | "||" =>
              if first ≠ 0 then pure (1, state)
              else
                let (second, state) ← value source fuel right state
                pure (Arithmetic.truth (second != 0), state)
          | "," => value source fuel right state
          | _ =>
              let (second, state) ← value source fuel right state
              pure (← apply source sign first second place, state)
      | .choice test yes no => do
          let (first, state) ← value source fuel test state
          value source fuel (if first ≠ 0 then yes else no) state
      | .assign sign name index inner place => do
          let (key, state) ← keyOf fuel name index state
          if sign == "" then
            let (number, state) ← value source fuel inner state
            store name key number state
          else
            let (before, state) ← current fuel name key state
            let (number, state) ← value source fuel inner state
            store name key (← apply source sign before number place) state
      | .step isBefore isUp name index => do
          let (key, state) ← keyOf fuel name index state
          let (before, state) ← current fuel name key state
          let after := Arithmetic.wrap (if isUp then before + 1 else before - 1)
          let (_, state) ← store name key after state
          pure (if isBefore then after else before, state)

/-- The key that a text between brackets spells for a variable. -/
def keyOf : Nat → Text → Option Text → State → Except Fault (Option Text × State)
  | 0, name, _, _ => .error (.subscript name)
  | fuel + 1, name, index, state =>
      let name := state.targetOf State.longestChain name
      match index with
      | none => .ok (none, state)
      | some text =>
          if state.isKeyed name then .ok (some text, state)
          else do
            let (number, state) ← evaluate fuel text state
            let limit := match state.store? name with
              | some store => store.limit
              | none => if (state.scalar? name).isSome then 1 else 0
            let number := if number < 0 then number + limit else number
            if number < 0 then throw (.subscript (name ++ '[' :: text ++ [']']))
            pure (some (Text.ofNat number.toNat), state)

/-- The number that a variable holds. -/
def current : Nat → Text → Option Text → State → Except Fault (Int × State)
  | 0, name, _, _ => .error (.subscript name)
  | fuel + 1, name, key, state =>
      let name := state.targetOf State.longestChain name
      let text? := match key with
        | some key => state.element? name key
        | none => state.scalar? name
      match text? with
      | some text => evaluate fuel text state
      | none => if state.has 'u' then .error (.unset name) else .ok (0, state)

def evaluate : Nat → Text → State → Except Fault (Int × State)
  | 0, source, _ => .error (.syntaxError source "expression recursion level exceeded" source)
  | fuel + 1, source, state => do
      let tree ← parse source
      value source fuel tree state

end

def compute (source : Text) (state : State) : Except Fault (Int × State) :=
  evaluate (8 * source.length + 4 * deepest) source state

end Expression

end FolderScript.Shell
