/-
The programs that count, reckon and wait.
-/
import FolderScript.Machine.Shell.Format
import FolderScript.Machine.Shell.Regex
import FolderScript.Machine.Shell.Tools.Sort

namespace FolderScript.Shell

namespace Tools

/-- A decimal: a whole number of parts, and how many places it has. -/
structure Places where
  value : Int
  places : Nat
  /-- Whether it is a zero with a minus. -/
  isMinusZero : Bool := false
  deriving DecidableEq, Repr

namespace Places

/-- The whole number of parts if there were so many places. -/
def at1 (decimal : Places) (places : Nat) : Int :=
  if decimal.places ≤ places then decimal.value * Nat.pow 10 (places - decimal.places)
  else Int.tdiv decimal.value (Nat.pow 10 (decimal.places - places))

/-- The decimal that a text spells. -/
def read? (text : Text) : Option Places :=
  match Format.real? text with
  | some ⟨negative, .finite (value, denominator), []⟩ =>
      let digits := (text.dropWhile (· ≠ '.')).tail.takeWhile Char.isDigit
      let power := (Format.exponentOf ['e', 'E']
        (text.dropWhile fun char => char ≠ 'e' && char ≠ 'E')).1
      let places := if (text.map Char.toLower).contains 'x' then 0
        else ((digits.length : Int) - power).toNat
      let parts : Int := value * Nat.pow 10 places / denominator
      some ⟨if negative then -parts else parts, places, negative && parts == 0⟩
  | _ => none

def text (decimal : Places) : Text :=
  let digits := Binary64.Fraction.pointed (Nat.toDigits 10 decimal.value.natAbs) decimal.places
    false
  if decimal.value < 0 ∨ decimal.isMinusZero then '-' :: digits else digits

end Places

/-- A count that goes from a first number to a last one in steps. -/
structure Count where
  first : Places
  step : Places
  /-- There may be no last one. -/
  last : Option Places

namespace Count

/-- How many places its numbers have. -/
def places (count : Count) : Nat := max count.first.places count.step.places

/-- How far an endless count is followed where nobody stops it. -/
def endlessLength : Nat := 20000

/-- How many numbers a count has; `none` is without end. -/
def length? (count : Count) : Option Nat :=
  let fine := max count.places ((count.last.map Places.places).getD 0)
  count.last.map fun last =>
    (Int.fdiv (last.at1 fine - count.first.at1 fine) (count.step.at1 fine) + 1).toNat

def numbers (count : Count) (most : Nat) : List Places :=
  let shown := count.places
  let fine := max shown ((count.last.map Places.places).getD 0)
  let first := count.first.at1 fine
  let step := count.step.at1 fine
  let length := min most (count.length?.getD most)
  let unit : Int := Nat.pow 10 (fine - shown)
  (List.range length).map fun (index : Nat) =>
    ⟨Int.tdiv (first + step * (index : Int)) unit, shown,
      index = 0 && count.first.isMinusZero⟩

/-- How wide the widest of its ends is. -/
def width (count : Count) : Nat :=
  let size (decimal : Places) : Nat :=
    (Places.text { decimal with value := decimal.at1 count.places, places := count.places }).length
  max (size count.first) ((count.last.map size).getD 0)

end Count

/-- A format with one directive for numbers: what stands around it, and the
directive; or what is wrong with it. -/
def numberFormat (text : Text) : Except Text (Text × Format.Directive × Text) :=
  let rec split : Text → Text × Text
    | '%' :: '%' :: rest =>
        let (before, after) := split rest
        ('%' :: before, after)
    | '%' :: rest => ([], '%' :: rest)
    | char :: rest =>
        let (before, after) := split rest
        (char :: before, after)
    | [] => ([], [])
  let refused (reason : String) : Except Text (Text × Format.Directive × Text) :=
    .error ("format ".toList ++ quoted text ++ reason.toList)
  match split text with
  | (_, []) => refused " has no % directive"
  | (before, _ :: rest) =>
      let flags := rest.takeWhile fun char => "-+ #0'".toList.contains char
      let rest := rest.drop flags.length
      let width := rest.takeWhile Char.isDigit
      let rest := rest.drop width.length
      let (precision, rest) : Option Text × Text := match rest with
        | '.' :: more =>
            let digits := more.takeWhile Char.isDigit
            (some digits, more.drop digits.length)
        | _ => (none, rest)
      match rest with
      | [] => refused " ends in %"
      | conversion :: rest =>
          if !"efgEFGaA".toList.contains conversion then
            refused (" has unknown %" ++ String.ofList [conversion] ++ " directive")
          else
            match split rest with
            | (after, []) =>
                let exact := precision.map fun digits => Nat.ofDigitChars 10 digits 0
                .ok (before, ⟨flags, Nat.ofDigitChars 10 width 0, exact, conversion⟩, after)
            | _ => refused " has too many % directives"

/-- How the numbers of a count are written. -/
def countWriter (given : Given) (count : Count) : Except Text (Places → Text) :=
  match given.value? 'f' with
  | none =>
      let width := if given.has 'w' then count.width else 0
      .ok fun number => Format.pad width false '0' number.text
  | some format => do
      let (before, directive, after) ← numberFormat format
      pure fun number => before ++ (directive.apply true Format.shellQuoted number.text).1 ++ after

/-- Where the switches in front of numbers end: a negative number is an operand. -/
def endSwitches : List Text → List Text
  | [] => []
  | ['-', '-'] :: rest => ['-', '-'] :: rest
  | ['-', 's'] :: value :: rest => ['-', 's'] :: value :: endSwitches rest
  | ['-', 'f'] :: value :: rest => ['-', 'f'] :: value :: endSwitches rest
  | ('-' :: char :: chars) :: rest =>
      if char.isDigit || char == '.' then ['-', '-'] :: ('-' :: char :: chars) :: rest
      else ('-' :: char :: chars) :: endSwitches rest
  | operands => operands

def seq : Tool := fun state arguments =>
  let action := reading "seq" ⟨"w", "sf", [("equal-width", 'w'), ("separator", 's'),
      ("format", 'f')], false⟩ 1 fun state given =>
    let refuse (message : Text) : Flow × State := done (misused state "seq" message) 1
    let isNan (text : Text) : Bool := match Format.real? text with
      | some ⟨_, .nan, []⟩ => true
      | _ => false
    let isInfinite (text : Text) : Bool := match Format.real? text with
      | some ⟨false, .infinite, []⟩ => true
      | _ => false
    let operands := given.operands
    let isBad (text : Text) : Bool := (Places.read? text).isNone && !isInfinite text
    match operands.find? isBad with
    | some text =>
        if 3 < operands.length then refuse ("extra operand ".toList ++ quoted (operands.getD 3 []))
        else if isNan text then refuse ("invalid 'not-a-number' argument: ".toList ++ quoted text)
        else refuse ("invalid floating point argument: ".toList ++ quoted text)
    | none =>
        let one : Places := ⟨1, 0, false⟩
        let decimal (text : Text) : Places := (Places.read? text).getD one
        let count? : Except Text Count := match operands with
          | [] => .error "missing operand".toList
          | [last] => .ok ⟨one, one, Places.read? last⟩
          | [first, last] => .ok ⟨decimal first, one, Places.read? last⟩
          | [first, step, last] =>
              if (decimal step).value = 0 then
                .error ("invalid Zero increment value: ".toList ++ quoted step)
              else .ok ⟨decimal first, decimal step, Places.read? last⟩
          | _ :: _ :: _ :: extra :: _ => .error ("extra operand ".toList ++ quoted extra)
        match count? with
        | .error message => refuse message
        | .ok count =>
            match countWriter given count with
            | .error message => done (complain state "seq" message) 1
            | .ok text =>
                let isPiped := match state.channel? 1 with
                  | some (.buffer _) => true
                  | _ => false
                let most := if isPiped then state.world.plenty / 4
                  else count.length?.getD Count.endlessLength
                let isWhole := count.length?.any fun length => length ≤ most
                let shown := (count.numbers most).map text
                let separator := (given.value? 's').getD ['\n']
                let written := state.write 1
                  (if shown = [] then [] else Text.join separator shown ++
                    (if isWhole then ['\n'] else separator))
                if isWhole then done written 0
                else (.forever, if isPiped then written.cutShort else written)
  action state (endSwitches arguments)

/-- What a calculation can go wrong at. -/
inductive ExprFault where
  | noOperand
  | missing (after : Text)
  | unexpected (text : Text)
  | unexpectedClose
  | unclosed (after : Text)
  | noInteger
  | division
  | pattern (message : String)
  deriving DecidableEq, Repr

def ExprFault.message : ExprFault → Text
  | .noOperand => "missing operand".toList
  | .missing after => "syntax error: missing argument after ".toList ++ quoted after
  | .unexpected text => "syntax error: unexpected argument ".toList ++ quoted text
  | .unexpectedClose => "syntax error: unexpected ')'".toList
  | .unclosed after => "syntax error: expecting ')' after ".toList ++ quoted after
  | .noInteger => "non-integer argument".toList
  | .division => "division by zero".toList
  | .pattern message => message.toList

/-- A value with the words that are left, and the word before them. -/
abbrev ExprStep := Except ExprFault (Text × List Text × Text)

namespace Expr

/-- The whole number that a text spells. -/
def integer? (text : Text) : Option Int :=
  match text with
  | '-' :: digits => (Text.toNat? digits).map fun number => -(number : Int)
  | _ => (Text.toNat? text).map fun number => (number : Int)

/-- Whether a value counts as false. -/
def isNull (text : Text) : Bool :=
  text = [] || (match text with
    | '-' :: digits => digits ≠ [] && digits.all (· = '0')
    | _ => text.all (· = '0'))

def truth (holds : Bool) : Text := if holds then ['1'] else ['0']

/-- The match of a pattern at the front of a text: its first group, or how long it
is. -/
def fit (text pattern : Text) : Except ExprFault Text :=
  match Regex.parse false pattern with
  | .error message => .error (.pattern message)
  | .ok regex =>
      let subject : Regex.Subject := { chars := text.toArray }
      match regex.matchAt? subject 0, regex.hasGroup with
      | some found, true => .ok (found.group subject 1)
      | some found, false => .ok (Text.ofNat found.stop)
      | none, true => .ok []
      | none, false => .ok ['0']

/-- How two values relate: as numbers if both are, else as texts. -/
def relate (sign : Text) (left right : Text) : Bool :=
  let order := match integer? left, integer? right with
    | some first, some second => compare first second
    | _, _ => compareText left right
  match String.ofList sign with
  | "<" => order == .lt
  | "<=" => order != .gt
  | "=" | "==" => order == .eq
  | "!=" => order != .eq
  | ">=" => order != .lt
  | _ => order == .gt

/-- The value of a calculation with two whole numbers. -/
def reckon (sign : Text) (left right : Text) : Except ExprFault Text :=
  match integer? left, integer? right with
  | some first, some second =>
      match sign with
      | ['+'] => .ok (Text.ofInt (first + second))
      | ['-'] => .ok (Text.ofInt (first - second))
      | ['*'] => .ok (Text.ofInt (first * second))
      | _ =>
          if second = 0 then .error .division
          else if sign = ['/'] then .ok (Text.ofInt (Int.tdiv first second))
          else .ok (Text.ofInt (Int.tmod first second))
  | _, _ => .error .noInteger

/-- The signs of each level, the loosest first. -/
def signs : Nat → List String
  | 0 => ["|"]
  | 1 => ["&"]
  | 2 => ["<", "<=", "=", "==", "!=", ">=", ">"]
  | 3 => ["+", "-"]
  | 4 => ["*", "/", "%"]
  | _ => [":"]

/-- What two values at a level give; a side that is not needed is not looked at. -/
def combine (level : Nat) (live : Bool) (sign left right : Text) : Except ExprFault Text :=
  if !live then .ok right
  else
    match level with
    | 0 => .ok (if !isNull left then left else if !isNull right then right else ['0'])
    | 1 => .ok (if isNull left || isNull right then ['0'] else left)
    | 2 => .ok (truth (relate sign left right))
    | 3 | 4 => reckon sign left right
    | _ => fit left right

mutual

/-- The value of the words from a level on. -/
def level : Nat → Nat → Bool → Text → List Text → ExprStep
  | 0, _, _, before, words => .ok ([], words, before)
  | fuel + 1, number, live, before, words =>
      if 5 < number then operand fuel live before words
      else do
        let (value, rest, before) ← level fuel (number + 1) live before words
        more fuel number live value before rest

/-- Further sides of a level. -/
def more : Nat → Nat → Bool → Text → Text → List Text → ExprStep
  | 0, _, _, value, before, words => .ok (value, words, before)
  | _ + 1, _, _, value, before, [] => .ok (value, [], before)
  | fuel + 1, number, live, value, before, sign :: rest =>
      if !(signs number).contains (String.ofList sign) then .ok (value, sign :: rest, before)
      else do
        let needed := live && match number with
          | 0 => isNull value
          | 1 => !isNull value
          | _ => true
        let (right, rest, before) ← level fuel (number + 1) needed sign rest
        let value ← combine number live sign value right
        more fuel number live value before rest

/-- A single value. -/
def operand : Nat → Bool → Text → List Text → ExprStep
  | 0, _, before, words => .ok ([], words, before)
  | _ + 1, _, before, [] => .error (.missing before)
  | fuel + 1, live, _, word :: rest =>
      match String.ofList word with
      | "+" =>
          match rest with
          | [] => .error (.missing word)
          | literal :: rest => .ok (literal, rest, literal)
      | "(" => do
          let (value, rest, before) ← level fuel 0 live word rest
          match rest with
          | [')'] :: rest => pure (value, rest, [')'])
          | [] => throw (.unclosed before)
          | other :: _ => throw (.unclosed other)
      | ")" => .error .unexpectedClose
      | "length" => do
          let (value, rest, before) ← operand fuel live word rest
          pure (Text.ofNat value.length, rest, before)
      | "match" => do
          let (text, rest, before) ← operand fuel live word rest
          let (pattern, rest, before) ← operand fuel live before rest
          let value ← if live then fit text pattern else .ok []
          pure (value, rest, before)
      | "index" => do
          let (text, rest, before) ← operand fuel live word rest
          let (letters, rest, before) ← operand fuel live before rest
          let place := (text.findIdx? fun char => letters.contains char).map (· + 1)
          pure (Text.ofNat (place.getD 0), rest, before)
      | "substr" => do
          let (text, rest, before) ← operand fuel live word rest
          let (start, rest, before) ← operand fuel live before rest
          let (length, rest, before) ← operand fuel live before rest
          let value := match integer? start, integer? length with
            | some start, some length =>
                if start ≤ 0 ∨ length ≤ 0 then []
                else (text.drop (start.toNat - 1)).take length.toNat
            | _, _ => []
          pure (value, rest, before)
      | _ => .ok (word, rest, word)

end

def evaluate (words : List Text) : Except ExprFault Text := do
  if words = [] then throw .noOperand
  let (value, rest, _) ← level (100 + 20 * words.length) 0 true [] words
  match rest with
  | [] => pure value
  | word :: _ => throw (.unexpected word)

end Expr

def expr : Tool := fun state arguments =>
  match Expr.evaluate (if arguments.head? = some ['-', '-'] then arguments.tail else arguments) with
  | .ok value => done (state.write 1 (value ++ ['\n'])) (if Expr.isNull value then 1 else 0)
  | .error .noOperand => done (misused state "expr" ExprFault.noOperand.message) 2
  | .error fault => done (complain state "expr" fault.message) 2

/-- The parts of a span of time: seconds with decimals, and a unit. -/
def span? (text : Text) : Option Duration :=
  match Format.real? text with
  | some ⟨false, .finite (value, denominator), rest⟩ =>
      let unit? : Option Nat := match rest with
        | [] | ['s'] => some 1
        | ['m'] => some 60
        | ['h'] => some 3600
        | ['d'] => some 86400
        | _ => none
      if text.head?.any Char.isWhitespace then none
      else unit?.map fun unit => value * 1000000 * unit / denominator
  | _ => none

/-- Whether a span of time has no end. -/
def isEndlessSpan (text : Text) : Bool :=
  match Format.real? text with
  | some ⟨false, .infinite, rest⟩ => rest.length ≤ 1
  | _ => false

def sleep : Tool := reading "sleep" ⟨"", "", [], true⟩ 1 fun state given =>
  let arguments := given.operands
  if arguments = [] then done (misused state "sleep" "missing operand".toList) 1
  else
    let bad := arguments.filter fun text => (span? text).isNone && !isEndlessSpan text
    if bad ≠ [] then
      let told := bad.foldl (fun state text =>
        complain state "sleep" ("invalid time interval ".toList ++ quoted text)) state
      done (tryHelp told "sleep") 1
    else if arguments.any isEndlessSpan then (.forever, state)
    else done (state.wait ((arguments.filterMap span?).foldl (· + ·) 0)) 0

/-- The prime factors of a number from a divisor on. -/
def factorsFrom : Nat → Nat → Nat → List Nat
  | 0, number, _ => [number]
  | fuel + 1, number, divisor =>
      if number ≤ 1 then []
      else if number < divisor * divisor then [number]
      else if number % divisor = 0 then divisor :: factorsFrom fuel (number / divisor) divisor
      else factorsFrom fuel number (if divisor = 2 then 3 else divisor + 2)

/-- How many divisors are tried. -/
def divisorSupply : Nat := 5000000

def factor : Tool := reading "factor" ⟨"h", "", [], true⟩ 1 fun state given =>
  let (operands, state) := if given.operands ≠ [] then (given.operands, state)
    else
      let (data, state) := state.readAll 0
      ((Text.ofBytes data).splitBy (fun left right => left.isWhitespace == right.isWhitespace)
        |>.filter fun word => !word.all Char.isWhitespace, state)
  forEach state operands
    (fun state operand =>
      match Text.toNat? (operand.dropWhile (· = '+')) with
      | some number =>
          .ok (state.write 1 (Text.ofNat number ++ [':'] ++
            ((factorsFrom divisorSupply number 2).flatMap fun prime => ' ' :: Text.ofNat prime) ++
            ['\n']))
      | none => .error (quoted operand ++ " is not a valid positive integer".toList))
    "factor"

end Tools

end FolderScript.Shell
