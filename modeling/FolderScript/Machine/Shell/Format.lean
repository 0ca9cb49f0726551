/-
Formatted output: escapes, and directives that take arguments.
-/
import FolderScript.Decimal.Digits
import FolderScript.Machine.Shell.Script

namespace FolderScript.Shell

namespace Format

open Binary64 (Fraction)

/-- Whether a character is an octal digit. -/
def isOctal (char : Char) : Bool := '0' ≤ char && char ≤ '7'

/-- The value of up to so many octal digits, and what follows them. -/
def octal (most : Nat) (text : Text) : Nat × Text :=
  let digits := (text.take most).takeWhile isOctal
  (Nat.ofDigitChars 8 digits 0 % 256, text.drop digits.length)

def digitValue (char : Char) : Nat :=
  if char.isDigit then char.toNat - '0'.toNat
  else if char.isAlpha then char.toLower.toNat - 'a'.toNat + 10
  else 16

def hexValue (digits : Text) : Nat :=
  digits.foldl (fun total char => total * 16 + digitValue char) 0

/-- The hexadecimal digits at the front. -/
def hexDigits (text : Text) : Text := text.takeWhile fun char => digitValue char < 16

/-- The character of an escape letter. -/
def letter? : Char → Option Char
  | 'a' => some '\x07'
  | 'b' => some '\x08'
  | 'f' => some '\x0c'
  | 'n' => some '\n'
  | 'r' => some '\r'
  | 't' => some '\t'
  | 'v' => some '\x0b'
  | '\\' => some '\\'
  | _ => none

/-- What an escape stands for, and what follows it; `wide` tells that a zero may
stand before three octal digits, and `full` that hexadecimal digits are read. -/
def escape (wide full : Bool) (char : Char) (rest : Text) : Text × Text :=
  if char = '0' ∧ wide then
    let (code, rest) := octal 3 rest
    ([Char.ofNat code], rest)
  else if isOctal char then
    let (code, rest) := octal 3 (char :: rest)
    ([Char.ofNat code], rest)
  else if char = 'e' then (['\x1b'], rest)
  else if char = 'x' ∧ full ∧ (hexDigits rest) ≠ [] then
    let digits := (hexDigits rest).take 2
    ([Char.ofNat (hexValue digits)], rest.drop digits.length)
  else if char = '"' ∧ full then (['"'], rest)
  else
    match letter? char with
    | some found => ([found], rest)
    | none => (['\\', char], rest)

/-- The text with its escapes read, and whether it ends the output; goes so many
characters far. -/
def unescapeFrom (full : Bool) : Nat → Text → Text × Bool
  | 0, text => (text, false)
  | _ + 1, [] => ([], false)
  | fuel + 1, '\\' :: char :: rest =>
      if char = 'c' then ([], true)
      else
        let (chars, rest) := escape true full char rest
        let (more, stops) := unescapeFrom full fuel rest
        (chars ++ more, stops)
  | fuel + 1, char :: rest =>
      let (more, stops) := unescapeFrom full fuel rest
      (char :: more, stops)

/-- The text with its escapes read, and whether it ends the output. -/
def unescape (full : Bool) (text : Text) : Text × Bool :=
  if text.contains '\\' then unescapeFrom full (text.length + 1) text else (text, false)

/-- How many characters at the front of a number stay in front of zeros that fill
it up. -/
def signLength (text : Text) : Nat :=
  match text with
  | '-' :: _ | '+' :: _ | ' ' :: _ => 1
  | '0' :: 'x' :: _ | '0' :: 'X' :: _ => 2
  | _ => 0

/-- A text at least so wide. -/
def pad (width : Nat) (left : Bool) (fill : Char) (text : Text) : Text :=
  if left then text ++ List.replicate (width - text.length) ' '
  else
    let more := List.replicate (width - text.length) fill
    let front := if fill = '0' then signLength text else 0
    text.take front ++ more ++ text.drop front

/-- What is wrong with an argument that should be a number. -/
inductive NumberFault where
  | noNumber
  | notWhole
  | outOfRange
  deriving DecidableEq, Repr

/-- A number read from the front of an argument, and what is wrong with the
argument. -/
structure Numeral where
  value : Int
  fault : Option NumberFault := none
  deriving DecidableEq, Repr

/-- The number that an argument stands for; after a quote, a character's code. -/
def numeral (argument : Text) : Numeral :=
  match argument with
  | [] => ⟨0, none⟩
  | '"' :: rest | '\'' :: rest => ⟨(rest.headD (Char.ofNat 0)).toNat, none⟩
  | _ =>
      let bare := argument.dropWhile Char.isWhitespace
      let (isNegative, unsigned) : Bool × Text := match bare with
        | '-' :: rest => (true, rest)
        | '+' :: rest => (false, rest)
        | _ => (false, bare)
      let (base, body) : Nat × Text := match unsigned with
        | '0' :: 'x' :: rest | '0' :: 'X' :: rest =>
            if hexDigits rest ≠ [] then (16, rest) else (8, unsigned)
        | '0' :: _ => (8, unsigned)
        | _ => (10, unsigned)
      let digits := body.takeWhile fun char => digitValue char < base
      let size := digits.foldl (fun total char => total * base + digitValue char) 0
      let value : Int := if isNegative then -size else size
      if digits = [] then ⟨0, some .noNumber⟩
      else if value < -0x8000000000000000 then ⟨-0x8000000000000000, some .outOfRange⟩
      else if 0x8000000000000000 ≤ value then ⟨0x7FFFFFFFFFFFFFFF, some .outOfRange⟩
      else if digits.length < body.length then ⟨value, some .notWhole⟩
      else ⟨value, none⟩

/-- The size of a number with decimals. -/
inductive Magnitude where
  | finite (value : Fraction)
  | infinite
  | nan
  deriving DecidableEq, Repr

/-- A number with decimals read from the front of a text, and what follows it. -/
structure Real where
  negative : Bool
  size : Magnitude
  rest : Text
  deriving DecidableEq, Repr

def exponentOf (marks : List Char) (text : Text) : Int × Text :=
  match text with
  | mark :: more =>
      if !marks.contains mark then (0, text)
      else
        let (isNegative, body) : Bool × Text := match more with
          | '-' :: rest => (true, rest)
          | '+' :: rest => (false, rest)
          | _ => (false, more)
        let digits := body.takeWhile Char.isDigit
        if digits = [] then (0, text)
        else
          let size : Int := Nat.ofDigitChars 10 digits 0
          (if isNegative then -size else size, body.drop digits.length)
  | [] => (0, [])

/-- How large an exponent is taken as it is written. -/
def largestExponent : Int := 5000

/-- The number with decimals at the front of a text. -/
def real? (text : Text) : Option Real :=
  let bare := text.dropWhile Char.isWhitespace
  let (negative, unsigned) : Bool × Text := match bare with
    | '-' :: rest => (true, rest)
    | '+' :: rest => (false, rest)
    | _ => (false, bare)
  let lower := unsigned.map Char.toLower
  let parts (isDigit : Char → Bool) (body : Text) : Text × Text × Text :=
    let whole := body.takeWhile isDigit
    match body.drop whole.length with
    | '.' :: more =>
        let places := more.takeWhile isDigit
        if whole = [] ∧ places = [] then ([], [], body)
        else (whole, places, more.drop places.length)
    | rest => (whole, [], rest)
  let bounded (exponent : Int) : Int := max (-largestExponent) (min largestExponent exponent)
  if "infinity".toList.isPrefixOf lower then some ⟨negative, .infinite, unsigned.drop 8⟩
  else if "inf".toList.isPrefixOf lower then some ⟨negative, .infinite, unsigned.drop 3⟩
  else if "nan".toList.isPrefixOf lower then some ⟨negative, .nan, unsigned.drop 3⟩
  else
    let isHex (char : Char) : Bool := digitValue char < 16
    let (whole, places, rest) := parts isHex (unsigned.drop 2)
    if "0x".toList.isPrefixOf lower ∧ (whole ≠ [] ∨ places ≠ []) then
      let (power, rest) := exponentOf ['p', 'P'] rest
      let value := hexValue (whole ++ places)
      some ⟨negative, .finite (Binary64.scaled value 2
        (bounded power - 4 * (places.length : Int))), rest⟩
    else
      let (whole, places, rest) := parts Char.isDigit unsigned
      if whole = [] ∧ places = [] then none
      else
        let (power, rest) := exponentOf ['e', 'E'] rest
        let value := Nat.ofDigitChars 10 (whole ++ places) 0
        some ⟨negative, .finite (Binary64.scaled value 10
          (bounded power - (places.length : Int))), rest⟩

/-- The precision of numbers in a directive: that of the shell, or a finer one. -/
def mantissaBits (full : Bool) : Nat := if full then 64 else 53

/-- The largest number below the infinite. -/
def isHuge (full : Bool) (value : Fraction) : Bool :=
  !full && Nat.pow 2 1024 * value.2 ≤ value.1

def realArgument (full : Bool) (argument : Text) : Bool × Magnitude × Option NumberFault :=
  match argument with
  | [] => (false, .finite (0, 1), none)
  | '"' :: rest | '\'' :: rest =>
      (false, .finite ((rest.headD (Char.ofNat 0)).toNat, 1), none)
  | _ =>
      match real? argument with
      | none => (false, .finite (0, 1), some .noNumber)
      | some found =>
          let fault := if found.rest = [] then none else some .notWhole
          match found.size with
          | .finite value =>
              let value := value.rounded (mantissaBits full)
              if isHuge full value then (found.negative, .infinite, some .outOfRange)
              else (found.negative, .finite value, fault)
          | other => (found.negative, other, fault)

/-- A number with decimals in one of the usual forms. -/
def realText (conversion : Char) (precision : Option Nat) (marked : Bool)
    (size : Magnitude) : Text :=
  let isUpper := conversion.isUpper
  let text := match size with
    | .infinite => "inf".toList
    | .nan => "nan".toList
    | .finite value =>
        let places := precision.getD 6
        match conversion.toLower with
        | 'e' => value.scientific places marked 'e'
        | 'g' => value.general places marked 'e'
        | _ => value.fixed places marked
  if isUpper then text.map Char.toUpper else text

def digits (base : Nat) (value : Int) : Text :=
  Nat.toDigits base (if value < 0 then (value % 0x10000000000000000).toNat else value.toNat)

inductive Complaint where
  | argument (text : Text) (fault : NumberFault)
  /-- A directive that is not known, as written. -/
  | directive (text : Text)
  /-- The format ends inside of a directive. -/
  | unfinished (text : Text)
  deriving DecidableEq, Repr

/-- What is written so far, and how it goes on. -/
structure Written where
  text : Text
  /-- The arguments that are not used yet. -/
  left : List Text
  /-- Whether nothing more is written. -/
  stops : Bool := false
  complaints : List Complaint := []
  deriving DecidableEq, Repr

namespace Written

/-- Puts a text in front. -/
def after (text : Text) (rest : Written) : Written := { rest with text := text ++ rest.text }

/-- Puts a complaint in front. -/
def complaining (complaint : Complaint) (rest : Written) : Written :=
  { rest with complaints := complaint :: rest.complaints }

/-- Whether the format itself makes no sense. -/
def isBroken (written : Written) : Bool :=
  written.complaints.any fun complaint =>
    match complaint with
    | .argument .. => false
    | _ => true

end Written

/-- Conversions to numbers with decimals. -/
def realConversions : List Char := "feEgGF".toList

/-- Conversions that take an argument. -/
def conversions : List Char := "scbdiuoxX".toList ++ realConversions

/-- Characters that a shell takes as they are. -/
def isSafe (char : Char) : Bool := char.isAlphanum || "%+,-./:=@_^".toList.contains char

def shellQuoted (text : Text) : Text :=
  if text ≠ [] ∧ text.all isSafe then text
  else if text.contains '\'' ∧ !text.any fun char => "\"\\$!".toList.contains char ∨ char = '\x60' then
    '"' :: text ++ ['"']
  else
    '\'' :: (text.flatMap fun char =>
      match char with
      | '\'' => "'\\''".toList
      | '\n' => "'$'\\n''".toList
      | '\t' => "'$'\\t''".toList
      | other => [other]) ++ ['\'']

/-- How a directive is to be carried out. -/
structure Directive where
  flags : Text
  width : Nat
  precision : Option Nat
  conversion : Char
  deriving DecidableEq, Repr

namespace Directive

def has (directive : Directive) (flag : Char) : Bool := directive.flags.contains flag

def signed (directive : Directive) (isNegative : Bool) (text : Text) : Text :=
  if isNegative then '-' :: text
  else if directive.has '+' then '+' :: text
  else if directive.has ' ' then ' ' :: text
  else text

/-- The digits of a whole number, at least as many as the precision; a zero has
none if the precision is zero. -/
def wholeDigits (directive : Directive) (text : Text) : Text :=
  match directive.precision with
  | none => text
  | some count => if count = 0 ∧ text = ['0'] then []
      else List.replicate (count - text.length) '0' ++ text

/-- What one directive writes for an argument, what is wrong with the argument,
and whether the output ends. -/
def apply (directive : Directive) (full : Bool) (quote : Text → Text) (argument : Text) :
    Text × Option NumberFault × Bool :=
  let marked := directive.has '#'
  let filled (fill : Char) (text : Text) : Text :=
    pad directive.width (directive.has '-') fill text
  let zeros := if directive.has '0' then '0' else ' '
  let wholeFill := if directive.precision.isSome then ' ' else zeros
  let ⟨value, fault⟩ := numeral argument
  let unsigned (base : Nat) (mark : Text) : Text :=
    let text := directive.wholeDigits (digits base value)
    filled wholeFill (if marked ∧ value ≠ 0 then mark ++ text else text)
  match directive.conversion with
  | 's' => (filled ' ' ((directive.precision.map fun count => argument.take count).getD
      argument), none, false)
  | 'c' => (filled ' ' [argument.headD (Char.ofNat 0)], none, false)
  | 'b' =>
      let (text, stops) := unescape full argument
      (filled ' ' ((directive.precision.map fun count => text.take count).getD text), none,
        stops)
  | 'q' => (filled ' ' (quote argument), none, false)
  | 'd' | 'i' =>
      (filled wholeFill (directive.signed (value < 0) (directive.wholeDigits
        (Nat.toDigits 10 value.natAbs))), fault, false)
  | 'u' => (unsigned 10 [], fault, false)
  | 'o' => (unsigned 8 ['0'], fault, false)
  | 'x' => (unsigned 16 ['0', 'x'], fault, false)
  | 'X' => ((unsigned 16 ['0', 'x']).map Char.toUpper, fault, false)
  | conversion =>
      let (isNegative, size, fault) := realArgument full argument
      let isFinite := match size with
        | .finite _ => true
        | _ => false
      (filled (if isFinite then zeros else ' ') (directive.signed isNegative
        (realText conversion directive.precision marked size)), fault, false)

end Directive

def count (text : Text) (arguments : List Text) :
    Option Int × Text × List Text × List Complaint :=
  match text with
  | '*' :: rest =>
      let argument := arguments.headD []
      let found := numeral argument
      (some found.value, rest, arguments.tail,
        (found.fault.map fun fault => .argument argument fault).toList)
  | _ =>
      let digits := text.takeWhile Char.isDigit
      (if digits = [] then none else some (Nat.ofDigitChars 10 digits 0),
        text.drop digits.length, arguments, [])

def pass (full : Bool) (quote : Text → Text) : Nat → Text → List Text → Written
  | 0, _, arguments => ⟨[], arguments, false, []⟩
  | _ + 1, [], arguments => ⟨[], arguments, false, []⟩
  | fuel + 1, '%' :: '%' :: rest, arguments => (pass full quote fuel rest arguments).after ['%']
  | fuel + 1, '%' :: start, arguments =>
      let flags := start.takeWhile fun char => "-+ #0".toList.contains char
      let (width, rest, arguments, complaints) := count (start.drop flags.length) arguments
      let flags := if width.any (· < 0) then '-' :: flags else flags
      let (precision, rest, arguments, more) := match rest with
        | '.' :: rest =>
            let (found, rest, arguments, complaints) := count rest arguments
            (some (found.getD 0), rest, arguments, complaints)
        | _ => (none, rest, arguments, [])
      let rest := if full then rest.dropWhile fun char => "hlLjzt".toList.contains char &&
        rest.length ≠ 1 else rest
      let complaints := complaints ++ more
      match rest with
      | [] => ⟨[], [], true, complaints ++ [.unfinished ('%' :: start)]⟩
      | conversion :: rest =>
          if !conversions.contains conversion ∧ !(full ∧ conversion = 'q') then
            ⟨[], [], true, complaints ++
              [.directive ('%' :: start.take (start.length - rest.length))]⟩
          else
            let directive : Directive :=
              { flags := flags
                width := (width.getD 0).natAbs
                precision := precision.bind fun count =>
                  if count < 0 then none else some count.toNat
                conversion := conversion }
            let argument := arguments.headD []
            let (text, fault, stopped) := directive.apply full quote argument
            let complaints := complaints ++
              (fault.map fun fault => .argument argument fault).toList
            if stopped then ⟨text, [], true, complaints⟩
            else complaints.foldr Written.complaining
              ((pass full quote fuel rest arguments.tail).after text)
  | fuel + 1, '\\' :: char :: rest, arguments =>
      if char = 'c' ∧ full then ⟨[], [], true, []⟩
      else
        let (chars, rest) := escape false full char rest
        (pass full quote fuel rest arguments).after chars
  | fuel + 1, char :: rest, arguments => (pass full quote fuel rest arguments).after [char]

/-- The format, used again as long as it takes arguments and some are left. -/
def formatAll (full : Bool) (quote : Text → Text) : Nat → Text → List Text → Written
  | 0, _, arguments => ⟨[], arguments, false, []⟩
  | fuel + 1, format, arguments =>
      let written := pass full quote (format.length + 1) format arguments
      if written.stops || written.left.isEmpty ||
          written.left.length = arguments.length then written
      else
        let more := formatAll full quote fuel format written.left
        { more with
          text := written.text ++ more.text
          complaints := written.complaints ++ more.complaints }

/-- The formatted text of arguments; `full` is the dialect of the program that
stands apart from the shell, and `quote` is how texts are quoted. -/
def format (full : Bool) (quote : Text → Text) (text : Text) (arguments : List Text) : Written :=
  formatAll full quote (arguments.length + 1) text arguments

/-- Arguments with blanks between them, escapes read, and a line end unless the
first argument or an escape says otherwise. -/
def echoEscaped (arguments : List Text) : Text :=
  let (silent, arguments) := match arguments with
    | ['-', 'n'] :: rest => (true, rest)
    | _ => (false, arguments)
  let joined := Text.join [' '] arguments
  let (text, stops) := unescape false joined
  if silent || stops then text else text ++ ['\n']

/-- Whether an argument holds letters that switch the output of `echo`. -/
def isEchoSwitch (argument : Text) : Bool :=
  match argument with
  | '-' :: letters => letters ≠ [] && letters.all fun char => "neE".toList.contains char
  | _ => false

/-- Arguments with blanks between them; escapes are read only if asked for. -/
def echoPlain (arguments : List Text) : Text :=
  let switches := (arguments.takeWhile isEchoSwitch).flatten
  let joined := Text.join [' '] (arguments.dropWhile isEchoSwitch)
  let escapes := (switches.filter fun char => char == 'e' || char == 'E').getLast? = some 'e'
  let (text, stops) :=
    if escapes then unescape true joined else (joined, false)
  if switches.contains 'n' || stops then text else text ++ ['\n']

end Format

end FolderScript.Shell
