/-
The functions of a list script that only look at their values.
-/
import FolderScript.Machine.Perl.Machine
import FolderScript.Machine.Perl.Printed
import FolderScript.Machine.Shell.Calendar

namespace FolderScript.Perl

open Shell (Text State)

namespace Functions

def compareTexts (left right : Text) : Ordering := Awk.Value.compareTexts left right

def ofOrdering : Ordering → Value
  | .lt => .ofInt (-1)
  | .eq => .ofInt 0
  | .gt => .ofInt 1

/-- A text so many times. -/
def repeated (text : Text) (count : Int) : Text := (List.replicate count.toNat text).flatten

/-- An operation on the bits of two numbers, or on the characters of two texts. -/
def bitwise (operation : Nat → Nat → Nat) (isJoint : Bool) (left right : Value) : Value :=
  match left, right with
  | .text first, .text second =>
      let size := if isJoint then min first.length second.length else max first.length second.length
      .text ((List.range size).map fun index =>
        Char.ofNat (operation ((first[index]?.map Char.toNat).getD 0)
          ((second[index]?.map Char.toNat).getD 0)))
  | _, _ => .ofNat (operation left.toNumber.bits right.toNumber.bits)

/-- The relation of numbers that a sign stands for. -/
def numeric? (sign : String) : Option (Ordering → Bool) :=
  match sign with
  | "==" => some (· == .eq)
  | "<" => some (· == .lt)
  | ">" => some (· == .gt)
  | "<=" => some (· != .gt)
  | ">=" => some (· != .lt)
  | _ => none

/-- The relation of texts that a word stands for. -/
def textual? (sign : String) : Option (Ordering → Bool) :=
  match sign with
  | "eq" => some (· == .eq)
  | "ne" => some (· != .eq)
  | "lt" => some (· == .lt)
  | "gt" => some (· == .gt)
  | "le" => some (· != .gt)
  | "ge" => some (· != .lt)
  | _ => none

/-- What a sign between two values gives. -/
def binary (sign : String) (left right : Value) : Act Value := do
  let first := left.toNumber
  let second := right.toNumber
  match sign with
  | "+" => return .number (first.add second)
  | "-" => return .number (first.subtract second)
  | "*" => return .number (first.multiply second)
  | "/" =>
      match first.divide? second with
      | some result => return .number result
      | none => failWith "Illegal division by zero"
  | "%" =>
      match first.remainder? second with
      | some result => return .number result
      | none => failWith "Illegal modulus zero"
  | "**" => return .number (first.power second)
  | "." => return .text ((← textOf left) ++ (← textOf right))
  | "x" => return .text (repeated (← textOf left) second.toInt)
  | "<<" => return .ofNat (first.bits * Nat.pow 2 (second.bits % 64) % 0x10000000000000000)
  | ">>" => return .ofNat (first.bits / Nat.pow 2 (second.bits % 64))
  | "&" => return bitwise Nat.land true left right
  | "|" => return bitwise Nat.lor false left right
  | "^" => return bitwise Nat.xor false left right
  | "!=" => return .ofBool (first.compare? second != some .eq)
  | "<=>" => return ((first.compare? second).map ofOrdering).getD .undefined
  | "cmp" => return ofOrdering (compareTexts (← textOf left) (← textOf right))
  | _ =>
      match numeric? sign, textual? sign with
      | some relation, _ => return .ofBool ((first.compare? second).any relation)
      | none, some relation =>
          return .ofBool (relation (compareTexts (← textOf left) (← textOf right)))
      | none, none => return .undefined

def unary (sign : String) (value : Value) : Act Value := do
  match sign, value with
  | "!", value => return .ofBool !value.holds
  | "~", value => return .ofNat (0xffffffffffffffff - value.toNumber.bits)
  | _, .text text =>
      match text with
      | [] => return .ofInt 0
      | '-' :: rest =>
          if rest.head?.any Scan.startsName then return .text ('+' :: rest)
          else return .number value.toNumber.negate
      | '+' :: rest =>
          if rest.head?.any Scan.startsName then return .text ('-' :: rest)
          else return .number value.toNumber.negate
      | char :: _ =>
          if Scan.startsName char then return .text ('-' :: text)
          else return .number value.toNumber.negate
  | _, value => return .number value.toNumber.negate

def stepped (isUp : Bool) (value : Value) : Value :=
  match isUp, value with
  | true, .text text =>
      match nextText? text with
      | some next => if Number.isSpelledBy text then .number (value.toNumber.add (.whole 1)) else .text next
      | none => .number (value.toNumber.add (.whole 1))
  | true, value => .number (value.toNumber.add (.whole 1))
  | false, value => .number (value.toNumber.subtract (.whole 1))

def range (first last : Value) : List Value :=
  let byText : Bool := match first with
    | .text text => text ≠ [] && !Number.isSpelledBy text
    | _ => false
  if byText then
    let start := first.toText
    let stop := last.toText
    let rec texts : Nat → Text → List Value
      | 0, _ => []
      | fuel + 1, text =>
          if stop.length < text.length then []
          else if text = stop then [.text text]
          else
            match nextText? text with
            | some next => .text text :: texts fuel next
            | none => [.text text]
    texts 100000 start
  else
    let low := first.toInt
    let high := last.toInt
    (List.range (high + 1 - low).toNat).map fun step => .ofInt (low + Int.ofNat step)

/-- The first place of a text in another from a place on. -/
def indexFrom (wanted : Text) : Nat → Text → Option Nat
  | place, text =>
      if wanted.isPrefixOf text then some place
      else
        match text with
        | [] => none
        | _ :: rest => indexFrom wanted (place + 1) rest

/-- The first place of a text in another. -/
def index (text wanted : Text) (start : Int) : Int :=
  let start := min start.toNat text.length
  match indexFrom wanted start (text.drop start) with
  | some place => place
  | none => -1

/-- The last place of a text in another, up to a place. -/
def lastIndex (text wanted : Text) (most : Int) : Int :=
  if most < 0 then (if wanted = [] then 0 else -1)
  else
    let found := (List.range (min most.toNat text.length + 1)).reverse.find? fun place =>
      wanted.isPrefixOf (text.drop place)
    match found with
    | some place => place
    | none => -1

/-- Where a part of a text starts and ends, counted from its end if the number is less than
zero; nothing is told of a part that lies outside. -/
def part? (size : Nat) (start : Int) (length : Option Int) : Option (Nat × Nat) :=
  let first := if start < 0 then Int.ofNat size + start else start
  let last := match length with
    | none => Int.ofNat size
    | some length => if length < 0 then Int.ofNat size + length else first + length
  if first < 0 ∧ last < 0 ∨ Int.ofNat size < first then none
  else
    let low := (max first 0).toNat
    let high := min (max last 0).toNat size
    some (low, max low high)

/-- A text with a backslash before every character that may mean something. -/
def guarded (text : Text) : Text :=
  text.flatMap fun char => if Scan.continuesName char then [char] else ['\\', char]

/-- A number by the digits of a base that its front tells. -/
def ofOctal (text : Text) : Value :=
  let text := (text.dropWhile Scan.isBlank)
  match text with
  | '0' :: 'x' :: rest | '0' :: 'X' :: rest | 'x' :: rest =>
      .ofNat (Scan.inBase 16 (rest.takeWhile fun char => Scan.digit char < 16 || char == '_'))
  | '0' :: 'b' :: rest | '0' :: 'B' :: rest | 'b' :: rest =>
      .ofNat (Scan.inBase 2 (rest.takeWhile fun char => Scan.digit char < 2 || char == '_'))
  | _ => .ofNat (Scan.inBase 8 (text.takeWhile fun char => Scan.digit char < 8 || char == '_'))

def date (want : Want) (seconds : Int) : List Value :=
  let civil := Shell.Civil.ofSeconds seconds
  if want == .several then
    [.ofNat civil.second, .ofNat civil.minute, .ofNat civil.hour, .ofNat civil.day,
      .ofNat (civil.month - 1), .ofInt (civil.year - 1900), .ofNat civil.weekday,
      .ofNat civil.yearDay, .ofInt 0]
  else [.text (Shell.Calendar.text .zero (seconds * 1000000) "%a %b %e %H:%M:%S %Y".toList)]

def dateText (format : Text) (parts : List Int) : Text :=
  let at' (index : Nat) : Int := parts.getD index 0
  let civil : Shell.Civil :=
    { year := at' 5 + 1900, month := (at' 4 + 1).toNat, day := (at' 3).toNat }
  let seconds := civil.toSeconds + at' 2 * 3600 + at' 1 * 60 + at' 0
  Shell.Calendar.text .zero (seconds * 1000000) format

/-- The next number that nobody can tell in advance. -/
def random : Act Float := do
  let machine ← get
  let a := machine.random ^^^ (machine.random <<< 13)
  let b := a ^^^ (a >>> 7)
  let c := b ^^^ (b <<< 17)
  set { machine with random := c }
  return Float.ofNat (c >>> 11).toNat / 9007199254740992.0

/-- A number that is not whole as a value. -/
def real (value : Float) : Value :=
  match Awk.Number.integer? value with
  | some whole => .ofInt whole
  | none => .number (.real value)

/-- The functions whose arguments are asked for one by one. -/
def single : List String :=
  ["index", "rindex", "atan2", "rename", "mkdir", "link", "symlink", "binmode", "bless", "floor",
    "ceil", "fmod", "pow", "select", "utime"]

/-- The functions that look at the variable at hand if they are given nothing. -/
def defaulted : List String :=
  ["lc", "uc", "lcfirst", "ucfirst", "fc", "length", "chr", "ord", "int", "abs", "sqrt", "sin",
    "cos", "exp", "log", "hex", "oct", "quotemeta", "rmdir", "readlink", "stat", "lstat", "ref",
    "unlink", "evaltext", "mkdir"]

/-- The largest or the smallest of numbers. -/
def extreme (isWanted : Ordering → Bool) : List Value → Value
  | [] => .undefined
  | first :: rest => rest.foldl (fun best value =>
      if (value.toNumber.compare? best.toNumber).any isWanted then value else best) first

/-- What a function makes of its values, if it only looks at them. -/
def outcome? (name : String) (want : Want) (values : List Value) : Act (Option (List Value)) := do
  let first := values.headD .undefined
  let second := values.getD 1 .undefined
  let one (value : Value) : Act (Option (List Value)) := return some [value]
  let number (how : Float → Float) : Act (Option (List Value)) :=
    one (real (how first.toNumber.toFloat))
  let text (how : Text → Text) : Act (Option (List Value)) := do
    one (.text (how (← textOf first)))
  match name with
  | "lc" | "fc" => text fun text => text.map Char.toLower
  | "uc" => text fun text => text.map Char.toUpper
  | "lcfirst" => text fun text => (text.take 1).map Char.toLower ++ text.drop 1
  | "ucfirst" => text fun text => (text.take 1).map Char.toUpper ++ text.drop 1
  | "quotemeta" => text guarded
  | "length" =>
      if first.isDefined then one (.ofNat (← textOf first).length) else one .undefined
  | "chr" => one (.text [Char.ofNat first.toNat])
  | "ord" => one (.ofNat (((← textOf first).head?.map Char.toNat).getD 0))
  | "int" =>
      match first.toNumber with
      | .whole value => one (.ofInt value)
      | .real value =>
          if value.isNaN || value.isInf then one first
          else one (.number (Number.ofInt (first.toNumber.toInt)))
  | "abs" =>
      match first.toNumber with
      | .whole value => one (.ofNat value.natAbs)
      | .real value => one (.number (.real value.abs))
  | "sqrt" =>
      if first.toNumber.toFloat < 0 then
        fail ("Can't take sqrt of ".toList ++ (← textOf first))
      else number Float.sqrt
  | "log" =>
      if first.toNumber.toFloat ≤ 0 then
        fail ("Can't take log of ".toList ++ (← textOf first))
      else number Float.log
  | "sin" => number Float.sin
  | "cos" => number Float.cos
  | "exp" => number Float.exp
  | "floor" | "POSIX::floor" => number Float.floor
  | "ceil" | "POSIX::ceil" => number Float.ceil
  | "fmod" | "POSIX::fmod" =>
      one (real (Awk.Number.remainder first.toNumber.toFloat second.toNumber.toFloat))
  | "pow" | "POSIX::pow" => one (.number (first.toNumber.power second.toNumber))
  | "atan2" => one (real (Float.atan2 first.toNumber.toFloat second.toNumber.toFloat))
  | "hex" =>
      let text ← textOf first
      let digits := if "0x".toList.isPrefixOf text || "0X".toList.isPrefixOf text then text.drop 2
        else text
      one (.ofNat (Scan.inBase 16 (digits.takeWhile fun char => Scan.digit char < 16 || char == '_')))
  | "oct" => one (ofOctal (← textOf first))
  | "rand" =>
      let most := first.toNumber.toFloat
      one (.number (.real ((← random) * (if most == 0 then 1 else most))))
  | "srand" => one (.ofInt 1)
  | "index" =>
      one (.ofInt (index (← textOf first) (← textOf second) ((values[2]?.map Value.toInt).getD 0)))
  | "rindex" =>
      let text ← textOf first
      one (.ofInt (lastIndex text (← textOf second)
        ((values[2]?.map Value.toInt).getD (Int.ofNat text.length))))
  | "join" =>
      let texts ← mapAll textOf values.tail
      one (.text (Shell.Text.join (← textOf first) texts))
  | "reverse" =>
      if want == .several then return some values.reverse
      else
        let atHand := (← get).sharedValue "_"
        let texts ← mapAll textOf (if values.isEmpty then [atHand] else values)
        one (.text texts.flatten.reverse)
  | "sprintf" =>
      let format ← textOf first
      let items ← mapAll (fun value => return (⟨value, ← textOf value⟩ : Printed.Item)) values.tail
      one (.text (Printed.format items (format.length + 1) format items))
  | "pack" =>
      let letters ← textOf first
      let items ← mapAll (fun value => return (⟨value, ← textOf value⟩ : Printed.Item)) values.tail
      one (.text (Packed.pack (Packed.letters (letters.length + 1) letters) items))
  | "unpack" =>
      let letters ← textOf first
      let found := Packed.unpack (letters.length + 1) (Packed.letters (letters.length + 1) letters)
        (← textOf second)
      return some (if want == .several then found else found.take 1)
  | "time" => one (.ofInt (State.momentOf (← get).state.clock / 1000000))
  | "Time::HiRes::time" =>
      one (.number (.real (Float.ofInt (State.momentOf (← get).state.clock) / 1000000.0)))
  | "times" => return some [.ofInt 0, .ofInt 0, .ofInt 0, .ofInt 0]
  | "localtime" | "gmtime" =>
      let now := State.momentOf (← get).state.clock / 1000000
      let seconds := (values.head?.map Value.toInt).getD now
      return some (date want seconds)
  | "strftime" | "POSIX::strftime" =>
      one (.text (dateText (← textOf first) (values.tail.map Value.toInt)))
  | "getppid" => one (.ofNat (← get).state.parent)
  | "max" | "List::Util::max" => one (extreme (· == .gt) values)
  | "min" | "List::Util::min" => one (extreme (· == .lt) values)
  | "sum" | "List::Util::sum" | "sum0" | "List::Util::sum0" =>
      if values.isEmpty then one (if name.endsWith "0" then .ofInt 0 else .undefined)
      else one (.number (values.foldl (fun total value => total.add value.toNumber) (.whole 0)))
  | "uniq" | "List::Util::uniq" =>
      let texts ← mapAll textOf values
      let found := (values.zip texts).foldl
        (fun (done : List (Value × Text)) entry =>
          if done.any fun other => other.2 = entry.2 then done else done ++ [entry]) []
      return some (if want == .several then found.map Prod.fst else [.ofNat found.length])
  | "looks_like_number" | "Scalar::Util::looks_like_number" =>
      match first with
      | .number _ | .coded .. => one (.ofBool true)
      | .text text => one (.ofBool (Number.isSpelledBy text))
      | _ => one (.ofBool false)
  | "basename" | "File::Basename::basename" =>
      let bare := ((← textOf first).reverse.dropWhile (· == '/')).reverse
      one (.text (bare.reverse.takeWhile (· ≠ '/')).reverse)
  | "dirname" | "File::Basename::dirname" =>
      let bare := ((← textOf first).reverse.dropWhile (· == '/')).reverse
      let front := ((bare.reverse.dropWhile (· ≠ '/')).dropWhile (· == '/')).reverse
      one (.text (if front = [] then (if bare.head? == some '/' then ['/'] else ['.']) else front))
  | "getcwd" | "cwd" | "Cwd::getcwd" | "Cwd::cwd" | "POSIX::getcwd" =>
      one (.text (Shell.Tools.currentPath (← get).state))
  | _ => return none

end Functions

end FolderScript.Perl
