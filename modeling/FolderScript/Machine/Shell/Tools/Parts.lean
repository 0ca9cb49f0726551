/-
Tools that show the first or the last part of files.
-/
import FolderScript.Machine.Shell.Tools.Magnitude

namespace FolderScript.Shell

namespace Tools

/-- The byte that ends a line, which a switch may change. -/
def lineEnd (given : Given) : UInt8 := if given.has 'z' then 0 else newline

/-- Cuts bytes after every end of a line. -/
def chunks (stop : UInt8) (data : Bytes) : List Bytes :=
  data.foldr
    (fun byte lines =>
      match lines with
      | [] => [[byte]]
      | line :: others =>
          if byte = stop then [byte] :: line :: others else (byte :: line) :: others)
    []

/-- The open file that an operand stands for. -/
def descriptorOf? (state : State) (operand : Text) : Option Nat :=
  if operand = ['-'] then some 0
  else
    match state.stat operand with
    | .ok (_, .device (.descriptor number)) => some number
    | _ => none

/-- Shows a part of each of some files, each under its name if asked for; the part of
standard input may be complete before the rest of it has come. -/
def showParts (tool : String) (state : State) (given : Given)
    (select : Bytes → Bytes) (isComplete : Bytes → Bool) : Bool × State :=
  let operands := if given.operands = [] then [['-']] else given.operands
  let titled := given.last? ['q', 'v'] = some 'v' ||
    (operands.length > 1 && given.last? ['q', 'v'] ≠ some 'q')
  let (state, _, failed) := operands.foldl
    (fun (state, isFirst, failed) operand =>
      let name := if operand = ['-'] then "standard input".toList else operand
      let title := if titled then
          (if isFirst then [] else ['\n']) ++ "==> ".toList ++ name ++ " <==\n".toList
        else []
      match load state operand with
      | .ok (data, loaded) =>
          let shown := select data
          let loaded := if isComplete shown then
              match descriptorOf? state operand with
              | some number => state.putBack loaded number State.blockSize shown.length
              | none => state
            else loaded
          ((loaded.write 1 title).writeBytes 1 shown, false, failed)
      | .error error =>
          if error = .isDirectory then
            (complain (state.write 1 title) tool ("error reading ".toList ++ named name ++
              ": ".toList ++ reason error), false, true)
          else
            (complain state tool ("cannot open ".toList ++ named name ++
              " for reading: ".toList ++ reason error), isFirst, true))
    (state, true, false)
  (failed, state)

/-- How much is wanted: counted in lines or bytes, and from which end. -/
structure Amount where
  count : Nat := 10
  lines : Bool := true
  /-- Counts from the other end. -/
  turned : Bool := false
  deriving DecidableEq, Repr

/-- A count without the sign that one tool takes for a turn. -/
def unsignedCount (text : Text) : Text := if text.head? = some '-' then text.tail else text

/-- The complaint about the count of `head` or `tail`. -/
def countRefusal? (letter : Char) (value : Text) : Option Refusal :=
  let check (what : String) : Option Refusal :=
    Magnitude.refusal? what Magnitude.usualLetters 0 (Magnitude.limit - 1) (unsignedCount value)
  match letter with
  | 'n' => check "invalid number of lines"
  | 'c' => check "invalid number of bytes"
  | _ => none

/-- The long names of the switches of `head` and `tail`. -/
def partNames : List (String × Char) :=
  [("lines", 'n'), ("bytes", 'c'), ("quiet", 'q'), ("silent", 'q'), ("verbose", 'v'),
    ("zero-terminated", 'z')]

/-- An old way to give a count as the first argument, as in `-3`, written with switches;
or the letter in it that makes no sense. -/
def headArguments : List Text → Except Char (List Text)
  | ('-' :: digit :: rest) :: others =>
      if !digit.isDigit then .ok (('-' :: digit :: rest) :: others)
      else
        let digits := digit :: rest.takeWhile Char.isDigit
        let letters := rest.dropWhile Char.isDigit
        match letters.find? fun letter => !"cbkmlqvz".toList.contains letter with
        | some letter => .error letter
        | none =>
            let unit := (letters.reverse.find? "cbkm".toList.contains).getD 'c'
            let inLines := (letters.reverse.find? "cbkml".toList.contains).all (· == 'l')
            let count := digits ++ (if unit = 'c' then [] else [unit])
            let switches := (letters.filter "qvz".toList.contains).map fun letter => ['-', letter]
            .ok (['-', if inLines then 'n' else 'c'] :: count :: switches ++ others)
  | arguments => .ok arguments

def head : Tool := fun state arguments =>
  let invalidTrailing (letter : Char) : Flow × State :=
    done (misused state "head" ("invalid trailing option -- ".toList ++ [letter])) 1
  match headArguments arguments with
  | .error letter => invalidTrailing letter
  | .ok arguments =>
      readingWith "head" ⟨"qvz0123456789", "nc", partNames, true⟩ 1
        (fun letter value =>
          if letter.isDigit then
            some ⟨"invalid trailing option -- ".toList ++ [letter], true⟩
          else countRefusal? letter value)
        (fun state given =>
          let amount : Amount := match given.last? ['n', 'c'] with
            | none => {}
            | some letter =>
                let value := (given.value? letter).getD []
                { count := Magnitude.getD Magnitude.usualLetters (some (unsignedCount value)) 10
                  lines := letter = 'n'
                  turned := value.head? = some '-' }
          let stop := lineEnd given
          let keep {α : Type} (items : List α) : List α :=
            if amount.turned then items.take (items.length - amount.count)
            else items.take amount.count
          let size (data : Bytes) : Nat := if amount.lines then data.count stop else data.length
          let (failed, state) := showParts "head" state given
            (fun data => if amount.lines then (keep (chunks stop data)).flatten else keep data)
            (fun shown => !amount.turned && size shown = amount.count)
          done state (if failed then 1 else 0))
        state arguments

/-- An old way to give a count as the first argument of `tail`, written with switches. -/
def tailArguments (arguments : List Text) : List Text :=
  let isAlone := match arguments with
    | [_] => true
    | [_, second] => second.head? ≠ some '-' || second.length ≤ 2 &&
        (second = ['-'] || second = ['-', '-'])
    | [_, second, _] => second = ['-', '-']
    | _ => false
  match arguments with
  | (sign :: rest) :: others =>
      let digits := rest.takeWhile Char.isDigit
      let (unit, ending) : Option Char × Text := match rest.dropWhile Char.isDigit with
        | 'b' :: ending => (some 'b', ending)
        | 'c' :: ending => (some 'c', ending)
        | 'l' :: ending => (some 'l', ending)
        | ending => (none, ending)
      let follows := ending = ['f']
      let isOld := isAlone && (sign = '+' || sign = '-') && (ending = [] || follows) &&
        !(sign = '-' && (rest = [] || rest = ['c']))
      if !isOld then arguments
      else
        let count := (if digits = [] then "10".toList else digits) ++
          (if unit = some 'b' then ['b'] else [])
        ['-', if unit = some 'b' || unit = some 'c' then 'c' else 'n'] ::
          (if sign = '+' then '+' :: count else count) ::
          (if follows then [['-', 'f']] else []) ++ others
  | _ => arguments

/-- Whether standard input is something that only one end can be read from. -/
def isPipe (state : State) : Bool :=
  match state.channel? 0 with
  | some (.buffer number) => !(state.bufferOf number).seekable
  | _ => false

def tail : Tool := fun state arguments =>
  readingWith "tail" ⟨"fFqvz0123456789\x01\x03", "ncs\x02\x03", partNames ++ [("follow", '\x03'),
      ("retry", '\x01'), ("pid", '\x02'), ("sleep-interval", 's')], true⟩ 1
    (fun letter value =>
      if letter.isDigit then
        some { message := "option used in invalid context -- ".toList ++ [letter] }
      else countRefusal? letter value)
    (fun state given =>
      let amount : Amount := match given.last? ['n', 'c'] with
        | none => {}
        | some letter =>
            { count := Magnitude.getD Magnitude.usualLetters
                ((given.value? letter).map unsignedCount) 10
              lines := letter = 'n'
              turned := (given.values 'n' ++ given.values 'c').any fun value =>
                value.head? = some '+' }
      let stop := lineEnd given
      let keep {α : Type} (items : List α) : List α :=
        if amount.turned then items.drop (amount.count - 1)
        else items.drop (items.length - amount.count)
      let (failed, state) := showParts "tail" state given
        (fun data => if amount.lines then (keep (chunks stop data)).flatten else keep data)
        (fun _ => false)
      let followed := (if given.operands = [] then [['-']] else given.operands).filter
        fun operand => if operand = ['-'] then !isPipe state
          else given.has 'F' || match state.stat operand with
            | .ok (_, .directory) | .error _ => false
            | .ok _ => true
      if !(given.has 'f' || given.has 'F' || given.has '\x03') then
        done state (if failed then 1 else 0)
      else if followed ≠ [] then (.forever, state)
      else if failed then done (complain state "tail" "no files remaining".toList) 1
      else done state 0)
    state (tailArguments arguments)

end Tools

end FolderScript.Shell
