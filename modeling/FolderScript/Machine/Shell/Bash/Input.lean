/-
Commands of the large shell language that read: lines into variables, and options from
arguments.
-/
import FolderScript.Machine.Shell.Bash.Declare

namespace FolderScript.Shell

namespace Bash

open Builtins (Builtin next)

/-- How a line is read. -/
structure LineManner where
  isRaw : Bool := false
  /-- The byte that ends it. -/
  ending : UInt8 := 10
  /-- How many characters are read at most, and whether the end of the line counts. -/
  most : Option Nat := none
  isExact : Bool := false

/-- The characters of a line, whether each was quoted, whether the line was complete, and
how many bytes it took.  Zero bytes are left out. -/
def readLine (manner : LineManner) : Nat → Nat → List Glyph → Bytes → List Glyph × Bool × Nat
  | count, size, found, bytes =>
      if manner.most.any (· ≤ size) then (found.reverse, true, count)
      else
        match bytes with
        | [] => (found.reverse, false, count)
        | 92 :: rest =>
            if manner.isRaw then readLine manner (count + 1) (size + 1) (('\\', false) :: found) rest
            else
              match rest with
              | [] => (found.reverse, false, count + 1)
              | 10 :: rest => readLine manner (count + 2) size found rest
              | byte :: rest =>
                  readLine manner (count + 2) (size + 1)
                    ((Char.ofNat byte.toNat, true) :: found) rest
        | byte :: rest =>
            if byte = manner.ending && !manner.isExact then (found.reverse, true, count + 1)
            else if byte = 0 then readLine manner (count + 1) size found rest
            else readLine manner (count + 1) (size + 1)
              ((Char.ofNat byte.toNat, false) :: found) rest

def allParts (separators : Text) : Nat → List Glyph → List Text
  | 0, _ => []
  | fuel + 1, line =>
      match line with
      | [] => []
      | _ =>
          let (part, rest) := Builtins.firstPart separators line
          part.map Prod.fst :: allParts separators fuel rest

/-- A number of seconds as a duration. -/
def duration? (text : Text) : Option Duration :=
  let whole := text.takeWhile Char.isDigit
  match text.drop whole.length with
  | [] => (Text.toNat? whole).map (· * 1000000)
  | '.' :: digits =>
      if digits.all Char.isDigit && (whole ≠ [] || digits ≠ []) then
        let padded := (digits ++ List.replicate 6 '0').take 6
        some ((Text.toNat? whole).getD 0 * 1000000 + (Text.toNat? padded).getD 0)
      else none
  | _ => none

/-- Gives names values in turn, up to the first that makes no sense. -/
def fillAll (command : String) (status : Nat) : List (Text × Text) → State → Flow × State
  | [], state => next state status
  | (name, value) :: rest, state =>
      let (base, key) := State.nameAndKey name
      if !isName base then
        fails command state ('\x60' :: name ++ "': not a valid identifier".toList) 1
      else
        let result : Except Text State := do
          match key with
          | some key =>
              let (key, state) ← keyOf base key state
              assign base (some key) false value state
          | none => assign base none false value state
        match result with
        | .ok state => fillAll command status rest state
        | .error message => next (state.complain message) 1

/-- The status of a command for which the time has run out. -/
def timedOut : Nat := 142

def read : Builtin := reading "read" "ers" "adinNptu" fun state found operands =>
  let number (letter : Char) : Except Text (Option Nat) :=
    match valueOf? letter found with
    | none => .ok none
    | some text =>
        match Text.toNat? text with
        | some number => .ok (some number)
        | none => .error (text ++ ": invalid number".toList)
  let prepared : Except Text (LineManner × Nat × Option Duration) := do
    let exact ← number 'N'
    let most ← number 'n'
    let descriptor ← match number 'u' with
      | .ok number => pure (number.getD 0)
      | .error _ => throw ((valueOf? 'u' found).getD [] ++
          ": invalid file descriptor specification".toList)
    let limit ← match valueOf? 't' found with
      | none => pure none
      | some text =>
          match duration? text with
          | some time => pure (some time)
          | none => throw (text ++ ": invalid timeout specification".toList)
    let ending := ((valueOf? 'd' found).map fun text =>
      UInt8.ofNat ((text.head?.map Char.toNat).getD 0)).getD 10
    pure ({ isRaw := given 'r' found, ending := ending
            most := if exact.isSome then exact else most, isExact := exact.isSome },
      descriptor, limit)
  match prepared with
  | .error message => fails "read" state message 1
  | .ok (manner, descriptor, limit) =>
      match state.channel? descriptor with
      | none =>
          fails "read" state (Text.ofNat descriptor ++
            ": invalid file descriptor: Bad file descriptor".toList) 1
      | some .zeros => (.forever, state)
      | some channel =>
          let (line, status, state) : List Glyph × Nat × State := match channel with
            | .buffer buffered =>
                let buffer := state.bufferOf buffered
                let (line, ended, count) := readLine manner 0 0 [] buffer.content
                let moment := if ended then buffer.arrival count else buffer.endsAt
                match limit with
                | some time =>
                    if moment.all fun moment => state.clock + time < moment then
                      ([], timedOut, { state with clock := state.clock + time })
                    else (line, if ended then 0 else 1,
                      (state.setBuffer buffered (buffer.drop count)).waitUntil moment)
                | none => (line, if ended then 0 else 1,
                    (state.setBuffer buffered (buffer.drop count)).waitUntil moment)
            | _ => ([], 1, state)
          let separators := Piece.separators state
          match valueOf? 'a' found with
          | some name =>
              if !isName name then
                fails "read" state ('\x60' :: name ++ "': not a valid identifier".toList) 1
              else
                let bare := line.dropWhile (Builtins.isLineGap separators)
                let parts := allParts separators (line.length + 1) bare
                match assignList name false (parts.map fun part => (none, part)) state with
                | .ok state => next state status
                | .error message => next (state.complain message) 1
          | none =>
              if operands = [] then
                next (state.setVariable "REPLY".toList (line.map Prod.fst)) status
              else if manner.isExact then
                fillAll "read" status ((operands.zip
                  ((line.map Prod.fst) :: List.replicate operands.length []))) state
              else
                let values := Builtins.lineParts separators operands.length line
                fillAll "read" status (operands.zip values) state

/-- Bytes cut after every one of a kind. -/
def piecesOf (ending : UInt8) : Bytes → List Bytes
  | [] => []
  | byte :: rest =>
      if byte = ending then [byte] :: piecesOf ending rest
      else
        match piecesOf ending rest with
        | [] => [[byte]]
        | first :: others => (byte :: first) :: others

def mapfile (command : String) : Builtin :=
  reading command "t" "dnOsuCc" fun state found operands =>
    let number (letter : Char) (usual : Nat) : Nat :=
      ((valueOf? letter found).bind Text.toNat?).getD usual
    let name := operands.headD "MAPFILE".toList
    if !isName name then
      fails command state ('\x60' :: name ++ "': not a valid identifier".toList) 1
    else
      let (data, state) := state.readAll (number 'u' 0)
      let ending := ((valueOf? 'd' found).map fun text =>
        UInt8.ofNat ((text.head?.map Char.toNat).getD 0)).getD 10
      let strips := given 't' found
      let shown (piece : Bytes) : Text :=
        let piece := if strips && piece.getLast? = some ending then piece.dropLast else piece
        (Text.ofBytes piece).filter fun char => char.toNat ≠ 0
      let pieces := (piecesOf ending data).drop (number 's' 0)
      let most := number 'n' 0
      let wanted := (if most = 0 then pieces else pieces.take most).map shown
      let origin := number 'O' 0
      let result := if (valueOf? 'O' found).isSome then
          (wanted.zipIdx).foldlM
            (fun state (value, index) => assign name (some (Text.ofNat (origin + index))) false
              value state) state
        else assignList name false (wanted.map fun value => (none, value)) state
      match result with
      | .ok state => next state 0
      | .error message => next (state.complain message) 1

def getopts : Builtin := fun state arguments =>
  match if arguments.head? = some ['-', '-'] then arguments.tail else arguments with
  | wanted :: name :: given =>
      let source := if given = [] then state.arguments else given
      let found := Builtins.nextOption wanted source state.optionIndex state.letterIndex
      let isQuiet := state.value? "OPTERR".toList = some ['0']
      let told := match found.fault with
        | some fault =>
            if isQuiet then state
            else state.write 2 (state.name ++ ": ".toList ++ (match fault with
              | .unknown letter => "illegal option -- ".toList ++ [letter]
              | .bare letter => "option requires an argument -- ".toList ++ [letter]) ++ ['\n'])
        | none => state
      let optionArgument := "OPTARG".toList
      let kept := match found.argument with
        | some [] =>
            if found.letter ≠ '?' && !(wanted.dropWhile (· ≠ found.letter)).tail.head?.any (· == ':')
            then told.unsetVariable optionArgument
            else told.setVariable optionArgument []
        | some value => told.setVariable optionArgument value
        | none => told.unsetVariable optionArgument
      let shown := if found.offset = 0 then found.index else found.index - 1
      let counted := kept.setVariable State.optionVariable (Text.ofNat shown)
      let counted := { counted with optionIndex := found.index, letterIndex := found.offset }
      fillAll "getopts" (if found.isEnd then 1 else 0) [(name, [found.letter])] counted
  | _ => next (showUsage "getopts" state) 2

end Bash

end FolderScript.Shell
