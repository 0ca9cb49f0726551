/-
Tools that count: the lines and words of files, and lines that repeat.
-/
import FolderScript.Machine.Shell.CharClass
import FolderScript.Machine.Shell.Format
import FolderScript.Machine.Shell.Tools.Parts

namespace FolderScript.Shell

namespace Tools

/-- The number of words in a text: runs between white space in which something shows. -/
def wordCount (text : Text) : Nat :=
  let (count, inside) := text.foldl
    (fun (count, inside) char =>
      if CharClass.space.holds char then (if inside then count + 1 else count, false)
      else (count, inside || CharClass.print.holds char))
    ((0 : Nat), false)
  if inside then count + 1 else count

/-- The width of the widest line; a tab goes on to the next multiple of eight. -/
def widestLine (text : Text) : Nat :=
  let (widest, column) := text.foldl
    (fun (widest, column) char =>
      if char = '\n' || char = '\r' || char = '\x0c' then (max widest column, 0)
      else if char = '\t' then (widest, column + 8 - column % 8)
      else if CharClass.print.holds char then (widest, column + 1)
      else (widest, column))
    ((0 : Nat), (0 : Nat))
  max widest column

/-- The lines, words, characters, bytes and the widest line of a file. -/
def measures (data : Bytes) : List (Char × Nat) :=
  let text := Text.ofBytes data
  [('l', data.count newline), ('w', wordCount text), ('m', data.length), ('c', data.length),
    ('L', widestLine text)]

def isRegular (state : State) (operand : Text) : Bool :=
  if operand = ['-'] then
    match state.channel? 0 with
    | some (.buffer number) => (state.bufferOf number).seekable
    | _ => false
  else
    match state.stat operand with
    | .ok (_, .file _) | .ok (_, .program _) => true
    | _ => false

/-- When `wc` shows the sums. -/
def totals : List String := ["auto", "always", "only", "never"]

def choice? (names : List String) (text : Text) : Option String :=
  match names.find? fun name => name.toList == text with
  | some name => some name
  | none =>
      match names.filter fun name => text.isPrefixOf name.toList with
      | [name] => some name
      | _ => none

/-- The complaint about a value that is none of some names. -/
def choiceRefusal? (option : String) (names : List String) (value : Text) : Option Refusal :=
  if (choice? names value).isSome then none else some (choiceRefusal option names value)

def wc : Tool := readingWith "wc" ⟨"lwcmL", "\x01", [("lines", 'l'), ("words", 'w'), ("bytes", 'c'),
    ("chars", 'm'), ("max-line-length", 'L'), ("total", '\x01')], true⟩ 1
    (fun letter value => if letter = '\x01' then choiceRefusal? "--total" totals value else none)
    fun state given =>
  let operands := if given.operands = [] then [['-']] else given.operands
  let asked := "lwmcL".toList.filter given.has
  let wanted := if asked = [] then ['l', 'w', 'c'] else asked
  let summing := ((given.value? '\x01').bind (choice? totals)).getD "auto"
  let there := operands.filter fun operand =>
    operand = ['-'] || (state.stat operand).toOption.isSome
  let regular := there.filter (isRegular state)
  let sizes := regular.foldl
    (fun total operand =>
      match load state operand with
      | .ok (data, _) => total + data.length
      | .error _ => total)
    0
  let width := if summing = "only" || operands.length = 1 && wanted.length = 1 then 1
    else max (Text.ofNat sizes).length (if regular.length = there.length then 1 else 7)
  let row (counts : List (Char × Nat)) (name : Text) : Text :=
    let numbers := wanted.map fun letter =>
      Format.pad width false ' ' (Text.ofNat ((List.lookup letter counts).getD 0))
    let name := if name.contains '\n' then Quoting.whenNeeded name else name
    Text.join [' '] numbers ++ (if name = [] then [] else ' ' :: name) ++ ['\n']
  let add (left right : List (Char × Nat)) : List (Char × Nat) :=
    left.map fun (letter, count) =>
      let other := (List.lookup letter right).getD 0
      (letter, if letter = 'L' then max count other else count + other)
  let writeRow (state : State) (counts : List (Char × Nat)) (name : Text) : State :=
    if summing = "only" then state else state.write 1 (row counts name)
  let (state, total, failed) := operands.foldl
    (fun (state, total, failed) operand =>
      match load state operand with
      | .ok (data, state) =>
          let counts := measures data
          (writeRow state counts (if given.operands = [] then [] else operand),
            add total counts, failed)
      | .error error =>
          let state := complain state "wc" (nameAndReason operand error)
          (if error = .isDirectory then writeRow state [] operand else state, total, true))
    (state, measures [], false)
  let summed := summing = "always" || summing = "only" ||
    summing = "auto" && operands.length > 1
  let state := if summed then
      state.write 1 (row total (if summing = "only" then [] else "total".toList))
    else state
  done state (if failed then 1 else 0)

def uniqKey (given : Given) (line : Text) : Text :=
  let number (letter : Char) : Nat := Magnitude.getD "" (given.value? letter) 0
  let skipField (text : Text) : Text :=
    let isGap (char : Char) : Bool := char == ' ' || char == '\t'
    (text.dropWhile isGap).dropWhile fun char => !isGap char
  let rest := (List.range (min (number 'f') line.length)).foldl (fun text _ => skipField text) line
  let rest := rest.drop (number 's')
  let rest := if given.has 'w' then rest.take (number 'w') else rest
  if given.has 'i' then rest.map Char.toLower else rest

def runs (key : Text → Text) (lines : List Text) : List (List Text) :=
  ((lines.map fun line => (key line, line)).foldr
    (fun (keyed : Text × Text) (found : List (Text × List Text)) =>
      match found with
      | (other, run) :: others =>
          if other == keyed.1 then (other, keyed.2 :: run) :: others
          else (keyed.1, [keyed.2]) :: found
      | [] => [(keyed.1, [keyed.2])])
    []).map Prod.snd

/-- Old ways to tell `uniq` what to skip, written with switches. -/
def uniqArgument : Text → Text
  | '-' :: digit :: rest => if digit.isDigit then '-' :: 'f' :: digit :: rest else '-' :: digit :: rest
  | argument => argument

/-- The names of the ways to divide groups of lines. -/
def repeatedWays : List String := ["none", "prepend", "separate"]

/-- The names of the ways to divide all groups of lines. -/
def groupWays : List String := ["prepend", "append", "separate", "both"]

def uniqRefusal? (letter : Char) (value : Text) : Option Refusal :=
  let check (what : String) : Option Refusal :=
    match Magnitude.read "" 0 (Magnitude.limit - 1) value with
    | .error .malformed => some { message := value ++ ": ".toList ++ what.toList }
    | _ => none
  match letter with
  | 'f' => check "invalid number of fields to skip"
  | 's' => check "invalid number of bytes to skip"
  | 'w' => check "invalid number of bytes to compare"
  | '\x01' => if value = [] then none else choiceRefusal? "--all-repeated" repeatedWays value
  | '\x02' => if value = [] then none else choiceRefusal? "--group" groupWays value
  | _ => none

/-- The lines that `uniq` shows of a run. -/
def shownOfRun (given : Given) (run : List Text) : List Text :=
  let everyOne := given.has 'D' || given.has '\x01'
  if given.has '\x02' then run
  else if run.length ≤ 1 then (if given.has 'd' || everyOne then [] else run)
  else if everyOne then (if given.has 'u' then run.dropLast else run)
  else if given.has 'u' then []
  else if given.has 'c' then
    [Format.pad 7 false ' ' (Text.ofNat run.length) ++ ' ' :: run.headD []]
  else run.take 1

/-- The lines that `uniq` shows, with empty lines between groups if asked for. -/
def uniqLines (given : Given) (found : List (List Text)) : List Text :=
  let groups := (found.map fun run =>
    if given.has 'c' && run.length ≤ 1 then
      (shownOfRun given run).map fun line => "      1 ".toList ++ line
    else shownOfRun given run).filter (· ≠ [])
  let way := if given.has '\x02' then ((given.value? '\x02').bind (choice? groupWays)).getD "separate"
    else ((given.value? '\x01').bind (choice? repeatedWays)).getD "none"
  match groups, way with
  | [], _ => []
  | groups, "prepend" => groups.flatMap fun group => [] :: group
  | groups, "append" => groups.flatMap fun group => group ++ [[]]
  | groups, "both" => [] :: groups.flatMap fun group => group ++ [[]]
  | first :: groups, "separate" => first ++ groups.flatMap fun group => [] :: group
  | groups, _ => groups.flatten

def uniq : Tool := fun state arguments =>
  readingWith "uniq" ⟨"cdDiuz\x01\x02", "fsw\x01\x02", [("count", 'c'), ("repeated", 'd'),
    ("all-repeated", '\x01'), ("group", '\x02'), ("unique", 'u'), ("ignore-case", 'i'),
    ("skip-fields", 'f'), ("skip-chars", 's'), ("check-chars", 'w'),
    ("zero-terminated", 'z')], true⟩ 1 uniqRefusal? (fun state given =>
    let refused (message : Text) : Flow × State := done (misused state "uniq" message) 1
    match given.operands with
    | _ :: _ :: extra :: _ => refused ("extra operand ".toList ++ quoted extra)
    | operands =>
        if given.has '\x02' && "cdDu\x01".toList.any given.has then
          refused "--group is mutually exclusive with -c/-d/-D/-u".toList
        else if given.has 'c' && (given.has 'D' || given.has '\x01') then
          refused "printing all duplicated lines and repeat counts is meaningless".toList
        else
          let source := operands.headD ['-']
          match load state source with
          | .error error =>
              done (complain state "uniq" (if error = .isDirectory then
                  "error reading ".toList ++ named source ++ ": ".toList ++ reason error
                else nameAndReason source error)) 1
          | .ok (data, state) =>
              let mark : Char := if given.has 'z' then '\x00' else '\n'
              let lines := (chunks (lineEnd given) data).map fun chunk =>
                let text := Text.ofBytes chunk
                if text.getLast? = some mark then text.dropLast else text
              let shown := (uniqLines given (runs (uniqKey given) lines)).flatMap
                fun line => line ++ [mark]
              match operands with
              | [_, target] =>
                  if target = ['-'] then done (state.write 1 shown) 0
                  else
                    match state.openOutput target false false with
                    | .ok (channel, state) =>
                        let before := state.descriptors
                        let written := (state.setChannel 1 (some channel)).write 1 shown
                        done { written with descriptors := before } 0
                    | .error _ =>
                        let error := match state.placeFor target with
                          | .error error => error
                          | .ok _ => IoError.isDirectory
                        done (complain state "uniq" (nameAndReason target error)) 1
              | _ => done (state.write 1 shown) 0)
    state (arguments.map uniqArgument)

end Tools

end FolderScript.Shell
