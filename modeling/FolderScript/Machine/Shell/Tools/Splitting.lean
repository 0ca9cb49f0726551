/-
Programs that cut files into pieces, and copy pieces of them.
-/
import FolderScript.Machine.Shell.Digest
import FolderScript.Machine.Shell.Tools.Parts

namespace FolderScript.Shell

namespace Tools

namespace Splitting

/-- How many pieces a file is cut into: by bytes, by whole lines, or by dealing out its
lines. -/
inductive Chunking where
  | bytes
  | lines
  | dealt
  deriving DecidableEq, Repr

/-- How a file is cut. -/
inductive Way where
  | lines (count : Nat)
  | bytes (count : Nat)
  /-- Whole lines, as many as fit. -/
  | fitting (count : Nat)
  /-- Into so many pieces, of which perhaps only one is wanted. -/
  | chunks (kind : Chunking) (count : Nat) (only : Option Nat)
  deriving DecidableEq, Repr

/-- The digits of a number in an alphabet, of a width. -/
def spelled (alphabet : Text) : Nat → Nat → Text
  | 0, _ => []
  | width + 1, value =>
      spelled alphabet width (value / alphabet.length) ++
        [alphabet.getD (value % alphabet.length) 'a']

/-- The endings that grow when they are used up: all of a width but those that start
with the last letter, and then that letter before wider ones. -/
def growing (alphabet : Text) : Nat → Nat → Nat → Text
  | 0, width, index => spelled alphabet width index
  | fuel + 1, width, index =>
      let size := alphabet.length
      let here := (size - 1) * Magnitude.power size (width - 1)
      if index < here then spelled alphabet width index
      else alphabet.getLast?.toList ++ growing alphabet fuel (width + 1) (index - here)

/-- How pieces are named. -/
structure Naming where
  start : Text
  alphabet : Text
  /-- The width of the endings, if it was given. -/
  width? : Option Nat
  first : Nat
  ending : Text
  deriving DecidableEq, Repr

/-- The name of a piece, unless the endings are used up. -/
def Naming.name? (naming : Naming) (index : Nat) : Option Text :=
  let index := index + naming.first
  match naming.width? with
  | some width =>
      if index < Magnitude.power naming.alphabet.length width then
        some (naming.start ++ spelled naming.alphabet width index ++ naming.ending)
      else none
  | none => some (naming.start ++ growing naming.alphabet 8 2 index ++ naming.ending)

def wholeLines (stop : UInt8) (data : Bytes) : List Bytes :=
  data.foldr
    (fun byte lines => match lines with
      | [] => [[byte]]
      | line :: others => if byte = stop then [byte] :: line :: others else (byte :: line) :: others)
    []

/-- Lines put together as long as they fit; a line that never fits is cut. -/
def fitted (most : Nat) : Nat → Bytes → List Bytes → List Bytes
  | 0, _, _ => []
  | _ + 1, held, [] => if held = [] then [] else [held]
  | fuel + 1, held, line :: lines =>
      if held.length + line.length ≤ most then fitted most fuel (held ++ line) lines
      else if held ≠ [] then held :: fitted most fuel [] (line :: lines)
      else line.take most :: fitted most fuel [] (line.drop most :: lines)

/-- Where a chunk of bytes starts, if a number of bytes is cut into so many. -/
def chunkStart (total count index : Nat) : Nat :=
  index * (total / count) + min index (total % count)

def pieces (stop : UInt8) (data : Bytes) : Way → List Bytes
  | .lines count =>
      (Digest.groups count (data.length + 1) (wholeLines stop data)).map List.flatten
  | .bytes count => Digest.groups count (data.length + 1) data
  | .fitting count => fitted count (2 * data.length + 2) [] (wholeLines stop data)
  | .chunks .bytes count _ =>
      (List.range count).map fun index =>
        let start := chunkStart data.length count index
        (data.drop start).take (chunkStart data.length count (index + 1) - start)
  | .chunks .lines count _ =>
      let lines := wholeLines stop data
      let starts := lines.foldl (fun (starts, at_) line => (starts ++ [at_], at_ + line.length)) ([], 0)
      (List.range count).map fun index =>
        let start := chunkStart data.length count index
        let finish := chunkStart data.length count (index + 1)
        ((lines.zip starts.1).filter fun item => start ≤ item.2 && item.2 < finish).flatMap Prod.fst
  | .chunks .dealt count _ =>
      let lines := (wholeLines stop data).zipIdx
      (List.range count).map fun index =>
        (lines.filter fun item => item.2 % count = index).flatMap Prod.fst

/-- Into how many pieces a text asks to cut. -/
def chunking (text : Text) : Except Text Way :=
  let (kind, rest) : Chunking × Text := match text with
    | 'l' :: '/' :: rest => (.lines, rest)
    | 'r' :: '/' :: rest => (.dealt, rest)
    | rest => (.bytes, rest)
  let number? (text : Text) : Option Nat :=
    if text.all Char.isDigit then (Text.toNat? text).filter (0 < ·) else none
  match rest.splitOn '/' with
  | [count] =>
      match number? count with
      | some count => .ok (.chunks kind count none)
      | none => .error ("invalid number of chunks: ".toList ++ quoted count)
  | [one, count] =>
      match number? count, number? one with
      | none, _ => .error ("invalid number of chunks: ".toList ++ quoted count)
      | _, none => .error ("invalid chunk number: ".toList ++ quoted one)
      | some count, some index =>
          if count < index then .error ("invalid chunk number: ".toList ++ quoted one)
          else .ok (.chunks kind count (some index))
  | _ => .error ("invalid number of chunks: ".toList ++ quoted rest)

/-- The way that a switch asks for. -/
def wayOf (letter : Char) (value : Text) : Except Text Way :=
  let number (words : String) : Except Text Nat :=
    match Magnitude.read Magnitude.usualLetters 1 (Magnitude.limit - 1) value with
    | .ok number => .ok number
    | .error .tooLarge => .ok (Magnitude.limit - 1)
    | .error _ => .error (words.toList ++ ": ".toList ++ quoted value)
  match letter with
  | 'l' => (number "invalid number of lines").map .lines
  | 'b' => (number "invalid number of bytes").map .bytes
  | 'C' => (number "invalid number of lines").map .fitting
  | _ => chunking value

/-- An old way to give the number of lines, as in `-3`, written with a switch. -/
def arguments (arguments : List Text) : List Text :=
  arguments.flatMap fun argument => match argument with
    | '-' :: digit :: rest =>
        if digit.isDigit && rest.all Char.isDigit then [['-', 'l'], digit :: rest] else [argument]
    | _ => [argument]

/-- Writes the pieces, each to a file of its own. -/
def writeAll (given : Given) (naming : Naming) : State → List (Bytes × Nat) → Flow × State
  | state, [] => done state 0
  | state, (piece, index) :: rest =>
      match naming.name? index with
      | none => done (complain state "split" "output file suffixes exhausted".toList) 1
      | some name =>
          let state := if given.has 'η' then
              state.write 1 ("creating file ".toList ++ named name ++ ['\n'])
            else state
          match store state name piece with
          | .ok state => writeAll given naming state rest
          | .error error => done (complain state "split" (nameAndReason name error)) 1

end Splitting

open Splitting in
def split : Tool := fun state given =>
  readingWith "split" ⟨"dexuηδξ", "abClntσδξ", [("suffix-length", 'a'), ("bytes", 'b'),
    ("line-bytes", 'C'), ("lines", 'l'), ("number", 'n'), ("separator", 't'),
    ("elide-empty-files", 'e'), ("unbuffered", 'u'), ("verbose", 'η'),
    ("additional-suffix", 'σ'), ("numeric-suffixes", 'δ'), ("hex-suffixes", 'ξ')], true⟩ 1
    (fun letter value =>
      match letter with
      | 'a' =>
          if value.all Char.isDigit && value ≠ [] then none
          else some ⟨"invalid suffix length: ".toList ++ quoted value, false⟩
      | 'l' | 'b' | 'C' | 'n' =>
          match wayOf letter value with
          | .ok _ => none
          | .error message => some ⟨message, false⟩
      | _ => none)
    (fun state given =>
      let ways := given.switches.filterMap fun (letter, value) =>
        if ['l', 'b', 'C', 'n'].contains letter then (wayOf letter value).toOption else none
      match given.operands, ways with
      | _ :: _ :: extra :: _, _ =>
          done (misused state "split" ("extra operand ".toList ++ quoted extra)) 1
      | _, _ :: _ :: _ => done (misused state "split" "cannot split in more than one way".toList) 1
      | operands, _ =>
          let way := ways.headD (.lines 1000)
          let operand := operands.headD ['-']
          match load state operand with
          | .error error =>
              done (complain state "split" (if error = .isDirectory then nameAndReason operand error
                else "cannot open ".toList ++ named operand ++ " for reading: ".toList ++
                  reason error)) 1
          | .ok (data, state) =>
              let stop : UInt8 := match given.value? 't' with
                | some (char :: _) => UInt8.ofNat char.toNat
                | _ => newline
              let numeric := given.last? ['d', 'δ', 'x', 'ξ']
              let alphabet : Text := match numeric with
                | some 'd' | some 'δ' => "0123456789".toList
                | some _ => "0123456789abcdef".toList
                | none => "abcdefghijklmnopqrstuvwxyz".toList
              let pieces := pieces stop data way
              let firstIndex := (numeric.bind given.value?).bind Text.toNat?
              let needed := match way with
                | .chunks _ count _ =>
                    (List.range 8).find? fun width =>
                      2 ≤ width && count ≤ Magnitude.power alphabet.length width
                | _ => none
              let width := ((given.value? 'a').bind Text.toNat?).filter (0 < ·)
              let naming : Naming :=
                { start := (operands[1]?).getD ['x'], alphabet := alphabet
                  width? := width.or (needed.or (firstIndex.map fun _ => 2))
                  first := firstIndex.getD 0, ending := (given.value? 'σ').getD [] }
              let kept := if given.has 'e' then pieces.filter (· ≠ []) else pieces
              match way with
              | .chunks _ _ (some index) =>
                  done (state.writeBytes 1 (pieces.getD (index - 1) [])) 0
              | _ => writeAll given naming state kept.zipIdx)
    state (Splitting.arguments given)

namespace Copying

/-- What `dd` is to do, as its operands say. -/
structure Job where
  input : Option Text := none
  output : Option Text := none
  inputSize : Nat := 512
  outputSize : Nat := 512
  /-- Whether one size for both was given. -/
  common : Bool := false
  count : Option Nat := none
  skip : Nat := 0
  seek : Nat := 0
  changes : List String := []
  status : String := ""
  deriving DecidableEq, Repr

/-- The changes that can be made to what is copied. -/
def knownChanges : List String :=
  ["ascii", "ebcdic", "ibm", "block", "unblock", "lcase", "ucase", "sparse", "swab", "sync",
    "excl", "nocreat", "notrunc", "noerror", "fdatasync", "fsync"]

/-- A number of bytes or blocks; factors are put together with an x. -/
def amount? (text : Text) : Option Nat :=
  (text.splitOn 'x').foldl
    (fun product part => do
      let product ← product
      match Magnitude.read "bkKmMGTPEZYRQcw" 0 (Magnitude.limit - 1) part with
      | .ok number => if part.head?.any Char.isDigit then pure (product * number) else none
      | .error _ => none)
    (some 1)

def Job.take (job : Job) (operand : Text) : Except Refusal Job :=
  let key := String.ofList (operand.takeWhile (· ≠ '='))
  let value := (operand.dropWhile (· ≠ '=')).tail
  let unknown : Except Refusal Job :=
    .error ⟨"unrecognized operand ".toList ++ quoted operand, true⟩
  let number (least : Nat) (use : Nat → Job) : Except Refusal Job :=
    match amount? value with
    | some number =>
        if number < least then .error ⟨"invalid number: ".toList ++ quoted value, false⟩
        else .ok (use number)
    | none => .error ⟨"invalid number: ".toList ++ quoted value, false⟩
  if !operand.contains '=' then unknown
  else
    match key with
    | "if" => .ok { job with input := some value }
    | "of" => .ok { job with output := some value }
    | "bs" => number 1 fun size => { job with inputSize := size, outputSize := size, common := true }
    | "ibs" => number 1 fun size => { job with inputSize := size }
    | "obs" => number 1 fun size => { job with outputSize := size }
    | "cbs" => number 1 fun _ => job
    | "count" => number 0 fun count => { job with count := some count }
    | "skip" | "iseek" => number 0 fun count => { job with skip := count }
    | "seek" | "oseek" => number 0 fun count => { job with seek := count }
    | "conv" =>
        let names := (value.splitOn ',').map String.ofList
        match names.find? fun name => !knownChanges.contains name with
        | some name => .error ⟨"invalid conversion: ".toList ++ quoted name.toList, true⟩
        | none => .ok { job with changes := job.changes ++ names }
    | "iflag" | "oflag" => .ok job
    | "status" =>
        if ["none", "noxfer", "progress"].contains (String.ofList value) then
          .ok { job with status := String.ofList value }
        else .error ⟨"invalid status level: ".toList ++ quoted value, true⟩
    | _ => unknown

/-- Neighbours exchanged. -/
def swapped : Bytes → Bytes
  | first :: second :: rest => second :: first :: swapped rest
  | rest => rest

def Job.changed (job : Job) (block : Bytes) : Bytes :=
  let isLetter (low high byte : UInt8) : Bool := low ≤ byte && byte ≤ high
  let filled := if job.changes.contains "sync" then
      block ++ List.replicate (job.inputSize - block.length) 0
    else block
  let turned := if job.changes.contains "swab" then swapped filled else filled
  if job.changes.contains "ucase" then
    turned.map fun byte => if isLetter 97 122 byte then byte - 32 else byte
  else if job.changes.contains "lcase" then
    turned.map fun byte => if isLetter 65 90 byte then byte + 32 else byte
  else turned

/-- How many whole blocks bytes make, and whether there is a part of one. -/
def records (size total : Nat) : Text :=
  Text.ofNat (total / size) ++ '+' :: (if total % size = 0 then ['0'] else ['1'])

end Copying

open Copying in
def dd : Tool := fun state arguments =>
  let options := arguments.find? fun argument => argument.head? = some '-' && argument.length > 1
  let arguments := if arguments.head? = some ['-', '-'] then arguments.tail else arguments
  match options.filter (· ≠ ['-', '-']), arguments.foldlM Job.take {} with
  | some option, _ =>
      done (misused state "dd" (if option.take 2 = ['-', '-'] then
          "unrecognized option '".toList ++ option ++ ['\'']
        else "invalid option -- '".toList ++ (option.drop 1).take 1 ++ ['\''])) 1
  | none, .error ⟨message, true⟩ => done (misused state "dd" message) 1
  | none, .error ⟨message, false⟩ => done (complain state "dd" message) 1
  | none, .ok job =>
      let unopened (path : Text) (error : IoError) : Text :=
        "failed to open ".toList ++ named path ++ ": ".toList ++ reason error
      let operand := job.input.getD ['-']
      let source : Except Text (Bytes × State) := match load state operand with
        | .ok (data, loaded) =>
            match job.count.map fun count => (count + job.skip) * job.inputSize with
            | none => .ok (data, loaded)
            | some needed =>
                if data.length < needed then .ok (data, loaded)
                else
                  .ok (data.take needed, match descriptorOf? state operand with
                    | some number => state.putBack loaded number 1 needed
                    | none => state)
        | .error error =>
            let name := if operand = ['-'] then "standard input".toList else operand
            .error (if error = .isDirectory || error = .badDescriptor then
                "error reading ".toList ++ named name ++ ": ".toList ++ reason error
              else unopened name error)
      match source with
      | .error message => done (complain state "dd" message) 1
      | .ok (data, state) =>
          let data := data.drop (job.skip * job.inputSize)
          let data := (job.count.map fun count => data.take (count * job.inputSize)).getD data
          let blocks := Digest.groups job.inputSize (data.length + 1) data
          let out := blocks.flatMap job.changed
          let written : Except Text State := match job.output with
            | none => .ok (state.writeBytes 1 out)
            | some path =>
                let old := match load state path with
                  | .ok (bytes, _) => bytes
                  | .error _ => []
                let offset := job.seek * job.outputSize
                let front := old.take offset
                let gap := List.replicate (offset - front.length) (0 : UInt8)
                let back := if job.changes.contains "notrunc" then old.drop (offset + out.length)
                  else []
                if job.changes.contains "nocreat" && (state.nodeAt false path).isOk = false then
                  .error (unopened path .notFound)
                else
                  (store state path (front ++ gap ++ out ++ back)).mapError (unopened path)
          match written with
          | .error message => done (complain state "dd" message) 1
          | .ok state =>
              if job.status = "none" then done state 0
              else
                let counts := records job.inputSize data.length ++ " records in\n".toList ++
                  records job.outputSize out.length ++ " records out\n".toList
                let state := state.write 2 counts
                if job.status = "noxfer" then done state 0
                else
                  done (state.write 2 (Text.ofNat out.length ++
                    (if out.length = 1 then " byte" else " bytes").toList ++
                    " copied, 0.0001 s, ".toList ++ Text.ofNat (out.length / 100) ++
                    " kB/s\n".toList)) 0

end Tools

end FolderScript.Shell
