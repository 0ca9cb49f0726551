/-
The programs that compare two files: byte by byte, or line by line.
-/
import FolderScript.Machine.Shell.Tools.Files
import FolderScript.Machine.Shell.Tools.Lines

namespace FolderScript.Shell

namespace Tools

/-- Points to where help is found, in the words of the comparing programs. -/
def misusedComparison (state : State) (tool : String) (message : Text) : Flow × State :=
  done (tryHelp ((complain state tool message).write 2 (title state tool ++ ": ".toList))
    tool) 2

/-- The index and the line of the first byte in which two lists differ; or the
length of the shorter one. -/
def firstDifference : Bytes → Bytes → Nat → Nat → Option (Nat × Nat × UInt8 × UInt8)
  | left :: lefts, right :: rights, index, line =>
      if left = right then
        firstDifference lefts rights (index + 1) (if left = newline then line + 1 else line)
      else some (index, line, left, right)
  | _, _, _, _ => none

/-- A number in octal, at least so wide. -/
def octalText (width : Nat) (byte : UInt8) : Text :=
  Format.pad width false ' ' (Nat.toDigits 8 byte.toNat)

/-- The words for a file that ends before the other. -/
def shorterText (name : Text) (data : Bytes) (withLine : Bool) : Text :=
  if data = [] then "EOF on ".toList ++ name ++ " which is empty".toList
  else
    let ended := data.getLast? = some newline
    let lines := data.count newline
    "EOF on ".toList ++ name ++ " after byte ".toList ++ Text.ofNat data.length ++
      (if !withLine then []
        else if ended then ", line ".toList ++ Text.ofNat lines
        else ", in line ".toList ++ Text.ofNat (lines + 1))

def cmp : Tool := fun state arguments =>
  let known : Switches := ⟨"blsv", "in", [("print-bytes", 'b'), ("verbose", 'l'), ("quiet", 's'),
    ("silent", 's'), ("ignore-initial", 'i'), ("bytes", 'n')], true⟩
  match known.accept arguments with
  | .error message => misusedComparison state "cmp" message
  | .ok given =>
      match given.operands with
      | [] => misusedComparison state "cmp" "missing operand after 'cmp'".toList
      | first :: others =>
          let second := others.headD ['-']
          let silent := given.has 's'
          let skipped := ((given.value? 'i').bind Text.toNat?).getD 0
          let most := (given.value? 'n').bind Text.toNat?
          let part (data : Bytes) : Bytes :=
            (most.map (data.drop skipped).take).getD (data.drop skipped)
          match (do
            let (left, state) ← (load state first).mapError fun error => (first, error)
            let (right, state) ← (load state second).mapError fun error => (second, error)
            pure (part left, part right, state) : Except (Text × IoError) (Bytes × Bytes × State)) with
          | .error (name, error) =>
              done (if silent && error ≠ .isDirectory then state
                else complain state "cmp" (bareNameAndReason name error)) 2
          | .ok (left, right, state) =>
              if left = right then done state 0
              else if silent then done state 1
              else if given.has 'l' then
                let width := (Text.ofNat (min left.length right.length)).length
                let rows := ((left.zip right).zipIdx).filter fun row => row.1.1 ≠ row.1.2
                let shown := rows.flatMap fun ((byte, other), index) =>
                  Format.pad width false ' ' (Text.ofNat (index + 1)) ++ ' ' ::
                    octalText 3 byte ++ ' ' :: octalText 3 other ++ ['\n']
                let state := state.write 1 shown
                if left.length = right.length then done state 1
                else
                  let (name, data) := if left.length < right.length then (first, left)
                    else (second, right)
                  done (complain state "cmp" (shorterText name data false)) 1
              else
                match firstDifference left right 1 1 with
                | some (index, line, byte, other) =>
                    let word := if given.has 'b' then "byte " else "char "
                    let details := if given.has 'b' then
                        " is ".toList ++ octalText 3 byte ++ ' ' :: visible (Char.ofNat byte.toNat) ++
                          ' ' :: octalText 3 other ++ ' ' :: visible (Char.ofNat other.toNat)
                      else []
                    done (state.write 1 (first ++ ' ' :: second ++ " differ: ".toList ++
                      word.toList ++ Text.ofNat index ++ ", line ".toList ++
                      Text.ofNat line ++ details ++ ['\n'])) 1
                | none =>
                    let (name, data) := if left.length < right.length then (first, left)
                      else (second, right)
                    done (complain state "cmp" (shorterText name data true)) 1

namespace Difference

/-- A line of one of two files, or of both. -/
inductive Edit where
  | same (line other : Text)
  | delete (line : Text)
  | insert (line : Text)
  deriving DecidableEq, Repr

/-- Whether two lines have to differ. -/
def Edit.isSame : Edit → Bool
  | .same .. => true
  | _ => false

/-- For the lines of one file from some line on, how much of the other file they
have in common from each of its lines on. -/
def row (key : Text → Text) (line : Text) : List Text → List Nat → List Nat
  | [], _ => [0]
  | other :: others, before =>
      let rest := row key line others before.tail
      (if key line = key other then 1 + before.tail.headD 0
        else max (before.headD 0) (rest.headD 0)) :: rest

/-- The rows for all lines, the first on top. -/
def table (key : Text → Text) (lefts rights : List Text) : List (List Nat) :=
  lefts.foldr
    (fun line rows => row key line rights (rows.headD []) :: rows)
    [List.replicate (rights.length + 1) 0]

/-- A shortest way from one file to the other; the rows follow the lines. -/
def walk (key : Text → Text) : List Text → List Text → List (List Nat) → List Edit
  | [], rights, _ => rights.map .insert
  | lefts, [], _ => lefts.map .delete
  | left :: lefts, right :: rights, rows =>
      if key left = key right then
        .same left right :: walk key lefts rights (rows.tail.map List.tail)
      else if (rows.headD []).tail.headD 0 ≤ (rows.tail.headD []).headD 0 then
        .delete left :: walk key lefts (right :: rights) rows.tail
      else .insert right :: walk key (left :: lefts) rights (rows.map List.tail)
  termination_by lefts rights => lefts.length + rights.length

/-- Lines that a run of changes and the equal lines after it share, moved from
behind the run to before it. -/
def slide : Nat → List Edit → List Edit
  | 0, edits => edits
  | _ + 1, [] => []
  | fuel + 1, .same line other :: rest => .same line other :: slide fuel rest
  | fuel + 1, edits =>
      let changes := edits.takeWhile fun edit => !edit.isSame
      let rest := edits.drop changes.length
      match changes, rest with
      | .insert first :: others, .same line other :: after =>
          if changes.all (fun edit => match edit with
              | .insert _ => true
              | _ => false) && first = other then
            .same line other :: slide fuel (others ++ .insert first :: after)
          else changes ++ slide fuel rest
      | .delete first :: others, .same line other :: after =>
          if changes.all (fun edit => match edit with
              | .delete _ => true
              | _ => false) && first = line then
            .same line other :: slide fuel (others ++ .delete first :: after)
          else changes ++ slide fuel rest
      | _, _ => changes ++ slide fuel rest

/-- The changes between two files: where each starts in either, and its lines. -/
structure Hunk where
  left : Nat
  lefts : List Text
  right : Nat
  rights : List Text
  deriving DecidableEq, Repr

/-- The changes of a way, numbered from the next lines on. -/
def hunks : Nat → Nat → Nat → List Edit → List Hunk
  | 0, _, _, _ => []
  | _ + 1, _, _, [] => []
  | fuel + 1, left, right, .same _ _ :: rest => hunks fuel (left + 1) (right + 1) rest
  | fuel + 1, left, right, edits =>
      let changes := edits.takeWhile fun edit => !edit.isSame
      let lefts := changes.filterMap fun edit => match edit with
        | .delete line => some line
        | _ => none
      let rights := changes.filterMap fun edit => match edit with
        | .insert line => some line
        | _ => none
      ⟨left, lefts, right, rights⟩ ::
        hunks fuel (left + lefts.length) (right + rights.length) (edits.drop changes.length)

def range (start count : Nat) : Text :=
  if count = 0 then Text.ofNat (start - 1)
  else if count = 1 then Text.ofNat start
  else Text.ofNat start ++ ',' :: Text.ofNat (start + count - 1)

/-- A line with a mark in front; one that does not end is told about. -/
def marked (mark : String) (line : Text) : Text :=
  if line.getLast? = some '\n' then mark.toList ++ line
  else mark.toList ++ line ++ "\n\\ No newline at end of file\n".toList

/-- A change in the plain form. -/
def Hunk.plain (hunk : Hunk) : Text :=
  let letter := if hunk.lefts = [] then 'a' else if hunk.rights = [] then 'd' else 'c'
  range hunk.left hunk.lefts.length ++ letter :: range hunk.right hunk.rights.length ++ ['\n'] ++
    hunk.lefts.flatMap (marked "< ") ++
    (if letter = 'c' then "---\n".toList else []) ++ hunk.rights.flatMap (marked "> ")

def numbered : Nat → Nat → List Edit → List (Nat × Nat × Edit)
  | _, _, [] => []
  | left, right, edit :: rest =>
      let (nextLeft, nextRight) := match edit with
        | .same .. => (left + 1, right + 1)
        | .delete _ => (left + 1, right)
        | .insert _ => (left, right + 1)
      (left, right, edit) :: numbered nextLeft nextRight rest

/-- Groups of edits with so many equal lines around them. -/
def groups (context : Nat) (edits : List (Nat × Nat × Edit)) :
    List (List (Nat × Nat × Edit)) :=
  let changed := (edits.zipIdx.filter fun item => !item.1.2.2.isSame).map Prod.snd
  let shown := edits.zipIdx.filter fun item =>
    changed.any fun index => index ≤ item.2 + context && item.2 ≤ index + context
  (shown.splitBy fun first second => first.2 + 1 == second.2).map fun group =>
    group.map Prod.fst

/-- A range of lines with its length. -/
def span (start count : Nat) : Text :=
  if count = 1 then Text.ofNat start
  else Text.ofNat (if count = 0 then start - 1 else start) ++ ',' :: Text.ofNat count

def unified (group : List (Nat × Nat × Edit)) : Text :=
  let first := group.headD (1, 1, .same [] [])
  let lefts := group.filter fun item => match item.2.2 with
    | .insert _ => false
    | _ => true
  let rights := group.filter fun item => match item.2.2 with
    | .delete _ => false
    | _ => true
  "@@ -".toList ++ span first.1 lefts.length ++ " +".toList ++
    span first.2.1 rights.length ++ " @@\n".toList ++
    group.flatMap fun item => match item.2.2 with
      | .same line _ => marked " " line
      | .delete line => marked "-" line
      | .insert line => marked "+" line

/-- Changes with the deletions of a run before its insertions. -/
def deletionsFirst : Nat → List Edit → List Edit
  | 0, edits => edits
  | _ + 1, [] => []
  | fuel + 1, .same line other :: rest => .same line other :: deletionsFirst fuel rest
  | fuel + 1, edits =>
      let changes := edits.takeWhile fun edit => !edit.isSame
      let isDeletion (edit : Edit) : Bool := match edit with
        | .delete _ => true
        | _ => false
      changes.filter isDeletion ++ changes.filter (!isDeletion ·) ++
        deletionsFirst fuel (edits.drop changes.length)

def key (given : Given) (line : Text) : Text :=
  let line := if given.has 'i' then line.map Char.toLower else line
  let words := line.splitBy fun left right => left.isWhitespace == right.isWhitespace
  if given.has 'w' then line.filter fun char => !char.isWhitespace
  else if given.has 'b' then
    let squeezed := words.flatMap fun word =>
      if word.all Char.isWhitespace then [' '] else word
    (squeezed.reverse.dropWhile (· = ' ')).reverse
  else line

/-- The edits from one content to another. -/
def edits (given : Given) (left right : Bytes) : List Edit :=
  let lines (data : Bytes) : List Text := (byteLines data).map Text.ofBytes
  let lefts := lines left
  let rights := lines right
  let key := key given
  let same := ((lefts.zip rights).takeWhile fun pair => key pair.1 = key pair.2)
  let front := same.map fun pair => Edit.same pair.1 pair.2
  let lefts := lefts.drop same.length
  let rights := rights.drop same.length
  let tail := (lefts.reverse.zip rights.reverse).takeWhile fun pair => key pair.1 = key pair.2
  let back := tail.reverse.map fun pair => Edit.same pair.1 pair.2
  let lefts := lefts.take (lefts.length - tail.length)
  let rights := rights.take (rights.length - tail.length)
  let middle := walk key lefts rights (table key lefts rights)
  let whole := front ++ middle ++ back
  let supply := 2 * (whole.length + 1) * (whole.length + 1)
  deletionsFirst (whole.length + 1) (slide supply whole)

end Difference

def diff : Tool := fun state arguments =>
  let known : Switches := ⟨"abBdeiNqrstTuwyc", "UCIL", [("brief", 'q'), ("recursive", 'r'),
    ("report-identical-files", 's'), ("ignore-case", 'i'), ("ignore-all-space", 'w'),
    ("ignore-space-change", 'b'), ("unified", 'u'), ("text", 'a'), ("label", 'L'),
    ("normal", 'd'), ("color", 'd')], true⟩
  match known.accept arguments with
  | .error message => misusedComparison state "diff" message
  | .ok given =>
      match given.operands with
      | [] => misusedComparison state "diff" "missing operand after 'diff'".toList
      | [operand] =>
          misusedComparison state "diff" ("missing operand after ".toList ++ quoted operand)
      | _ :: _ :: extra :: _ =>
          misusedComparison state "diff" ("extra operand ".toList ++ quoted extra)
      | [first, second] =>
          let into (path other : Text) : Text :=
            if isFolder state path && !isFolder state other then below path (lastName other)
            else path
          let (left, right) := (into first second, into second first)
          let faults := [left, right].filterMap fun name =>
            match load state name with
            | .error error => some (bareNameAndReason name error)
            | .ok _ => none
          match load state left with
          | .error _ => done (faults.foldl (fun state => complain state "diff") state) 2
          | .ok (leftData, state) =>
              match if left = right then .ok (leftData, state) else load state right with
              | .error _ => done (faults.foldl (fun state => complain state "diff") state) 2
              | .ok (rightData, state) => shown state given left right leftData rightData
where
  /-- Shows how two contents differ. -/
  shown (state : State) (given : Given) (left right : Text) (leftData rightData : Bytes) :
      Flow × State :=
    let edits := Difference.edits given leftData rightData
    if edits.all Difference.Edit.isSame then
      done (if given.has 's' then state.write 1 ("Files ".toList ++ left ++ " and ".toList ++
        right ++ " are identical\n".toList) else state) 0
    else if given.has 'q' then
      done (state.write 1 ("Files ".toList ++ left ++ " and ".toList ++ right ++
        " differ\n".toList)) 1
    else if given.has 'u' || given.has 'U' then
      let context := ((given.value? 'U').bind Text.toNat?).getD 3
      let labels := given.values 'L'
      let named (mark : String) (label : Option Text) (name : Text) : Text :=
        mark.toList ++ label.getD (name ++ "\t1970-01-01 00:00:00.000000000 +0000".toList) ++
          ['\n']
      let groups := Difference.groups context (Difference.numbered 1 1 edits)
      done (state.write 1 (named "--- " labels[0]? left ++ named "+++ " labels[1]? right ++
        groups.flatMap Difference.unified)) 1
    else
      done (state.write 1 ((Difference.hunks (edits.length + 1) 1 1 edits).flatMap
        Difference.Hunk.plain)) 1

end Tools

end FolderScript.Shell
