/-
Tools that show the lines of files: as they are, numbered, or turned around.
-/
import FolderScript.Machine.Shell.Regex
import FolderScript.Machine.Shell.Tools.Columns

namespace FolderScript.Shell

namespace Tools

/-- A character as it is shown where nothing may stay invisible. -/
def visible (char : Char) : Text :=
  let code := char.toNat
  let low (code : Nat) : Text :=
    if code < 32 then ['^', Char.ofNat (code + 64)]
    else if code = 127 then "^?".toList
    else [Char.ofNat code]
  if char = '\t' ∨ char = '\n' then [char]
  else if code < 128 then low code
  else "M-".toList ++ low (code - 128)

/-- The lines of `cat` as its switches show them; the number of the line at hand,
and whether the line before was empty, go along. -/
def catLines (given : Given) : Nat → Bool → List Bytes → Text
  | _, _, [] => []
  | number, wasEmpty, line :: rest =>
      let text := Text.ofBytes line
      let ends := text.getLast? = some '\n'
      let body := if ends then text.dropLast else text
      let isEmpty := body = []
      if given.has 's' && isEmpty && ends && wasEmpty then catLines given number true rest
      else
        let counted := given.has 'b' && !isEmpty || given.has 'n' && !given.has 'b'
        let title := if counted then
            Format.pad 6 false ' ' (Text.ofNat number) ++ ['\t']
          else []
        let shown := body.flatMap fun char =>
          if char = '\t' then (if given.has 'T' then "^I".toList else [char])
          else if given.has 'v' then visible char
          else [char]
        let tail := (if ends && given.has 'E' then ['$'] else []) ++ (if ends then ['\n'] else [])
        title ++ shown ++ tail ++
          catLines given (if counted then number + 1 else number) (isEmpty && ends) rest

def catLetters : Char → List Char
  | 'A' => ['v', 'E', 'T']
  | 'e' => ['v', 'E']
  | 't' => ['v', 'T']
  | letter => [letter]

def cat : Tool := reading "cat" ⟨"AbeEnstTuv", "", [("number", 'n'), ("show-ends", 'E'),
    ("show-all", 'A'), ("number-nonblank", 'b'), ("squeeze-blank", 's'), ("show-tabs", 'T'),
    ("show-nonprinting", 'v')], true⟩ 1 fun state given =>
  let spelled := given.switches.flatMap fun (letter, value) =>
    (catLetters letter).map fun letter => (letter, value)
  let given := { given with switches := spelled }
  let operands := if given.operands = [] then [['-']] else given.operands
  if given.switches.all fun switch => switch.1 == 'u' then
    let (flow, state) := forEach state operands
      (fun state operand => do
        match load state operand with
        | .ok (data, loaded) =>
            if operand ≠ ['-'] && data ≠ [] && isOutput state operand then
              throw (operand ++ ": input file is output file".toList)
            pure (if operand = ['-'] then state.relay 0 else loaded.writeBytes 1 data)
        | .error error => throw (nameAndReason operand error))
      "cat"
    let state := if operands.contains ['-'] && (state.channel? 0).isNone then
        complain state "cat" "closing standard input: Bad file descriptor".toList
      else state
    (flow, state)
  else
    let (files, failed, state) := loadAll "cat" nameAndReason state operands
    done (state.write 1 (catLines given 1 false (byteLines (joined files))))
      (if failed then 1 else 0)

def tee : Tool := reading "tee" ⟨"aip", "", [("append", 'a'), ("ignore-interrupts", 'i')], true⟩ 1
    fun state given =>
  let (data, state) := state.readAll 0
  let state := state.writeBytes 1 data
  let (state, failed) := given.operands.foldl
    (fun (state, failed) operand =>
      match state.openOutput operand (given.has 'a') false with
      | .ok (channel, opened) =>
          let written := (opened.setChannel 9 (some channel)).writeBytes 9 data
          ({ written with descriptors := state.descriptors }, failed)
      | .error _ =>
          let error := match state.placeFor operand with
            | .error error => error
            | .ok _ => IoError.isDirectory
          (complain state "tee" (nameAndReason operand error), true))
    (state, false)
  done state (if failed then 1 else 0)

/-- Which lines of a part of a page are numbered. -/
inductive Numbering where
  | all
  | filled
  | none
  | matching (regex : Regex)

def Numbering.ofStyle? : Text → Except Text (Option Numbering)
  | ['a'] => .ok (some .all)
  | ['t'] => .ok (some .filled)
  | ['n'] => .ok (some .none)
  | 'p' :: pattern => (Regex.parse false pattern).map (fun regex => some (.matching regex))
      |>.mapError String.toList
  | _ => .ok Option.none

def Numbering.holds (numbering : Numbering) (line : Text) : Bool :=
  match numbering with
  | .all => true
  | .filled => line ≠ []
  | .none => false
  | .matching regex => (regex.search? ({ chars := line.toArray }) 0).isSome

def nlRefusal? (letter : Char) (value : Text) : Option Refusal :=
  let whole (what : String) : Option Refusal :=
    if (Text.toInt? value).isSome then none
    else some { message := what.toList ++ ": ".toList ++ quoted value }
  let style (part : String) : Option Refusal :=
    match Numbering.ofStyle? value with
    | .ok (some _) => none
    | .ok Option.none =>
        some ⟨"invalid ".toList ++ part.toList ++ " numbering style: ".toList ++ quoted value, true⟩
    | .error message => some { message := message }
  match letter with
  | 'b' => style "body"
  | 'h' => style "header"
  | 'f' => style "footer"
  | 'w' => Magnitude.refusal? "invalid line number field width" "" 1 2147483647 value
  | 'l' => Magnitude.refusal? "invalid line number of blank lines" "" 1 2147483647 value
  | 'v' => whole "invalid starting line number"
  | 'i' => whole "invalid line number increment"
  | 'n' => if ["ln".toList, "rn".toList, "rz".toList].contains value then none
      else some ⟨"invalid line numbering format: ".toList ++ quoted value, true⟩
  | _ => none

/-- Where numbering stands: the number of the next line, the part of the page, and how
many empty lines have come. -/
structure Numbered where
  next : Int
  part : Char := 'b'
  empties : Nat := 0

def numberColumn (given : Given) (number : Int) : Text :=
  let width := Magnitude.getD "" (given.value? 'w') 6
  let digits := Text.ofNat number.natAbs
  let sign : Text := if number < 0 then ['-'] else []
  match given.value? 'n' with
  | some ['l', 'n'] => Format.pad width true ' ' (sign ++ digits)
  | some ['r', 'z'] => sign ++ Format.pad (width - sign.length) false '0' digits
  | _ => Format.pad width false ' ' (sign ++ digits)

def nl : Tool := readingWith "nl" ⟨"p", "bdfhilnsvw", [("body-numbering", 'b'),
    ("header-numbering", 'h'), ("footer-numbering", 'f'), ("section-delimiter", 'd'),
    ("number-separator", 's'), ("number-width", 'w'), ("starting-line-number", 'v'),
    ("line-increment", 'i'), ("number-format", 'n'), ("join-blank-lines", 'l'),
    ("no-renumber", 'p')], true⟩ 1 nlRefusal? fun state given =>
  let integer (letter : Char) (usual : Int) : Int :=
    ((given.value? letter).bind Text.toInt?).getD usual
  let separator := (given.value? 's').getD ['\t']
  let blank := List.replicate (Magnitude.getD "" (given.value? 'w') 6 + separator.length) ' '
  let mark := match given.value? 'd' with
    | some [char] => [char, ':']
    | some text => text
    | Option.none => ['\\', ':']
  let styleOf (part : Char) : Numbering :=
    match (given.value? part).map Numbering.ofStyle? with
    | some (.ok (some numbering)) => numbering
    | _ => if part = 'b' then .filled else .none
  let joins := Magnitude.getD "" (given.value? 'l') 1
  let start := integer 'v' 1
  let (files, failed, state) := loadAll "nl" nameAndReason state given.operands
  let (shown, _) := (textLines (joined files)).foldl
    (fun ((shown : List Text), (numbered : Numbered)) line =>
      let part? : Option Char :=
        if mark = [] then Option.none
        else if line = mark ++ mark ++ mark then some 'h'
        else if line = mark ++ mark then some 'b'
        else if line = mark then some 'f'
        else Option.none
      match part? with
      | some part =>
          ([] :: shown, { numbered with
            part := part
            next := if given.has 'p' then numbered.next else start })
      | Option.none =>
          let empties := if line = [] then numbered.empties + 1 else 0
          let counts := match styleOf numbered.part with
            | .all => line ≠ [] || empties % joins = 0
            | numbering => numbering.holds line
          let row := if counts then numberColumn given numbered.next ++ separator ++ line
            else blank ++ line
          (row :: shown, { numbered with
            empties := empties
            next := if counts then numbered.next + integer 'i' 1 else numbered.next }))
    ([], { next := start })
  done (state.write 1 (endLines shown.reverse)) (if failed then 1 else 0)

def startsWith (mark data : Bytes) : Bool := mark.isPrefixOf data

/-- Cuts bytes at every place where a mark stands; each piece keeps the mark that ends
it. -/
def piecesEndedBy (mark : Bytes) : Nat → Bytes → Bytes → List Bytes
  | 0, piece, data => [piece.reverse ++ data]
  | _ + 1, piece, [] => if piece = [] then [] else [piece.reverse]
  | fuel + 1, piece, byte :: rest =>
      if startsWith mark (byte :: rest) then
        (piece.reverse ++ mark) :: piecesEndedBy mark fuel [] ((byte :: rest).drop mark.length)
      else piecesEndedBy mark fuel (byte :: piece) rest

/-- Cuts bytes at every place where a mark stands; each piece but the first starts with
the mark. -/
def piecesStartedBy (mark : Bytes) (data : Bytes) : List Bytes :=
  let bare (piece : Bytes) : Bytes :=
    if startsWith mark.reverse piece.reverse then piece.take (piece.length - mark.length) else piece
  let pieces := piecesEndedBy mark (data.length + 1) [] data
  let ended := pieces.getLast?.any fun piece => startsWith mark.reverse piece.reverse
  let texts := pieces.map bare ++ (if ended then [[]] else [])
  match texts with
  | [] => []
  | first :: others => first :: others.map (mark ++ ·)

def tac : Tool := reading "tac" ⟨"br", "s", [("before", 'b'), ("regex", 'r'),
    ("separator", 's')], true⟩ 1 fun state given =>
  let (files, failed, state) := loadAll "tac"
    (fun operand error =>
      if error = .isDirectory then
        Quoting.whenNeeded operand ++ ": read error: ".toList ++ reason error
      else "failed to open ".toList ++ named operand ++ " for reading: ".toList ++
        reason error) state given.operands
  let mark : Bytes := match given.value? 's' with
    | some [] => [0]
    | some text => text.toBytes
    | Option.none => [newline]
  let shown := files.flatMap fun file =>
    (if given.has 'b' then piecesStartedBy mark file.2
      else piecesEndedBy mark (file.2.length + 1) [] file.2).reverse.flatten
  done (state.writeBytes 1 shown) (if failed then 1 else 0)

def rev : Tool := reading "rev" ⟨"", "", [], true⟩ 1 fun state given =>
  let (files, failed, state) := loadAll "rev"
    (fun operand error => "cannot open ".toList ++ operand ++ ": ".toList ++ reason error)
    state given.operands
  let shown := files.flatMap fun file => (byteLines file.2).flatMap fun line =>
    if line.getLast? = some newline then line.dropLast.reverse ++ [newline] else line.reverse
  done (state.writeBytes 1 shown) (if failed then 1 else 0)

end Tools

end FolderScript.Shell
