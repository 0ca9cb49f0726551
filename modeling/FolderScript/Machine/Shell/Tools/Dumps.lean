/-
Programs that write bytes in letters and digits, and read them back.
-/
import FolderScript.Machine.Shell.Digest
import FolderScript.Machine.Shell.Format
import FolderScript.Machine.Shell.Tools.Magnitude

namespace FolderScript.Shell

namespace Tools

namespace Dump

/-- How the bytes of a dump are shown. -/
inductive Kind where
  | character
  | name
  | octal
  | hexadecimal
  | unsigned
  | signed
  deriving DecidableEq, Repr

/-- A way to show bytes: so many at a time, perhaps followed by them as text. -/
structure Style where
  kind : Kind
  size : Nat
  withText : Bool := false
  deriving DecidableEq, Repr

/-- How many places one item of a style takes. -/
def Style.width (style : Style) : Nat :=
  let at4 (one two four eight : Nat) : Nat :=
    match style.size with
    | 1 => one
    | 2 => two
    | 4 => four
    | _ => eight
  match style.kind with
  | .character | .name => 3
  | .octal => at4 3 6 11 22
  | .hexadecimal => at4 2 4 8 16
  | .unsigned => at4 3 5 10 20
  | .signed => at4 4 6 11 20

/-- The digits of a number in a base, at least so many. -/
def digits (base width value : Nat) : Text :=
  let text := Nat.toDigits base value
  List.replicate (width - text.length) '0' ++ text

/-- The names of the first codes. -/
def names : List String :=
  ["nul", "soh", "stx", "etx", "eot", "enq", "ack", "bel", "bs", "ht", "nl", "vt", "ff", "cr",
    "so", "si", "dle", "dc1", "dc2", "dc3", "dc4", "nak", "syn", "etb", "can", "em", "sub",
    "esc", "fs", "gs", "rs", "us", "sp"]

/-- A byte as a character, an escape or digits. -/
def charText (byte : Nat) : Text :=
  match byte with
  | 0 => "\\0".toList
  | 7 => "\\a".toList
  | 8 => "\\b".toList
  | 9 => "\\t".toList
  | 10 => "\\n".toList
  | 11 => "\\v".toList
  | 12 => "\\f".toList
  | 13 => "\\r".toList
  | other => if 32 ≤ other ∧ other < 127 then [Char.ofNat other] else digits 8 3 other

def Style.itemText (style : Style) (bytes : Bytes) : Text :=
  let value := bytes.reverse.foldl (fun value byte => value * 256 + byte.toNat) 0
  let whole := Magnitude.power 256 style.size
  match style.kind with
  | .character => charText value
  | .name =>
      let code := value % 128
      if code = 127 then "del".toList else ((names[code]?).getD "").toList ++
        (if code < names.length then [] else [Char.ofNat code])
  | .octal => digits 8 style.width value
  | .hexadecimal => digits 16 style.width value
  | .unsigned => Text.ofNat value
  | .signed => if 2 * value < whole then Text.ofNat value else '-' :: Text.ofNat (whole - value)

/-- One line of a style for a block of bytes, of which a whole one has so many; the
items are spread so that they take a given number of places in all. -/
def Style.line (style : Style) (block places : Nat) (bytes : Bytes) : Text :=
  let count := block / style.size
  let items := Digest.groups style.size (bytes.length + 1) bytes
  let pad := places - (style.width + 1) * count
  let shown := items.zipIdx.flatMap fun (item, index) =>
    let left := pad * (count - index) / count
    let next := pad * (count - index - 1) / count
    ' ' :: Format.pad (style.width + left - next) false ' ' (style.itemText item)
  let text := if style.withText then
      List.replicate (places - shown.length) ' ' ++ "  >".toList ++
        bytes.map (fun byte => if 32 ≤ byte ∧ byte < 127 then Char.ofNat byte.toNat else '.') ++ ['<']
    else []
  shown ++ text

def sizeOf? (text : Text) : Option (Nat × Text) :=
  match text with
  | 'C' :: rest => some (1, rest)
  | 'S' :: rest => some (2, rest)
  | 'I' :: rest => some (4, rest)
  | 'L' :: rest => some (8, rest)
  | _ =>
      let number := text.takeWhile Char.isDigit
      match Text.toNat? number with
      | none => some (4, text)
      | some size => if [1, 2, 4, 8].contains size then some (size, text.drop number.length) else none

def stylesOf (whole : Text) : Nat → Text → Except Text (List Style)
  | 0, _ => .ok []
  | _ + 1, [] => .ok []
  | fuel + 1, letter :: rest => do
      let kind ← match letter with
        | 'c' => pure Kind.character
        | 'a' => pure .name
        | 'o' => pure .octal
        | 'x' => pure .hexadecimal
        | 'u' => pure .unsigned
        | 'd' => pure .signed
        | other => throw ("invalid character ".toList ++ quoted [other] ++
            " in type string ".toList ++ quoted whole)
      let (size, rest) ← if letter = 'c' || letter = 'a' then pure (1, rest)
        else
          match sizeOf? rest with
          | some found => pure found
          | none => throw ("invalid type string ".toList ++ quoted whole ++
              ";\nthis system doesn't provide a ".toList ++ rest.takeWhile Char.isDigit ++
              "-byte integral type".toList)
      let (withText, rest) : Bool × Text := match rest with
        | 'z' :: after => (true, after)
        | _ => (false, rest)
      let others ← stylesOf whole fuel rest
      pure (⟨kind, size, withText⟩ :: others)

def styleOf? : Char → Option Style
  | 'a' => some ⟨.name, 1, false⟩
  | 'b' => some ⟨.octal, 1, false⟩
  | 'c' => some ⟨.character, 1, false⟩
  | 'd' => some ⟨.unsigned, 2, false⟩
  | 'i' => some ⟨.signed, 4, false⟩
  | 'l' => some ⟨.signed, 8, false⟩
  | 'o' => some ⟨.octal, 2, false⟩
  | 's' => some ⟨.signed, 2, false⟩
  | 'x' | 'h' => some ⟨.hexadecimal, 2, false⟩
  | _ => none

/-- The styles that were asked for. -/
def styles (given : Given) : Except Text (List Style) := do
  let found ← given.switches.mapM fun (letter, value) =>
    if letter = 't' then stylesOf value (value.length + 1) value
    else pure (styleOf? letter).toList
  match found.flatten with
  | [] => pure [⟨.octal, 2, false⟩]
  | several => pure several

/-- An address in a base, or nothing. -/
def address (radix : Char) (offset : Nat) : Text :=
  match radix with
  | 'd' => digits 10 7 offset
  | 'x' => digits 16 6 offset
  | 'n' => []
  | _ => digits 8 7 offset

/-- The lines of a dump; equal blocks that follow each other are shown as a star, unless
all are to be shown. -/
def blocks (radix : Char) (all : Bool) (styles : List Style) (block : Nat) :
    Nat → Nat → Option Bytes → Bool → Bytes → List Text
  | 0, _, _, _, _ => []
  | _ + 1, offset, _, _, [] => [address radix offset]
  | fuel + 1, offset, before, starred, data =>
      let bytes := data.take block
      let rest := data.drop block
      if !all && before = some bytes && bytes.length = block then
        let more := blocks radix all styles block fuel (offset + block) before true rest
        if starred then more else ['*'] :: more
      else
        let front := address radix offset
        let places := (styles.map fun style => (style.width + 1) * (block / style.size)).foldl max 0
        let lines := styles.zipIdx.map fun (style, index) =>
          (if index = 0 then front else List.replicate front.length ' ') ++
            style.line block places bytes
        lines ++ blocks radix all styles block fuel (offset + bytes.length) (some bytes) false rest

end Dump

def od : Tool := readingWith "od" ⟨"abcdfilosvxhw", "AjNtwS", [("address-radix", 'A'),
    ("skip-bytes", 'j'), ("read-bytes", 'N'), ("format", 't'), ("output-duplicates", 'v'),
    ("width", 'w'), ("strings", 'S')], true⟩ 1
    (fun letter value =>
      match letter with
      | 'A' =>
          if "doxn".toList.contains (value.headD ' ') then none
          else some ⟨"invalid output address radix ".toList ++ quoted (value.take 1) ++
            "; it must be one character from [doxn]".toList, false⟩
      | 'j' | 'N' =>
          match Magnitude.read "bkKmMGTPEZYRQc" 0 (Magnitude.limit - 1) value with
          | .ok _ => none
          | .error fault => some ⟨"invalid -".toList ++ letter :: " argument ".toList ++
              quoted value ++ fault.addition, false⟩
      | _ => none)
    fun state given =>
  match Dump.styles given with
  | .error message => done (complain state "od" message) 1
  | .ok styles =>
      let (files, failed, state) := loadAll "od" nameAndReason state given.operands
      let size (letter : Char) : Option Nat :=
        (given.value? letter).map fun text => Magnitude.getD "bkKmMGTPEZYRQc" (some text) 0
      let data := joined files
      let skipped := (size 'j').getD 0
      if files = [] && given.operands ≠ [] && !(given.operands.any (isFolder state ·)) then
        done state 1
      else if data.length < skipped then
        done (complain state "od" "cannot skip past end of combined input".toList) 1
      else
        let data := data.drop skipped
        let data := ((size 'N').map data.take).getD data
        let block := match given.value? 'w' with
          | none => 16
          | some [] => 32
          | some text => max 1 ((Text.toNat? text).getD 16)
        let largest := (styles.map Dump.Style.size).foldl max 1
        let block := if block % largest = 0 then block else largest
        let radix := ((given.value? 'A').bind List.head?).getD 'o'
        let lines := Dump.blocks radix (given.has 'v') styles block (data.length + 2) skipped none
          false data
        let lines := if radix = 'n' then lines.dropLast else lines
        done (state.write 1 (endLines lines)) (if failed then 1 else 0)
where
  /-- Whether a path leads to a directory. -/
  isFolder (state : State) (path : Text) : Bool :=
    match load state path with
    | .error .isDirectory => true
    | _ => false

/-- A way to write bytes: characters for groups of bits, and how many characters make
a whole. -/
structure Alphabet where
  letters : Text
  bits : Nat
  group : Nat
  deriving DecidableEq, Repr

namespace Alphabet

def upper : Text := "ABCDEFGHIJKLMNOPQRSTUVWXYZ".toList

def base64 : Alphabet :=
  ⟨upper ++ "abcdefghijklmnopqrstuvwxyz0123456789+/".toList, 6, 4⟩

def base64url : Alphabet :=
  ⟨upper ++ "abcdefghijklmnopqrstuvwxyz0123456789-_".toList, 6, 4⟩

def base32 : Alphabet := ⟨upper ++ "234567".toList, 5, 8⟩

def base32hex : Alphabet := ⟨"0123456789ABCDEFGHIJKLMNOPQRSTUV".toList, 5, 8⟩

def base16 : Alphabet := ⟨"0123456789ABCDEF".toList, 4, 2⟩

def base2 : Alphabet := ⟨"01".toList, 1, 8⟩

/-- The bits of a number, the highest first. -/
def bitsOf (count value : Nat) : List Bool :=
  ((List.range count).map fun index => value / Magnitude.power 2 index % 2 == 1).reverse

/-- The number that bits spell. -/
def ofBits (bits : List Bool) : Nat :=
  bits.foldl (fun value bit => 2 * value + (if bit then 1 else 0)) 0

/-- Bytes as characters, filled up to a whole. -/
def encode (alphabet : Alphabet) (data : Bytes) : Text :=
  let bits := data.flatMap fun byte => bitsOf 8 byte.toNat
  let chars := (Digest.groups alphabet.bits (bits.length + 1) bits).map fun group =>
    let value := ofBits (group ++ List.replicate (alphabet.bits - group.length) false)
    alphabet.letters.getD value '='
  let missing := (alphabet.group - chars.length % alphabet.group) % alphabet.group
  chars ++ List.replicate missing '='

/-- Reads characters back: the bytes, and whether all made sense.  The bits that are
left over and the place in the group are carried along. -/
def decode (alphabet : Alphabet) : Nat → List Bool → Text → Bytes × Bool
  | place, _, [] => ([], place = 0)
  | place, bits, char :: rest =>
      match alphabet.letters.findIdx? (· = char) with
      | some value =>
          let bits := bits ++ bitsOf alphabet.bits value
          let next := (place + 1) % alphabet.group
          let (out, bits) : Bytes × List Bool :=
            if 8 ≤ bits.length then ([UInt8.ofNat (ofBits (bits.take 8))], bits.drop 8)
            else ([], bits)
          let (more, fine) := decode alphabet next (if next = 0 then [] else bits) rest
          (out ++ more, fine)
      | none =>
          let pads := (char :: rest).takeWhile (· = '=')
          if char = '=' && 2 ≤ place && place + pads.length = alphabet.group &&
              bits.length < alphabet.bits then
            decode alphabet 0 [] (rest.drop (pads.length - 1))
          else ([], false)
  termination_by _ _ text => text.length
  decreasing_by all_goals simp_wf; try omega

end Alphabet

/-- Writes bytes with an alphabet, or reads them back. -/
def codec (tool : String) (given : Given) (alphabet : Alphabet) (state : State) : Flow × State :=
  match given.operands with
  | _ :: extra :: _ => done (misused state tool ("extra operand ".toList ++ quoted extra)) 1
  | operands =>
      let operand := operands.headD ['-']
      match load state operand with
      | .error error =>
          done (complain state tool (if error = .isDirectory then "read error: ".toList ++ reason error
            else nameAndReason operand error)) 1
      | .ok (data, state) =>
          if given.has 'd' then
            let text := (Text.ofBytes data).filter fun char =>
              char ≠ '\n' && (!given.has 'i' || char = '=' || alphabet.letters.contains char)
            let (bytes, fine) := alphabet.decode 0 [] text
            let state := state.write 1 (Text.ofBytes bytes)
            if fine then done state 0
            else done (complain state tool "invalid input".toList) 1
          else
            let width := (given.value? 'w').map fun text => (Text.toNat? text).getD 76
            let text := alphabet.encode data
            match width.getD 76 with
            | 0 => done (state.write 1 text) 0
            | width => done (state.write 1 (endLines
                (Digest.groups width (text.length + 1) text))) 0

def codecSwitches : Switches :=
  ⟨"di", "w", [("decode", 'd'), ("ignore-garbage", 'i'), ("wrap", 'w')], true⟩

/-- The complaint about the width of lines. -/
def wrapRefusal? (letter : Char) (value : Text) : Option Refusal :=
  if letter = 'w' && (value = [] || !value.all Char.isDigit) then
    some ⟨"invalid wrap size: ".toList ++ quoted value, false⟩
  else none

def base64 : Tool := readingWith "base64" codecSwitches 1 wrapRefusal? fun state given =>
  codec "base64" given .base64 state

def base32 : Tool := readingWith "base32" codecSwitches 1 wrapRefusal? fun state given =>
  codec "base32" given .base32 state

def basenc : Tool := readingWith "basenc"
    { codecSwitches with
      plain := "diαβγδεζ"
      names := codecSwitches.names ++ [("base64", 'α'), ("base64url", 'β'), ("base32", 'γ'),
        ("base32hex", 'δ'), ("base16", 'ε'), ("base2msbf", 'ζ')] } 1 wrapRefusal?
    fun state given =>
  match given.last? ['α', 'β', 'γ', 'δ', 'ε', 'ζ'] with
  | none => done (misused state "basenc" "missing encoding type".toList) 1
  | some letter =>
      let alphabet : Alphabet := match letter with
        | 'α' => .base64
        | 'β' => .base64url
        | 'γ' => .base32
        | 'δ' => .base32hex
        | 'ε' => .base16
        | _ => .base2
      codec "basenc" given alphabet state

end Tools

end FolderScript.Shell
