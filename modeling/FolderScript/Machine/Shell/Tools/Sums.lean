/-
The programs that compute digests of files, and check them.
-/
import FolderScript.Machine.Shell.Digest
import FolderScript.Machine.Shell.Tools.Magnitude

namespace FolderScript.Shell

namespace Tools

/-- A kind of digest: the program for it, its name in lists, and how it is computed. -/
structure DigestKind where
  tool : String
  name : String
  compute : Bytes → Bytes

namespace Sums

/-- The digests that have programs of their own. -/
def kinds : List DigestKind :=
  [⟨"md5sum", "MD5", Digest.md5⟩, ⟨"sha1sum", "SHA1", Digest.sha1⟩,
    ⟨"sha224sum", "SHA224", Digest.sha224⟩, ⟨"sha256sum", "SHA256", Digest.sha256⟩,
    ⟨"sha384sum", "SHA384", Digest.sha384⟩, ⟨"sha512sum", "SHA512", Digest.sha512⟩]

def escaped (name : Text) : Text :=
  name.flatMap fun char =>
    match char with
    | '\\' => ['\\', '\\']
    | '\n' => ['\\', 'n']
    | '\r' => ['\\', 'r']
    | other => [other]

def needsEscape (name : Text) : Bool := name.any fun char => "\\\n\r".toList.contains char

def line (kind : DigestKind) (given : Given) (tagged : Bool) (name : Text) (data : Bytes) : Text :=
  let isPlain := given.has 'z' || !needsEscape name
  let shown := if isPlain then name else escaped name
  let front : Text := if isPlain then [] else ['\\']
  let digits := Digest.hex (kind.compute data)
  let body := if tagged then kind.name.toList ++ " (".toList ++ shown ++ ") = ".toList ++ digits
    else digits ++ (if given.last? ['b', 't'] = some 'b' then " *".toList else "  ".toList) ++ shown
  front ++ body ++ [if given.has 'z' then Char.ofNat 0 else '\n']

/-- A name without its escapes. -/
def unescaped : Text → Text
  | '\\' :: 'n' :: rest => '\n' :: unescaped rest
  | '\\' :: 'r' :: rest => '\r' :: unescaped rest
  | '\\' :: '\\' :: rest => '\\' :: unescaped rest
  | char :: rest => char :: unescaped rest
  | [] => []

/-- Whether a text consists of so many digits. -/
def isDigest (size : Nat) (text : Text) : Bool :=
  text.length = size && text.all fun char =>
    char.isDigit || "abcdefABCDEF".toList.contains char

def listed? (kind : DigestKind) (text : Text) : Option (Text × Text) :=
  let size := 2 * (kind.compute []).length
  let (isEscaped, text) : Bool × Text := match text.dropWhile fun char => char == ' ' || char == '\t' with
    | '\\' :: rest => (true, rest)
    | rest => (false, rest)
  let named (name : Text) : Text := if isEscaped then unescaped name else name
  let front := kind.name.toList ++ " (".toList
  if front.isPrefixOf text then
    let rest := text.drop front.length
    let digits := rest.drop (rest.length - size)
    let name := rest.take (rest.length - size)
    let middle := ") = ".toList
    if isDigest size digits && middle.reverse.isPrefixOf name.reverse then
      some (digits, named (name.take (name.length - middle.length)))
    else none
  else
    let digits := text.take size
    match text.drop size with
    | ' ' :: mark :: rest =>
        if isDigest size digits && (mark == ' ' || mark == '*') && rest ≠ [] then
          some (digits, named rest)
        else if isDigest size digits then some (digits, named (mark :: rest))
        else none
    | _ => none

/-- What checking lists has come to. -/
structure Checked where
  state : State
  matched : Nat := 0
  differing : Nat := 0
  unreadable : Nat := 0
  malformed : Nat := 0
  proper : Nat := 0

/-- A count with its words, in the singular or the plural. -/
def counted (count : Nat) (one several : String) : Text :=
  "WARNING: ".toList ++ Text.ofNat count ++ (if count = 1 then one else several).toList

def checkLine (kind : DigestKind) (others : List DigestKind) (given : Given) (list : Text)
    (checked : Checked) (numbered : Text × Nat) : Checked :=
  let (text, index) := numbered
  let silent := given.has 'σ'
  let told (state : State) (name : Text) (verdict : String) : State :=
    if silent then state
    else
      let isPlain := !needsEscape name
      state.write 1 ((if isPlain then name else '\\' :: escaped name) ++ ": ".toList ++
        verdict.toList ++ ['\n'])
  if text.head? = some '#' || text = [] then checked
  else
    match (kind :: others).findSome? fun kind => (listed? kind text).map fun entry => (kind, entry) with
    | none =>
        { checked with
          malformed := checked.malformed + 1
          state := if given.has 'w' then
              complain checked.state kind.tool (Quoting.whenNeeded list ++ ": ".toList ++
                Text.ofNat (index + 1) ++ ": improperly formatted ".toList ++
                kind.name.toList ++ " checksum line".toList)
            else checked.state }
    | some (kind, digits, name) =>
        let checked := { checked with proper := checked.proper + 1 }
        match load checked.state name with
        | .error error =>
            if given.has 'ι' && error = .notFound then checked
            else
              { checked with
                unreadable := checked.unreadable + 1
                state := told (complain checked.state kind.tool (nameAndReason name error)) name
                  "FAILED open or read" }
        | .ok (data, state) =>
            if Digest.hex (kind.compute data) = digits.map Char.toLower then
              { checked with
                matched := checked.matched + 1
                state := if given.has 'θ' then state else told state name "OK" }
            else
              { checked with
                differing := checked.differing + 1
                state := told state name "FAILED" }

/-- Checks the files of a list, and tells whether all is well; the lines may be of
other kinds too. -/
def checkList (kind : DigestKind) (others : List DigestKind) (given : Given) (state : State)
    (operand : Text) : Bool × State :=
  match load state operand with
  | .error error => (false, complain state kind.tool (nameAndReason operand error))
  | .ok (data, state) =>
      let list := if operand = ['-'] then "standard input".toList else operand
      let lines := (textLines data).zipIdx
      let checked := lines.foldl (checkLine kind others given list) { state := state }
      if checked.proper = 0 then
        (false, complain checked.state kind.tool (Quoting.whenNeeded list ++
          ": no properly formatted checksum lines found".toList))
      else
        let warn (state : State) (count : Nat) (one several : String) : State :=
          if count = 0 || given.has 'σ' then state
          else complain state kind.tool (counted count one several)
        let state := warn checked.state checked.malformed " line is improperly formatted"
          " lines are improperly formatted"
        let state := warn state checked.unreadable " listed file could not be read"
          " listed files could not be read"
        let state := warn state checked.differing " computed checksum did NOT match"
          " computed checksums did NOT match"
        let isIdle := given.has 'ι' && checked.matched = 0
        let state := if isIdle && !given.has 'σ' then
            complain state kind.tool (Quoting.whenNeeded list ++ ": no file was verified".toList)
          else state
        (checked.differing = 0 && checked.unreadable = 0 && !isIdle &&
          !(given.has 'ρ' && checked.malformed ≠ 0), state)

/-- The switches of the programs for digests. -/
def switches : Switches :=
  ⟨"bctwzτθσιρ", "", [("binary", 'b'), ("check", 'c'), ("text", 't'), ("warn", 'w'),
    ("zero", 'z'), ("tag", 'τ'), ("quiet", 'θ'), ("status", 'σ'), ("ignore-missing", 'ι'),
    ("strict", 'ρ')], true⟩

/-- A switch that only makes sense with another. -/
def lonely? (given : Given) : Option String :=
  [('ι', "--ignore-missing"), ('σ', "--status"), ('w', "--warn"), ('θ', "--quiet"),
    ('ρ', "--strict")].findSome? fun (letter, name) => if given.has letter then some name else none

/-- Computes digests, or checks them. -/
def run (kind : DigestKind) (others : List DigestKind) (tagged : Bool) (state : State)
    (given : Given) : Flow × State :=
  if given.has 'τ' && given.last? ['b', 't'] = some 't' then
    done (misused state kind.tool "--tag does not support --text mode".toList) 1
  else if given.has 'z' && given.has 'c' then
    done (misused state kind.tool
      "the --zero option is not supported when verifying checksums".toList) 1
  else if given.has 'c' then
    if given.has 'τ' then
      done (misused state kind.tool
        "the --tag option is meaningless when verifying checksums".toList) 1
    else
      let operands := if given.operands = [] then [['-']] else given.operands
      let (state, fine) := operands.foldl
        (fun (state, fine) operand =>
          let (good, state) := checkList kind others given state operand
          (state, fine && good))
        (state, true)
      done state (if fine then 0 else 1)
  else
    match lonely? given with
    | some name =>
        done (misused state kind.tool ("the ".toList ++ name.toList ++
          " option is meaningful only when verifying checksums".toList)) 1
    | none =>
        let operands := if given.operands = [] then [['-']] else given.operands
        let (state, failed) := operands.foldl
          (fun (state, failed) operand =>
            match load state operand with
            | .ok (data, state) => (state.write 1 (line kind given tagged operand data), failed)
            | .error error => (complain state kind.tool (nameAndReason operand error), true))
          (state, false)
        done state (if failed then 1 else 0)

def tool (kind : DigestKind) : Tool :=
  reading kind.tool switches 1 fun state given => run kind [] (given.has 'τ') state given

/-- A number and a count of blocks for each file, with its name if there is one. -/
def numbered (tool : String) (state : State) (operands : List Text)
    (text : Bytes → Text) : Flow × State :=
  let isNamed := operands ≠ []
  let (state, failed) := (if isNamed then operands else [['-']]).foldl
    (fun (state, failed) operand =>
      match load state operand with
      | .ok (data, state) =>
          (state.write 1 (text data ++ (if isNamed then ' ' :: operand else []) ++ ['\n']), failed)
      | .error error => (complain state tool (nameAndReason operand error), true))
    (state, false)
  done state (if failed then 1 else 0)

def blocks (size : Nat) (data : Bytes) : Nat := (data.length + size - 1) / size

def turningText (data : Bytes) : Text :=
  let sum := Text.ofNat (Digest.turningSum data)
  let count := Text.ofNat (blocks 1024 data)
  List.replicate (5 - sum.length) '0' ++ sum ++ ' ' ::
    List.replicate (5 - count.length) ' ' ++ count

def plainText (data : Bytes) : Text :=
  Text.ofNat (Digest.plainSum data) ++ ' ' :: Text.ofNat (blocks 512 data)

end Sums

def sum : Tool := reading "sum" ⟨"rs", "", [("sysv", 's')], true⟩ 1 fun state given =>
  Sums.numbered "sum" state given.operands
    (if given.last? ['r', 's'] = some 's' then Sums.plainText else Sums.turningText)

def cksum : Tool := readingWith "cksum"
    { Sums.switches with
      plain := Sums.switches.plain ++ "υ", valued := "a"
      names := ("algorithm", 'a') :: ("untagged", 'υ') :: Sums.switches.names } 1
    (fun letter value =>
      let valid := ["bsd", "sysv", "crc", "md5", "sha1", "sha224", "sha256", "sha384", "sha512",
        "blake2b", "sm3"]
      if letter = 'a' && !valid.contains (String.ofList value) then
        some (choiceRefusal "--algorithm" valid value)
      else none)
    fun state given =>
  let wanted := String.ofList ((given.value? 'a').getD "crc".toList)
  let kinds := Sums.kinds.map fun kind => { kind with tool := "cksum" }
  match Sums.kinds.find? fun kind => kind.tool = wanted ++ "sum", kinds, given.has 'c' with
  | some kind, _, _ =>
      if given.last? ['b', 't'] = some 't' && !given.has 'υ' then
        done (misused state "cksum" "--text mode is only supported with --untagged".toList) 1
      else Sums.run { kind with tool := "cksum" } [] (!given.has 'υ') state given
  | none, kind :: others, true =>
      if given.has 'a' then
        done (complain state "cksum"
          "--check is not supported with --algorithm=\x7bbsd,sysv,crc\x7d".toList) 1
      else Sums.run kind others true state given
  | none, _, _ =>
      Sums.numbered "cksum" state given.operands fun data =>
        match wanted with
        | "bsd" => Sums.turningText data
        | "sysv" => Sums.plainText data
        | _ => Text.ofNat (Digest.cksum data) ++ ' ' :: Text.ofNat data.length

end Tools

end FolderScript.Shell
