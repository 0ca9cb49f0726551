/-
UTF-8 on byte lists.  One state machine reads a byte at a time; strict decoding
refuses a byte that cannot continue, lossy decoding replaces every maximal
broken prefix by U+FFFD.  Reading byte by byte makes both independent of how
the bytes were cut into pieces.
-/

namespace FolderScript

/-- Raw bytes: file contents, paths, arguments and process output. -/
abbrev Bytes := List UInt8

namespace Utf8

/-- What has been read of the current character. -/
inductive State where
  /-- Between two characters. -/
  | start
  /-- Inside a character: its bits so far, how many bytes are still missing,
  and the range that the next byte has to be in. -/
  | inside (value missing low high : Nat)
  deriving DecidableEq, Repr

/-- The character that stands for a broken sequence. -/
def replacement : Char := '\uFFFD'

/-- Reads the first byte of a character.  The ranges exclude overlong forms,
surrogates and values above U+10FFFF. -/
def lead? (byte : Nat) : Option (Option Char × State) :=
  if byte < 0x80 then some (some (Char.ofNat byte), .start)
  else if byte < 0xC2 then none
  else if byte < 0xE0 then some (none, .inside (byte - 0xC0) 1 0x80 0xBF)
  else if byte = 0xE0 then some (none, .inside 0x0 2 0xA0 0xBF)
  else if byte = 0xED then some (none, .inside 0xD 2 0x80 0x9F)
  else if byte < 0xF0 then some (none, .inside (byte - 0xE0) 2 0x80 0xBF)
  else if byte = 0xF0 then some (none, .inside 0x0 3 0x90 0xBF)
  else if byte < 0xF4 then some (none, .inside (byte - 0xF0) 3 0x80 0xBF)
  else if byte = 0xF4 then some (none, .inside 0x4 3 0x80 0x8F)
  else none

/-- One byte: the character it completes, if any, and the next state; `none`
when the byte cannot stand here. -/
def step? (state : State) (byte : UInt8) : Option (Option Char × State) :=
  match state with
  | .start => lead? byte.toNat
  | .inside value missing low high =>
      if low ≤ byte.toNat ∧ byte.toNat ≤ high then
        let value := value * 64 + (byte.toNat - 0x80)
        if missing ≤ 1 then some (some (Char.ofNat value), .start)
        else some (none, .inside value (missing - 1) 0x80 0xBF)
      else none

def decodeFrom? : State → Bytes → Option (List Char)
  | .start, [] => some []
  | .inside .., [] => none
  | state, byte :: rest =>
      match step? state byte with
      | none => none
      | some (some char, next) => (decodeFrom? next rest).map (char :: ·)
      | some (none, next) => decodeFrom? next rest

/-- One byte of lossy decoding: the characters it yields and the next state.
A byte that breaks a character off is read again as a first byte. -/
def lossyStep (state : State) (byte : UInt8) : List Char × State :=
  match step? state byte with
  | some (char, next) => (char.toList, next)
  | none =>
      match state with
      | .start => ([replacement], .start)
      | .inside .. =>
          match step? .start byte with
          | some (char, next) => (replacement :: char.toList, next)
          | none => ([replacement, replacement], .start)

/-- Lossy decoding from a state. -/
def lossyFrom : State → Bytes → List Char
  | .start, [] => []
  | .inside .., [] => [replacement]
  | state, byte :: rest =>
      (lossyStep state byte).1 ++ lossyFrom (lossyStep state byte).2 rest

/-- Strict decoding in one pass over long input; `done` are the characters so
far, last first. -/
def decodeOnto? (state : State) (done : List Char) : Bytes → Option (List Char)
  | [] => if state = .start then some done.reverse else none
  | byte :: rest =>
      match step? state byte with
      | none => none
      | some (some char, next) => decodeOnto? next (char :: done) rest
      | some (none, next) => decodeOnto? next done rest

/-- Lossy decoding in one pass over long input; `done` are the characters so
far, last first. -/
def lossyOnto (state : State) (done : List Char) : Bytes → List Char
  | [] => if state = .start then done.reverse else (replacement :: done).reverse
  | byte :: rest =>
      lossyOnto (lossyStep state byte).2 ((lossyStep state byte).1.reverse ++ done) rest

/-- The text of well-formed bytes. -/
def decode? (bytes : Bytes) : Option String :=
  (decodeOnto? .start [] bytes).map String.ofList

/-- The text of any bytes, each broken part written as U+FFFD. -/
def lossy (bytes : Bytes) : String :=
  String.ofList (lossyOnto .start [] bytes)

def encode (text : String) : Bytes :=
  text.toList.flatMap String.utf8EncodeChar

theorem lossyFrom_cons (state : State) (byte : UInt8) (rest : Bytes) :
    lossyFrom state (byte :: rest) =
      (lossyStep state byte).1 ++ lossyFrom (lossyStep state byte).2 rest := by
  cases state <;> rfl

theorem decodeFrom?_cons (state : State) (byte : UInt8) (rest : Bytes) :
    decodeFrom? state (byte :: rest) =
      match step? state byte with
      | none => none
      | some (some char, next) => (decodeFrom? next rest).map (char :: ·)
      | some (none, next) => decodeFrom? next rest := by
  cases state <;> rfl

theorem lossyOnto_eq (state : State) (done : List Char) (bytes : Bytes) :
    lossyOnto state done bytes = done.reverse ++ lossyFrom state bytes := by
  induction bytes generalizing state done with
  | nil => cases state <;> simp [lossyOnto, lossyFrom]
  | cons byte rest ih => simp [lossyOnto, lossyFrom_cons, ih]

theorem decodeOnto?_eq (state : State) (done : List Char) (bytes : Bytes) :
    decodeOnto? state done bytes = (decodeFrom? state bytes).map (done.reverse ++ ·) := by
  induction bytes generalizing state done with
  | nil => cases state <;> simp [decodeOnto?, decodeFrom?]
  | cons byte rest ih =>
      rw [decodeOnto?, decodeFrom?_cons]
      cases step? state byte with
      | none => rfl
      | some found =>
          obtain ⟨char, next⟩ := found
          cases char with
          | none => exact ih next done
          | some char =>
              simp only [ih, Option.map_map]
              congr 1
              funext chars
              simp

theorem lossy_eq (bytes : Bytes) : lossy bytes = String.ofList (lossyFrom .start bytes) := by
  simp [lossy, lossyOnto_eq]

theorem decode?_eq (bytes : Bytes) :
    decode? bytes = (decodeFrom? .start bytes).map String.ofList := by
  simp [decode?, decodeOnto?_eq]

theorem encode_append (left right : String) :
    encode (left ++ right) = encode left ++ encode right := by
  simp [encode]

end Utf8

end FolderScript
