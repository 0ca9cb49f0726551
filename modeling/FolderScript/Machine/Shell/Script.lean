/-
Shell scripts as data: words with their quoting, and the commands that are made
of them.  A script is bytes; every character here stands for one byte.
-/
import FolderScript.Text.Utf8

namespace FolderScript.Shell

/-- Bytes, each as the character of the same number. -/
abbrev Text := List Char

/-- The number by which tables find a text. -/
instance textHashable : Hashable Text :=
  ⟨fun text => text.foldl (fun total char => mixHash total char.toNat.toUInt64) 7⟩

namespace Text

def ofBytes (bytes : Bytes) : Text := bytes.map fun byte => Char.ofNat byte.toNat

def toBytes (text : Text) : Bytes := text.map fun char => UInt8.ofNat char.toNat

/-- A byte read as a character keeps its number. -/
theorem toNat_ofNat_byte (byte : UInt8) : (Char.ofNat byte.toNat).toNat = byte.toNat := by
  have small : byte.toNat < 256 := byte.toNat_lt
  have valid : byte.toNat.isValidChar := Or.inl (by omega)
  rw [Char.ofNat, dif_pos valid]
  rfl

/-- Bytes come back from their characters. -/
@[simp] theorem toBytes_ofBytes (bytes : Bytes) : toBytes (ofBytes bytes) = bytes := by
  induction bytes with
  | nil => rfl
  | cons byte rest ih =>
      have first : UInt8.ofNat (Char.ofNat byte.toNat).toNat = byte := by
        rw [toNat_ofNat_byte, UInt8.ofNat_toNat]
      simp only [toBytes, ofBytes, List.map_cons] at ih ⊢
      rw [first, ih]

/-- The bytes of a string, as characters. -/
def ofString (text : String) : Text := ofBytes (Utf8.encode text)

def ofNat (number : Nat) : Text := Nat.toDigits 10 number

/-- A number in decimal, with a minus if it is negative. -/
def ofInt (number : Int) : Text :=
  if number < 0 then '-' :: Nat.toDigits 10 number.natAbs else Nat.toDigits 10 number.natAbs

/-- The number that decimal digits spell. -/
def toNat? (text : Text) : Option Nat :=
  if text ≠ [] ∧ text.all Char.isDigit then some (Nat.ofDigitChars 10 text 0) else none

/-- The number that decimal digits spell, with or without a sign. -/
def toInt? (text : Text) : Option Int :=
  match text with
  | '-' :: digits => (toNat? digits).map fun number => -(number : Int)
  | '+' :: digits => (toNat? digits).map fun number => (number : Int)
  | digits => (toNat? digits).map fun number => (number : Int)

def join (separator : Text) (texts : List Text) : Text := List.intercalate separator texts

def lines (text : Text) : List Text :=
  let parts := text.foldr
    (fun char (parts : List Text) =>
      match parts with
      | [] => [[char]]
      | part :: others => if char = '\n' then [] :: part :: others else (char :: part) :: others)
    [[]]
  if parts.getLast? = some [] then parts.dropLast else parts

end Text

/-- The language of a shell: the small one that every system has, or the large one. -/
inductive Dialect where
  | dash
  | bash
  deriving DecidableEq, Repr

/-- Where a pattern is looked for in a value, to be exchanged. -/
inductive Exchange where
  | first
  | all
  | front
  | back
  deriving DecidableEq, Repr

/-- How a clause of a choice goes on: it is the last, the next one is carried out too, or
the next ones are tried too. -/
inductive ClauseEnd where
  | stops
  | falls
  | tries
  deriving DecidableEq, Repr

/-- What a redirection does to a descriptor. -/
inductive Redirect where
  | input
  | output
  /-- Writes to a file that may be there already, whatever the options say. -/
  | overwrite
  | append
  /-- Opens a file to read and to write. -/
  | both
  /-- Makes it a copy of another descriptor, or closes it. -/
  | copy
  /-- Feeds it a text. -/
  | here
  deriving DecidableEq, Repr

mutual

/-- What is done with the value of a parameter. -/
inductive Modifier where
  | plain
  /-- The word stands in where the value is missing. -/
  | fallback (emptyToo : Bool) (word : List Part)
  /-- As before, and the parameter is set to it. -/
  | assign (emptyToo : Bool) (word : List Part)
  /-- The word stands in where there is a value. -/
  | replace (emptyToo : Bool) (word : List Part)
  /-- A missing value ends the script. -/
  | require (emptyToo : Bool) (word : List Part)
  | length
  /-- What matches the pattern is cut off at an end. -/
  | cut (atFront longest : Bool) (pattern : List Part)
  /-- The first letter, or every letter, that matches becomes a capital or a small one;
  `none` turns each into the other. -/
  | recase (toCapital : Option Bool) (all : Bool) (pattern : List Part)
  /-- What matches the pattern is exchanged for a word. -/
  | exchange (place : Exchange) (pattern replacement : List Part)
  /-- A part of the value, by numbers. -/
  | slice (start : List Part) (length : Option (List Part))
  /-- The value in another form that a letter names. -/
  | form (letter : Char)
  /-- The value is the name of the parameter that is meant. -/
  | via (inner : Modifier)
  /-- The keys of the values. -/
  | keys
  /-- Makes no sense, which ends the script when it is met. -/
  | bad

/-- A part of a word. -/
inductive Part where
  | literal (text : Text) (quoted : Bool)
  | parameter (name : Text) (index : Option (List Part)) (modifier : Modifier) (quoted : Bool)
  /-- The names of all variables that start alike, as one text or apart. -/
  | names (start : Text) (asOne quoted : Bool)
  /-- The output of commands. -/
  | output (body : Command) (quoted : Bool)
  | arithmetic (expression : List Part) (quoted : Bool)
  /-- The name of a file from which the output of commands is read. -/
  | passage (body : Command)
  /-- Several values, each with its key or without. -/
  | items (entries : List (Option (List Part) × List Part))

/-- A redirection of a descriptor. -/
inductive Redirection where
  | of (descriptor : Nat) (action : Redirect) (target : List Part)

/-- A variable, or one of the values in it, that is set, or added to. -/
inductive Assignment where
  | of (name : Text) (index : Option (List Part)) (adds : Bool) (value : List Part)

/-- A condition between double brackets. -/
inductive Test where
  | word (word : List Part)
  | unary (letter : Char) (operand : List Part)
  | binary (left : List Part) (relation : Text) (right : List Part)
  | negation (inner : Test)
  | both (left right : Test)
  | either (left right : Test)

inductive Command where
  | nothing
  | simple (line : Nat) (assignments : List Assignment) (words : List (List Part))
      (redirections : List Redirection)
  | pipeline (negated : Bool) (stages : List Command)
  | andThen (first second : Command)
  | orElse (first second : Command)
  | sequence (first second : Command)
  | background (body : Command)
  | subshell (body : Command)
  | conditional (test body otherwise : Command)
  | loop (untilTrue : Bool) (test body : Command)
  | each (line : Nat) (name : Text) (words : Option (List (List Part))) (body : Command)
  | choose (line : Nat) (subject : List Part)
      (clauses : List (List (List Part) × Command × ClauseEnd))
  /-- An expression whose value is looked at. -/
  | compute (line : Nat) (expression : List Part)
  | test (line : Nat) (condition : Test)
  /-- A loop with an expression before it, in front of every round, and after it. -/
  | count (line : Nat) (start test step : List Part) (body : Command)
  /-- A command whose duration is shown. -/
  | timed (body : Command)
  | define (name : Text) (body : Command)
  | redirected (line : Nat) (body : Command) (redirections : List Redirection)

end

abbrev Word := List Part

/-- The name of the file that a command reads which does nothing else. -/
def Command.fileOnly? : Command → Option Word
  | .simple _ [] [] [.of 0 .input target] => some target
  | _ => none

def Part.isQuotedText : Part → Bool
  | .literal _ quoted => quoted
  | _ => false

def Part.text : Part → Text
  | .literal text _ => text
  | _ => []

def Part.isOutput : Part → Bool
  | .output .. => true
  | _ => false

end FolderScript.Shell
