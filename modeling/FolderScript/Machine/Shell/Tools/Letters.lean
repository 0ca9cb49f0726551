/-
The program that replaces, removes and thins out single characters.
-/
import FolderScript.Machine.Shell.CharClass
import FolderScript.Machine.Shell.Format
import FolderScript.Machine.Shell.Tools.Basic

namespace FolderScript.Shell

namespace Tools

/-- A member of a list of characters. -/
inductive LetterItem where
  | single (char : Char)
  | range (low high : Char)
  | ofKind (kind : CharClass)
  /-- A character so many times, or as often as it takes. -/
  | fill (char : Char) (count : Option Nat)
  deriving DecidableEq, Repr

namespace LetterItem

/-- All characters. -/
def allLetters : Text := (List.range 256).map Char.ofNat

/-- The characters of a member; `missing` is how many it takes. -/
def chars (missing : Nat) : LetterItem → Text
  | .single char => [char]
  | .range low high => allLetters.filter fun char => low ≤ char && char ≤ high
  | .ofKind kind => allLetters.filter kind.holds
  | .fill char count => List.replicate (count.getD missing) char

/-- Whether a member is a class of capital or small letters. -/
def hasCase : LetterItem → Bool
  | .ofKind .upper | .ofKind .lower => true
  | _ => false

def isClass : LetterItem → Bool
  | .ofKind kind => kind != .upper && kind != .lower
  | _ => false

/-- Whether a member is a character many times. -/
def isFill : LetterItem → Bool
  | .fill .. => true
  | _ => false

/-- Whether the number of times is left open. -/
def isOpen : LetterItem → Bool
  | .fill _ none => true
  | _ => false

end LetterItem

/-- The characters with their escapes read; an escaped one stands for itself. -/
def letterGlyphs : Nat → Text → List (Char × Bool)
  | 0, _ => []
  | _ + 1, [] => []
  | _ + 1, ['\\'] => [('\\', false)]
  | fuel + 1, '\\' :: char :: rest =>
      if '0' ≤ char && char ≤ '7' then
        let digits := (char :: rest).take 3 |>.takeWhile fun digit => '0' ≤ digit && digit ≤ '7'
        let kept := if 256 ≤ Nat.ofDigitChars 8 digits 0 then digits.dropLast else digits
        (Char.ofNat (Nat.ofDigitChars 8 kept 0), true) ::
          letterGlyphs fuel ((char :: rest).drop kept.length)
      else ((Format.letter? char).getD char, true) :: letterGlyphs fuel rest
  | fuel + 1, char :: rest => (char, false) :: letterGlyphs fuel rest

/-- The count of a repetition, in octal if it starts with a zero. -/
def repeatCount? (digits : Text) : Option (Option Nat) :=
  if digits = [] then some none
  else
    let base := if digits.head? = some '0' then 8 else 10
    if digits.all fun digit => digit.isDigit && (base = 10 || digit < '8') then
      let count := Nat.ofDigitChars base digits 0
      some (if count = 0 then none else some count)
    else none

/-- The members that a list of characters spells. -/
def letterItems : Nat → List (Char × Bool) → Except Text (List LetterItem)
  | 0, _ => .ok []
  | _ + 1, [] => .ok []
  | fuel + 1, (char, escaped) :: rest =>
      let ordinary : Except Text (List LetterItem) :=
        match rest with
        | ('-', false) :: (high, _) :: more =>
            if high < char then
              .error ("range-endpoints of ".toList ++ quoted [char, '-', high] ++
                " are in reverse collating sequence order".toList)
            else (letterItems fuel more).map (.range char high :: ·)
        | _ => (letterItems fuel rest).map (.single char :: ·)
      if char ≠ '[' || escaped then ordinary
      else
        match rest with
        | (':', false) :: inner =>
            let name := inner.takeWhile fun glyph => glyph.1 ≠ ':'
            match inner.drop name.length with
            | (':', false) :: (']', false) :: after =>
                match CharClass.ofName? (String.ofList (name.map Prod.fst)) with
                | some kind => (letterItems fuel after).map (.ofKind kind :: ·)
                | none =>
                    .error ("invalid character class ".toList ++ quoted (name.map Prod.fst))
            | _ => ordinary
        | ('=', false) :: inner =>
            let name := inner.takeWhile fun glyph => glyph.1 ≠ '='
            match inner.drop name.length, name with
            | ('=', false) :: (']', false) :: after, [(same, _)] =>
                (letterItems fuel after).map (.single same :: ·)
            | ('=', false) :: (']', false) :: _, _ =>
                .error (name.map Prod.fst ++
                  ": equivalence class operand must be a single character".toList)
            | _, _ => ordinary
        | (same, _) :: ('*', false) :: inner =>
            let digits := inner.takeWhile fun glyph => glyph.1 ≠ ']'
            match inner.drop digits.length, repeatCount? (digits.map Prod.fst) with
            | (']', false) :: after, some count =>
                (letterItems fuel after).map (.fill same count :: ·)
            | (']', false) :: _, none =>
                .error ("invalid repeat count ".toList ++ quoted (digits.map Prod.fst) ++
                  " in [c*n] construct".toList)
            | _, _ => ordinary
        | _ => ordinary

/-- The members of a written list. -/
def readLetters (text : Text) : Except Text (List LetterItem) :=
  let glyphs := letterGlyphs (text.length + 1) text
  letterItems (glyphs.length + 1) glyphs

/-- The characters of members; one of them may fill up to a length. -/
def lettersOf (wanted : Nat) (items : List LetterItem) : Text :=
  let fixed := (items.flatMap (LetterItem.chars 0)).length
  items.flatMap (LetterItem.chars (wanted - fixed))

/-- Where the classes with capital and small letters start. -/
def caseStarts : Nat → List LetterItem → List Nat
  | _, [] => []
  | index, item :: rest =>
      let next := index + (item.chars 0).length
      if item.hasCase then index :: caseStarts next rest else caseStarts next rest

def letterTable (pairs : List (Char × Char)) : Array Char :=
  pairs.foldl (fun table (char, other) => table.setIfInBounds char.toNat other)
    LetterItem.allLetters.toArray

/-- Removes repetitions of characters; `last` is the one before. -/
def squeeze (holds : Char → Bool) (text : Text) : Text :=
  (text.foldl
    (fun (kept, last) char =>
      if last = some char && holds char then (kept, last) else (char :: kept, some char))
    (([] : Text), none)).1.reverse

/-- A test for belonging to a list, prepared once. -/
def letterTest (chars : Text) : Char → Bool :=
  let table := letterTable (chars.map fun char => (char, Char.ofNat 300))
  fun char => table.getD char.toNat char == Char.ofNat 300

/-- Why a list cannot be translated into another. -/
def translationFault? (truncates complemented : Bool) (items targets : List LetterItem)
    (sources : Text) : Option Text :=
  let given := (targets.flatMap (LetterItem.chars 0)).length
  if targets.any LetterItem.isClass then
    some "when translating, the only character classes that may appear in\nstring2 are 'upper' and 'lower'".toList
  else if sources ≠ [] ∧ targets = [] ∧ !truncates then
    some "when not truncating set1, string2 must be non-empty".toList
  else if !complemented && !(caseStarts 0 targets).all (caseStarts 0 items).contains then
    some "misaligned [:upper:] and/or [:lower:] construct".toList
  else if given < sources.length && !truncates &&
      (targets.getLast?.map LetterItem.hasCase).getD false then
    some "when translating with string1 longer than string2,\nthe latter string must not end with a character class".toList
  else none

def changeLetters (given : Given) (text : Text) (sources : Text)
    (targets : Option (List LetterItem)) : Text :=
  let deletes := given.has 'd'
  let squeezes := given.has 's'
  let isSource := letterTest sources
  match targets with
  | none =>
      if deletes then text.filter fun char => !isSource char
      else squeeze isSource text
  | some items =>
      let others := lettersOf sources.length items
      if deletes then squeeze (letterTest others) (text.filter fun char => !isSource char)
      else
        let others := if given.has 't' then others
          else others ++ List.replicate (sources.length - others.length) (others.getLastD ' ')
        let table := letterTable (sources.zip others)
        let changed := text.map fun char => table.getD char.toNat char
        if squeezes then squeeze (letterTest others) changed else changed

/-- What is wrong with the number of operands. -/
def operandFault? (given : Given) : Option (Text × Text) :=
  let deletes := given.has 'd'
  let squeezes := given.has 's'
  let least := if deletes == squeezes then 2 else 1
  let most := if deletes && !squeezes then 1 else 2
  match given.operands with
  | [] => some ("missing operand".toList, [])
  | operands =>
      if operands.length < least then
        some ("missing operand after ".toList ++ quoted (operands.getLastD []),
          (if squeezes then
            "Two strings must be given when both deleting and squeezing repeats.\n"
          else "Two strings must be given when translating.\n").toList)
      else if most < operands.length then
        some ("extra operand ".toList ++ quoted (operands.getD most []),
          (if operands.length = 2 then
            "Only one string may be given when deleting without squeezing repeats.\n"
          else "").toList)
      else none

def tr : Tool := reading "tr" ⟨"cCdst", "", [("complement", 'c'), ("delete", 'd'),
    ("squeeze-repeats", 's'), ("truncate-set1", 't')], false⟩ 1 fun state given =>
  match operandFault? given with
  | some (message, hint) => done (tryHelp ((complain state "tr" message).write 2 hint) "tr") 1
  | none =>
      let dangling (text : Text) : Bool :=
        (letterGlyphs (text.length + 1) text).getLast? = some ('\\', false)
      let state := given.operands.foldl
        (fun state operand =>
          if dangling operand then
            complain state "tr"
              "warning: an unescaped backslash at end of string is not portable".toList
          else state) state
      match given.operands.mapM readLetters with
      | .error message => done (complain state "tr" message) 1
      | .ok lists =>
          let items := lists.headD []
          let complemented := given.has 'c' || given.has 'C'
          let written := lettersOf 0 items
          let sources := if complemented then
              let isWritten := letterTest written
              LetterItem.allLetters.filter fun char => !isWritten char
            else written
          let targets := lists[1]?
          let fault? := match targets with
            | none => none
            | some targets =>
                if (targets.filter LetterItem.isOpen).length > 1 then
                  some "only one [c*] repeat construct may appear in string2".toList
                else if given.has 'd' then none
                else translationFault? (given.has 't') complemented items targets sources
          if items.any LetterItem.isFill then
            done (complain state "tr"
              "the [c*] repeat construct may not appear in string1".toList) 1
          else
            match fault? with
            | some message => done (complain state "tr" message) 1
            | none =>
                let (data, state) := state.readAll 0
                done (state.write 1
                  (changeLetters given (Text.ofBytes data) sources targets)) 0

end Tools

end FolderScript.Shell
