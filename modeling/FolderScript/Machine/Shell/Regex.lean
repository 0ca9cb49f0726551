/-
Regular expressions, in the basic and the extended notation, and the leftmost
longest match of one in a text.
-/
import FolderScript.Machine.Shell.CharClass
import FolderScript.Machine.Shell.Script

namespace FolderScript.Shell

/-- A regular expression. -/
inductive Regex where
  | empty
  | letter (char : Char)
  | any
  | oneOf (bracket : Bracket)
  | lineStart
  | lineEnd
  /-- The side of a word, before its first character and after its last or only on
  one of them. -/
  | wordEdge (front back : Bool)
  /-- A place that is no side of a word. -/
  | notEdge
  /-- A place with no character of a word before it, or after it. -/
  | apart (before : Bool)
  | sequence (first second : Regex)
  | choice (first second : Regex)
  | repeated (body : Regex) (least : Nat) (most : Option Nat)
  | group (number : Nat) (body : Regex)
  /-- What a group stands for, once more. -/
  | again (number : Nat)
  /-- A repetition that stops as soon as it can. -/
  | lazily (body : Regex) (least : Nat) (most : Option Nat)
  /-- Whether there is a match, after this place or before it; it takes nothing up. -/
  | look (isAhead isThere : Bool) (body : Regex)
  /-- The first match only, whatever follows. -/
  | atomic (body : Regex)
  /-- The match counts from here on. -/
  | restart
  /-- The body of a group, or of the whole for 0, at this place. -/
  | call (number : Nat)
  /-- One way if a group stands for something, another if not. -/
  | given (number : Nat) (yes no : Regex)
  deriving Repr

namespace Regex

/-- The members of a class that a letter after a backslash names. -/
def letterClass? : Char → Option Bracket
  | 'w' => some ⟨false, [.ofKind .alnum, .single '_']⟩
  | 'W' => some ⟨true, [.ofKind .alnum, .single '_']⟩
  | 's' => some ⟨false, [.ofKind .space]⟩
  | 'S' => some ⟨true, [.ofKind .space]⟩
  | _ => none

def endsBranch (extended : Bool) (depth : Nat) : Text → Bool
  | [] => true
  | '|' :: _ => extended
  | ')' :: _ => extended && depth ≠ 0
  | '\\' :: ')' :: _ => !extended
  | '\\' :: '|' :: _ => !extended
  | _ => false

def namesNoClass : Text → Bool
  | [] => false
  | '[' :: ':' :: rest =>
      let name := rest.takeWhile Char.isAlpha
      (match rest.drop name.length with
        | ':' :: ']' :: _ => (CharClass.ofName? (String.ofList name)).isNone
        | _ => false) || namesNoClass rest
  | _ :: rest => namesNoClass rest

/-- Whether a text names a character by more than itself. -/
def namesNoElement : Text → Bool
  | [] => false
  | '[' :: '.' :: rest =>
      let name := rest.takeWhile (· ≠ '.')
      (name.length ≠ 1 && (rest.drop name.length).take 2 == ['.', ']']) || namesNoElement rest
  | _ :: rest => namesNoElement rest

/-- The bracket whose opening has been read, and what follows it. -/
def bracketOf (text : Text) : Except String (Bracket × Text) :=
  match Bracket.read? (text.map fun char => (char, char == '!')) with
  | none =>
      .error (if text = [] ∨ text = ['^'] then "Invalid regular expression"
        else "Unmatched [, [^, [:, [., or [=")
  | some (bracket, after) =>
      let isTurned (member : Member) : Bool := match member with
        | .range low high => high < low
        | _ => false
      let inside := text.take (text.length - after.length)
      if namesNoClass inside then .error "Invalid character class name"
      else if namesNoElement inside then .error "Invalid collation character"
      else if bracket.members.any isTurned then .error "Invalid range end"
      else .ok (bracket, after.map Prod.fst)

/-- The most that the bounds of an interval may be. -/
def longestInterval : Nat := 32767

/-- What is wrong with the bounds of an interval. -/
def boundsFault? (least : Nat) (most : Option Nat) : Option String :=
  if most.any (· < least) then some "Invalid content of \\\x7b\\\x7d"
  else if longestInterval < most.getD least then some "Regular expression too big"
  else none

/-- The bounds of an interval, after its opening, and what follows it. -/
def interval? (extended : Bool) (text : Text) : Option (Nat × Option Nat × Text) :=
  let low := text.takeWhile Char.isDigit
  let rest := text.drop low.length
  let (high, rest) : Option Text × Text := match rest with
    | ',' :: more =>
        let digits := more.takeWhile Char.isDigit
        (some digits, more.drop digits.length)
    | _ => (none, rest)
  let closed? : Option Text := match extended, rest with
    | true, '\x7d' :: rest => some rest
    | false, '\\' :: '\x7d' :: rest => some rest
    | _, _ => none
  match closed?, Text.toNat? low, high with
  | none, _, _ => none
  | some rest, some least, none => some (least, some least, rest)
  | some _, none, none => none
  | some rest, least, some digits => some (least.getD 0, Text.toNat? digits, rest)

/-- The repetition that comes next, if one does, and what follows it; the error is
for one that makes no sense. -/
def repetition? (extended : Bool) (text : Text) :
    Except String (Option (Nat × Option Nat × Text)) :=
  match extended, text with
  | _, '*' :: rest => .ok (some (0, none, rest))
  | true, '+' :: rest | false, '\\' :: '+' :: rest => .ok (some (1, none, rest))
  | true, '?' :: rest | false, '\\' :: '?' :: rest => .ok (some (0, some 1, rest))
  | true, '\x7b' :: rest =>
      match interval? true rest with
      | none => .ok none
      | some (least, most, rest) =>
          match boundsFault? least most with
          | some fault => .error fault
          | none => .ok (some (least, most, rest))
  | false, '\\' :: '\x7b' :: rest =>
      match interval? false rest with
      | none => .error (if rest.contains '\x7d' then "Invalid content of \\\x7b\\\x7d"
          else "Unmatched \\\x7b")
      | some (least, most, rest) =>
          match boundsFault? least most with
          | some fault => .error fault
          | none => .ok (some (least, most, rest))
  | _, _ => .ok none

/-- A regular expression with what follows it and the number of groups so far. -/
abbrev Read := Except String (Regex × Text × Nat)

/-- What a backslash and a character stand for; a number stands for a group that
has been closed. -/
def escaped (char : Char) (rest : Text) (groups : Nat) : Read :=
  match char with
  | '<' => .ok (.wordEdge true false, rest, groups)
  | '>' => .ok (.wordEdge false true, rest, groups)
  | 'b' => .ok (.wordEdge true true, rest, groups)
  | 'B' => .ok (.notEdge, rest, groups)
  | '`' => .ok (.lineStart, rest, groups)
  | '\'' => .ok (.lineEnd, rest, groups)
  | 'n' => .ok (.letter '\n', rest, groups)
  | 't' => .ok (.letter '\t', rest, groups)
  | _ =>
      if char.isDigit && char ≠ '0' then
        let number := char.toNat - '0'.toNat
        if number ≤ groups then .ok (.again number, rest, groups)
        else .error "Invalid back reference"
      else
        match letterClass? char with
        | some bracket => .ok (.oneOf bracket, rest, groups)
        | none => .ok (.letter char, rest, groups)

mutual

/-- Branches with choice signs between them. -/
def branches (extended : Bool) : Nat → Nat → Nat → Text → Read
  | 0, _, groups, text => .ok (.empty, text, groups)
  | fuel + 1, depth, groups, text => do
      let (first, rest, groups) ← branch extended fuel depth groups true text
      let after? : Option Text := match extended, rest with
        | true, '|' :: rest => some rest
        | false, '\\' :: '|' :: rest => some rest
        | _, _ => none
      match after? with
      | none => pure (first, rest, groups)
      | some rest => do
          let (second, rest, groups) ← branches extended fuel depth groups rest
          pure (.choice first second, rest, groups)

def branch (extended : Bool) : Nat → Nat → Nat → Bool → Text → Read
  | 0, _, groups, _, text => .ok (.empty, text, groups)
  | fuel + 1, depth, groups, atStart, text =>
      if endsBranch extended depth text then .ok (.empty, text, groups)
      else do
        let (first, rest, groups) ← atom extended fuel depth groups atStart text
        let isAnchor := match first with
          | .lineStart => !extended
          | _ => false
        let (piece, rest) ← if isAnchor then pure (first, rest)
          else repetitions extended fuel first rest
        let (more, rest, groups) ← branch extended fuel depth groups isAnchor rest
        pure (.sequence piece more, rest, groups)

def repetitions (extended : Bool) : Nat → Regex → Text → Except String (Regex × Text)
  | 0, body, text => .ok (body, text)
  | fuel + 1, body, text => do
      match ← repetition? extended text with
      | none => pure (body, text)
      | some (least, most, rest) => repetitions extended fuel (.repeated body least most) rest

/-- What a single piece stands for. -/
def atom (extended : Bool) : Nat → Nat → Nat → Bool → Text → Read
  | 0, _, groups, _, text => .ok (.empty, text, groups)
  | fuel + 1, depth, groups, atStart, text =>
      let grouped (rest : Text) : Read := do
        let number := groups + 1
        let (body, rest, groups) ← branches extended fuel (depth + 1) number rest
        match extended, rest with
        | true, ')' :: rest => pure (.group number body, rest, groups)
        | false, '\\' :: ')' :: rest => pure (.group number body, rest, groups)
        | _, _ => throw "Unmatched ( or \\("
      match extended, text with
      | _, [] => .ok (.empty, [], groups)
      | true, '(' :: rest => grouped rest
      | false, '\\' :: '(' :: rest => grouped rest
      | false, '\\' :: ')' :: _ => .error "Unmatched ) or \\)"
      | _, ['\\'] => .error "Trailing backslash"
      | _, '\\' :: char :: rest => escaped char rest groups
      | _, '.' :: rest => .ok (.any, rest, groups)
      | _, '[' :: rest => do
          let (bracket, rest) ← bracketOf rest
          pure (.oneOf bracket, rest, groups)
      | _, '^' :: rest =>
          .ok (if extended || atStart then .lineStart else .letter '^', rest, groups)
      | _, '$' :: rest =>
          .ok (if extended || endsBranch extended depth rest then .lineEnd else .letter '$',
            rest, groups)
      | true, '*' :: rest | true, '+' :: rest | true, '?' :: rest =>
          if atStart then .ok (.empty, rest, groups) else .ok (.letter (text.headD '*'), rest, groups)
      | _, char :: rest => .ok (.letter char, rest, groups)

end

/-- Reads a regular expression. -/
def parse (extended : Bool) (text : Text) : Except String Regex := do
  match ← branches extended (4 * text.length + 8) 0 0 text with
  | (regex, [], _) => pure regex
  | (_, _, _) => throw "Unmatched ) or \\)"

/-- A regular expression for exactly one text. -/
def literal : Text → Regex
  | [] => .empty
  | char :: rest => .sequence (.letter char) (literal rest)

/-- A regular expression for any one of several; nothing fits none of them. -/
def anyOf : List Regex → Regex
  | [] => .oneOf ⟨false, []⟩
  | [single] => single
  | first :: rest => .choice first (anyOf rest)

/-- Whether there is more than one way to go on that only looking at the whole
text decides between. -/
def hasChoice : Regex → Bool
  | .choice .. => true
  | .sequence first second => first.hasChoice || second.hasChoice
  | .repeated body _ _ => body.hasChoice
  | .group _ body => body.hasChoice
  | _ => false

def hasGroup : Regex → Bool
  | .group .. => true
  | .choice first second | .sequence first second => first.hasGroup || second.hasGroup
  | .repeated body _ _ => body.hasGroup
  | _ => false

def bodyOf? (wanted : Nat) : Regex → Option Regex
  | .group number body => if number = wanted then some body else body.bodyOf? wanted
  | .choice first second | .sequence first second | .given _ first second =>
      (first.bodyOf? wanted).orElse fun _ => second.bodyOf? wanted
  | .repeated body _ _ | .lazily body _ _ | .look _ _ body | .atomic body => body.bodyOf? wanted
  | _ => none

/-- Where groups begin and end. -/
abbrev Groups := List (Nat × Nat × Nat)

structure Match where
  start : Nat
  stop : Nat
  groups : Groups
  deriving DecidableEq, Repr

/-- What is still to be matched. -/
inductive Goal where
  | meet (regex : Regex)
  | close (number start : Nat)
  /-- A repetition has to get on. -/
  | beyond (index : Nat)
  /-- The match so far has to end here. -/
  | here (index : Nat)
  /-- The groups are again what they were. -/
  | regain (groups : List (Nat × Nat × Nat))

/-- Whether a character belongs to a word. -/
def isWordChar (char? : Option Char) : Bool :=
  (char?.map fun char => char.isAlphanum || char == '_').getD false

/-- A text with the way its characters are compared. -/
structure Subject where
  chars : Array Char
  ignoresCase : Bool := false
  /-- Whether lines start and end at every line end. -/
  hasLines : Bool := false
  /-- Whether the first way that leads to a match is taken, and not the longest. -/
  takesFirst : Bool := false
  /-- The expression that calls of bodies mean. -/
  whole : Regex := .empty

namespace Subject

/-- Whether two characters count as equal. -/
def same (subject : Subject) (left right : Char) : Bool :=
  if subject.ignoresCase then left.toLower == right.toLower else left == right

def inBracket (subject : Subject) (bracket : Bracket) (char : Char) : Bool :=
  if subject.ignoresCase then
    let plain : Bracket := ⟨false, bracket.members⟩
    (plain.holds char.toLower || plain.holds char.toUpper) != bracket.negated
  else bracket.holds char

/-- The characters from one index to another. -/
def slice (subject : Subject) (start stop : Nat) : List Char :=
  (subject.chars.extract start stop).toList

def standsAt (subject : Subject) (index : Nat) : List Char → Bool
  | [] => true
  | char :: rest =>
      match subject.chars[index]? with
      | some other => subject.same other char && subject.standsAt (index + 1) rest
      | none => false

end Subject

/-- The match that goes further, the first of equals. -/
def longer (first second : Option (Nat × Groups)) : Option (Nat × Groups) :=
  match first, second with
  | none, _ => second
  | _, none => first
  | some left, some right => if left.1 < right.1 then second else first

/-- How many steps a match may take one after the other. -/
def supply : Nat := 1000000000

/-- Where a match of all goals from an index ends; `thorough` looks for the longest
of all ways. -/
def reach (subject : Subject) (thorough : Bool) :
    Nat → List Goal → Nat → Groups → Option (Nat × Groups)
  | 0, _, _, _ => none
  | _ + 1, [], index, groups => some (index, groups)
  | fuel + 1, .close number start :: rest, index, groups =>
      reach subject thorough fuel rest index
        ((number, start, index) :: groups.filter fun entry => entry.1 ≠ number)
  | fuel + 1, .beyond before :: rest, index, groups =>
      if before < index then reach subject thorough fuel rest index groups else none
  | fuel + 1, .here wanted :: rest, index, groups =>
      if wanted = index then reach subject thorough fuel rest index groups else none
  | fuel + 1, .regain groups :: rest, index, _ =>
      reach subject thorough fuel rest index groups
  | fuel + 1, .meet regex :: rest, index, groups =>
      let either (first second : Unit → Option (Nat × Groups)) : Option (Nat × Groups) :=
        if thorough then longer (first ()) (second ())
        else
          match first () with
          | some found => some found
          | none => second ()
      let take (holds : Char → Bool) : Option (Nat × Groups) :=
        match subject.chars[index]? with
        | some char =>
            if holds char then reach subject thorough fuel rest (index + 1) groups else none
        | none => none
      let onlyIf (condition : Bool) : Option (Nat × Groups) :=
        if condition then reach subject thorough fuel rest index groups else none
      let before := if index = 0 then false else isWordChar subject.chars[index - 1]?
      let after := isWordChar subject.chars[index]?
      match regex with
      | .empty => reach subject thorough fuel rest index groups
      | .letter char => take (subject.same char)
      | .any => take fun _ => true
      | .oneOf bracket => take (subject.inBracket bracket)
      | .lineStart =>
          onlyIf (index = 0 || (subject.hasLines && subject.chars[index - 1]? == some '\n'))
      | .lineEnd =>
          onlyIf (index = subject.chars.size ||
            (subject.hasLines && subject.chars[index]? == some '\n'))
      | .wordEdge front back => onlyIf ((front && !before && after) || (back && before && !after))
      | .notEdge => onlyIf (before == after)
      | .apart isBefore => onlyIf (if isBefore then !before else !after)
      | .sequence first second =>
          reach subject thorough fuel (.meet first :: .meet second :: rest) index groups
      | .choice first second =>
          either (fun _ => reach subject thorough fuel (.meet first :: rest) index groups)
            (fun _ => reach subject thorough fuel (.meet second :: rest) index groups)
      | .group number body =>
          reach subject thorough fuel (.meet body :: .close number index :: rest) index groups
      | .again number =>
          match List.lookup number groups with
          | none => none
          | some (start, stop) =>
              let text := subject.slice start stop
              if subject.standsAt index text then
                reach subject thorough fuel rest (index + text.length) groups
              else none
      | .repeated body (least + 1) most =>
          reach subject thorough fuel
            (.meet body :: .meet (.repeated body least (most.map (· - 1))) :: rest) index groups
      | .repeated body 0 most =>
          if most = some 0 then reach subject thorough fuel rest index groups
          else
            either
              (fun _ => reach subject thorough fuel
                (.meet body :: .beyond index ::
                  .meet (.repeated body 0 (most.map (· - 1))) :: rest) index groups)
              (fun _ => reach subject thorough fuel rest index groups)
      | .lazily body (least + 1) most =>
          reach subject thorough fuel
            (.meet body :: .meet (.lazily body least (most.map (· - 1))) :: rest) index groups
      | .lazily body 0 most =>
          if most = some 0 then reach subject thorough fuel rest index groups
          else
            either (fun _ => reach subject thorough fuel rest index groups)
              (fun _ => reach subject thorough fuel
                (.meet body :: .beyond index ::
                  .meet (.lazily body 0 (most.map (· - 1))) :: rest) index groups)
      | .look isAhead isThere body =>
          let found? := if isAhead then reach subject thorough fuel [.meet body] index groups
            else (List.range (index + 1)).findSome? fun back =>
              reach subject thorough fuel [.meet body, .here index] (index - back) groups
          match found?, isThere with
          | some (_, groups), true => reach subject thorough fuel rest index groups
          | none, false => reach subject thorough fuel rest index groups
          | _, _ => none
      | .atomic body =>
          match reach subject thorough fuel [.meet body] index groups with
          | none => none
          | some (stop, groups) => reach subject thorough fuel rest stop groups
      | .restart =>
          reach subject thorough fuel rest index
            ((0, index, index) :: groups.filter fun entry => entry.1 ≠ 0)
      | .call number =>
          match if number = 0 then some subject.whole else subject.whole.bodyOf? number with
          | none => none
          | some body =>
              reach subject thorough fuel (.meet body :: .regain groups :: rest) index groups
      | .given number yes no =>
          reach subject thorough fuel
            (.meet (if (List.lookup number groups).isSome then yes else no) :: rest) index groups

def matchAt? (regex : Regex) (subject : Subject) (index : Nat) : Option Match :=
  (reach subject (!subject.takesFirst && regex.hasChoice) supply [.meet regex] index []).map
    fun (stop, groups) => ⟨((List.lookup 0 groups).getD (index, index)).1, stop, groups⟩

/-- The first match from an index on, among so many starts. -/
def searchFrom (regex : Regex) (subject : Subject) : Nat → Nat → Option Match
  | 0, _ => none
  | count + 1, index =>
      match regex.matchAt? subject index with
      | some found => some found
      | none => searchFrom regex subject count (index + 1)

def search? (regex : Regex) (subject : Subject) (index : Nat) : Option Match :=
  if subject.chars.size < index then none
  else searchFrom regex subject (subject.chars.size + 1 - index) index

/-- The text of a group of a match; the whole match for 0. -/
def Match.group (found : Match) (subject : Subject) (number : Nat) : List Char :=
  if number = 0 then subject.slice found.start found.stop
  else
    match List.lookup number found.groups with
    | some (start, stop) => subject.slice start stop
    | none => []

end Regex

end FolderScript.Shell
