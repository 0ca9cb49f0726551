/-
Patterns of the large shell language, which may have groups in them.  A pattern is
carried along a text as the set of places that it can have come to.
-/
import FolderScript.Machine.Shell.Pattern

namespace FolderScript.Shell

/-- A part of a pattern. -/
inductive Wild where
  | letter (char : Char)
  | any
  | star
  | oneOf (bracket : Bracket)
  /-- Branches, and the sign that tells how often one of them stands there. -/
  | group (sign : Char) (branches : List (List Wild))

namespace Wild

/-- How patterns are read and compared. -/
structure Manner where
  hasGroups : Bool := false
  ignoresCase : Bool := false
  deriving DecidableEq, Repr

/-- The signs in front of groups. -/
def signs : List Char := "?*+@!".toList

/-- The branches up to the bracket that closes a group, or up to the end of the text;
`current` is the branch at hand, last part first. -/
def branches (hasGroups : Bool) : Nat → Bool → List Wild → List Glyph →
    Option (List (List Wild) × List Glyph)
  | 0, _, _, _ => none
  | _ + 1, inGroup, current, [] => if inGroup then none else some ([current.reverse], [])
  | fuel + 1, inGroup, current, (char, quoted) :: rest =>
      let goesOn (part : Wild) (rest : List Glyph) : Option (List (List Wild) × List Glyph) :=
        branches hasGroups fuel inGroup (part :: current) rest
      if quoted then goesOn (.letter char) rest
      else if inGroup && char == ')' then some ([current.reverse], rest)
      else if inGroup && char == '|' then
        (branches hasGroups fuel true [] rest).map fun (more, after) =>
          (current.reverse :: more, after)
      else
        let inner? := match rest with
          | ('(', false) :: inside =>
              if hasGroups && signs.contains char then branches hasGroups fuel true [] inside
              else none
          | _ => none
        match inner?, char with
        | some (inner, after), _ => goesOn (.group char inner) after
        | none, '*' => goesOn .star rest
        | none, '?' => goesOn .any rest
        | none, '[' =>
            match Bracket.read? rest with
            | some (bracket, after) => goesOn (.oneOf bracket) after
            | none => goesOn (.letter '[') rest
        | none, _ => goesOn (.letter char) rest

def ofGlyphs (hasGroups : Bool) (pattern : List Glyph) : List Wild :=
  let glyphs := Pattern.unescaped pattern
  match branches hasGroups (glyphs.length + 2) false [] glyphs with
  | some ([whole], _) => whole
  | _ => glyphs.map fun glyph => .letter glyph.1

/-- Whether two characters are the same, or differ in their case only. -/
def isSame (ignoresCase : Bool) (left right : Char) : Bool :=
  left == right || (ignoresCase && left.toLower == right.toLower)

def isIn (ignoresCase : Bool) (bracket : Bracket) (char : Char) : Bool :=
  bracket.holds char ||
    (ignoresCase && (bracket.holds char.toLower || bracket.holds char.toUpper))

mutual

/-- The places after one part of a pattern. -/
def step (ignoresCase : Bool) (text : Array Char) : Nat → Wild → Nat → List Nat
  | 0, _, _ => []
  | fuel + 1, part, place =>
      let single (fits : Char → Bool) : List Nat :=
        if (text[place]?).any fits then [place + 1] else []
      match part with
      | .letter char => single (isSame ignoresCase char)
      | .any => single fun _ => true
      | .oneOf bracket => single (isIn ignoresCase bracket)
      | .star => (List.range (text.size + 1 - place)).map (place + ·)
      | .group sign inner =>
          let once (places : List Nat) : List Nat :=
            (inner.flatMap fun branch => walk ignoresCase text fuel branch places).eraseDups
          match sign with
          | '@' => once [place]
          | '?' => (place :: once [place]).eraseDups
          | '!' =>
              let taken := once [place]
              ((List.range (text.size + 1 - place)).map (place + ·)).filter
                fun other => !taken.contains other
          | _ =>
              let closed := (List.range (text.size + 1)).foldl
                (fun (found, fresh) _ =>
                  let further := (once fresh).filter fun other => !found.contains other
                  (found ++ further, further))
                (if sign == '*' then ([place], [place]) else (once [place], once [place]))
              closed.1

/-- The places after the parts of a pattern, from any of some places. -/
def walk (ignoresCase : Bool) (text : Array Char) : Nat → List Wild → List Nat → List Nat
  | 0, _, _ => []
  | _ + 1, [], places => places
  | fuel + 1, .star :: rest, places =>
      match places with
      | [] => []
      | first :: others =>
          let least := others.foldl min first
          walk ignoresCase text fuel rest
            ((List.range (text.size + 1 - least)).map (least + ·))
  | fuel + 1, part :: rest, places =>
      match places with
      | [place] => walk ignoresCase text fuel rest (step ignoresCase text fuel part place)
      | _ =>
          walk ignoresCase text fuel rest
            (places.flatMap (step ignoresCase text fuel part)).eraseDups

end

/-- A measure of a pattern that bounds how deep it is looked into. -/
def size : Nat → List Wild → Nat
  | 0, _ => 0
  | fuel + 1, parts => parts.foldl
      (fun total part => total + 2 + match part with
        | .group _ inner => inner.foldl (fun most branch => most + size fuel branch) 0
        | _ => 0)
      1

/-- How deep groups may be nested. -/
def deepest : Nat := 64

def endsFrom (ignoresCase : Bool) (parts : List Wild) (text : Array Char) (place : Nat) :
    List Nat :=
  walk ignoresCase text (size deepest parts + 2) parts [place]

def holds (manner : Manner) (pattern : List Glyph) (text : Text) : Bool :=
  (endsFrom manner.ignoresCase (ofGlyphs manner.hasGroups pattern) text.toArray 0).contains
    text.length

def greatest? (numbers : List Nat) : Option Nat := numbers.foldl
  (fun best number => some (best.elim number (max number))) none

def least? (numbers : List Nat) : Option Nat := numbers.foldl
  (fun best number => some (best.elim number (min number))) none

/-- The text without the part at an end that a pattern stands for. -/
def cut (manner : Manner) (atFront longest : Bool) (pattern : List Glyph) (text : Text) : Text :=
  let parts := ofGlyphs manner.hasGroups pattern
  let array := text.toArray
  let ends (place : Nat) : List Nat := endsFrom manner.ignoresCase parts array place
  if atFront then
    match if longest then greatest? (ends 0) else least? (ends 0) with
    | some place => text.drop place
    | none => text
  else
    let starts := List.range (text.length + 1)
    let order := if longest then starts else starts.reverse
    match order.find? fun place => (ends place).contains text.length with
    | some place => text.take place
    | none => text

/-- What stands in for a part of a text that fits: the characters of a replacement, of
which a bare one may stand for the part itself. -/
def standIn (isMarked : Bool) (replacement : List Glyph) (part : Text) : Text :=
  let rec go : List Glyph → Text
    | [] => []
    | ('\\', false) :: ('&', false) :: rest =>
        if isMarked then '&' :: go rest else '\\' :: '&' :: go rest
    | ('&', false) :: rest => (if isMarked then part else ['&']) ++ go rest
    | (char, _) :: rest => char :: go rest
  go replacement

/-- Exchanges the parts of a text that fit, from a place on: all of them, or only the
first. -/
def exchangeFrom (parts : List Wild) (ignoresCase isMarked all : Bool)
    (replacement : List Glyph) (text : Array Char) : Nat → Nat → Text
  | 0, _ => []
  | fuel + 1, place =>
      if text.size ≤ place then []
      else
        match greatest? ((endsFrom ignoresCase parts text place).filter (place < ·)) with
        | some stop =>
            let part := (text.extract place stop).toList
            standIn isMarked replacement part ++
              (if all then exchangeFrom parts ignoresCase isMarked all replacement text fuel stop
                else (text.extract stop text.size).toList)
        | none =>
            (text[place]?).toList ++
              exchangeFrom parts ignoresCase isMarked all replacement text fuel (place + 1)

def exchange (manner : Manner) (isMarked : Bool) (place : Exchange) (pattern : List Glyph)
    (replacement : List Glyph) (text : Text) : Text :=
  let parts := ofGlyphs manner.hasGroups pattern
  let array := text.toArray
  match place with
  | .first | .all =>
      if pattern = [] then text
      else exchangeFrom parts manner.ignoresCase isMarked (place == .all) replacement array
        (text.length + 1) 0
  | .front =>
      match greatest? (endsFrom manner.ignoresCase parts array 0) with
      | some stop => standIn isMarked replacement (text.take stop) ++ text.drop stop
      | none => text
  | .back =>
      let starts := List.range (text.length + 1)
      match starts.find? fun start =>
        (endsFrom manner.ignoresCase parts array start).contains text.length with
      | some start => text.take start ++ standIn isMarked replacement (text.drop start)
      | none => text

def hasGroup : List Glyph → Bool
  | (sign, false) :: ('(', false) :: rest => signs.contains sign || hasGroup rest
  | _ :: rest => hasGroup rest
  | [] => false

/-- The empty pattern leaves every place as it is. -/
theorem walk_nil (ignoresCase : Bool) (text : Array Char) (fuel : Nat) (places : List Nat) :
    walk ignoresCase text (fuel + 1) [] places = places := rfl

end Wild

end FolderScript.Shell
