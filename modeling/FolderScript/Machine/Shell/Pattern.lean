/-
Patterns: a star stands for any text, a question mark for any character, and a
bracket for the characters in it.  A quoted character stands for itself.
-/
import FolderScript.Host.FileSystem
import FolderScript.Machine.Shell.CharClass
import FolderScript.Machine.Shell.Script

namespace FolderScript.Shell

/-- A character of a pattern, and whether it was quoted. -/
abbrev Glyph := Char × Bool

namespace Pattern

/-- Whether a character of a pattern has a meaning of its own. -/
def isSpecial (glyph : Glyph) : Bool := !glyph.2 && "*?[".toList.contains glyph.1

/-- How a pattern compares with a text. -/
inductive Verdict where
  | fits
  /-- It does not fit, but might fit a later part of the text. -/
  | differs
  /-- The text is too short, and so is every later part of it. -/
  | lacks
  deriving DecidableEq, Repr

/-- Compares a pattern with a text.  A star that has found no place for what follows it
ends the search, as a star before it could not do better. -/
def compare : Nat → List Glyph → Text → Verdict
  | 0, _, _ => .lacks
  | _ + 1, [], text => if text.isEmpty then .fits else .differs
  | fuel + 1, ('*', false) :: rest, text =>
      match compare fuel rest text, text with
      | .differs, _ :: more => compare fuel (('*', false) :: rest) more
      | .differs, [] => .lacks
      | verdict, _ => verdict
  | fuel + 1, ('?', false) :: rest, _ :: more => compare fuel rest more
  | fuel + 1, ('[', false) :: rest, char :: more =>
      match Bracket.read? rest with
      | some (bracket, after) =>
          if bracket.holds char then compare fuel after more else .differs
      | none => if char = '[' then compare fuel rest more else .differs
  | fuel + 1, (expected, _) :: rest, char :: more =>
      if char = expected then compare fuel rest more else .differs
  | _ + 1, _ :: _, [] => .lacks

/-- The pattern with what backslashes stand in front of as if it were quoted. -/
def unescaped : List Glyph → List Glyph
  | ('\\', false) :: (char, _) :: rest => (char, true) :: unescaped rest
  | [('\\', false)] => [('\\', true)]
  | glyph :: rest => glyph :: unescaped rest
  | [] => []

def holds (pattern : List Glyph) (text : Text) : Bool :=
  compare (pattern.length + text.length + 1) (unescaped pattern) text = .fits

/-- The text without the part at an end that a pattern stands for. -/
def cut (atFront longest : Bool) (pattern : List Glyph) (text : Text) : Text :=
  let lengths := List.range (text.length + 1)
  let order := if longest then lengths.reverse else lengths
  let fits (length : Nat) : Bool :=
    if atFront then holds pattern (text.take length)
    else holds pattern (text.drop (text.length - length))
  match order.find? fits with
  | none => text
  | some length =>
      if atFront then text.drop length else text.take (text.length - length)

/-- The texts of a list without a part at an end that a pattern stands for.  Only the
first text has a front; from the back, all texts after the one that is cut go. -/
def cutAll (atFront longest : Bool) (pattern : List Glyph) (texts : List Text) : List Text :=
  match texts, atFront, longest with
  | [], _, _ => []
  | first :: rest, true, false => cut true false pattern first :: rest
  | first :: rest, true, true =>
      if holds pattern first then [[]] else cut true true pattern first :: rest
  | first :: rest, false, true =>
      if (List.range (first.length + 1)).any fun length => holds pattern (first.drop length) then
        [cut false true pattern first]
      else first :: rest
  | texts, false, false =>
      let isCut (text : Text) : Bool :=
        (List.range (text.length + 1)).any fun length => holds pattern (text.drop length)
      let kept := (texts.reverse.dropWhile fun text => !isCut text).reverse
      match kept.getLast? with
      | none => texts
      | some last => kept.dropLast ++ [cut false false pattern last]

/-- Whether a text comes before another, by bytes. -/
def notAfter (left right : Text) : Bool := !decide (right < left)

/-- Cuts a pattern at separators. -/
def splitGlyphs : List Glyph → List (List Glyph)
  | [] => [[]]
  | glyph :: rest =>
      match splitGlyphs rest with
      | [] => [[glyph]]
      | part :: parts =>
          if glyph.1 = '/' then [] :: part :: parts else (glyph :: part) :: parts

/-- The directory that a path names, seen from a directory, if it may be searched. -/
def directoryAt (files : FileSystem) (position : Position) (path : Text) : Option Position :=
  match files.nodeAt false position ⟨Text.toBytes path⟩ with
  | .ok (position, node) => if node.entry = .directory then some position else none
  | .error _ => none

/-- How paths are looked for that fit a pattern. -/
structure Search where
  fits : List Glyph → Text → Bool := holds
  /-- Whether a segment stands for more than itself. -/
  isWild : List Glyph → Bool := fun segment => segment.any isSpecial
  /-- Whether hidden names are found by patterns that do not start with a dot. -/
  takesHidden : Bool := false
  /-- Whether two stars stand for any number of directories. -/
  goesDeep : Bool := false

/-- The directories below a position that are not hidden, with their paths from it, so
many levels deep. -/
def foldersBelow (files : FileSystem) : Nat → Position → Text → List (Position × Text)
  | 0, _, _ => []
  | depth + 1, position, written =>
      let names := ((files.names position).map Text.ofBytes).filter fun name =>
        name.head? ≠ some '.'
      (names.mergeSort notAfter).flatMap fun name =>
        let place := position ++ [Text.toBytes name]
        if files.get? place = some .directory then
          (place, written ++ name ++ ['/']) ::
            foldersBelow files depth place (written ++ name ++ ['/'])
        else []

/-- How deep directories are looked through. -/
def deepestFolder : Nat := 64

/-- The paths that a pattern of several segments stands for.  `written` is the path
so far as it was written. -/
def expandFrom (search : Search) (files : FileSystem) (position : Position) (written : Text) :
    List (List Glyph) → List Text
  | [] => []
  | segment :: rest =>
      let plain := segment.map Prod.fst
      let readable := ((files.node? position).getD .root).allows Node.toRead
      let found (position : Position) (segment : List Glyph) : List Text :=
        if search.isWild segment then
          if !readable then []
          else ((files.names position).map Text.ofBytes).filter fun name =>
            (name.head? ≠ some '.' || plain.head? = some '.' || search.takesHidden) &&
              search.fits segment name
        else if plain = [] || plain = ['.'] || plain = ['.', '.'] then [plain]
        else if (files.get? (position ++ [Text.toBytes plain])).isSome then [plain]
        else []
      if search.goesDeep && segment = [('*', false), ('*', false)] then
        let folders := (position, written) ::
          foldersBelow files deepestFolder position written
        folders.flatMap fun (place, written) =>
          match rest with
          | [] => (if written = [] then [] else [written]) ++
              ((found place [('*', false)]).filter fun name =>
                files.get? (place ++ [Text.toBytes name]) ≠ some .directory).map (written ++ ·)
          | _ => expandFrom search files place written rest
      else
      ((found position segment).mergeSort notAfter).flatMap fun name =>
        match rest with
        | [] => [written ++ name]
        | _ =>
            match directoryAt files position (if name = [] then ['.'] else name) with
            | some place => expandFrom search files place (written ++ name ++ ['/']) rest
            | none => []

/-- Whether a part of a pattern stands for more than itself: an opening bracket does
only where a closing one follows. -/
def isPattern : List Glyph → Bool
  | [] => false
  | glyph :: rest =>
      if isSpecial glyph then
        glyph.1 ≠ '[' || rest.any (fun other => other.1 = ']') || isPattern rest
      else isPattern rest

def pathsOf? (search : Search) (files : FileSystem) (directory : Position) (word : List Glyph) :
    Option (List Text) :=
  let pattern := unescaped word
  if !isPattern pattern && !search.isWild pattern then none
  else
    let found := match pattern with
      | ('/', _) :: rest => expandFrom search files [] ['/'] (splitGlyphs rest)
      | _ => expandFrom search files directory [] (splitGlyphs pattern)
    some (if search.goesDeep then found.mergeSort notAfter else found)

/-- The fields that a word stands for: the paths that fit, or the word itself. -/
def expand (files : FileSystem) (directory : Position) (word : List Glyph) : List Text :=
  let plain := word.map Prod.fst
  match if isPattern (unescaped word) then pathsOf? {} files directory word else none with
  | none | some [] => [plain]
  | some found => found

end Pattern

end FolderScript.Shell
