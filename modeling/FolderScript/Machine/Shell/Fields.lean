/-
From expanded words to fields: unquoted results are cut at blanks, and every
field may stand for the paths that fit it.
-/
import FolderScript.Machine.Shell.Bash.Patterns
import FolderScript.Machine.Shell.Bash.Values

namespace FolderScript.Shell

/-- A piece of an expanded word. -/
inductive Piece where
  /-- A character; one that comes from an unquoted expansion may cut the word. -/
  | letter (char : Char) (quoted cuts : Bool)
  /-- The end of one argument and the start of the next. -/
  | boundary
  /-- A quoted text, which makes a field even if it is empty. -/
  | presence
  deriving DecidableEq, Repr

namespace Piece

def literal (text : Text) (quoted : Bool) : List Piece :=
  if text = [] then (if quoted then [.presence] else [])
  else text.map fun char => .letter char quoted false

def result (text : Text) (quoted : Bool) : List Piece :=
  text.map fun char => .letter char quoted (!quoted)

/-- The results of several arguments. -/
def arguments (texts : List Text) (quoted : Bool) : List Piece :=
  (List.intercalate [[Piece.boundary]] (texts.map fun text =>
    [if quoted then Piece.presence :: result text quoted else result text quoted])).flatten

/-- The characters, without their quoting. -/
def plain (pieces : List Piece) : Text :=
  pieces.filterMap fun piece =>
    match piece with
    | .letter char _ _ => some char
    | .boundary => some ' '
    | .presence => none

/-- The characters with their quoting, for a pattern. -/
def glyphs (pieces : List Piece) : List Glyph :=
  pieces.filterMap fun piece =>
    match piece with
    | .letter char quoted _ => some (char, quoted)
    | _ => none

/-- Whether a separator counts as a blank. -/
def isGap (char : Char) : Bool := char == ' ' || char == '\t' || char == '\n'

/-- Collects fields; `current` is the field at hand, last character first.  A blank
separator that has ended a field takes one other separator along, and so does not
make an empty field; `ended` tells that this has just happened. -/
def collect (separators : Text) :
    Option (List Glyph) → Bool → List Piece → List (List Glyph)
  | current, _, [] => (current.map List.reverse).toList
  | current, _, .boundary :: rest =>
      (current.map List.reverse).toList ++ collect separators none false rest
  | current, _, .presence :: rest =>
      collect separators (some (current.getD [])) false rest
  | current, ended, .letter char quoted cuts :: rest =>
      if cuts && separators.contains char then
        if isGap char then
          match current with
          | none => collect separators none ended rest
          | some field => field.reverse :: collect separators none true rest
        else if ended then collect separators none false rest
        else (current.getD []).reverse :: collect separators none false rest
      else collect separators (some ((char, quoted) :: current.getD [])) false rest

/-- The characters that cut unquoted results. -/
def separators (state : State) : Text :=
  (state.value? "IFS".toList).getD [' ', '\t', '\n']

/-- How the large language reads the patterns of paths. -/
def largeSearch (state : State) : Pattern.Search :=
  let manner : Wild.Manner := ⟨state.isSetting "extglob", state.isSetting "nocaseglob"⟩
  { fits := Wild.holds manner
    isWild := fun segment => Pattern.isPattern segment || (manner.hasGroups && Wild.hasGroup segment)
    takesHidden := state.isSetting "dotglob"
    goesDeep := state.isSetting "globstar" }

def largePaths (state : State) (field : List Glyph) : List Text :=
  let search := largeSearch state
  match if search.isWild (Pattern.unescaped field) then
      Pattern.pathsOf? search state.world.files state.directory field
    else none with
  | none => [field.map Prod.fst]
  | some [] => if state.isSetting "nullglob" then [] else [field.map Prod.fst]
  | some found => found

def fields (state : State) (pieces : List Piece) : List Text :=
  (collect (separators state) none false pieces).flatMap fun field =>
    if state.has 'f' then [field.map Prod.fst]
    else
      match state.dialect with
      | .dash => Pattern.expand state.world.files state.directory field
      | .bash => largePaths state field

/-- The first field of a word that is a pattern which no path fits. -/
def unmatched? (state : State) (pieces : List Piece) : Option Text :=
  let search := largeSearch state
  ((collect (separators state) none false pieces).find? fun field =>
    search.isWild (Pattern.unescaped field) &&
      Pattern.pathsOf? search state.world.files state.directory field = some []).map
        fun field => field.map Prod.fst

end Piece

def optionLetters : Text := "efIimnsxvVECabup".toList

/-- The value of a parameter that is no list of arguments. -/
def State.parameter? (state : State) (name : Text) : Option Text :=
  match name with
  | ['#'] => some (Text.ofNat state.arguments.length)
  | ['?'] => some (Text.ofNat state.status)
  | ['$'] => some (Text.ofNat state.shellNumber)
  | ['!'] => state.lastJob.map Text.ofNat
  | ['-'] => some (optionLetters.reverse.filter state.has)
  | ['0'] => some state.name
  | ['@'] | ['*'] => some (Text.join [' '] state.arguments)
  | _ =>
      match Text.toNat? name with
      | some (index + 1) => state.arguments[index]?
      | _ => state.value? name

/-- The home directory that a name after a tilde stands for. -/
def State.homeOf? (state : State) (name : Text) : Option Text :=
  if name = [] then state.value? "HOME".toList
  else if name = "root".toList then some "/root".toList
  else none

/-- The parts of a text that may start with a tilde for a home directory; `whole`
tells that nothing else belongs to the text. -/
def State.fromHome (state : State) (whole : Bool) (text : Text) : Word :=
  match text with
  | '~' :: rest =>
      let name := rest.takeWhile (· ≠ '/')
      match state.homeOf? name with
      | some home =>
          if name.length = rest.length ∧ !whole then [.literal text false]
          else [.literal home true, .literal (rest.drop name.length) false]
      | none => [.literal text false]
  | _ => [.literal text false]

/-- The word with a leading unquoted tilde replaced by a home directory. -/
def State.withHome (state : State) (word : Word) : Word :=
  match word with
  | .literal text false :: rest => state.fromHome rest.isEmpty text ++ rest
  | _ => word

def splitColons : Text → List Text
  | [] => [[]]
  | char :: rest =>
      match splitColons rest with
      | [] => [[char]]
      | part :: parts => if char = ':' then [char] :: part :: parts else (char :: part) :: parts

/-- The value of an assignment with the tildes at its start and after colons
replaced by home directories. -/
def State.withHomes (state : State) : Bool → Word → Word
  | _, [] => []
  | atStart, .literal text false :: rest =>
      let pieces := splitColons text
      let shown (isFirst : Bool) (piece : Text) (isLast : Bool) : Word :=
        if !isFirst || atStart then
          match piece.getLast? with
          | some ':' => state.fromHome true piece.dropLast ++ [.literal [':'] false]
          | _ => state.fromHome (!isLast || rest.isEmpty) piece
        else [.literal piece false]
      let words := (pieces.zipIdx).flatMap fun (piece, index) =>
        shown (index == 0) piece (index + 1 == pieces.length)
      words ++ state.withHomes (text.getLast? = some ':') rest
  | _, part :: rest => part :: state.withHomes false rest

end FolderScript.Shell
