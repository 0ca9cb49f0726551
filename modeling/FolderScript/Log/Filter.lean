/-
Which log events are shown.  A filter is a list of directives, each a level for
everything or for the parts whose name starts with a target, and possibly only
for events with certain fields; the most specific directive that concerns an
event decides.
-/
import FolderScript.Log
import FolderScript.Log.Pattern
import FolderScript.Text.Blank
import FolderScript.Text.Utf8

namespace FolderScript

/-- The most verbose level shown; `none` shows nothing. -/
abbrev Threshold := Option Level

def Threshold.allows (threshold : Threshold) (level : Level) : Bool :=
  match threshold with
  | none => false
  | some most => level.rank ≤ most.rank

def Threshold.ofNumber? : Nat → Option Threshold
  | 0 => some none
  | 1 => some (some .error)
  | 2 => some (some .warn)
  | 3 => some (some .info)
  | 4 => some (some .debug)
  | 5 => some (some .trace)
  | _ => none

/-- Reads a level by number or by name in any case. -/
def Threshold.parse? (text : String) : Option Threshold :=
  let chars := match text.toList with
    | '+' :: rest => rest
    | chars => chars
  let number? :=
    if chars ≠ [] ∧ chars.all Char.isDigit then
      Threshold.ofNumber? (Nat.ofDigitChars 10 chars 0)
    else none
  match number? with
  | some threshold => some threshold
  | none =>
      match text.toLower with
      | "error" => some (some .error)
      | "warn" => some (some .warn)
      | "info" => some (some .info)
      | "debug" => some (some .debug)
      | "trace" => some (some .trace)
      | "off" => some none
      | _ => none

/-- A level for the events of one target, or of all, that have certain fields. -/
structure Directive where
  target : Option String
  fields : List String
  threshold : Threshold
  deriving DecidableEq, Repr

namespace Directive

/-- The level after an equals sign; none given means all. -/
def level? (text : String) : Option Threshold :=
  if text.isEmpty then some (some .trace) else Threshold.parse? text

/-- A field as a directive asks for it: by name, or by name and value. -/
structure Asked where
  name : String
  hasValue : Bool
  deriving DecidableEq, Repr

/-- Reads what is asked of a field; what stands after a second equals sign does
not count. -/
def Asked.parse? (text : String) : Option Asked :=
  let chars := text.toList
  let name := chars.takeWhile (· ≠ '=')
  match chars.drop name.length with
  | [] => if name.isEmpty then none else some ⟨text, false⟩
  | _ :: value =>
      if LogPattern.wellFormed (value.takeWhile (· ≠ '=')) then
        some ⟨String.ofList name, true⟩
      else none

/-- What a reader of a directive is in the middle of, with the position where
that began. -/
inductive Stage where
  | start
  | word
  | span (first : Nat)
  | field (first : Nat)
  | fields
  | closed
  | level (first : Nat)
  deriving DecidableEq, Repr

/-- What has been read of a directive. -/
structure Draft where
  stage : Stage := .start
  target : Option String := none
  /-- Whether the directive is about events inside a span. -/
  inSpan : Bool := false
  asked : List Asked := []
  deriving DecidableEq, Repr

/-- Whether a directive may begin with the character. -/
def startsWell (char : Char) : Bool :=
  isAlphanumeric char || char == '-' || char == ':' || char == '_'

/-- Takes one character at a position.  Blanks around the directive are passed
over, but positions are looked up in the text with them. -/
def Draft.step (text : Bytes) (draft : Draft) (position : Nat) (char : Char) :
    Option Draft :=
  let since (first : Nat) : String :=
    Utf8.lossy ((text.take position).drop first)
  match draft.stage with
  | .start =>
      if char = '[' then some { draft with stage := .span (position + 1) }
      else if startsWell char then some { draft with stage := .word }
      else none
  | .word =>
      if char = '=' then
        some { draft with stage := .level (position + 1), target := some (since 0) }
      else if char = '[' then
        some { draft with stage := .span (position + 1), target := some (since 0) }
      else some draft
  | .span first =>
      if char = ']' then some { draft with stage := .closed, inSpan := true }
      else if char = '\x7b' then
        some { draft with stage := .field (position + 1), inSpan := first < position }
      else some draft
  | .field first =>
      if char = '\x7d' then
        (Asked.parse? (since first)).map fun asked =>
          { draft with stage := .fields, asked := draft.asked ++ [asked] }
      else some draft
  | .fields => if char = ']' then some { draft with stage := .closed } else none
  | .closed =>
      if char = '=' then some { draft with stage := .level (position + 1) } else none
  | .level _ => some draft

/-- Takes all characters from a position on. -/
def Draft.steps (text : Bytes) (draft : Draft) (position : Nat) :
    List Char → Option Draft
  | [] => some draft
  | char :: rest => do
      let draft ← draft.step text position char
      draft.steps text (position + char.utf8Size) rest

/-- The directive for events that a finished draft makes, if it makes one: a
directive about spans or about the values of fields shows no event. -/
def Draft.finish (text : Bytes) (draft : Draft) : Option (List Directive) :=
  let made (target : Option String) (threshold : Threshold) : List Directive :=
    if draft.inSpan || draft.asked.any Asked.hasValue then []
    else [⟨target, draft.asked.map Asked.name, threshold⟩]
  match draft.stage with
  | .word =>
      let word := Utf8.lossy text
      match Threshold.parse? word with
      | some threshold => some (made none threshold)
      | none => some (made (some word) (some .trace))
  | .level first =>
      (level? (Utf8.lossy (text.drop first))).map (made draft.target)
  | .closed => some (made draft.target (some .trace))
  | _ => none

/-- A list without the blanks on either side. -/
def trimmed (text : List Char) : List Char :=
  ((text.dropWhile isBlank).reverse.dropWhile isBlank).reverse

/-- Reads one directive: a level, or a target, a span and fields with or
without a level. -/
def parse? (text : List Char) : Option (List Directive) :=
  let bytes := Utf8.encode (String.ofList text)
  (Draft.steps bytes {} 0 (trimmed text)).bind (Draft.finish bytes)

def eventFields : List String := ["message"]

def concerns (directive : Directive) (origin : Origin) : Bool :=
  directive.fields.all eventFields.contains &&
    match directive.target with
    | none => true
    | some target => target.toList.isPrefixOf origin.target.toList

/-- How specific a directive is: first by its target, 0 for none, then by its
fields. -/
def specificity (directive : Directive) : Nat × Nat :=
  (match directive.target with
    | none => 0
    | some target => target.toList.length + 1, directive.fields.length)

/-- Whether a directive is at least as specific as another. -/
def overrules (directive other : Directive) : Bool :=
  other.specificity.1 < directive.specificity.1 ||
    (other.specificity.1 == directive.specificity.1 &&
      other.specificity.2 ≤ directive.specificity.2)

end Directive

/-- A log filter; of two directives for the same events the later counts. -/
structure LogFilter where
  directives : List Directive
  deriving DecidableEq, Repr

namespace LogFilter

def upTo (level : Level) : LogFilter := ⟨[⟨none, [], some level⟩]⟩

def splitCommas : List Char → List (List Char)
  | [] => [[]]
  | char :: rest =>
      if char = ',' then [] :: splitCommas rest
      else
        match splitCommas rest with
        | [] => [[char]]
        | part :: parts => (char :: part) :: parts

/-- Reads a comma-separated filter; empty parts are skipped. -/
def parse? (text : String) : Option LogFilter :=
  let parts := (splitCommas text.toList).filter fun part => !part.isEmpty
  (parts.mapM Directive.parse?).map fun directives => ⟨directives.flatten⟩

/-- The directive that decides about a part: the most specific, the last of
equals. -/
def deciding? (filter : LogFilter) (origin : Origin) : Option Directive :=
  (filter.directives.filter fun directive => directive.concerns origin).foldl
    (fun best directive =>
      match best with
      | none => some directive
      | some other =>
          if directive.overrules other then some directive else best)
    none

def shows (filter : LogFilter) (event : LogEvent) : Bool :=
  match filter.deciding? event.origin with
  | none => false
  | some directive => directive.threshold.allows event.level

end LogFilter

end FolderScript
