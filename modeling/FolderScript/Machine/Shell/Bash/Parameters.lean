/-
Parameters of the large shell language: what they hold, and what is done with it.
-/
import FolderScript.Machine.Shell.Bash.Declare
import FolderScript.Machine.Shell.Fields

namespace FolderScript.Shell

/-- What a parameter holds. -/
inductive Content where
  | missing
  | one (text : Text)
  /-- Several values, to be put together or kept apart. -/
  | several (values : List Text) (asOne : Bool)
  deriving DecidableEq, Repr

namespace Content

def values : Content → List Text
  | .missing => []
  | .one text => [text]
  | .several values _ => values

def text (content : Content) : Text := Text.join [' '] content.values

/-- Whether there is a value; an empty one may count as none. -/
def isPresent (emptyToo : Bool) (content : Content) : Bool :=
  content.values ≠ [] && !(emptyToo && content.text = [])

/-- Applies a change to every value. -/
def map (change : Text → Text) : Content → Content
  | .missing => .missing
  | .one text => .one (change text)
  | .several values asOne => .several (values.map change) asOne

/-- The number of values is kept by a change of each. -/
theorem length_values_map (change : Text → Text) (content : Content) :
    (content.map change).values.length = content.values.length := by
  cases content with
  | missing => rfl
  | one text => rfl
  | several values asOne => exact List.length_map ..

def pieces (state : State) (quoted : Bool) : Content → List Piece
  | .missing => []
  | .one text => Piece.result text quoted
  | .several values asOne =>
      if quoted && asOne then
        Piece.result (Text.join ((Piece.separators state).take 1) values) true
      else Piece.arguments values quoted

end Content

namespace Bash

/-- The letters of the options that are set. -/
def shownOptions (state : State) : Text :=
  (optionOrder.filter state.has) ++ (if state.isString then ['c'] else []) ++
    (if state.has 's' then ['s'] else [])

/-- The value of a parameter that is no list. -/
def plainValue? (state : State) (name : Text) : Option Text :=
  match name with
  | ['-'] => some (shownOptions state)
  | ['#'] | ['?'] | ['$'] | ['!'] | ['0'] | ['@'] | ['*'] => state.parameter? name
  | _ =>
      if name.head?.any Char.isDigit then state.parameter? name
      else
        let (target, key) := State.nameAndKey (state.targetOf State.longestChain name)
        match key with
        | some key => state.element? target key
        | none => state.scalar? target

/-- The values of a variable, by itself or several. -/
def allValues (state : State) (name : Text) : List Text :=
  let name := state.targetOf State.longestChain name
  match state.store? name with
  | some store => store.values
  | none => (state.scalar? name).toList

/-- The keys of the values of a variable. -/
def allKeys (state : State) (name : Text) : List Text :=
  let name := state.targetOf State.longestChain name
  match state.store? name with
  | some store => store.keys
  | none => if (state.scalar? name).isSome then [['0']] else []

/-- A letter in the case that is wanted, or in the other one. -/
def recased (toCapital : Option Bool) (char : Char) : Char :=
  match toCapital with
  | some true => char.toUpper
  | some false => char.toLower
  | none => if char.isLower then char.toUpper else char.toLower

/-- A text with its first letter, or all letters, that fit in another case. -/
def recase (toCapital : Option Bool) (all : Bool) (fits : Char → Bool) (text : Text) : Text :=
  let changed (char : Char) : Char := if fits char then recased toCapital char else char
  if all then text.map changed
  else
    match text with
    | [] => []
    | first :: rest => changed first :: rest

/-- A part of some items by numbers: where it starts, counted from the back if negative,
and how long it is, or how far from the back it ends if negative.  The error is the length
that makes no sense. -/
def slice {α : Type} (start : Int) (length : Option Int) (mayEndBack : Bool) (items : List α) :
    Except Int (List α) :=
  let count : Int := items.length
  let first := if start < 0 then count + start else start
  if first < 0 ∨ count < first then .ok []
  else
    let rest := items.drop first.toNat
    match length with
    | none => .ok rest
    | some length =>
        if length < 0 then
          if !mayEndBack ∨ count + length < first then .error length
          else .ok (rest.take (count + length - first).toNat)
        else .ok (rest.take length.toNat)

def traitLetters (state : State) (name : Text) : Text :=
  match state.known? (state.targetOf State.longestChain name) with
  | some known => shownTraits state known
  | none => []

/-- A value as an assignment that gives it back. -/
def assignmentText (state : State) (name : Text) (content : Content) : Text :=
  let traits := traitLetters state name
  let front := if traits = [] then [] else "declare -".toList ++ traits ++ [' ']
  match content, state.store? name with
  | .several _ _, some store => front ++ name ++ '=' :: shownStore store
  | _, _ => front ++ name ++ '=' :: Quoted.always content.text

/-- The value of a parameter in another form. -/
def formed (state : State) (name : Text) (letter : Char) (content : Content) : Content :=
  match letter with
  | 'Q' => content.map Quoted.always
  | 'E' => content.map Quoted.unescape
  | 'U' => content.map (recase (some true) true fun _ => true)
  | 'L' => content.map (recase (some false) true fun _ => true)
  | 'u' => content.map (recase (some true) false fun _ => true)
  | 'a' =>
      match content with
      | .several values asOne => .several (values.map fun _ => traitLetters state name) asOne
      | _ => if (state.known? name).isSome then .one (traitLetters state name) else .missing
  | 'A' =>
      match content with
      | .missing => .missing
      | _ => .one (assignmentText state name content)
  | 'K' | 'k' =>
      match content, state.store? name with
      | .several values asOne, some store =>
          if letter = 'K' then
            .several [Text.join [' '] (store.entries.map fun (key, value) =>
              shownKey key ++ ' ' :: Quoted.double value)] asOne
          else .several (store.entries.flatMap fun (key, value) => [key, value])
            (asOne && values.length = 0)
      | _, _ => content.map Quoted.always
  | _ => content

/-- How patterns are compared where they are not paths. -/
def manner (state : State) (hasGroups : Bool) : Wild.Manner :=
  ⟨hasGroups || state.isSetting "extglob", state.isSetting "nocasematch"⟩

end Bash

namespace State

/-- Gives up the line of the script that is at hand, with a complaint. -/
def drops (state : State) (message : Text) : Flow × State :=
  (.dropped, (state.complain message).withStatus 1)

/-- Ends the shell for want of a value, with a complaint. -/
def lacks (state : State) (message : Text) : Flow × State :=
  let status := if state.isString && state.subshells = 0 then 127 else 1
  (.exit status, (state.complain message).withStatus status)

end State

end FolderScript.Shell
