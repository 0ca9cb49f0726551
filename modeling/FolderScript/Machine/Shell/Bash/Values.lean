/-
Variables of the large shell language: values by numbers and keys, variables that
stand for others, and variables that the shell itself keeps.
-/
import FolderScript.Machine.Shell.Bash.Printed
import FolderScript.Machine.Shell.State

namespace FolderScript.Shell

namespace State

def known? (state : State) (name : Text) : Option Variable :=
  state.bindings.find? fun known => known.name = name

/-- How many variables may stand for each other in turn. -/
def longestChain : Nat := 8

/-- The name of the variable that a name stands for. -/
def targetOf (state : State) : Nat → Text → Text
  | 0, name => name
  | most + 1, name =>
      match state.known? name with
      | some known =>
          if known.traits.contains 'n' && known.isSet && known.value ≠ [] then
            state.targetOf most known.value
          else name
      | none => name

/-- The name and the key that a text between brackets or without them spells. -/
def nameAndKey (text : Text) : Text × Option Text :=
  let name := text.takeWhile (· ≠ '[')
  match text.drop name.length with
  | '[' :: rest =>
      if rest.getLast? = some ']' then (name, some rest.dropLast) else (text, none)
  | _ => (text, none)

/-- The values that the shell keeps by itself under a name. -/
def kept? (state : State) (name : Text) : Option Store :=
  let one (text : Text) : Option Store := some (Store.ofList [text])
  match String.ofList name with
  | "LINENO" => one (Text.ofNat state.line)
  | "SECONDS" => one (Text.ofNat (state.clock / 1000000))
  | "BASHPID" => one (Text.ofNat state.number)
  | "BASH_SUBSHELL" => one (Text.ofNat state.subshells)
  | "EPOCHSECONDS" => one (Text.ofInt (momentOf state.clock / 1000000))
  | "RANDOM" => one (Text.ofNat (state.world.work * 7919 % 32768))
  | "PIPESTATUS" =>
      if state.stageStatuses = [] then none
      else some (Store.ofList (state.stageStatuses.map Text.ofNat))
  | "FUNCNAME" =>
      if state.callNames = [] then none
      else some (Store.ofList (state.callNames ++ (if state.isString then [] else ["main".toList])))
  | "BASH_SOURCE" =>
      if state.isString && state.shownName.isNone then none
      else some (Store.ofList (List.replicate (state.callNames.length + 1)
        (state.shownName.getD state.name)))
  | "DIRSTACK" => some (Store.ofList (state.entered :: state.directories))
  | "BASH_LINENO" =>
      if state.callLines = [] && state.isString then none
      else some (Store.ofList ((state.callLines ++ if state.isString then [] else [0]).map
        Text.ofNat))
  | "BASH_COMMAND" => one (Printed.command state.current)
  | "_" => one state.lastWord
  | _ => none

/-- The values of a variable, if it holds several. -/
def store? (state : State) (name : Text) : Option Store :=
  match state.known? name with
  | some known => known.store
  | none => (state.kept? name).filter fun _ => !(["LINENO".toList, "SECONDS".toList,
      "BASHPID".toList, "BASH_SUBSHELL".toList, "EPOCHSECONDS".toList, "RANDOM".toList,
      "BASH_COMMAND".toList, ['_']].contains name)

/-- The value of a variable, by itself or the first one. -/
def scalar? (state : State) (name : Text) : Option Text :=
  match state.known? name with
  | some known => known.value?
  | none => (state.kept? name).bind fun store => store.get? ['0']

/-- The value of a variable at a key. -/
def element? (state : State) (name key : Text) : Option Text :=
  match state.store? name with
  | some store => store.get? key
  | none => if key = ['0'] then state.scalar? name else none

/-- Whether a variable holds values by keys. -/
def isKeyed (state : State) (name : Text) : Bool :=
  match state.store? name with
  | some (.keyed _) => true
  | _ => false

/-- A value as a variable takes it: in capitals, or in small letters. -/
def shapedBy (traits : List Char) (value : Text) : Text :=
  if traits.contains 'u' then value.map Char.toUpper
  else if traits.contains 'l' then value.map Char.toLower
  else value

def traitsOf (state : State) (name : Text) : List Char :=
  ((state.known? name).map Variable.traits).getD []

/-- Changes a variable, which is made first if it is missing. -/
def changeVariable (state : State) (name : Text) (change : Variable → Variable) : State :=
  if (state.known? name).isSome then
    { state with bindings := state.bindings.map fun known =>
        if known.name = name then change known else known }
  else
    { state with bindings := state.bindings ++
        [change { name := name, value := [], exported := state.promised.contains name,
                  isSet := false }] }

/-- Gives a variable a value at a key; a single value becomes the first of several. -/
def setElement (state : State) (name key value : Text) : State :=
  state.changeVariable name fun known =>
    let store := match known.store with
      | some store => store
      | none => if known.isSet then Store.ofList [known.value] else .indexed []
    { known with store := some (store.put key (shapedBy known.traits value)), isSet := true }

/-- Gives a variable several values. -/
def setStore (state : State) (name : Text) (store : Store) : State :=
  state.changeVariable name fun known =>
    let shaped := match store with
      | .indexed entries =>
          .indexed (entries.map fun (index, value) => (index, shapedBy known.traits value))
      | .keyed entries =>
          .keyed (entries.map fun (key, value) => (key, shapedBy known.traits value))
    { known with store := some shaped, isSet := true }

/-- Whether an option with a name only is set. -/
def isSetting (state : State) (name : String) : Bool := state.settings.contains name.toList

/-- The names of the variables that start alike, in order. -/
def namesFrom (state : State) (start : Text) : List Text :=
  ((state.bindings.filter fun known => start.isPrefixOf known.name &&
    (known.isSet || known.store.isSome)).map Variable.name).mergeSort
      fun left right => !decide (right < left)

end State

end FolderScript.Shell
