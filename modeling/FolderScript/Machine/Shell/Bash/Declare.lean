/-
Commands of the large shell language that declare, show and remove variables, and that
set options.
-/
import FolderScript.Machine.Shell.Bash.Basic
import FolderScript.Machine.Shell.Builtins.Variables

namespace FolderScript.Shell

namespace Bash

open Builtins (Builtin next)

/-- The letters for traits, in the order in which they are shown. -/
def traitOrder : List Char := "inrtxlu".toList

def shownTraits (state : State) (known : Variable) : Text :=
  let kind : Text := match known.store with
    | some (.indexed _) => ['a']
    | some (.keyed _) => ['A']
    | none => []
  let has (letter : Char) : Bool :=
    known.traits.contains letter || (letter == 'r' && state.fixed.contains known.name) ||
      (letter == 'x' && known.exported)
  kind ++ traitOrder.filter has

def shownKey (key : Text) : Text :=
  if key.any Quoted.isHidden then Quoted.withEscapes key
  else if key.any Quoted.isSpecial || key = [] then Quoted.double key
  else key

/-- Several values as they are shown. -/
def shownStore (store : Store) : Text :=
  let parts := store.entries.map fun (key, value) =>
    '[' :: shownKey key ++ [']', '='] ++ Quoted.double value
  match store with
  | .indexed _ => '(' :: Text.join [' '] parts ++ [')']
  | .keyed _ => '(' :: (parts.flatMap fun part => part ++ [' ']) ++ [')']

def declaration (state : State) (known : Variable) : Text :=
  let traits := shownTraits state known
  let value := match known.store with
    | some store => if known.isSet || store.size ≠ 0 then '=' :: shownStore store else []
    | none => if known.isSet then '=' :: Quoted.double known.value else []
  "declare -".toList ++ (if traits = [] then ['-'] else traits) ++ ' ' :: known.name ++ value ++
    ['\n']

def inOrder (known : List Variable) : List Variable :=
  known.mergeSort fun left right => !decide (right.name < left.name)

def assignments (state : State) : Text :=
  (inOrder (state.bindings.filter fun known => known.isSet)).flatMap fun known =>
    match known.store with
    | some store => known.name ++ '=' :: shownStore store ++ ['\n']
    | none => known.name ++ '=' ::
        (if known.value = [] then [] else Quoted.whenNeeded known.value) ++ ['\n']

/-- The letters of options that switch traits on or off, with the operands; or a
complaint. -/
def traitOptions (known : String) : Nat → List Text →
    Except Text (List Char × List Char × List Text)
  | 0, arguments => .ok ([], [], arguments)
  | _ + 1, [] => .ok ([], [], [])
  | fuel + 1, argument :: rest =>
      match argument with
      | ['-', '-'] => .ok ([], [], rest)
      | sign :: letter :: letters =>
          if sign ≠ '-' ∧ sign ≠ '+' then .ok ([], [], argument :: rest)
          else
            match (letter :: letters).find? fun letter => !known.toList.contains letter with
            | some bad => .error (sign :: bad :: ": invalid option".toList)
            | none => do
                let (on, off, operands) ← traitOptions known fuel rest
                if sign = '-' then pure (letter :: letters ++ on, off, operands)
                else pure (on, letter :: letters ++ off, operands)
      | _ => .ok ([], [], argument :: rest)

/-- What an operand of a declaration names and gives. -/
structure Declared where
  name : Text
  key : Option Text := none
  adds : Bool := false
  value : Option Text := none

def Declared.of (operand : Text) : Declared :=
  let front := operand.takeWhile (· ≠ '=')
  if front.length = operand.length then
    let (name, key) := State.nameAndKey operand
    { name := name, key := key }
  else
    let adds := front.getLast? = some '+'
    let (name, key) := State.nameAndKey (if adds then front.dropLast else front)
    { name := name, key := key, adds := adds, value := some (operand.drop (front.length + 1)) }

/-- Makes a variable one of the function at hand, without a value. -/
def localized (state : State) (name : Text) : State :=
  let before := state.known? name
  let isKnown := (state.saved.getD []).any fun entry => entry.1 = name
  if isKnown then state
  else
    let bare : Variable := { name := name, value := [], exported := false, isSet := false }
    (({ state with saved := state.saved.map ((name, before) :: ·) }).restoreVariable name
      (some bare))

/-- Switches traits of a variable. -/
def withTraits (on off : List Char) (name : Text) (state : State) : State :=
  let kinds := ['i', 'l', 'u', 'n', 't']
  let wanted := on.filter kinds.contains
  let changed := if wanted = [] && off = [] && !on.contains 'a' && !on.contains 'A' then state
    else state.changeVariable name fun known =>
      let dropped := off ++ (if on.contains 'l' then ['u'] else []) ++
        (if on.contains 'u' then ['l'] else [])
      let traits := (wanted ++ known.traits.filter fun letter =>
        !wanted.contains letter && !dropped.contains letter).eraseDups
      let store := match known.store with
        | some store => some store
        | none =>
            if on.contains 'A' then some (.keyed [])
            else if on.contains 'a' then
              some (if known.isSet then Store.ofList [known.value] else .indexed [])
            else none
      { known with
        traits := traits
        store := store
        exported := known.exported && !off.contains 'x' }
  if on.contains 'x' then
    if (changed.known? name).isSome then changed.exportVariable name
    else (changed.changeVariable name id).exportVariable name
  else changed

/-- Carries out one declaration; the error is a complaint. -/
def declareOne (on off : List Char) (isLocal : Bool) (operand : Text) (state : State) :
    Except Text State := do
  let wanted := Declared.of operand
  if !isName wanted.name then
    throw ("\x60".toList ++ operand ++ "': not a valid identifier".toList)
  if isLocal && state.fixed.contains wanted.name then
    throw (wanted.name ++ ": readonly variable".toList)
  let state := if isLocal then localized state wanted.name else state
  if off.contains 'r' && state.fixed.contains wanted.name then
    throw (wanted.name ++ ": readonly variable".toList)
  let isReference := on.contains 'n'
  let state := withTraits (on.filter (· ≠ 'n')) off wanted.name state
  let state ← match wanted.value, wanted.key with
    | none, _ =>
        if on.contains 'r' || on.contains 'x' || isLocal then pure state
        else pure (state.changeVariable wanted.name id)
    | some value, some key => do
        let (key, state) ← keyOf wanted.name key state
        assign wanted.name (some key) wanted.adds value state
    | some value, none =>
        let isList := (state.store? wanted.name).isSome
        match if isList || value.head? = some '(' then listOf? value else none with
        | some entries => assignList wanted.name wanted.adds entries state
        | none =>
            if isReference then pure (state.setVariable wanted.name value)
            else
              match state.isKeyed wanted.name, isList with
              | false, true => assign wanted.name (some ['0']) wanted.adds value state
              | _, _ => assign wanted.name none wanted.adds value state
  let state := if isReference then withTraits ['n'] [] wanted.name state else state
  pure (if on.contains 'r' then { state with fixed := wanted.name :: state.fixed } else state)

/-- Carries out declarations in turn. -/
def declareAll (command : String) (on off : List Char) (isLocal : Bool) (operands : List Text)
    (state : State) : Flow × State :=
  let (state, failed) := operands.foldl
    (fun ((state, failed) : State × Bool) operand =>
      match declareOne on off isLocal operand state with
      | .ok state => (state, failed)
      | .error message =>
          let isBare := ": readonly variable".toList.isSuffixOf message
          (if isBare then state.complain (if isLocal || command == "declare" || command == "typeset"
              then command.toList ++ ": ".toList ++ message else message)
            else warn command state message, true))
    (state, false)
  next state (if failed then 1 else 0)

def showDeclared (command : String) (names : List Text) (state : State) : Flow × State :=
  let (text, state, failed) := names.foldl
    (fun ((text, state, failed) : Text × State × Bool) name =>
      match state.known? name with
      | some known => (text ++ declaration state known, state, failed)
      | none => (text, warn command state (name ++ ": not found".toList), true))
    ([], state, false)
  putWith command state text (if failed then 1 else 0)

def fitsTraits (state : State) (letters : List Char) (known : Variable) : Bool :=
  let shown := shownTraits state known
  (letters.filter fun letter => "aAilnrux".toList.contains letter).all shown.contains

def functionNames (state : State) : Text :=
  (((state.functions.map Prod.fst).mergeSort fun left right => !decide (right < left)).flatMap
    fun name => "declare -f ".toList ++ name ++ ['\n'])

def declares (command : String) : Builtin := fun state arguments =>
  match traitOptions "aAfFgiIlnprtux" (arguments.length + 1) arguments with
  | .error message => misused command state message
  | .ok (on, off, operands) =>
      let isLocal := state.saved.isSome && !on.contains 'g'
      if on.contains 'F' || on.contains 'f' then
        let missing := operands.any fun name => (List.lookup name state.functions).isNone
        if operands = [] then put command state (functionNames state)
        else
          putWith command state
            ((operands.filter fun name => (List.lookup name state.functions).isSome).flatMap
              fun name => name ++ ['\n']) (if missing then 1 else 0)
      else if on.contains 'p' then
        if operands = [] then
          put command state ((inOrder (state.bindings.filter (fitsTraits state on))).flatMap
            (declaration state))
        else showDeclared command operands state
      else if operands = [] then
        if on = [] then put command state (assignments state)
        else
          put command state ((inOrder (state.bindings.filter (fitsTraits state on))).flatMap
            (declaration state))
      else declareAll command on off isLocal operands state

def localizes : Builtin := fun state arguments =>
  match state.saved with
  | none => fails "local" state "can only be used in a function".toList 1
  | some _ =>
      match traitOptions "aAfFgiIlnprtux" (arguments.length + 1) arguments with
      | .error message => misused "local" state message
      | .ok (on, off, operands) => declareAll "local" on off true operands state

/-- Shows all variables with a trait, or switches it on for some. -/
def exports : Builtin := fun state arguments =>
  match traitOptions "fnp" (arguments.length + 1) arguments with
  | .error message => misused "export" state message
  | .ok (on, _, operands) =>
      if on.contains 'f' then next state 0
      else if operands = [] then
        let kept := state.bindings.filter Variable.exported
        let promised := (state.promised.filter fun name => (state.known? name).isNone).eraseDups
        let bare := promised.map fun name =>
          ({ name := name, value := [], exported := true, isSet := false } : Variable)
        put "export" state ((inOrder (kept ++ bare)).flatMap (declaration state))
      else if on.contains 'n' then
        declareAll "export" [] ['x'] false operands state
      else declareAll "export" ['x'] [] false operands state

def fixes : Builtin := fun state arguments =>
  match traitOptions "aAfp" (arguments.length + 1) arguments with
  | .error message => misused "readonly" state message
  | .ok (on, _, operands) =>
      if operands = [] then
        put "readonly" state ((inOrder (state.bindings.filter fun known =>
          state.fixed.contains known.name)).flatMap (declaration state))
      else declareAll "readonly" ('r' :: on) [] false operands state

/-- Removes a variable, or one of its values; the error is a complaint. -/
def unsetOne (state : State) (operand : Text) : Except Text State := do
  let (name, key) := State.nameAndKey operand
  let name := state.targetOf State.longestChain name
  if state.fixed.contains name then
    throw (operand ++ ": cannot unset: readonly variable".toList)
  match key with
  | none =>
      let isLocal := (state.saved.getD []).any fun entry => entry.1 = name
      pure (if isLocal then
          state.restoreVariable name
            (some { name := name, value := [], exported := false, isSet := false })
        else state.unsetVariable name)
  | some key =>
      if key = ['@'] || key = ['*'] then pure (state.unsetVariable name)
      else
        let (key, state) ← keyOf name key state
        pure (state.changeVariable name fun known =>
          { known with store := known.store.map (Store.erase · key) })

def unset : Builtin := reading "unset" "fvn" "" fun state found operands =>
  let withoutFunction (state : State) (name : Text) : State :=
    { state with functions := state.functions.filter fun entry => entry.1 ≠ name }
  let (state, failed) := operands.foldl
    (fun ((state, failed) : State × Bool) operand =>
      let isKnown := (state.known? (State.nameAndKey operand).1).isSome
      if given 'f' found || (!given 'v' found && !isKnown) then
        (withoutFunction state operand, failed)
      else if given 'n' found then (state.unsetVariable operand, failed)
      else
        match unsetOne state operand with
        | .ok state => (state, failed)
        | .error message => (warn "unset" state message, true))
    (state, false)
  next state (if failed then 1 else 0)

/-- The options of the large language by their names, with their letters; those without
one have a letter that cannot be written. -/
def optionNames : List (String × Char) :=
  [("allexport", 'a'), ("braceexpand", 'B'), ("emacs", 'ε'), ("errexit", 'e'), ("errtrace", 'E'),
    ("functrace", 'T'), ("hashall", 'h'), ("histexpand", 'H'), ("history", 'η'),
    ("ignoreeof", 'ι'), ("interactive-comments", 'κ'), ("keyword", 'k'), ("monitor", 'm'),
    ("noclobber", 'C'), ("noexec", 'n'), ("noglob", 'f'), ("nolog", 'ν'), ("notify", 'b'),
    ("nounset", 'u'), ("onecmd", 't'), ("physical", 'P'), ("pipefail", 'π'), ("posix", 'ξ'),
    ("privileged", 'p'), ("verbose", 'v'), ("vi", 'ω'), ("xtrace", 'x')]

/-- The letters of options, in the order in which they are shown. -/
def optionOrder : Text := "abefhkmnptuvxBCEHPT".toList

/-- The options that are set from the start. -/
def usualOptions : List Char := ['h', 'B', 'κ']

def optionList (state : State) : Text :=
  optionNames.flatMap fun (name, letter) =>
    name.toList ++ List.replicate (15 - name.length) ' ' ++ '\t' ::
      (if state.has letter then "on\n" else "off\n").toList

def optionCommands (state : State) : Text :=
  optionNames.flatMap fun (name, letter) =>
    (if state.has letter then "set -o " else "set +o ").toList ++ name.toList ++ ['\n']

/-- What options in front of arguments lead to. -/
structure Switched where
  state : State
  shown : Text := []
  operands : Option (List Text) := none

/-- Why options make no sense: a name that is not known, or a letter. -/
inductive SwitchFault where
  | name (name : Text)
  | letter (sign letter : Char)
  deriving DecidableEq, Repr

def switchLetters (value : Bool) (state : State) : Text → Option (State × Bool)
  | [] => some (state, false)
  | 'o' :: rest => (switchLetters value state rest).map fun (state, _) => (state, true)
  | letter :: rest =>
      if optionOrder.contains letter then
        switchLetters value (Builtins.switch value state letter) rest
      else none

/-- Switches the options in front of arguments. -/
def switchAll (state : State) : List Text → Except SwitchFault Switched
  | [] => .ok { state := state }
  | ['-', '-'] :: rest => .ok { state := state, operands := some rest }
  | ['-'] :: rest =>
      let quiet := Builtins.switch false (Builtins.switch false state 'x') 'v'
      .ok { state := quiet, operands := if rest = [] then none else some rest }
  | (sign :: letters) :: rest =>
      if (sign ≠ '-' ∧ sign ≠ '+') ∨ letters = [] then
        .ok { state := state, operands := some ((sign :: letters) :: rest) }
      else
        let value := sign = '-'
        match switchLetters value state letters, rest with
        | none, _ =>
            let bad := (letters.find? fun letter =>
              !(optionOrder.contains letter) && letter ≠ 'o').getD '-'
            .error (.letter sign bad)
        | some (state, false), rest => switchAll state rest
        | some (state, true), [] =>
            .ok { state := state
                  shown := if value then optionList state else optionCommands state }
        | some (state, true), name :: rest =>
            match List.lookup (String.ofList name) optionNames with
            | none => .error (.name name)
            | some letter => switchAll (Builtins.switch value state letter) rest
  | operands => .ok { state := state, operands := some operands }

def set : Builtin := fun state arguments =>
  if arguments = [] then put "set" state (assignments state)
  else
    match switchAll state arguments with
    | .error (.name name) =>
        fails "set" state (name ++ ": invalid option name".toList) 2
    | .error (.letter sign letter) =>
        misused "set" state (sign :: letter :: ": invalid option".toList)
    | .ok switched =>
        let after := match switched.operands with
          | none => switched.state
          | some operands => { switched.state with arguments := operands }
        put "set" after switched.shown

/-- The options with names only that `shopt` knows, and whether they are set from the
start. -/
def settingNames : List (String × Bool) :=
  [("assoc_expand_once", false), ("autocd", false), ("cdable_vars", false), ("cdspell", false),
    ("checkhash", false), ("checkjobs", false), ("checkwinsize", true), ("cmdhist", true),
    ("compat31", false), ("compat32", false), ("compat40", false), ("compat41", false),
    ("compat42", false), ("compat43", false), ("compat44", false), ("complete_fullquote", true),
    ("direxpand", false), ("dirspell", false), ("dotglob", false), ("execfail", false),
    ("expand_aliases", false), ("extdebug", false), ("extglob", false), ("extquote", true),
    ("failglob", false), ("force_fignore", true), ("globasciiranges", true),
    ("globskipdots", true), ("globstar", false), ("gnu_errfmt", false), ("histappend", false),
    ("histreedit", false), ("histverify", false), ("hostcomplete", true), ("huponexit", false),
    ("inherit_errexit", false), ("interactive_comments", true), ("lastpipe", false),
    ("lithist", false), ("localvar_inherit", false), ("localvar_unset", false),
    ("login_shell", false), ("mailwarn", false), ("no_empty_cmd_completion", false),
    ("nocaseglob", false), ("nocasematch", false), ("noexpand_translation", false),
    ("nullglob", false), ("patsub_replacement", true), ("progcomp", true),
    ("progcomp_alias", false), ("promptvars", true), ("restricted_shell", false),
    ("shift_verbose", false), ("sourcepath", true), ("varredir_close", false),
    ("xpg_echo", false)]

/-- The options with names only that are set from the start. -/
def usualSettings : List Text :=
  (settingNames.filter Prod.snd).map fun entry => entry.1.toList

def shopt : Builtin := reading "shopt" "pqsuo" "" fun state found operands =>
  let isKnown (name : Text) : Bool :=
    if given 'o' found then (List.lookup (String.ofList name) optionNames).isSome
    else (List.lookup (String.ofList name) settingNames).isSome
  let isOn (state : State) (name : Text) : Bool :=
    if given 'o' found then (List.lookup (String.ofList name) optionNames).any state.has
    else state.settings.contains name
  let shown (name : Text) : Text :=
    if given 'p' found then
      (if given 'o' found then (if isOn state name then "set -o " else "set +o ")
        else (if isOn state name then "shopt -s " else "shopt -u ")).toList ++ name ++ ['\n']
    else name ++ List.replicate (15 - name.length) ' ' ++ '\t' ::
      (if isOn state name then "on\n" else "off\n").toList
  let bad := operands.filter fun name => !isKnown name
  let warned := bad.foldl
    (fun state name => warn "shopt" state (name ++
      (if given 'o' found then ": invalid option name" else ": invalid shell option name").toList))
    state
  let good := operands.filter isKnown
  if (given 's' found || given 'u' found) && operands ≠ [] then
    let value := given 's' found
    let after := good.foldl
      (fun (state : State) name =>
        if given 'o' found then
          match List.lookup (String.ofList name) optionNames with
          | some letter => Builtins.switch value state letter
          | none => state
        else
          let others := state.settings.filter (· ≠ name)
          { state with settings := if value then name :: others else others })
      warned
    next after (if bad = [] then 0 else 1)
  else
    let names := if operands = [] then
        (if given 'o' found then optionNames.map fun entry => entry.1.toList
          else settingNames.map fun entry => entry.1.toList).filter fun name =>
            if given 's' found then isOn state name
            else if given 'u' found then !isOn state name
            else true
      else good
    let status := if operands ≠ [] && (bad ≠ [] || good.any fun name => !isOn state name) then 1
      else 0
    if given 'q' found then next warned status
    else putWith "shopt" warned (names.flatMap shown) status

end Bash

end FolderScript.Shell
