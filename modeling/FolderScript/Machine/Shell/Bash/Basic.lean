/-
What the commands of the large shell language have in common: how they complain, how
their options are read, and how variables with traits are given values.
-/
import FolderScript.Machine.Shell.Bash.Expression
import FolderScript.Machine.Shell.Bash.Quoting
import FolderScript.Machine.Shell.Builtins.Basic

namespace FolderScript.Shell

namespace Bash

open Builtins (Builtin next)

/-- How commands are to be called. -/
def usages : List (String × String) :=
  [("cd", "cd [-L|[-P [-e]] [-@]] [dir]"), ("pwd", "pwd [-LP]"),
    ("export", "export [-fn] [name[=value] ...] or export -p"),
    ("readonly", "readonly [-aAf] [name[=value] ...] or readonly -p"),
    ("local", "local [option] name[=value] ..."),
    ("declare", "declare [-aAfFgiIlnrtux] [name[=value] ...] or declare -p [-aAfFilnrtux] [name ...]"),
    ("typeset", "typeset [-aAfFgiIlnrtux] name[=value] ... or typeset -p [-aAfFilnrtux] [name ...]"),
    ("unset", "unset [-f] [-v] [-n] [name ...]"),
    ("set", "set [-abefhkmnptuvxBCEHPT] [-o option-name] [--] [-] [arg ...]"),
    ("read", "read [-ers] [-a array] [-d delim] [-i text] [-n nchars] [-N nchars] [-p prompt] [-t timeout] [-u fd] [name ...]"),
    ("getopts", "getopts optstring name [arg ...]"), ("alias", "alias [-p] [name[=value] ... ]"),
    ("unalias", "unalias [-a] name [name ...]"), ("wait", "wait [-fn] [-p var] [id ...]"),
    ("trap", "trap [-lp] [[arg] signal_spec ...]"), ("umask", "umask [-p] [-S] [mode]"),
    ("ulimit", "ulimit [-SHabcdefiklmnpqrstuvxPRT] [limit]"), ("times", "times"),
    ("hash", "hash [-lr] [-p pathname] [-dt] [name ...]"),
    ("jobs", "jobs [-lnprs] [jobspec ...] or jobs -x command [args]"),
    ("shopt", "shopt [-pqsu] [-o] [optname ...]"),
    ("mapfile", "mapfile [-d delim] [-n count] [-O origin] [-s count] [-t] [-u fd] [-C callback] [-c quantum] [array]"),
    ("readarray", "readarray [-d delim] [-n count] [-O origin] [-s count] [-t] [-u fd] [-C callback] [-c quantum] [array]"),
    ("pushd", "pushd [-n] [+N | -N | dir]"), ("popd", "popd [-n] [+N | -N]"),
    ("dirs", "dirs [-clpv] [+N] [-N]"), ("type", "type [-afptP] name [name ...]"),
    ("command", "command [-pVv] command [arg ...]"),
    ("builtin", "builtin [shell-builtin [arg ...]]"), ("source", "source filename [arguments]"),
    (".", ". filename [arguments]"), ("eval", "eval [arg ...]"),
    ("exec", "exec [-cl] [-a name] [command [argument ...]] [redirection ...]"),
    ("kill", "kill [-s sigspec | -n signum | -sigspec] pid | jobspec ... or kill -l [sigspec]"),
    ("caller", "caller [expr]"), ("printf", "printf [-v var] format [arguments]"),
    ("enable", "enable [-a] [-dnps] [-f filename] [name ...]"),
    ("disown", "disown [-h] [-ar] [jobspec ... | pid ...]")]

def warn (command : String) (state : State) (message : Text) : State :=
  state.complain (command.toList ++ ": ".toList ++ message)

def fails (command : String) (state : State) (message : Text) (status : Nat) : Flow × State :=
  next (warn command state message) status

def showUsage (command : String) (state : State) : State :=
  state.write 2 (command.toList ++ ": usage: ".toList ++
    ((List.lookup command usages).getD "").toList ++ ['\n'])

/-- Complains about how a command was called. -/
def misused (command : String) (state : State) (message : Text) : Flow × State :=
  next (showUsage command (warn command state message)) 2

/-- The letters of one argument; one that takes a value and has none yet comes last. -/
def cluster (known valued : String) : Text → Except Text (List (Char × Text) × Option Char)
  | [] => .ok ([], none)
  | letter :: letters =>
      if valued.toList.contains letter then
        if letters = [] then .ok ([], some letter) else .ok ([(letter, letters)], none)
      else if known.toList.contains letter then do
        let (more, waiting) ← cluster known valued letters
        pure ((letter, []) :: more, waiting)
      else .error ('-' :: letter :: ": invalid option".toList)

/-- The options in front with their values, and the operands; or a complaint. -/
def options (known valued : String) : Nat → List Text →
    Except Text (List (Char × Text) × List Text)
  | 0, arguments => .ok ([], arguments)
  | _ + 1, [] => .ok ([], [])
  | fuel + 1, argument :: rest =>
      match argument with
      | ['-', '-'] => .ok ([], rest)
      | '-' :: letter :: letters =>
          match cluster known valued (letter :: letters), rest with
          | .error message, _ => .error message
          | .ok (found, none), rest => do
              let (more, operands) ← options known valued fuel rest
              pure (found ++ more, operands)
          | .ok (_, some waiting), [] =>
              .error ('-' :: waiting :: ": option requires an argument".toList)
          | .ok (found, some waiting), value :: rest => do
              let (more, operands) ← options known valued fuel rest
              pure (found ++ (waiting, value) :: more, operands)
      | _ => .ok ([], argument :: rest)

/-- Goes on with the options of a command, or complains about them. -/
def reading (command known valued : String)
    (action : State → List (Char × Text) → List Text → Flow × State) : Builtin :=
  fun state arguments =>
    match options known valued (arguments.length + 1) arguments with
    | .error message => misused command state message
    | .ok (found, operands) => action state found operands

/-- Whether a letter is among options. -/
def given (letter : Char) (found : List (Char × Text)) : Bool :=
  found.any fun entry => entry.1 == letter

def valueOf? (letter : Char) (found : List (Char × Text)) : Option Text :=
  (found.reverse.find? fun entry => entry.1 == letter).map Prod.snd

/-- The error of an output that cannot be written to. -/
def unwritten (error : IoError) : Text :=
  "write error: ".toList ++ Tools.reason error

/-- Writes a text to standard output, and goes on with a status. -/
def putWith (command : String) (state : State) (text : Text) (status : Nat) : Flow × State :=
  match state.emit 1 (Text.toBytes text) with
  | .ok state => next state status
  | .error error => fails command state (unwritten error) 1

/-- Writes a text to standard output. -/
def put (command : String) (state : State) (text : Text) : Flow × State :=
  putWith command state text 0

/-- Gives a variable a value, or adds to the one that it has; an expression counts as its
value where the variable holds numbers.  The error is a complaint. -/
def assign (name : Text) (key : Option Text) (adds : Bool) (value : Text) (state : State) :
    Except Text State := do
  let name := state.targetOf State.longestChain name
  if state.fixed.contains name then throw (name ++ ": readonly variable".toList)
  let traits := state.traitsOf name
  let before := ((match key with
    | some key => state.element? name key
    | none => state.scalar? name).getD [])
  let (value, state) ← if traits.contains 'i' then
      let source := if adds && before ≠ [] then before ++ "+(".toList ++ value ++ [')'] else value
      match Expression.compute source state with
      | .ok (number, state) => pure (Text.ofInt number, state)
      | .error fault => throw fault.message
    else pure (if adds then before ++ value else value, state)
  let value := State.shapedBy traits value
  pure (match key with
    | some key => state.setElement name key value
    | none => state.setVariable name value)

def keyFound (name text : Text) (state : State) : Except Expression.Fault (Text × State) :=
  match Expression.keyOf (8 * text.length + 4 * Expression.deepest) name (some text) state with
  | .ok (key, state) => .ok (key.getD ['0'], state)
  | .error fault => .error fault

/-- The key of a value that a text between brackets names; the error is a complaint. -/
def keyOf (name text : Text) (state : State) : Except Text (Text × State) :=
  (keyFound name text state).mapError Expression.Fault.message

/-- Values with their keys or without them, as a text that is read back. -/
def listText (entries : List (Option Text × Text)) : Text :=
  '(' :: Text.join [' '] (entries.map fun (key, value) =>
    match key with
    | some key => '[' :: Quoted.always key ++ [']', '='] ++ Quoted.always value
    | none => Quoted.always value) ++ [')']

/-- A quoted text at the front, and what follows it. -/
def unquoteFrom : Nat → Text → Text × Text
  | 0, text => ([], text)
  | fuel + 1, text =>
      match text with
      | '$' :: '\'' :: rest =>
          match Quoted.closed? rest with
          | some (inner, count) =>
              let (more, after) := unquoteFrom fuel (rest.drop count)
              (Quoted.unescape inner ++ more, after)
          | none => (text, [])
      | '\'' :: rest =>
          let inner := rest.takeWhile (· ≠ '\'')
          let (more, after) := unquoteFrom fuel (rest.drop (inner.length + 1))
          (inner ++ more, after)
      | '"' :: rest =>
          let inner := rest.takeWhile (· ≠ '"')
          let (more, after) := unquoteFrom fuel (rest.drop (inner.length + 1))
          (inner ++ more, after)
      | '\\' :: char :: rest =>
          let (more, after) := unquoteFrom fuel rest
          (char :: more, after)
      | char :: rest =>
          if char.isWhitespace || char == ')' || char == ']' then ([], text)
          else
            let (more, after) := unquoteFrom fuel rest
            (char :: more, after)
      | [] => ([], [])

/-- The values that a text between brackets names, with their keys. -/
def listItems : Nat → Text → List (Option Text × Text)
  | 0, _ => []
  | fuel + 1, text =>
      match text.dropWhile Char.isWhitespace with
      | [] | ')' :: _ => []
      | '[' :: rest =>
          let (key, after) := unquoteFrom (rest.length + 1) rest
          match after with
          | ']' :: '=' :: more =>
              let (value, after) := unquoteFrom (more.length + 1) more
              (some key, value) :: listItems fuel after
          | _ =>
              let (value, after) := unquoteFrom (rest.length + 2) ('[' :: rest)
              (none, value) :: listItems fuel (after.drop (if value = [] then 1 else 0))
      | rest =>
          let (value, after) := unquoteFrom (rest.length + 1) rest
          (none, value) :: listItems fuel
            (after.drop (if after.length = rest.length then 1 else 0))

/-- The values in a text that is a list between brackets. -/
def listOf? (text : Text) : Option (List (Option Text × Text)) :=
  match text with
  | '(' :: rest => if text.getLast? = some ')' then some (listItems (rest.length + 1) rest) else none
  | _ => none

/-- Values in turn as keys and values. -/
def paired : List (Option Text × Text) → List (Option Text × Text)
  | (none, key) :: (none, value) :: rest => (some key, value) :: paired rest
  | [(none, key)] => [(some key, [])]
  | entry :: rest => entry :: paired rest
  | [] => []

/-- Gives a variable several values, or adds them to those that it has. -/
def assignList (name : Text) (adds : Bool) (entries : List (Option Text × Text)) (state : State) :
    Except Text State := do
  let name := state.targetOf State.longestChain name
  if state.fixed.contains name then throw (name ++ ": readonly variable".toList)
  let start : Store := match (state.known? name).bind Variable.store with
    | some (.keyed entries) => .keyed (if adds then entries else [])
    | some (.indexed entries) => .indexed (if adds then entries else [])
    | none =>
        match adds, (state.known? name).bind Variable.value? with
        | true, some value => Store.ofList [value]
        | _, _ => .indexed []
  let emptied := state.setStore name start
  let hasNoKey := entries.head?.any fun entry => entry.1.isNone
  let entries := if emptied.isKeyed name && hasNoKey then paired entries else entries
  let (after, _) ← entries.foldlM
    (fun ((state, place) : State × Nat) ((key, value) : Option Text × Text) =>
      match key with
      | none => do
          let state ← assign name (some (Text.ofNat place)) false value state
          pure (state, place + 1)
      | some key => do
          let (key, state) ← keyOf name key state
          let state ← assign name (some key) false value state
          pure (state, (Text.toNat? key).elim place (· + 1)))
    (emptied, start.limit)
  pure after

end Bash

end FolderScript.Shell
