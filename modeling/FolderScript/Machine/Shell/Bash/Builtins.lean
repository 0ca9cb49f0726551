/-
The commands that the large shell language carries out by itself, by their names.
-/
import FolderScript.Machine.Shell.Bash.Control

namespace FolderScript.Shell

namespace Bash

open Builtins (Builtin next)

/-- The limits: their letters, names with units, and usual values. -/
def limitNames : List (Char × String × String) :=
  [('R', "real-time non-blocking time  (microseconds, -R)", "unlimited"),
    ('c', "core file size              (blocks, -c)", "0"),
    ('d', "data seg size               (kbytes, -d)", "unlimited"),
    ('e', "scheduling priority                 (-e)", "0"),
    ('f', "file size                   (blocks, -f)", "unlimited"),
    ('i', "pending signals                     (-i)", "127235"),
    ('l', "max locked memory           (kbytes, -l)", "8192"),
    ('m', "max memory size             (kbytes, -m)", "unlimited"),
    ('n', "open files                          (-n)", "1024"),
    ('p', "pipe size                (512 bytes, -p)", "8"),
    ('q', "POSIX message queues         (bytes, -q)", "819200"),
    ('r', "real-time priority                  (-r)", "0"),
    ('s', "stack size                  (kbytes, -s)", "8192"),
    ('t', "cpu time                   (seconds, -t)", "unlimited"),
    ('u', "max user processes                  (-u)", "127235"),
    ('v', "virtual memory              (kbytes, -v)", "unlimited"),
    ('x', "file locks                          (-x)", "unlimited")]

def ulimit : Builtin := reading "ulimit" "HSaRcdefilmnpqrstuvx" "" fun state found operands =>
  let current (letter : Char) : Text := (List.lookup letter state.limits).getD
    ((List.lookup letter limitNames).elim [] fun limit => limit.2.toList)
  let letter := ((found.map Prod.fst).reverse.find? fun letter =>
    limitNames.any fun limit => limit.1 == letter).getD 'f'
  if given 'a' found then
    put "ulimit" state (limitNames.flatMap fun (letter, name, _) =>
      name.toList ++ ' ' :: current letter ++ ['\n'])
  else
    match operands with
    | [] => put "ulimit" state (current letter ++ ['\n'])
    | value :: _ =>
        if value = "unlimited".toList || value = "hard".toList || value = "soft".toList then
          next state 0
        else
          match Text.toNat? value with
          | none => fails "ulimit" state (value ++ ": invalid number".toList) 1
          | some number =>
              if (Text.toNat? (current letter)).any fun most => most < number then
                fails "ulimit" state
                  (((List.lookup letter limitNames).elim [] fun limit =>
                    (limit.1.toList.takeWhile (· ≠ '('))
                      |>.reverse.dropWhile (· = ' ') |>.reverse) ++
                    ": cannot modify limit: Operation not permitted".toList) 1
              else next { state with limits := (letter, value) :: state.limits } 0

/-- A job as it is listed, with its place and a mark. -/
def jobs : Builtin := reading "jobs" "lnprs" "x" fun state found operands =>
  match operands.find? fun operand => (state.namedJob operand).toOption.isNone with
  | some bad => fails "jobs" state (bad ++ ": no such job".toList) 1
  | none => Builtins.jobs state ((if given 'p' found then [['-', 'p']] else
      if given 'l' found then [['-', 'l']] else []) ++ operands)

def disown : Builtin := reading "disown" "har" "" fun state found operands =>
  if operands = [] && !given 'a' found && !given 'r' found && state.slots = [] then
    fails "disown" state "current: no such job".toList 1
  else next state 0

/-- The commands that carry out other commands. -/
def calling : List String := ["eval", ".", "source", "exec", "command", "builtin", "kill", "type"]

/-- The commands that need nothing but their arguments. -/
def plain : List (String × Builtin) :=
  [("echo", echo), ("printf", printf), ("test", test), ("[", bracket), ("pwd", pwd), ("cd", cd),
    ("true", fun state _ => next state 0), (":", fun state _ => next state 0),
    ("false", fun state _ => next state 1), ("exit", exit), ("return", returns),
    ("logout", fun state _ => fails "logout" state "not login shell: use \x60exit'".toList 1),
    ("break", leave "break" .broken), ("continue", leave "continue" .continued),
    ("shift", shift), ("let", computes), ("declare", declares "declare"),
    ("typeset", declares "typeset"), ("local", localizes), ("export", exports),
    ("readonly", fixes), ("unset", unset), ("set", set), ("shopt", shopt), ("read", read),
    ("mapfile", mapfile "mapfile"), ("readarray", mapfile "readarray"), ("getopts", getopts),
    ("alias", aliases), ("unalias", unalias), ("wait", wait), ("trap", trap), ("umask", umask),
    ("ulimit", ulimit), ("times", times), ("hash", hash), ("caller", caller), ("pushd", pushd),
    ("popd", popd), ("dirs", dirs), ("jobs", jobs), ("disown", disown),
    ("fg", needsTerminal "fg"), ("bg", needsTerminal "bg"),
    ("suspend", fun state _ =>
      fails "suspend" state "cannot suspend: no job control".toList 1),
    ("history", fun state _ => next state 0), ("fc", fun state _ => next state 0),
    ("enable", fun state _ => next state 0), ("complete", fun state _ => next state 1),
    ("compgen", fun state _ => next state 1), ("compopt", fun state _ => next state 1),
    ("help", fun state _ => next state 0),
    ("bind", fun state _ => next (state.complain
      "bind: warning: line editing not enabled".toList) 0)]

/-- The command of a name, if it needs nothing but its arguments. -/
def ofName? (name : String) : Option Builtin := List.lookup name plain

def isBuiltin (name : String) : Bool := (ofName? name).isSome || calling.contains name

/-- Words with a meaning of their own. -/
def keywords : List String :=
  Reader.keywords ++ Reader.largeKeywords ++ ["]]", "select", "coproc"]

/-- What a name stands for. -/
inductive Meaning where
  | alias (value : Text)
  | keyword
  | function
  | builtin
  | file (path : Text)
  | hashed (path : Text)
  deriving DecidableEq, Repr

/-- All that a name stands for, what is taken first in front. -/
def meanings (state : State) (name : Text) : List Meaning :=
  let word := String.ofList name
  let isProgram (path : Text) : Bool :=
    ((Lookup.isProgram state.world.files state.directory path).toOption).getD false
  let places := (Lookup.candidates (some ((state.value? "PATH".toList).getD [])) name).filter
    isProgram
  let files := match places with
    | [] => []
    | first :: rest =>
        (if state.located.contains name then Meaning.hashed first else .file first) ::
          rest.map Meaning.file
  (if state.isSetting "expand_aliases" then
      (List.lookup name state.aliases).toList.map Meaning.alias else []) ++
    (if keywords.contains word then [.keyword] else []) ++
    (if (List.lookup name state.functions).isSome then [.function] else []) ++
    (if isBuiltin word then [.builtin] else []) ++ files

def Meaning.description (name : Text) : Meaning → Text
  | .alias value => name ++ " is aliased to \x60".toList ++ value ++ ['\'', '\n']
  | .keyword => name ++ " is a shell keyword\n".toList
  | .function => name ++ " is a function\n".toList
  | .builtin => name ++ " is a shell builtin\n".toList
  | .file path => name ++ " is ".toList ++ path ++ ['\n']
  | .hashed path => name ++ " is hashed (".toList ++ path ++ ")\n".toList

/-- What a name stands for, so that it can be used again. -/
def Meaning.usable (name : Text) : Meaning → Text
  | .alias value => shownAlias (name, value)
  | .file path | .hashed path => path ++ ['\n']
  | _ => name ++ ['\n']

def Meaning.kind : Meaning → Text
  | .alias _ => "alias\n".toList
  | .keyword => "keyword\n".toList
  | .function => "function\n".toList
  | .builtin => "builtin\n".toList
  | .file _ | .hashed _ => "file\n".toList

/-- The path of what a name stands for, if it is a file. -/
def Meaning.path? : Meaning → Option Text
  | .file path | .hashed path => some (path ++ ['\n'])
  | _ => none

def describes : Builtin := reading "type" "afptP" "" fun state found operands =>
  let wanted (name : Text) : List Meaning :=
    let all := (meanings state name).filter fun meaning =>
      !(given 'f' found && meaning = .function)
    let all := if given 'P' found then all.filter fun meaning => meaning.path?.isSome else all
    if given 'a' found then all else all.take 1
  let (text, state, failed) := operands.foldl
    (fun ((text, state, failed) : Text × State × Bool) name =>
      match wanted name with
      | [] =>
          let isSilent := given 't' found || given 'p' found || given 'P' found
          (text, if isSilent then state else warn "type" state (name ++ ": not found".toList), true)
      | found' =>
          let shown (meaning : Meaning) : Text :=
            if given 't' found then meaning.kind
            else if given 'p' found || given 'P' found then (meaning.path?).getD []
            else meaning.description name
          (text ++ found'.flatMap shown, state, failed))
    ([], state, false)
  putWith "type" state text (if failed then 1 else 0)

/-- Tells what names stand for. -/
def looksUp : Builtin := reading "command" "pvV" "" fun state found operands =>
  let wordy := given 'V' found
  if !wordy && !given 'v' found then next state 0
  else
    let (text, state, any) := operands.foldl
      (fun ((text, state, any) : Text × State × Bool) name =>
        match (meanings state name).head? with
        | some meaning =>
            (text ++ (if wordy then meaning.description name else meaning.usable name), state, true)
        | none =>
            (text, if wordy then warn "command" state (name ++ ": not found".toList) else state,
              any))
      ([], state, false)
    putWith "command" state text (if any then 0 else 1)

/-- What the arguments of `kill` ask for. -/
inductive KillRequest where
  | send (signal : Nat) (targets : List Text)
  | list (names : List Text)
  | badSignal (name : Text)
  | bareOption (letter : Char)
  | usage

/-- The signal and the targets that the arguments of `kill` name. -/
def killRequest : List Text → KillRequest
  | [] => .usage
  | ['-', 'l'] :: names | ['-', 'L'] :: names => .list names
  | ['-', letter] :: rest =>
      if letter = 's' || letter = 'n' then
        match rest with
        | [] => .bareOption letter
        | name :: targets =>
            match eventNumber? name with
            | some signal => if targets = [] then .usage else .send signal targets
            | none => .badSignal name
      else if letter = '-' then (if rest = [] then .usage else .send 15 rest)
      else
        match eventNumber? [letter] with
        | some signal => if rest = [] then .usage else .send signal rest
        | none => .badSignal [letter]
  | ('-' :: name) :: rest =>
      match eventNumber? name with
      | some signal => if rest = [] then .usage else .send signal rest
      | none => .badSignal name
  | targets => .send 15 targets

/-- The names or numbers of signals in exchange for their numbers or names; unknown ones
are complained about. -/
def listSignals (state : State) (names : List Text) : Flow × State :=
  if names = [] then put "kill" state signalTable
  else
    let (text, state, failed) := names.foldl
      (fun ((text, state, failed) : Text × State × Bool) name =>
        let bad := (text, warn "kill" state (name ++ ": invalid signal specification".toList), true)
        match Text.toNat? name with
        | some number =>
            let number := if 128 < number then number - 128 else number
            if number = 0 then (text ++ "EXIT\n".toList, state, failed)
            else if number ≤ 64 then
              (text ++ (eventName number).drop 3 ++ ['\n'], state, failed)
            else bad
        | none =>
            match eventNumber? name with
            | some number => (text ++ Text.ofNat number ++ ['\n'], state, failed)
            | none => bad)
      ([], state, false)
    putWith "kill" state text (if failed then 1 else 0)

/-- The commands whose arguments may be assignments. -/
def declaring : List String := ["declare", "typeset", "local", "export", "readonly", "alias"]

end Bash

end FolderScript.Shell
