/-
Processes that a shell gives rise to: parts of the shell on their own, and new
shells that take over nothing but what is handed on.
-/
import FolderScript.Machine.Shell.Bash.Builtins

namespace FolderScript.Shell

namespace State

/-- The state of a part of the shell in a process of its own: only ignored
signals stay ignored, and what is done on a failure may stay. -/
def forked (state : State) : State :=
  { state with
    number := state.number + 1
    parent := state.number
    subshells := state.subshells + 1
    traps := state.traps.filter fun entry =>
      entry.2 = [] || (state.has 'E' && entry.1 = Bash.failureEvent) ||
        (state.has 'T' && entry.1 = Bash.stepEvent)
    children := []
    slots := []
    self := none
    pipeBroken := false
    starved := false
    writeFault := none
    clock := state.clock + 100 }

/-- Whether anything is done on some signal, or at the exit. -/
def catches (state : State) : Bool := state.traps.any fun entry => entry.2 ≠ []

/-- The state of what a part of the shell that has nothing else to do gives its
process to. -/
def handedOver (state : State) : State :=
  { state.forked with
    number := state.number
    parent := state.parent
    self := state.self }

/-- What is left after a process of its own has ended: the notice of its death, and its
status. -/
def reaped (before : State) (result : Flow × State) : Flow × State :=
  let (flow, after) := result
  let left := before.resume after (flow.statusOf after)
  match flow with
  | .forever => (.forever, left)
  | .died signal => (.next, (left.wait 1).write 2 (Builtins.noticeLine signal))
  | _ => (.next, left)

/-- What is left after something has ended that ran in a process of its own, or in
this one. -/
def collected (before : State) (isOver : Bool) (result : Flow × State) : Flow × State :=
  match isOver, result with
  | true, (.died signal, after) => (.died signal, before.resume after (128 + signal))
  | _, result => before.reaped result

/-- The state with only the variables that are handed on to programs. -/
def handing (state : State) : State :=
  { state with bindings := Builtins.handedOn state }

/-- Where programs are looked for by default. -/
def usualPath : Text := "/usr/local/sbin:/usr/local/bin:/usr/sbin:/usr/bin:/sbin:/bin".toList

/-- The variables of every shell with their usual values, and whether they start out
with these in any case. -/
def ownVariables : List (Text × Text × Bool) :=
  [("IFS".toList, [' ', '\t', '\n'], true), ("PATH".toList, usualPath, false),
    ("PS1".toList, "# ".toList, false), ("PS2".toList, "> ".toList, false),
    ("PS4".toList, "+ ".toList, false), (optionVariable, ['1'], true)]

def directoryVariable : Text := "PWD".toList

def parentVariable : Text := "PPID".toList

def startingVariables (state : State) : List Variable :=
  let handed := state.bindings.filter fun known => known.exported && isName known.name
  let own := ownVariables.map fun (name, value, isForced) =>
    match handed.find? fun known => known.name = name with
    | none => { name := name, value := value, exported := false }
    | some known => if isForced then { known with value := value } else known
  let others := handed.filter fun known =>
    known.name ≠ parentVariable && own.all fun one => one.name ≠ known.name
  own ++ others ++
    [{ name := parentVariable, value := Text.ofNat state.parent, exported := false }]

/-- The path by which the current directory was entered: the one that is handed on, if
it leads there. -/
def enteredPath (state : State) : Text :=
  match state.value? directoryVariable with
  | some path =>
      match state.stat path with
      | .ok (position, .directory) =>
          if path.head? = some '/' && position = state.directory then path
          else Tools.currentPath state
      | _ => Tools.currentPath state
  | none => Tools.currentPath state

def userNumber : Text := Text.ofNat Tools.userNumber

def versionParts : List String := ["5", "2", "21", "1", "release", "x86_64-pc-linux-gnu"]

/-- The version of the large language. -/
def version : String := "5.2.21(1)-release"

/-- The variables of a new shell of the large language with their values, and the letters
for what is peculiar to them. -/
def largeVariables (state : State) : List (Text × Text × List Char) :=
  [("BASH", "/usr/bin/bash".toList, []), ("BASH_VERSION", version.toList, []),
    ("EUID", userNumber, ['i', 'r']), ("HOSTNAME", "localhost".toList, []),
    ("HOSTTYPE", "x86_64".toList, []), ("IFS", [' ', '\t', '\n'], []),
    ("MACHTYPE", "x86_64-pc-linux-gnu".toList, []), ("OPTERR", ['1'], []),
    ("OPTIND", ['1'], []), ("OSTYPE", "linux-gnu".toList, []),
    ("PPID", Text.ofNat state.parent, ['i', 'r']), ("PS4", "+ ".toList, []),
    ("SHELLOPTS", "braceexpand:hashall:interactive-comments".toList, ['r']),
    ("BASHOPTS", Text.join [':'] Bash.usualSettings, ['r']),
    ("UID", userNumber, ['i', 'r'])].map fun (name, value, traits) => (name.toList, value, traits)

/-- Variables that a shell of the large language sets if it is not handed them. -/
def largeDefaults : List (Text × Text) :=
  [("PATH", "/usr/local/sbin:/usr/local/bin:/usr/sbin:/usr/bin:/sbin:/bin"),
    ("SHELL", "/bin/bash"), ("TERM", "dumb")].map fun (name, value) => (name.toList, value.toList)

/-- How deep a shell of the large language stands, and the variable for it. -/
def levelVariable : Text := "SHLVL".toList

def largeStarting (state : State) : List Variable :=
  let handed := state.bindings.filter fun known => known.exported && isName known.name
  let own := (largeVariables state).map fun (name, value, traits) =>
    { name := name, value := value, exported := false
      traits := traits.filter (· ≠ 'r') : Variable }
  let versions : Variable :=
    { name := "BASH_VERSINFO".toList, value := [], exported := false
      store := some (Store.ofList (versionParts.map String.toList)) }
  let isOwn (name : Text) : Bool := own.any fun one => one.name = name
  let kept := handed.filter fun known => !isOwn known.name && known.name ≠ levelVariable
  let missing := largeDefaults.filter fun (name, _) => !kept.any fun known => known.name = name
  let before := (handed.find? fun known => known.name = levelVariable).bind fun known =>
    Text.toNat? known.value
  let level : Variable :=
    { name := levelVariable, value := Text.ofNat ((before.getD 0) + 1), exported := true }
  own ++ [versions] ++ kept ++
    (missing.map fun (name, value) => { name := name, value := value, exported := false }) ++
    [level]

/-- The state of a new shell: of the variables only those that are handed on. -/
def fresh (state : State) (dialect : Dialect) (name : Text) : State :=
  let state := { state with
    dialect := dialect
    bindings := match dialect with
      | .dash => startingVariables state
      | .bash => largeStarting state }
  let entered := enteredPath state
  let placed := (state.setVariable directoryVariable entered).exportVariable directoryVariable
  let isLarge := dialect == .bash
  let placed := if isLarge && (placed.known? "OLDPWD".toList).isNone then
      placed.changeVariable "OLDPWD".toList fun known => { known with exported := true }
    else placed
  { placed with
    entered := entered
    shellNumber := state.number
    ancestors := state.shellNumber :: state.ancestors
    name := name
    line := 1
    functions := []
    calls := 0
    nesting := state.nesting + 1
    loops := 0
    saved := none
    fixed := if isLarge then
        ((largeVariables state).filter fun (_, _, traits) => traits.contains 'r').map Prod.fst ++
          ["BASH_VERSINFO".toList]
      else []
    options := if isLarge then Bash.usualOptions else []
    settings := if isLarge then Bash.usualSettings else []
    aliases := []
    promised := []
    located := []
    context := []
    lastJob := none
    optionIndex := 1
    letterIndex := 0
    guarded := false
    isString := false
    shownName := none
    callNames := []
    callLines := []
    current := .nothing
    isStirred := false
    stageStatuses := []
    subshells := 0
    directories := []
    lastWord := name
    depth := 1
    outputStatus := 0
    status := 0 }

/-- Whether a descriptor still leads to a stream. -/
def holds (state : State) (side : Side) : Bool :=
  state.descriptors.any fun entry => entry.2 = .stream side

/-- The buffers that descriptors lead to. -/
def heldBuffers (state : State) : List Nat :=
  state.descriptors.filterMap fun entry =>
    match entry.2 with
    | .buffer number => some number
    | _ => none

/-- When the last writer lets go of a buffer, if its own writer does so at a time. -/
def releaseOf (state : State) (number : Nat) (time : Option Duration) : Option Duration :=
  (state.world.jobs.filter fun job => job.buffers.contains number).foldl
    (fun last job =>
      match last, job.endsAt with
      | some last, some time => some (max last time)
      | _, _ => none)
    time

def ends (state : State) (message : Text) : Flow × State :=
  (.exit 2, (state.complain message).withStatus 2)

/-- Ends the shell if it is to end at the first failure. -/
def checked (result : Flow × State) : Flow × State :=
  match result with
  | (.next, state) =>
      if state.has 'e' && !state.guarded && state.status ≠ 0 then (.exit state.status, state)
      else (.next, state)
  | other => other

end State

end FolderScript.Shell
