/-
Commands of the large shell language that steer the shell: loops and ends, directories,
signals and jobs.
-/
import FolderScript.Machine.Shell.Bash.Conditions
import FolderScript.Machine.Shell.Bash.Input
import FolderScript.Machine.Shell.Bash.Output
import FolderScript.Machine.Shell.Builtins

namespace FolderScript.Shell

namespace Bash

open Builtins (Builtin next)

/-- The integer that an argument spells, with blanks around it or not. -/
def integer? (text : Text) : Option Int := (Condition.integer text).toOption

/-- The arguments after the mark that ends options. -/
def operandsOf (arguments : List Text) : List Text :=
  if arguments.head? = some ['-', '-'] then arguments.tail else arguments

/-- An integer as an exit status. -/
def statusOf (number : Int) : Nat := (number % 256).toNat

/-- Gives up the line at hand because a command has too many arguments. -/
def tooMany (command : String) (state : State) : Flow × State :=
  state.drops (command.toList ++ ": too many arguments".toList)

/-- The complaint about an argument that is no number. -/
def notNumeric (argument : Text) : Text := argument ++ ": numeric argument required".toList

def exit : Builtin := fun state arguments =>
  match operandsOf arguments with
  | [] => (.exit state.status, state)
  | argument :: rest =>
      match integer? argument, rest with
      | none, _ =>
          (.exit 2, (warn "exit" state (notNumeric argument)).withStatus 2)
      | some _, _ :: _ => tooMany "exit" state
      | some number, [] => (.exit (statusOf number), state.withStatus (statusOf number))

def returns : Builtin := fun state arguments =>
  if state.callNames = [] then
    fails "return" state "can only \x60return' from a function or sourced script".toList 2
  else
    match operandsOf arguments with
    | [] => (.returned, state)
    | argument :: rest =>
        match integer? argument, rest with
        | none, _ => (.returned, (warn "return" state (notNumeric argument)).withStatus 2)
        | some _, _ :: _ => tooMany "return" state
        | some number, [] => (.returned, state.withStatus (statusOf number))

/-- Leaves as many loops as an argument names, or as there are. -/
def leave (command : String) (flow : Nat → Flow) : Builtin := fun state arguments =>
  if state.loops = 0 then
    fails command state "only meaningful in a \x60for', \x60while', or \x60until' loop".toList 0
  else
    match operandsOf arguments with
    | [] => (flow 1, state.withStatus 0)
    | argument :: rest =>
        match integer? argument, rest with
        | none, _ =>
            (.exit 128, (warn command state (notNumeric argument)).withStatus 128)
        | some _, _ :: _ => tooMany command state
        | some number, [] =>
            if number ≤ 0 then
              (.broken state.loops, (warn command state
                (argument ++ ": loop count out of range".toList)).withStatus 1)
            else (flow (min number.toNat state.loops), state.withStatus 0)

def shift : Builtin := fun state arguments =>
  match operandsOf arguments with
  | [] =>
      if state.arguments = [] then next state 1
      else next { state with arguments := state.arguments.drop 1 } 0
  | argument :: rest =>
      match integer? argument, rest with
      | none, _ => fails "shift" state (notNumeric argument) 1
      | some _, _ :: _ => tooMany "shift" state
      | some number, [] =>
          if number < 0 then
            fails "shift" state (argument ++ ": shift count out of range".toList) 1
          else if state.arguments.length < number.toNat then next state 1
          else next { state with arguments := state.arguments.drop number.toNat } 0

/-- Goes on with the status of a condition. -/
def condition (command : String) (state : State) (words : List Text) : Flow × State :=
  match judged state words with
  | .ok holds => next state (if holds then 0 else 1)
  | .error fault => fails command state fault.message 2

def test : Builtin := condition "test"

def bracket : Builtin := fun state arguments =>
  if arguments.getLast? = some [']'] then condition "[" state arguments.dropLast
  else fails "[" state "missing \x60]'".toList 2

/-- Carries out expressions in turn; `last` is the value of the last one. -/
def computeAll (last : Int) : List Text → State → Flow × State
  | [], state => next state (if last = 0 then 1 else 0)
  | source :: rest, state =>
      match Expression.compute source state with
      | .ok (value, state) => computeAll value rest state
      | .error (.fixed name) => next (state.complain (Expression.Fault.message (.fixed name))) 1
      | .error fault => fails "let" state fault.message 1

def computes : Builtin := fun state arguments =>
  match operandsOf arguments with
  | [] => fails "let" state "expression expected".toList 1
  | sources => computeAll 0 sources state

/-- Enters a directory; the error is a complaint. -/
def entering (state : State) (physical : Bool) (target shown : Text) : Except Text State :=
  let entered := Builtins.enteredBy state.entered target
  match state.nodeAt false (if physical then target else entered) with
  | .error error => .error (shown ++ ": ".toList ++ Tools.reason error)
  | .ok (position, node) =>
      if node.entry ≠ .directory then .error (shown ++ ": Not a directory".toList)
      else if !node.allows Node.toSearch then .error (shown ++ ": Permission denied".toList)
      else
        let moved := { state with directory := position }
        let moved := { moved with
          entered := if physical then Tools.currentPath moved else entered }
        let named (state : State) (name : String) (value : Text) : State :=
          (state.setVariable name.toList value).exportVariable name.toList
        .ok (named (named moved "OLDPWD" state.entered) "PWD" moved.entered)

def cd : Builtin := reading "cd" "LPe@" "" fun state found operands =>
  let physical := Builtins.isPhysical (found.map Prod.fst) || state.has 'P'
  let goes (target shown : Text) (tells : Bool) : Flow × State :=
    let isFolder (place : Text × Bool) : Bool := match state.stat place.1 with
      | .ok (_, .directory) => true
      | _ => false
    let (place, isFound) := ((Builtins.directoryPlaces state target).find? isFolder).getD
      (if target = [] then ['.'] else target, false)
    match entering state physical place shown with
    | .error message => fails "cd" state message 1
    | .ok after =>
        if tells || isFound then put "cd" after (after.entered ++ ['\n']) else next after 0
  match operands with
  | _ :: _ :: _ => fails "cd" state "too many arguments".toList 1
  | [] =>
      match state.value? "HOME".toList with
      | none => fails "cd" state "HOME not set".toList 1
      | some home => goes home home false
  | [['-']] =>
      match state.value? "OLDPWD".toList with
      | none => fails "cd" state "OLDPWD not set".toList 1
      | some before => goes before before true
  | [target] => goes target target false

def pwd : Builtin := reading "pwd" "LP" "" fun state found _ =>
  let physical := Builtins.isPhysical (found.map Prod.fst) || state.has 'P'
  put "pwd" state ((if physical then Tools.currentPath state else state.entered) ++ ['\n'])

/-- A path with the home directory at its front shown as a tilde. -/
def withTilde (state : State) (path : Text) : Text :=
  match state.value? "HOME".toList with
  | some home =>
      if home ≠ [] && home.isPrefixOf path &&
          (path.length = home.length || path[home.length]? = some '/') then
        '~' :: path.drop home.length
      else path
  | none => path

/-- The directories that are gone back to, on one line. -/
def shownDirectories (state : State) : Text :=
  Text.join [' '] ((state.entered :: state.directories).map (withTilde state)) ++ ['\n']

/-- The place in a list that an argument with a sign names. -/
def rotation? (count : Nat) : Text → Option (Option Nat)
  | '+' :: digits => (Text.toNat? digits).map fun number =>
      if number < count then some number else none
  | '-' :: digits => (Text.toNat? digits).map fun number =>
      if number < count then some (count - 1 - number) else none
  | _ => none

def pushd : Builtin := fun state arguments =>
  let all := state.entered :: state.directories
  let changed (directories : List Text) : Flow × State :=
    match directories with
    | [] => next state 0
    | first :: rest =>
        match entering state false first first with
        | .error message => fails "pushd" state message 1
        | .ok after =>
            let after := { after with directories := rest }
            put "pushd" after (shownDirectories after)
  match operandsOf arguments with
  | [] =>
      match state.directories with
      | [] => fails "pushd" state "no other directory".toList 1
      | first :: rest => changed (first :: state.entered :: rest)
  | argument :: _ =>
      match rotation? all.length argument with
      | some (some place) => changed (all.drop place ++ all.take place)
      | some none =>
          fails "pushd" state (argument ++ ": directory stack index out of range".toList) 1
      | none =>
          if argument.head? = some '-' && argument ≠ ['-'] then
            misused "pushd" state (argument ++ ": invalid number".toList)
          else
            match entering state false argument argument with
            | .error message => fails "pushd" state message 1
            | .ok after =>
                let after := { after with directories := all }
                put "pushd" after (shownDirectories after)

def popd : Builtin := fun state arguments =>
  let all := state.entered :: state.directories
  if state.directories = [] then fails "popd" state "directory stack empty".toList 1
  else
    let leaves (directories : List Text) : Flow × State :=
      match directories with
      | [] => next state 0
      | first :: rest =>
          match entering state false first first with
          | .error message => fails "popd" state message 1
          | .ok after =>
              let after := { after with directories := rest }
              put "popd" after (shownDirectories after)
    match operandsOf arguments with
    | [] => leaves state.directories
    | argument :: _ =>
        match rotation? all.length argument with
        | some (some 0) => leaves state.directories
        | some (some place) =>
            let after := { state with directories := (all.eraseIdx place).tail }
            put "popd" after (shownDirectories after)
        | some none =>
            fails "popd" state (argument ++ ": directory stack index out of range".toList) 1
        | none => misused "popd" state (argument ++ ": invalid argument".toList)

def dirs : Builtin := fun state arguments =>
  let all := state.entered :: state.directories
  match arguments.find? fun argument => (rotation? all.length argument).isSome &&
    argument.any Char.isDigit with
  | some argument =>
      match rotation? all.length argument with
      | some (some place) =>
          put "dirs" state (withTilde state (all.getD place []) ++ ['\n'])
      | _ => fails "dirs" state (argument.drop 1 ++ ": directory stack index out of range".toList) 1
  | none =>
      reading "dirs" "clpv" "" (fun state found _ =>
        let shown (path : Text) : Text := if given 'l' found then path else withTilde state path
        if given 'c' found then next { state with directories := [] } 0
        else if given 'v' found then
          put "dirs" state (all.zipIdx.flatMap fun (path, index) =>
            let number := Text.ofNat index
            List.replicate (2 - number.length) ' ' ++ number ++ "  ".toList ++ shown path ++ ['\n'])
        else if given 'p' found then
          put "dirs" state (all.flatMap fun path => shown path ++ ['\n'])
        else put "dirs" state (Text.join [' '] (all.map shown) ++ ['\n'])) state arguments

/-- A mask in four digits. -/
def maskText (mask : Nat) : Text :=
  let digits := Nat.toDigits 8 mask
  List.replicate (4 - digits.length) '0' ++ digits

def umask : Builtin := reading "umask" "pS" "" fun state found operands =>
  match operands with
  | [] =>
      let symbols := "u=".toList ++ Builtins.permissionLetters (state.mask / 64 % 8) ++
        ",g=".toList ++ Builtins.permissionLetters (state.mask / 8 % 8) ++ ",o=".toList ++
        Builtins.permissionLetters (state.mask % 8)
      let isSymbolic := given 'S' found
      put "umask" state ((if given 'p' found then
          (if isSymbolic then "umask -S " else "umask ").toList else []) ++
        (if isSymbolic then symbols else maskText state.mask) ++ ['\n'])
  | mode :: _ =>
      if mode.head?.any Char.isDigit then
        if mode.all Format.isOctal then
          next { state with mask := Nat.ofDigitChars 8 mode 0 % 512 } 0
        else fails "umask" state (mode ++ ": octal number out of range".toList) 1
      else
        match (Builtins.splitCommas mode).foldlM Builtins.maskClause? state.mask with
        | some mask =>
            let after := { state with mask := mask }
            next after 0
        | none =>
            let who := mode.takeWhile fun char => "ugoa".toList.contains char
            match mode.drop who.length with
            | sign :: _ =>
                if "+-=".toList.contains sign then
                  let bad := (mode.drop (who.length + 1)).dropWhile fun char =>
                    "rwxXst".toList.contains char
                  fails "umask" state ('\x60' :: bad.take 1 ++
                    "': invalid symbolic mode character".toList) 1
                else fails "umask" state ('\x60' :: sign ::
                  "': invalid symbolic mode operator".toList) 1
            | [] => fails "umask" state "\x60': invalid symbolic mode operator".toList 1

/-- The numbers of the events that are no signals but can be caught. -/
def failureEvent : Nat := 1000
def stepEvent : Nat := 1001
def returnEvent : Nat := 1002

def eventNumber? (text : Text) : Option Nat :=
  let name := text.map Char.toUpper
  match String.ofList name with
  | "ERR" => some failureEvent
  | "DEBUG" => some stepEvent
  | "RETURN" => some returnEvent
  | _ =>
      if "SIG".toList.isPrefixOf name && name.length > 3 then
        (Builtins.signalNumber? (name.drop 3)).filter fun _ => !(name.drop 3).all Char.isDigit
      else Builtins.signalNumber? name

def eventName (number : Nat) : Text :=
  if number = 0 then "EXIT".toList
  else if number = failureEvent then "ERR".toList
  else if number = stepEvent then "DEBUG".toList
  else if number = returnEvent then "RETURN".toList
  else "SIG".toList ++ Builtins.shortName number

def eventPlace (number : Nat) : Nat :=
  if number = stepEvent then 65 else if number = failureEvent then 66
  else if number = returnEvent then 67 else number

/-- What is caught, as commands that would set it up again. -/
def shownTraps (traps : List (Nat × Text)) : Text :=
  let sorted := traps.mergeSort fun left right => eventPlace left.1 ≤ eventPlace right.1
  sorted.flatMap fun (number, action) =>
    "trap -- ".toList ++ Quoted.always action ++ ' ' :: eventName number ++ ['\n']

/-- All signals with their numbers, five on a line. -/
def signalTable : Text :=
  let numbers := (List.range 65).filter fun number =>
    number ≠ 0 && number ≠ 32 && number ≠ 33
  (numbers.zipIdx).flatMap fun (number, index) =>
    let shown := Text.ofNat number
    let name := if number = 16 then "SIGSTKFLT".toList else eventName number
    List.replicate (2 - shown.length) ' ' ++ shown ++ ") ".toList ++ name ++
      (if index % 5 = 4 || index + 1 = numbers.length then ['\n'] else ['\t'])

def trap : Builtin := reading "trap" "lp" "" fun state found operands =>
  if given 'l' found then put "trap" state signalTable
  else if operands = [] then put "trap" state (shownTraps state.traps)
  else
    let warned (state : State) (bad : List Text) : State := bad.foldl
      (fun state name => warn "trap" state (name ++ ": invalid signal specification".toList)) state
    let isUnknown (text : Text) : Bool := (eventNumber? text).isNone
    if given 'p' found then
      let numbers := operands.filterMap eventNumber?
      let bad := operands.filter isUnknown
      putWith "trap" (warned state bad) (numbers.flatMap fun number =>
        shownTraps (state.traps.filter fun entry => entry.1 = number)) (if bad = [] then 0 else 1)
    else
      match operands with
      | [] => next state 0
      | first :: rest =>
          let resets := (rest = [] && (eventNumber? first).isSome) ||
            (first.all Char.isDigit && first ≠ [])
          if rest = [] && !resets then
            next (showUsage "trap" state) 2
          else
            let signals := if resets then operands else rest
            let numbers := (signals.filterMap eventNumber?).filter fun number =>
              number ≠ 9 && number ≠ 19
            let bad := signals.filter isUnknown
            let others := state.traps.filter fun entry => !numbers.contains entry.1
            let traps := if resets || first = ['-'] then others
              else numbers.map (fun number => (number, first)) ++ others
            next (warned { state with traps := traps } bad) (if bad = [] then 0 else 1)

/-- The job that an operand of `wait` names; the error is a complaint with its status. -/
def awaitedJob (state : State) (operand : Text) : Except (Text × Nat) Nat :=
  if operand.head? = some '%' then
    match state.namedJob operand with
    | .ok number => .ok number
    | .error _ => .error (operand ++ ": no such job".toList, 127)
  else
    match Text.toNat? operand with
    | some number =>
        if state.children.contains number then .ok number
        else .error ("pid ".toList ++ operand ++ " is not a child of this shell".toList, 127)
    | none => .error ('\x60' :: operand ++ "': not a pid or valid job spec".toList, 1)

/-- Waits for operands in turn; `status` is the status so far. -/
def awaitAll (status : Nat) : List Text → State → Flow × State
  | [], state => next state status
  | operand :: rest, state =>
      match awaitedJob state operand with
      | .error (message, status) => awaitAll status rest (warn "wait" state message)
      | .ok number =>
          match Builtins.waitFor state [number] with
          | none => (.forever, state)
          | some after => awaitAll after.status rest after

/-- The job that ends first among those that were not waited for. -/
def firstToEnd? (state : State) : Option Nat :=
  let left := state.children.filter fun number => !state.waited.contains number
  (left.foldl
    (fun (best : Option (Nat × Option Duration)) number =>
      let time := (state.job? number).bind Job.endsAt
      match best, time with
      | none, time => some (number, time)
      | some (_, none), some time => some (number, some time)
      | some (other, some first), some time =>
          if time ≤ first then some (number, some time) else some (other, some first)
      | best, none => best)
    none).map Prod.fst

def wait : Builtin := reading "wait" "fn" "p" fun state found operands =>
  if given 'n' found then
    match firstToEnd? state with
    | none => next state 127
    | some number =>
        match Builtins.waitFor state [number] with
        | none => (.forever, state)
        | some after => (.next, after)
  else if operands = [] then
    match Builtins.waitFor state state.children with
    | none => (.forever, state)
    | some after => next after 0
  else awaitAll 0 operands state

def shownAlias (entry : Text × Text) : Text :=
  "alias ".toList ++ entry.1 ++ '=' :: Quoted.single entry.2 ++ ['\n']

def aliases : Builtin := reading "alias" "p" "" fun state found operands =>
  let sorted := state.aliases.mergeSort fun left right => !decide (right.1 < left.1)
  if operands = [] || given 'p' found then put "alias" state (sorted.flatMap shownAlias)
  else
    let (state, shown, failed) := operands.foldl
      (fun ((state, shown, failed) : State × Text × Bool) argument =>
        match Builtins.assignment argument with
        | (name, some value) =>
            let others := state.aliases.filter fun entry => entry.1 ≠ name
            ({ state with aliases := others ++ [(name, value)] }, shown, failed)
        | (name, none) =>
            match List.lookup name state.aliases with
            | some value => (state, shown ++ shownAlias (name, value), failed)
            | none => (warn "alias" state (name ++ ": not found".toList), shown, true))
      (state, [], false)
    putWith "alias" state shown (if failed then 1 else 0)

def unalias : Builtin := reading "unalias" "a" "" fun state found operands =>
  if given 'a' found then next { state with aliases := [] } 0
  else if operands = [] then next (showUsage "unalias" state) 2
  else
    let (state, failed) := operands.foldl
      (fun ((state, failed) : State × Bool) name =>
        if (List.lookup name state.aliases).isSome then
          ({ state with aliases := state.aliases.filter fun entry => entry.1 ≠ name }, failed)
        else (warn "unalias" state (name ++ ": not found".toList), true))
      (state, false)
    next state (if failed then 1 else 0)

def hash : Builtin := reading "hash" "lrdt" "p" fun state found operands =>
  if given 'r' found then next { state with located := [] } 0
  else if operands = [] then
    if state.located = [] then put "hash" state "hash: hash table empty\n".toList
    else put "hash" state ("hits\tcommand\n".toList ++
      (state.located.reverse.filterMap (Builtins.programPlace? state)).flatMap fun place =>
        "   1\t".toList ++ place ++ ['\n'])
  else
    let (state, failed) := operands.foldl
      (fun ((state, failed) : State × Bool) name =>
        match Builtins.programPlace? state name with
        | some _ => ({ state with located := (name :: state.located).eraseDups }, failed)
        | none => (warn "hash" state (name ++ ": not found".toList), true))
      (state, false)
    next state (if failed then 1 else 0)

def times : Builtin := fun state _ =>
  put "times" state "0m0.000s 0m0.000s\n0m0.000s 0m0.000s\n".toList

def caller : Builtin := fun state arguments =>
  let source := state.shownName.getD state.name
  let names := state.callNames ++ (if state.isString then [] else ["main".toList])
  match arguments with
  | [] =>
      match state.callLines with
      | [] => if state.isString then next state 1 else put "caller" state "0 NULL\n".toList
      | line :: _ =>
          put "caller" state (Text.ofNat line ++ ' ' ::
            (if state.isString then "NULL".toList else source) ++ ['\n'])
  | argument :: _ =>
      match Text.toNat? argument with
      | none => misused "caller" state (argument ++ ": invalid number".toList)
      | some count =>
          match state.callLines[count]?, names[count + 1]? with
          | some line, some name =>
              put "caller" state (Text.ofNat line ++ ' ' :: name ++ ' ' :: source ++ ['\n'])
          | _, _ => next state 1

/-- A command that makes no sense without a terminal. -/
def needsTerminal (command : String) : Builtin := fun state _ =>
  fails command state "no job control".toList 1

end Bash

end FolderScript.Shell
