/-
Commands that the shell carries out by itself.
-/
import FolderScript.Machine.Shell.Builtins.Jobs
import FolderScript.Machine.Shell.Builtins.Variables
import FolderScript.Machine.Shell.Condition
import FolderScript.Machine.Shell.Format
import FolderScript.Machine.Shell.Lookup

namespace FolderScript.Shell

namespace Builtins

def echo : Builtin := fun state arguments => put "echo" state (Format.echoEscaped arguments)

/-- The wording of what is wrong with formatted output. -/
def formatComplaint : Format.Complaint → Text
  | .argument text fault => text ++ (match fault with
      | .noNumber => ": expected numeric value"
      | .notWhole => ": not completely converted"
      | .outOfRange => ": Numerical result out of range").toList
  | .directive text => text ++ ": invalid directive".toList
  | .unfinished _ => "missing format character".toList

def printf : Builtin := reading "printf" "" fun state _ operands =>
  match operands with
  | [] => refuse "printf" state "usage: printf format [arg ...]".toList
  | format :: rest =>
      let written := Format.format false Format.shellQuoted format rest
      let warned := written.complaints.foldl
        (fun (state : State) complaint =>
          state.complain ("printf: ".toList ++ formatComplaint complaint)) state
      let status := if written.isBroken then 2 else if written.complaints = [] then 0 else 1
      putWith "printf" warned written.text status

/-- Goes on with the status of a condition. -/
def condition (command : String) (state : State) (words : List Text) : Flow × State :=
  match Condition.evaluate state words with
  | .ok holds => next state (if holds then 0 else 1)
  | .error fault => refuse command state fault.message

def test : Builtin := condition "test"

def bracket : Builtin := fun state arguments =>
  if arguments.getLast? = some [']'] then condition "[" state arguments.dropLast
  else refuse "[" state "missing ]".toList

/-- Whether the last of two letters asks for paths without links. -/
def isPhysical (letters : List Char) : Bool :=
  letters.reverse.find? (fun letter => letter == 'L' || letter == 'P') == some 'P'

def pwd : Builtin := reading "pwd" "LP" fun state letters _ =>
  put "pwd" state ((if isPhysical letters then Tools.currentPath state else state.entered) ++ ['\n'])

/-- The path of a directory by which it is entered, as written and seen from another:
what leads up and down again is left out, and two separators in front stay two. -/
def enteredBy (base target : Text) : Text :=
  let isAbsolute := target.head? = some '/'
  let root : Text := match if isAbsolute then target else base with
    | '/' :: '/' :: '/' :: _ => ['/']
    | '/' :: '/' :: _ => ['/', '/']
    | _ => ['/']
  let whole := if isAbsolute then target else base ++ '/' :: target
  let names := (whole.splitOn '/').foldl
    (fun (names : List Text) name =>
      if name = [] || name = ['.'] then names
      else if name = ['.', '.'] then names.tail
      else name :: names)
    []
  root ++ Text.join ['/'] names.reverse

/-- The places where a directory is looked for, and whether it is told which one was
found. -/
def directoryPlaces (state : State) (target : Text) : List (Text × Bool) :=
  let isPlain := target.head? ≠ some '/' && target ≠ ['.'] && target ≠ ['.', '.'] &&
    !"./".toList.isPrefixOf target && !"../".toList.isPrefixOf target
  match state.value? "CDPATH".toList with
  | some search =>
      if isPlain && search ≠ [] then
        let wanted := if target = [] then ['.'] else target
        (search.splitOn ':').map fun part =>
          if part = [] then (wanted, false) else (part ++ '/' :: wanted, true)
      else []
  | none => []

def cd : Builtin := reading "cd" "LP" fun state letters operands =>
  let (target, tells) : Text × Bool := match operands with
    | [] => ((state.value? "HOME".toList).getD [], false)
    | ['-'] :: _ => ((state.value? "OLDPWD".toList).getD [], true)
    | operand :: _ => (operand, false)
  let wanted := if target = [] then ['.'] else target
  let isFolder (place : Text × Bool) : Bool := match state.stat place.1 with
    | .ok (_, .directory) => true
    | _ => false
  let (place, shown) := ((directoryPlaces state target).find? isFolder).getD (wanted, false)
  let entered := enteredBy state.entered place
  let physical := isPhysical letters
  match state.nodeAt false (if physical then place else entered) with
  | .ok (position, node) =>
      if node.entry ≠ .directory || !node.allows Node.toSearch then
        refuse "cd" state ("can't cd to ".toList ++ target)
      else
        let moved := { state with directory := position }
        let moved := { moved with
          entered := if physical then Tools.currentPath moved else entered }
        let named (state : State) (name : String) (value : Text) : State :=
          (state.setVariable name.toList value).exportVariable name.toList
        let after := named (named moved "OLDPWD" state.entered) "PWD" moved.entered
        if tells || shown then put "cd" after (after.entered ++ ['\n']) else next after 0
  | .error _ => refuse "cd" state ("can't cd to ".toList ++ target)

def exit : Builtin := fun state arguments =>
  match arguments with
  | [] => (.exit state.status, state)
  | argument :: _ =>
      match number? argument with
      | some number => (.exit (number % 256), state.withStatus (number % 256))
      | none => noNumber "exit" state argument

def returns : Builtin := fun state arguments =>
  match arguments with
  | [] => (.returned, state)
  | argument :: _ =>
      match number? argument with
      | some number => (.returned, state.withStatus number)
      | none => noNumber "return" state argument

/-- Leaves as many loops as an argument names, or as there are. -/
def leave (command : String) (flow : Nat → Flow) : Builtin := fun state arguments =>
  let argument := arguments.headD ['1']
  match number? argument with
  | none | some 0 => noNumber command state argument
  | some count =>
      let count := min count state.loops
      if count = 0 then next state 0 else (flow count, state.withStatus 0)

/-- The permissions that a mask leaves to one of three kinds of users. -/
def permissionLetters (mask : Nat) : Text :=
  (if mask / 4 % 2 = 0 then ['r'] else []) ++ (if mask / 2 % 2 = 0 then ['w'] else []) ++
    (if mask % 2 = 0 then ['x'] else [])

def maskClause? (mask : Nat) (clause : Text) : Option Nat :=
  let who := clause.takeWhile fun char => "ugoa".toList.contains char
  match clause.drop who.length with
  | sign :: letters =>
      if !"+-=".toList.contains sign || !letters.all fun char => "rwxXst".toList.contains char then
        none
      else
        let bits := (if letters.contains 'r' then 4 else 0) +
          (if letters.contains 'w' then 2 else 0) + (if letters.contains 'x' then 1 else 0)
        let names (letter : Char) : Bool := who = [] || who.contains 'a' || who.contains letter
        let changed (letter : Char) (old : Nat) : Nat :=
          let allowed := 7 - old
          let after := match sign with
            | '+' => Nat.lor allowed bits
            | '-' => Nat.land allowed (7 - bits)
            | _ => bits
          if names letter then 7 - after else old
        some (changed 'u' (mask / 64 % 8) * 64 + changed 'g' (mask / 8 % 8) * 8 +
          changed 'o' (mask % 8))
  | [] => none

def splitCommas (text : Text) : List Text :=
  text.foldr
    (fun char (parts : List Text) =>
      match parts with
      | [] => [[char]]
      | part :: others => if char = ',' then [] :: part :: others else (char :: part) :: others)
    [[]]

def umask : Builtin := reading "umask" "S" fun state letters operands =>
  match operands with
  | [] =>
      if letters.contains 'S' then
        put "umask" state ("u=".toList ++ permissionLetters (state.mask / 64 % 8) ++
          ",g=".toList ++ permissionLetters (state.mask / 8 % 8) ++ ",o=".toList ++
          permissionLetters (state.mask % 8) ++ ['\n'])
      else
        let digits := Nat.toDigits 8 state.mask
        put "umask" state (List.replicate (4 - digits.length) '0' ++ digits ++ ['\n'])
  | mode :: _ =>
      if mode.head?.any Char.isDigit then
        if mode.all Format.isOctal then
          next { state with mask := Nat.ofDigitChars 8 mode 0 % 512 } 0
        else noNumber "umask" state mode
      else
        match (splitCommas mode).foldlM maskClause? state.mask with
        | some mask => next { state with mask := mask } 0
        | none => refuse "umask" state ("Illegal mode: ".toList ++ mode)

/-- The limits: their letters, names and usual values. -/
def limitNames : List (Char × String × String) :=
  [('t', "time(seconds)", "unlimited"), ('f', "file(blocks)", "unlimited"),
    ('d', "data(kbytes)", "unlimited"), ('s', "stack(kbytes)", "8192"),
    ('c', "coredump(blocks)", "0"), ('m', "memory(kbytes)", "unlimited"),
    ('l', "locked memory(kbytes)", "8192"), ('p', "process", "unlimited"),
    ('n', "nofiles", "1024"), ('v', "vmemory(kbytes)", "unlimited"),
    ('w', "locks", "unlimited"), ('r', "rtprio", "0")]

def ulimit : Builtin := reading "ulimit" "HSatfdscmlpnvwr" fun state letters operands =>
  let letter := (letters.reverse.find? fun letter =>
    limitNames.any fun limit => limit.1 == letter).getD 'f'
  let current (letter : Char) : Text := (List.lookup letter state.limits).getD
    ((List.lookup letter limitNames).elim [] fun limit => limit.2.toList)
  match operands with
  | _ :: _ :: _ => refuse "ulimit" state "too many arguments".toList
  | [] =>
      if letters.contains 'a' then
        put "ulimit" state (limitNames.flatMap fun (letter, name, _) =>
          name.toList ++ List.replicate (21 - name.length) ' ' ++ current letter ++ ['\n'])
      else put "ulimit" state (current letter ++ ['\n'])
  | [value] =>
      if letters.contains 'a' then refuse "ulimit" state "too many arguments".toList
      else if value = "unlimited".toList then next state 0
      else
        match Text.toNat? value with
        | none => refuse "ulimit" state "bad number".toList
        | some number =>
            if (Text.toNat? (current letter)).any fun most => most < number then
              refuse "ulimit" state "error setting limit (Operation not permitted)".toList
            else next { state with limits := (letter, value) :: state.limits } 0

def times : Builtin := fun state _ =>
  put "times" state "0m0.000000s 0m0.000000s\n0m0.000000s 0m0.000000s\n".toList

def programPlace? (state : State) (name : Text) : Option Text :=
  let isProgram (path : Text) : Bool :=
    ((Lookup.isProgram state.world.files state.directory path).toOption).getD false
  (Lookup.candidates (some ((state.value? "PATH".toList).getD [])) name).find? isProgram

def programTableSize : Nat := 31

def hash : Builtin := reading "hash" "r" fun state letters operands =>
  if letters.contains 'r' then next { state with located := [] } 0
  else if operands = [] then
    let places := (inTableOrder programTableSize (fun (name : Text) => name)
      state.located).filterMap (programPlace? state)
    put "hash" state (Tools.endLines places)
  else
    let (state, failed) := operands.foldl
      (fun ((state, failed) : State × Bool) name =>
        match programPlace? state name with
        | some _ => ({ state with located := (name :: state.located).eraseDups }, failed)
        | none => (state.complain ("hash: ".toList ++ name ++ ": not found".toList), true))
      (state, false)
    next state (if failed then 1 else 0)

/-- The builtins that need nothing but their arguments. -/
def plain : List (String × Builtin) :=
  [("echo", echo), ("printf", printf), ("test", test), ("[", bracket), ("pwd", pwd), ("cd", cd),
    ("chdir", cd), ("true", fun state _ => next state 0), (":", fun state _ => next state 0),
    ("false", fun state _ => next state 1), ("exit", exit), ("return", returns),
    ("break", leave "break" .broken), ("continue", leave "continue" .continued),
    ("shift", shift), ("export", exports), ("readonly", fixes), ("local", localizes),
    ("unset", unset), ("set", set), ("read", read), ("getopts", getopts), ("alias", aliases),
    ("unalias", unalias), ("wait", wait), ("trap", trap), ("umask", umask),
    ("ulimit", ulimit), ("times", times), ("hash", hash),
    ("jobs", jobs), ("fg", needsTerminal "fg"), ("bg", needsTerminal "bg")]

/-- The builtin of a name, if it needs nothing but its arguments. -/
def ofName? (name : String) : Option Builtin := List.lookup name plain

/-- The builtins that carry out other commands. -/
def calling : List String := ["eval", ".", "exec", "command", "kill", "type"]

def isBuiltin (name : String) : Bool := (ofName? name).isSome || calling.contains name

/-- What a name stands for: in words, or only so that it can be used again. -/
def describe (state : State) (wordy : Bool) (name : Text) : Option Text :=
  let word := String.ofList name
  let said (text : String) : Option Text :=
    some (if wordy then name ++ text.toList else name)
  if Reader.keywords.contains word then said " is a shell keyword"
  else
    match List.lookup name state.aliases with
    | some value =>
        some (if wordy then name ++ " is an alias for ".toList ++ value
          else "alias ".toList ++ shownAlias (name, value))
    | none =>
        if (List.lookup name state.functions).isSome then said " is a shell function"
        else if isBuiltin word then
          said (if specialBuiltins.contains word then " is a special shell builtin"
            else " is a shell builtin")
        else if name.contains '/' then
          match state.stat name with
          | .ok _ => some (if wordy then name ++ " is ".toList ++ name else name)
          | .error _ => none
        else
          (programPlace? state name).map fun place =>
            if !wordy then place
            else if state.located.contains name then
              name ++ " is a tracked alias for ".toList ++ place
            else name ++ " is ".toList ++ place

def describeAll (command : String) (wordy : Bool) (state : State) (names : List Text) :
    Flow × State :=
  let (text, failed, state) := names.foldl
    (fun ((text, failed, state) : Text × Bool × State) name =>
      let isPlain := !name.contains '/' && !isBuiltin (String.ofList name) &&
        (List.lookup name state.functions).isNone && (programPlace? state name).isSome
      let kept := if isPlain then { state with located := (name :: state.located).eraseDups }
        else state
      match describe state wordy name with
      | some line => (text ++ line ++ ['\n'], failed, kept)
      | none => (if wordy then text ++ name ++ ": not found\n".toList else text, true, state))
    ([], false, state)
  putWith command state text (if failed then 127 else 0)

/-- Tells what the first of some names stands for. -/
def looksUp : Builtin := fun state arguments =>
  match options "pvV" "" (arguments.length + 1) arguments with
  | .error message => refuse "command" state message
  | .ok (letters, names) =>
      let wordy := letters.any fun entry => entry.1 == 'V'
      if letters.any fun entry => entry.1 == 'v' || entry.1 == 'V' then
        describeAll "command" wordy state (names.take 1)
      else next state 0

end Builtins

end FolderScript.Shell
