/-
How commands are called: what stands in front of the name of a command, and the
options in front of the arguments of a shell.
-/
import FolderScript.Machine.Shell.Builtins
import FolderScript.Machine.Shell.Forking

namespace FolderScript.Shell

/-- A command without the words in front of it that only tell how it is looked for. -/
structure Called where
  words : List Text
  /-- Whether functions are passed over. -/
  skipsFunctions : Bool := false
  /-- Whether programs are looked for in the usual places. -/
  isUsual : Bool := false
  deriving DecidableEq, Repr

namespace Called

/-- The words after the options of `command`, if there is nothing but a way to look
for a command, and whether that is in the usual places. -/
def afterOptions : List Text → Option (List Text × Bool)
  | [] => none
  | word :: rest =>
      match word with
      | ['-', '-'] => if rest = [] then none else some (rest, false)
      | '-' :: letter :: letters =>
          if (letter :: letters).all (· = 'p') then
            (afterOptions rest).map fun (words, _) => (words, true)
          else none
      | _ => some (word :: rest, false)

/-- Whether a word is the name of a command that the shell carries out by itself. -/
def isOwn (state : State) (word : Text) : Bool :=
  match state.dialect with
  | .dash => Builtins.isBuiltin (String.ofList word)
  | .bash => Bash.isBuiltin (String.ofList word)

/-- Strips the words in front of a command; `count` bounds how often. -/
def strip (state : State) : Nat → Called → Called
  | 0, called => called
  | count + 1, called =>
      match called.words with
      | name :: rest =>
          let isFunction := !called.skipsFunctions && (List.lookup name state.functions).isSome
          let isDirect := state.dialect = .bash && name = "builtin".toList &&
            rest.head?.any (isOwn state)
          if isFunction then called
          else if isDirect then strip state count ⟨rest, true, called.isUsual⟩
          else if name ≠ "command".toList then called
          else
            match afterOptions rest with
            | none => called
            | some (words, isUsual) =>
                strip state count ⟨words, true, isUsual || called.isUsual⟩
      | [] => called

def ofWords (state : State) (words : List Text) : Called :=
  strip state words.length { words := words }

def builtin? (state : State) (called : Called) : Option String :=
  match called.words with
  | [] => none
  | name :: _ =>
      let isFunction := !called.skipsFunctions && (List.lookup name state.functions).isSome
      if isFunction || !isOwn state name then none else some (String.ofList name)

end Called

namespace Builtins

/-- The builtins whose arguments may be assignments. -/
def declaring : List String := ["export", "readonly", "local", "alias"]

/-- Whether words that follow others may be assignments. -/
def declares (state : State) (words : List Text) : Bool :=
  ((Called.ofWords state words).builtin? state).any
    (match state.dialect with
      | .dash => declaring
      | .bash => Bash.declaring).contains

def endsShell (state : State) (words : List Text) : Bool :=
  let outer : Called := { words := words }
  state.dialect = .dash && (outer.builtin? state).any specialBuiltins.contains

end Builtins

/-- The parts of a word that is an assignment: what stands up to the sign, and the
value. -/
def Word.assignment? (word : Word) : Option (Text × Word) :=
  match word with
  | .literal text false :: rest =>
      let name := text.takeWhile (· ≠ '=')
      if isName name && name.length < text.length then
        some (name ++ ['='], .literal (text.drop (name.length + 1)) false :: rest)
      else none
  | _ => none

/-- What the options in front of the arguments of a shell lead to. -/
structure Opening where
  state : State
  /-- Whether the first operand is a script. -/
  isCommand : Bool := false
  /-- What is shown first. -/
  shown : Text := []
  operands : List Text

/-- Reads the options in front of the arguments of a shell. -/
def Opening.read (state : State) (isCommand : Bool) (shown : Text) :
    List Text → Except Text Opening
  | [] => .ok ⟨state, isCommand, shown, []⟩
  | argument :: rest =>
      match argument with
      | ['-'] | ['-', '-'] => .ok ⟨state, isCommand, shown, rest⟩
      | sign :: letters =>
          if sign ≠ '-' ∧ sign ≠ '+' then .ok ⟨state, isCommand, shown, argument :: rest⟩
          else
            let value := sign = '-'
            let others := letters.filter fun letter => letter ≠ 'c' && letter ≠ 'l'
            let isCommand := isCommand || letters.contains 'c'
            match Builtins.switchLetters value state others, rest with
            | .error letter, _ => .error ("Illegal option -".toList ++ [letter])
            | .ok (state, false), rest => Opening.read state isCommand shown rest
            | .ok (state, true), [] =>
                let list := if value then Builtins.optionList state
                  else Builtins.optionCommands state
                .ok ⟨state, isCommand, shown ++ list, []⟩
            | .ok (state, true), name :: rest =>
                match List.lookup (String.ofList name) Builtins.optionNames with
                | none => .error ("Illegal option -o ".toList ++ name)
                | some none => Opening.read state isCommand shown rest
                | some (some letter) =>
                    Opening.read (Builtins.switch value state letter) isCommand shown rest
      | [] => .ok ⟨state, isCommand, shown, argument :: rest⟩

namespace Bash

/-- The options with names only that stand in front of the arguments of a shell, and
whether they take a value. -/
def longOptions : List (String × Bool) :=
  [("debug", false), ("debugger", false), ("dump-po-strings", false), ("dump-strings", false),
    ("help", false), ("init-file", true), ("login", false), ("noediting", false),
    ("noprofile", false), ("norc", false), ("posix", false), ("pretty-print", false),
    ("rcfile", true), ("restricted", false), ("verbose", false), ("version", false)]

def shellUsage : Text :=
  "Usage:\tbash [GNU long option] [option] ...\n\tbash [GNU long option] [option] script-file ...\n".toList ++
    "GNU long options:\n".toList ++
    (longOptions.flatMap fun (name, _) => "\t--".toList ++ name.toList ++ ['\n']) ++
    "Shell options:\n\t-ilrsD or -c command or -O shopt_option\t\t(invocation only)\n".toList ++
    "\t-abefhkmnptuvxBCEHPT or -o option\n".toList

def versionText : Text := "GNU bash, version 5.2.21(1)-release (x86_64-pc-linux-gnu)\n".toList

/-- Why a shell does not start: what it says, and its status. -/
structure Refusal where
  message : Text
  status : Nat
  deriving DecidableEq, Repr

/-- The letters in front of the arguments of a shell that are no options of it later. -/
def openingLetters : Text := "ilrDs".toList

/-- Reads the options in front of the arguments of a shell, so many at most. -/
def opening (state : State) (isCommand : Bool) (shown : Text) :
    Nat → List Text → Except Refusal Opening
  | 0, arguments => .ok ⟨state, isCommand, shown, arguments⟩
  | _ + 1, [] => .ok ⟨state, isCommand, shown, []⟩
  | most + 1, argument :: rest =>
      let front := state.name ++ ": ".toList
      let invalid : Except Refusal Opening :=
        .error ⟨front ++ argument ++ ": invalid option\n".toList ++ shellUsage, 2⟩
      match argument with
      | ['-'] | ['-', '-'] => .ok ⟨state, isCommand, shown, rest⟩
      | '-' :: '-' :: name =>
          match List.lookup (String.ofList name) longOptions with
          | none => invalid
          | some takesValue =>
              if name = "version".toList then .error ⟨versionText, 0⟩
              else opening (if name = "verbose".toList then Builtins.switch true state 'v' else state)
                isCommand shown most (if takesValue then rest.tail else rest)
      | sign :: letter :: letters =>
          if sign ≠ '-' ∧ sign ≠ '+' then .ok ⟨state, isCommand, shown, argument :: rest⟩
          else
            let value := sign = '-'
            let all := letter :: letters
            let isSpecial (letter : Char) : Bool :=
              openingLetters.contains letter || letter == 'c' || letter == 'O'
            let isCommand := isCommand || (value && all.contains 'c')
            let state := if all.contains 's' then Builtins.switch true state 's' else state
            match all.find? fun letter => !(optionOrder.contains letter) && letter ≠ 'o' &&
              !isSpecial letter with
            | some bad =>
                .error ⟨front ++ [sign, bad] ++ ": invalid option\n".toList ++ shellUsage, 2⟩
            | none =>
                let state := (all.filter optionOrder.contains).foldl (Builtins.switch value) state
                if all.contains 'o' then
                  match rest with
                  | [] =>
                      .ok ⟨state, isCommand, shown ++
                        (if value then optionList state else optionCommands state), []⟩
                  | name :: rest =>
                      match List.lookup (String.ofList name) optionNames with
                      | none =>
                          .error ⟨front ++ "line 0: ".toList ++ front ++ name ++
                            ": invalid option name\n".toList, 2⟩
                      | some letter =>
                          opening (Builtins.switch value state letter) isCommand shown most rest
                else if all.contains 'O' then
                  match rest with
                  | [] => .ok ⟨state, isCommand, shown, []⟩
                  | name :: rest =>
                      if (List.lookup (String.ofList name) settingNames).isNone then
                        .error ⟨front ++ "line 0: ".toList ++ name ++
                          ": invalid shell option name\n".toList, 2⟩
                      else
                        let others := state.settings.filter (· ≠ name)
                        opening { state with settings := if value then name :: others else others }
                          isCommand shown most rest
                else opening state isCommand shown most rest
      | _ => .ok ⟨state, isCommand, shown, argument :: rest⟩

end Bash

end FolderScript.Shell
