/-
The programs that start other programs: with arguments from their input, with a
limit of time, or with other variables.
-/
import FolderScript.Machine.Shell.Tools.Find
import FolderScript.Machine.Shell.Tools.Names
import FolderScript.Machine.Shell.Tools.Numbers

namespace FolderScript.Shell

namespace Tools

namespace Xargs

/-- The words of an input: quoting is read, and every word knows whether it ends
its line. -/
inductive Scan where
  /-- Between words, or in one that has begun. -/
  | plain
  | quoted (mark : Char)
  deriving DecidableEq, Repr

/-- Reads words; `word` is the one at hand, last character first, if one has begun.
A blank before the end of a line joins the next line to it. -/
def words : Scan → Option Text → Text → Except Text (List (Text × Bool))
  | .plain, word, [] => .ok ((word.map fun chars => (chars.reverse, true)).toList)
  | .quoted mark, _, [] =>
      .error ("unmatched ".toList ++
        (if mark = '"' then "double" else "single").toList ++
        " quote; by default quotes are special to xargs unless you use the -0 option".toList)
  | .plain, word, '\\' :: char :: rest => words .plain (some (char :: word.getD [])) rest
  | .plain, word, char :: rest =>
      if char = '\'' ∨ char = '"' then words (.quoted char) (some (word.getD [])) rest
      else if char = '\n' then
        match word with
        | none => words .plain none rest
        | some chars => do
            let more ← words .plain none rest
            pure ((chars.reverse, true) :: more)
      else if char = ' ' ∨ char = '\t' then
        match word with
        | none => words .plain none rest
        | some chars => do
            let more ← words .plain none rest
            let ends := rest.head? = some '\n' && (rest.drop 1).all Char.isWhitespace
            pure ((chars.reverse, ends) :: more)
      else words .plain (some (char :: word.getD [])) rest
  | .quoted mark, word, char :: rest =>
      if char = mark then words .plain word rest
      else if char = '\n' then
        .error ("unmatched ".toList ++
          (if mark = '"' then "double" else "single").toList ++
          " quote; by default quotes are special to xargs unless you use the -0 option".toList)
      else words (.quoted mark) (some (char :: word.getD [])) rest

def items (separator : Char) (text : Text) : List Text :=
  let parts := text.foldr
    (fun char (parts : List Text) =>
      match parts with
      | [] => [[char]]
      | part :: others => if char = separator then [] :: part :: others
        else (char :: part) :: others)
    [[]]
  if parts.getLast? = some [] then parts.dropLast else parts

def lineGroups : List (Text × Bool) → List (List Text)
  | [] => []
  | (word, ends) :: rest =>
      match ends, lineGroups rest with
      | true, groups => [word] :: groups
      | false, [] => [[word]]
      | false, group :: groups => (word :: group) :: groups

/-- How long the arguments of one call may be in all. -/
def longest : Nat := 131072

/-- Words in groups of at most so many, and no longer in all than a call may be. -/
def groupsOf (most : Option Nat) (fixed : Nat) : List Text → List Text → Nat → List (List Text)
  | [], group, _ => if group = [] then [] else [group.reverse]
  | word :: rest, group, size =>
      let next := size + word.length + 1
      if group ≠ [] ∧ ((most.any (· ≤ group.length)) ∨ longest < fixed + next) then
        group.reverse :: groupsOf most fixed rest [word] (word.length + 1)
      else groupsOf most fixed rest (word :: group) next

def replaceAll (target replacement : Text) : Nat → Text → Text
  | 0, text => text
  | _ + 1, [] => []
  | fuel + 1, char :: rest =>
      if target ≠ [] ∧ target.isPrefixOf (char :: rest) then
        replacement ++ replaceAll target replacement fuel ((char :: rest).drop target.length)
      else char :: replaceAll target replacement fuel rest

/-- Makes calls in turn; gives the status so far, or nothing if one never ends. -/
def calls (launch : Launch) (given : Given) : List (List Text) → Nat → State → Option Nat × State
  | [], status, state => (some status, state)
  | words :: rest, status, state =>
      let name := words.headD []
      let state := if given.has 't' then
          state.write 2 (Text.join [' '] (words.map Format.shellQuoted) ++ ['\n']) else state
      match launch state words with
      | .error error =>
          (some (if error = .notFound then 127 else 126),
            complain state "xargs" (bareNameAndReason name error))
      | .ok (.forever, state) => (none, state)
      | .ok (.died signal, state) =>
          (some 125, complain state "xargs" (name ++ ": terminated by signal ".toList ++
            Text.ofNat signal))
      | .ok (flow, state) =>
          let code := flow.statusOf state
          if code = 255 then
            (some 124, complain state "xargs" (name ++
              ": exited with status 255; aborting".toList))
          else calls launch given rest (if code = 0 then status else 123) state

end Xargs

/-- Calls a program with the words of the input as its arguments. -/
def xargs (launch : Launch) : Tool := reading "xargs" ⟨"0oprtx", "aEILnPsd", [("null", '0'),
    ("no-run-if-empty", 'r'), ("max-args", 'n'), ("max-lines", 'L'), ("max-procs", 'P'),
    ("replace", 'I'), ("delimiter", 'd'), ("verbose", 't'), ("arg-file", 'a'), ("exit", 'x')],
    false⟩ 1 fun state given =>
  let command := if given.operands = [] then ["echo".toList] else given.operands
  let bad? := ['n', 'L', 'P', 's'].findSome? fun letter =>
    (given.value? letter).bind fun text =>
      match Text.toNat? text with
      | none => some ("invalid number \"".toList ++ text ++ "\" for -".toList ++ letter ::
          " option".toList)
      | some 0 => if letter = 'P' then none
          else some ("value 0 for -".toList ++ letter :: " option should be >= 1".toList)
      | some _ => none
  match bad? with
  | some message => done (misused state "xargs" message) 1
  | none =>
      let loaded := match given.value? 'a' with
        | some path => load state path
        | none => .ok (state.readAll 0)
      match loaded with
      | .error error =>
          done (complain state "xargs" ("Cannot open input file ".toList ++
            quoted ((given.value? 'a').getD []) ++ ": ".toList ++ reason error)) 1
      | .ok (data, state) =>
          let text := Text.ofBytes data
          let fixed := command.foldl (fun size word => size + word.length + 1) 0
          let separator? : Option Char :=
            if given.has '0' then some (Char.ofNat 0)
            else (given.value? 'd').map fun text =>
              (Format.unescape true text).1.headD '\n'
          let most := (given.value? 'n').bind Text.toNat?
          let lines := (given.value? 'L').bind Text.toNat?
          let found : Except Text (List (List Text)) :=
            match given.value? 'I', separator? with
            | some mark, _ =>
                let rows : List Text := match separator? with
                  | some separator => Xargs.items separator text
                  | none => (Text.lines text).map fun (line : Text) =>
                      line.dropWhile fun char => char == ' ' || char == '\t'
                .ok ((rows.filter (· ≠ [])).map fun row =>
                  command.map fun (word : Text) =>
                    Xargs.replaceAll mark row (word.length + 1) word)
            | none, some separator =>
                let groups := Xargs.groupsOf most fixed (Xargs.items separator text) [] 0
                .ok (groups.map (command ++ ·))
            | none, none => do
                let words ← Xargs.words .plain none text
                let groups := match lines with
                  | some count =>
                      let groups := Xargs.lineGroups words
                      ((List.range ((groups.length + count - 1) / max 1 count)).map fun index =>
                        ((groups.drop (index * count)).take count).flatten)
                  | none => Xargs.groupsOf most fixed (words.map Prod.fst) [] 0
                pure (groups.map (command ++ ·))
          match found with
          | .error message => done (complain state "xargs" message) 1
          | .ok groups =>
              let groups := if groups = [] && !given.has 'r' && (given.value? 'I').isNone then
                [command] else groups
              let inner := state.setChannel 0 (some .null)
              let (status?, after) := Xargs.calls launch given groups 0 inner
              let after := { after with descriptors := state.descriptors }
              match status? with
              | none => (.forever, after)
              | some status => done after status

/-- Passes on to another program, or complains in the caller's words. -/
def passOn (launch : Launch) (tool : String) (words : Text → IoError → Text) (state : State)
    (command : List Text) : Flow × State :=
  match launch state command with
  | .ok result => result
  | .error error =>
      done (complain state tool (words (command.headD []) error))
        (if error = .notFound then 127 else 126)

/-- The words for a program that cannot be run. -/
def failedToRun (name : Text) (error : IoError) : Text :=
  "failed to run command ".toList ++ quoted name ++ ": ".toList ++ reason error

def quotedAndReason (name : Text) (error : IoError) : Text :=
  quoted name ++ ": ".toList ++ reason error

/-- The number of a signal by its name or number. -/
def signalOf? (text : Text) : Option Nat :=
  match Text.toNat? text with
  | some number => some number
  | none =>
      let name := String.ofList (text.map Char.toUpper)
      (List.range 32).find? fun number =>
        Ending.signalName number = "SIG" ++ name || Ending.signalName number = name

/-- Runs a program for so long at most: then all processes of its group get a signal,
and another one later if they have to be killed. -/
def timeout (launch : Launch) : Tool := fun state arguments =>
  let known : Switches := ⟨"v", "ks", [("foreground", 'f'), ("preserve-status", 'p'),
    ("kill-after", 'k'), ("signal", 's'), ("verbose", 'v')], false⟩
  let refused (message : Text) : Flow × State := done (misused state "timeout" message) 125
  match known.accept arguments with
  | .error message => refused message
  | .ok given =>
      match given.operands with
      | [] | [_] => done (tryHelp state "timeout") 125
      | limit :: command =>
          match span? limit, (given.value? 'k').map span?, (given.value? 's').map signalOf? with
          | none, _, _ => refused ("invalid time interval ".toList ++ quoted limit)
          | _, some none, _ =>
              refused ("invalid time interval ".toList ++ quoted ((given.value? 'k').getD []))
          | _, _, some none =>
              refused (quoted ((given.value? 's').getD []) ++ ": invalid signal".toList)
          | some span, later?, signal? =>
              let signal := (signal?.bind id).getD 15
              let deadline := state.clock + span
              let killTime? := (later?.bind id).map fun more => deadline + more
              let isLate (flow : Flow) (after : State) : Bool :=
                span ≠ 0 && (flow = .forever || deadline < after.clock)
              match launch state command with
              | .error error =>
                  done (complain state "timeout" (failedToRun (command.headD []) error))
                    (if error = .notFound then 127 else 126)
              | .ok (flow, after) =>
                  if !isLate flow after then (flow, after)
                  else
                    let told := if given.has 'v' then
                        complain state "timeout" ("sending signal ".toList ++
                          ((Ending.signalName signal).toList.drop 3) ++ " to command ".toList ++
                          quoted (command.headD []))
                      else state
                    let signals : List Signal := ⟨deadline, 0, signal⟩ ::
                      (killTime?.map fun time => ⟨time, 0, 9⟩).toList
                    match launch { told with group := signals ++ told.group } command with
                    | .error _ => (.forever, told)
                    | .ok (.forever, after) => (.forever, { after with group := state.group })
                    | .ok (flow, after) =>
                        let after := { after with group := state.group }
                        if signal = 9 || killTime?.any (· ≤ after.clock) then (.died 9, after)
                        else if given.has 'p' then done after (flow.statusOf after)
                        else done after 124

def nohup (launch : Launch) : Tool := reading "nohup" ⟨"", "", [], false⟩ 125 fun state given =>
  if given.operands = [] then done (misused state "nohup" "missing operand".toList) 125
  else passOn launch "nohup" (refusal "failed to run command ") state given.operands

def nice (launch : Launch) : Tool := reading "nice" ⟨"", "n", [("adjustment", 'n')], false⟩ 125
    fun state given =>
  match given.value? 'n' with
  | some text =>
      if (Text.toInt? text).isNone then
        done (complain state "nice" ("invalid adjustment ".toList ++ quoted text)) 125
      else passOn launch "nice" quotedAndReason state given.operands
  | none =>
      if given.operands = [] then done (state.write 1 "0\n".toList) 0
      else passOn launch "nice" quotedAndReason state given.operands

/-- A program that only passes on to another. -/
def passing (tool : String) (valued : String) (launch : Launch) : Tool :=
  reading tool ⟨"cfw", valued, [], false⟩ 1 fun state given =>
    if given.operands = [] then done (misused state tool "missing operand".toList) 125
    else passOn launch tool (fun name error => "failed to execute ".toList ++ name ++
      ": ".toList ++ reason error) state given.operands

def setInPlace (state : State) (name value : Text) : State :=
  if state.bindings.any fun known => known.name = name then
    { state with bindings := state.bindings.map fun known =>
        if known.name = name then { known.filled value with exported := true } else known }
  else { state with bindings := state.bindings ++
      [{ name := name, value := value, exported := true }] }

/-- Shows the variables, or changes them for another program. -/
def env (launch : Launch) : Tool := reading "env" ⟨"iv0", "uCS", [("ignore-environment", 'i'),
    ("unset", 'u'), ("null", '0'), ("chdir", 'C'), ("split-string", 'S'), ("debug", 'v')],
    false⟩ 125 fun state given =>
  let operands := ((given.value? 'S').map fun text =>
    (Text.lines (text.map fun char => if char.isWhitespace then '\n' else char)).filter (· ≠ [])).getD
      [] ++ given.operands
  let (bare, operands) := match operands with
    | ['-'] :: rest => (true, rest)
    | _ => (given.has 'i', operands)
  let exported := { state with bindings := state.bindings.filter Variable.exported }
  let state := if bare then { state with bindings := [] } else exported
  match (given.values 'u').find? fun name => name = [] || name.contains '=' with
  | some name => done (complain state "env" (refusal "cannot unset " name (.os 22))) 125
  | none =>
      let state := (given.values 'u').foldl State.unsetVariable state
      let settings := operands.takeWhile fun operand => operand.contains '='
      let command := operands.drop settings.length
      let state := settings.foldl (fun state setting =>
        let name := setting.takeWhile (· ≠ '=')
        setInPlace state name (setting.drop (name.length + 1))) state
      let moved : Except Text State := match given.value? 'C' with
        | none => .ok state
        | some path =>
            match state.stat path with
            | .ok (position, .directory) => .ok { state with directory := position }
            | .ok _ => .error (refusal "cannot change directory to " path .notDirectory)
            | .error error => .error (refusal "cannot change directory to " path error)
      match moved with
      | .error message => done (complain state "env" message) 125
      | .ok state =>
          if command = [] then
            let finish := if given.has '0' then [Char.ofNat 0] else ['\n']
            done (state.write 1 ((environmentTexts state).flatMap (· ++ finish))) 0
          else passOn launch "env" quotedAndReason state command

end Tools

end FolderScript.Shell
