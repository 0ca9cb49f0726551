/-
Commands of the shell that wait for jobs, send signals and catch them.
-/
import FolderScript.Machine.Shell.Builtins.Basic

namespace FolderScript.Shell

namespace Builtins

/-- What a shell prints about a child that a signal killed. -/
def deathNotice : Nat → String
  | 1 => "Hangup"
  | 3 => "Quit"
  | 4 => "Illegal instruction"
  | 5 => "Trace/breakpoint trap"
  | 6 => "Aborted"
  | 7 => "Bus error"
  | 8 => "Floating point exception"
  | 9 => "Killed"
  | 10 => "User defined signal 1"
  | 11 => "Segmentation fault"
  | 12 => "User defined signal 2"
  | 14 => "Alarm clock"
  | 15 => "Terminated"
  | 16 => "Stack fault"
  | 24 => "CPU time limit exceeded"
  | 25 => "File size limit exceeded"
  | 26 => "Virtual timer expired"
  | 27 => "Profiling timer expired"
  | 29 => "I/O possible"
  | 30 => "Power failure"
  | 31 => "Bad system call"
  | _ => ""

def noticeLine (signal : Nat) : Text :=
  let notice := deathNotice signal
  if notice = "" then [] else notice.toList ++ ['\n']

/-- The name of a signal without what all names start with. -/
def shortName (number : Nat) : Text :=
  let name := (Ending.signalName number).toList
  if number = 16 then ['1', '6']
  else if "SIG".toList.isPrefixOf name then name.drop 3
  else if number = 34 then "RTMIN".toList
  else if 35 ≤ number ∧ number ≤ 49 then "RTMIN+".toList ++ Text.ofNat (number - 34)
  else if 50 ≤ number ∧ number ≤ 63 then "RTMAX-".toList ++ Text.ofNat (64 - number)
  else if number = 64 then "RTMAX".toList
  else Text.ofNat number

/-- What is caught, as commands that would set it up again. -/
def shownTraps (state : State) : Text :=
  let sorted := state.traps.mergeSort fun left right => left.1 ≤ right.1
  sorted.flatMap fun (number, action) =>
    "trap -- ".toList ++ singleQuoted action ++ ' ' ::
      (if number = 0 then "EXIT".toList else shortName number) ++ ['\n']

def trap : Builtin := reading "trap" "" fun state _ operands =>
  match operands with
  | [] => put "trap" state (shownTraps state)
  | first :: rest =>
      let resets := rest = [] || (Text.toNat? first).isSome
      let signals := if resets then operands else rest
      let isKnown (text : Text) : Bool := (signalNumber? text).isSome
      let known := signals.takeWhile isKnown
      let numbers := known.filterMap signalNumber?
      let others := state.traps.filter fun entry => !numbers.contains entry.1
      let traps := if resets || first = ['-'] then others
        else numbers.map (fun number => (number, first)) ++ others
      let after := { state with traps := traps }
      match signals.drop known.length with
      | [] => next after 0
      | bad :: _ => next (after.write 2 ("trap: ".toList ++ bad ++ ": bad trap\n".toList)) 1

/-- Signals that do nothing unless they are caught. -/
def harmless : List Nat := [0, 17, 18, 23, 28]

/-- Signals that stop a process. -/
def stopping : List Nat := [19, 20, 21, 22]

/-- What a signal does to a process. -/
inductive Response where
  | nothing
  | action (text : Text)
  | death
  | stop
  deriving DecidableEq, Repr

/-- How long it takes until a new job ignores what it ignores. -/
def settling : Duration := 2000

/-- What a signal does to the process at hand. -/
def response (state : State) (signal : Signal) : Response :=
  let usual : Response :=
    if harmless.contains signal.number then .nothing
    else if stopping.contains signal.number then .stop
    else .death
  if signal.number = 9 then .death
  else if signal.number = 19 then .stop
  else
    match List.lookup signal.number state.traps with
    | none => usual
    | some [] => if signal.time < state.bornAt + settling then usual else .nothing
    | some action => .action action

/-- Ends a job by a signal, unless it has ended by itself. -/
def killJob (state : State) (number signal : Nat) : State :=
  let isAlive (job : Job) : Bool :=
    job.number = number && job.endsAt.all (state.clock < ·)
  if state.world.jobs.any isAlive && !harmless.contains signal && !stopping.contains signal then
    let cut := state.cutAt number state.clock
    { cut with world := { cut.world with
        jobs := cut.world.jobs.map fun job =>
          if isAlive job then
            { job with
              endsAt := some state.clock
              status := 128 + signal
              diedOf := some signal }
          else job } }
  else state

def killUsage : Text :=
  "Usage: kill [-s sigspec | -signum | -sigspec] [pid | job]... or\nkill -l [exitstatus]".toList

/-- What the arguments of `kill` ask for. -/
inductive KillRequest where
  | send (signal : Nat) (targets : List Text)
  | name (signal : Nat)
  | nameAll
  | refused (reason : Text)
  deriving DecidableEq, Repr

def killTargets (signal : Nat) (targets : List Text) : KillRequest :=
  if targets = [] then .refused killUsage else .send signal targets

/-- The signal and the targets that the arguments of `kill` name. -/
def killRequest : List Text → KillRequest
  | [['-', 's']] => .refused "No arg for -s option".toList
  | ['-', 's'] :: name :: rest =>
      match signalNumber? name with
      | some signal => killTargets signal rest
      | none => .refused ("invalid signal number or name: ".toList ++ name)
  | [['-', 'l']] => .nameAll
  | ['-', 'l'] :: status :: _ =>
      match Text.toNat? status with
      | none => .refused ("Illegal number: ".toList ++ status)
      | some number =>
          let signal := if 128 < number then number - 128 else number
          if 0 < signal ∧ signal ≤ 64 then .name signal
          else .refused ("invalid signal number or exit status: ".toList ++ status)
  | ['-', '-'] :: rest => killTargets 15 rest
  | ('-' :: letter :: letters) :: rest =>
      match signalNumber? (letter :: letters) with
      | some signal => killTargets signal rest
      | none => .refused ("Illegal option -".toList ++ [letter])
  | targets => killTargets 15 targets

def allSignals : Text := (List.range 65).flatMap fun number =>
  (if number = 0 then ['0'] else shortName number) ++ ['\n']

end Builtins

namespace State

/-- Whether a number is that of a job that goes on, or has only just ended and was
not waited for. -/
def isRunning (state : State) (number : Nat) : Bool :=
  let slack := if state.waited.contains number then 0 else 1000
  state.world.jobs.any fun job =>
    job.number = number && job.endsAt.all (state.clock < · + slack)

/-- Sends a signal to another process: a job, or a shell that this one comes from.  A
job that was foretold the signal has seen to it already. -/
def send (state : State) (signal number : Nat) : Option State :=
  let sent : Signal := ⟨state.clock, number, signal⟩
  if state.isRunning number then
    if signal = 0 then some state
    else
      let told := { state with world := { state.world with sent := state.world.sent ++ [sent] } }
      some (if state.world.foretold.signals.contains sent then told
        else Builtins.killJob told number signal)
  else if number = state.shellNumber || state.ancestors.contains number then
    some (if signal = 0 then state
      else { state with world := { state.world with signals := state.world.signals ++ [sent] } })
  else none

end State

end FolderScript.Shell
