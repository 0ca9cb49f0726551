/-
The program as a whole: from the arguments and the surroundings to an exit code
and two texts.
-/
import FolderScript.CommandLine.Help
import FolderScript.Log.Filter
import FolderScript.Log.Line
import FolderScript.Program.Perform
import FolderScript.Runner

namespace FolderScript

/-- What the program leaves behind. -/
structure Finished where
  exitCode : Nat
  /-- What went to standard output. -/
  output : String
  /-- What went to standard error. -/
  complaints : String
  deriving DecidableEq, Repr

/-- What the program leaves behind when it has nothing to do. -/
def Stop.finished (environment : String → Option Bytes) (stop : Stop) : Finished :=
  let text := stop.text environment
  match stop with
  | .usage _ => ⟨2, "", text ++ "\n\nFor more information, try '--help'.\n"⟩
  | .nothingGiven => ⟨2, "", text⟩
  | .help .. | .version _ => ⟨0, text, ""⟩

namespace Invocation

/-- Which log events are shown: the variable RUST_LOG decides, if it can be
read, or else the verbosity. -/
def logFilter (host : Host) (invocation : Invocation) : LogFilter :=
  match ((host.valueOf? "RUST_LOG").bind Utf8.decode?).bind LogFilter.parse? with
  | some filter => filter
  | none => LogFilter.upTo (Level.ofVerbosity invocation.verbosity)

/-- What the program leaves behind after it has done what was asked for. -/
def finished (wording : Wording) (filter : LogFilter) (events : List LogEvent)
    (result : Except Trouble String) : Finished :=
  let log := LogEvent.text wording.lead (events.filter filter.shows)
  match result with
  | .ok output => ⟨0, output, log⟩
  | .error trouble => ⟨1, "", log ++ "Error: " ++ trouble.oneLine wording ++ "\n"⟩

/-- What is done for an invocation on a machine that starts processes. -/
def course (wording : Wording) (launch : Launcher) (schedule : Schedule) (host : Host)
    (invocation : Invocation) : Course (Except Trouble String) :=
  invocation.perform wording (fun settings => settings.execute launch schedule) host

end Invocation

namespace Program

/-- Runs the program; `none` if it goes on for ever. -/
def run (wording : Wording) (launch : Launcher) (schedule : Schedule) (host : Host)
    (arguments : List Bytes) : Option Finished :=
  match Invocation.parse host.valueOf? arguments with
  | .error stop => some (stop.finished host.valueOf?)
  | .ok invocation =>
      let done := (invocation.course wording launch schedule host).run
      done.value.map fun result =>
        Invocation.finished wording (invocation.logFilter host) done.events result

end Program

end FolderScript
