/-
Runner settings.  A layer sets some of the four fields; layers are stacked, and
what no layer sets takes a built-in value.
-/
import FolderScript.Path
import FolderScript.Text.Quoted

namespace FolderScript

/-- Everything that is needed to run the script. -/
structure Settings where
  /-- The program that runs the script, looked up unless it is a path. -/
  interpreter : String
  /-- The script, handed to the interpreter as its first argument. -/
  scriptPath : String
  /-- The directory that the script process works in. -/
  workingDirectory : Path
  /-- After so many seconds the script is killed; unset means never. -/
  timeout : Option UInt64
  deriving DecidableEq, Repr

/-- One source of settings: a file, or the command line. -/
structure Layer where
  interpreter : Option String := none
  scriptPath : Option String := none
  workingDirectory : Option Path := none
  timeout : Option UInt64 := none
  deriving DecidableEq, Repr

namespace Settings

def builtIn : Settings where
  interpreter := "python"
  scriptPath := "idea-plugin-test/pyscr/test.py"
  workingDirectory := Path.ofText "~"
  timeout := none

/-- The settings as a log line shows them. -/
def quoted (settings : Settings) : String :=
  "Config \x7b runner: RunnerConfig \x7b interpreter: " ++ Quoted.text settings.interpreter ++
    ", script_path: " ++ Quoted.text settings.scriptPath ++
    ", working_directory: " ++ Quoted.bytes settings.workingDirectory.bytes ++
    ", timeout_secs: " ++ Quoted.option (fun seconds => toString seconds) settings.timeout ++
    " \x7d \x7d"

end Settings

namespace Layer

/-- The layer that sets nothing. -/
def empty : Layer := {}

/-- The upper layer over the lower one, field by field. -/
def onTopOf (upper lower : Layer) : Layer where
  interpreter := upper.interpreter.or lower.interpreter
  scriptPath := upper.scriptPath.or lower.scriptPath
  workingDirectory := upper.workingDirectory.or lower.workingDirectory
  timeout := upper.timeout.or lower.timeout

/-- Fills what is unset with the built-in values. -/
def resolve (layer : Layer) : Settings where
  interpreter := layer.interpreter.getD Settings.builtIn.interpreter
  scriptPath := layer.scriptPath.getD Settings.builtIn.scriptPath
  workingDirectory := layer.workingDirectory.getD Settings.builtIn.workingDirectory
  timeout := layer.timeout

/-- The fields as a log line shows them. -/
def quoted (layer : Layer) : String :=
  "RunnerFlags \x7b interpreter: " ++ Quoted.option Quoted.text layer.interpreter ++
    ", script_path: " ++ Quoted.option Quoted.text layer.scriptPath ++
    ", working_directory: " ++
    Quoted.option (fun path => Quoted.bytes path.bytes) layer.workingDirectory ++
    ", timeout_secs: " ++ Quoted.option (fun seconds => toString seconds) layer.timeout ++
    " \x7d"

@[simp] theorem empty_onTopOf (layer : Layer) : empty.onTopOf layer = layer := rfl

@[simp] theorem onTopOf_empty (layer : Layer) : layer.onTopOf empty = layer := by
  simp [onTopOf, empty]

theorem onTopOf_assoc (first second third : Layer) :
    (first.onTopOf second).onTopOf third = first.onTopOf (second.onTopOf third) := by
  simp [onTopOf, Option.or_assoc]

theorem resolve_empty : empty.resolve = Settings.builtIn := rfl

end Layer

end FolderScript
