/-
Running the configured script on a request: the interpreter with the script and
the two folders as its arguments, in the configured working directory.
-/
import FolderScript.Process.Run
import FolderScript.Request
import FolderScript.Settings.Layer

namespace FolderScript

namespace Settings

def commandLine (settings : Settings) (request : Request) : List String :=
  [settings.interpreter, settings.scriptPath, request.input, request.output]

def command (settings : Settings) (request : Request) : Command where
  program := settings.interpreter
  arguments := [settings.scriptPath, request.input, request.output]
  directory := settings.workingDirectory

/-- The time that a run may take. -/
def limit (settings : Settings) : Option Duration :=
  settings.timeout.map fun seconds => Duration.ofSeconds seconds.toNat

/-- Why a command line cannot be run that names no program. -/
def noProgram : Failure := .settings "empty command line"

/-- Runs the script on a request: the first text of the command line is the program. -/
def execute (settings : Settings) (launch : Launcher) (schedule : Schedule)
    (request : Request) : Course (Except Failure Captured) := do
  match settings.commandLine request with
  | [] => pure (.error noProgram)
  | program :: arguments =>
      let command : Command := ⟨program, arguments, settings.workingDirectory⟩
      OptionT.lift (Logged.emit .info .runner ("Running " ++ command.program ++ " " ++
        " ".intercalate command.arguments ++ " in " ++ command.directory.display))
      let result ← command.run launch schedule settings.limit
      if let .ok captured := result then
        OptionT.lift (Logged.emit .debug .runner ("Script finished with exit code " ++
          toString captured.exitCode ++ " (" ++ toString captured.output.utf8ByteSize ++
          " bytes of output)"))
      pure result

end Settings

end FolderScript
