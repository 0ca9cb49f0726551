/-
What the program does for an invocation: run the script and report, or show the
settings.  The result is what goes to standard output.
-/
import FolderScript.CommandLine.Invocation
import FolderScript.Folder
import FolderScript.Report
import FolderScript.Service
import FolderScript.Settings.Load

namespace FolderScript

variable {m : Type → Type} [Monad m] [MonadLiftT Logged m]

/-- The folder given by an option, or else that of the project. -/
def chosenFolder (given : Option String) (directory : Path) (project : Option String) :
    Option String :=
  (given.bind fun folder => anchorFolder folder directory).or project

/-- What is printed about a task. -/
def reportTask : Except Failure TaskOutcome → Logged (Except Trouble String)
  | .error failure => pure (.error ((Trouble.ofFailure failure).within "Script run failed"))
  | .ok .skipped => pure (.ok "")
  | .ok (.completed captured) => do
      if !captured.succeeded then
        Logged.emit .warn .runCommand
          ("Script exited with non-zero code " ++ toString captured.exitCode)
      pure (.ok (captured.report ++ "\n"))

namespace RunArguments

/-- Runs the script on the folders that the arguments name. -/
def perform (runner : Settings → Runner m) (host : Host) (config : Option Path)
    (arguments : RunArguments) : m (Except Trouble String) := do
  liftM (Logged.emit .info .runCommand "Handling run command...")
  liftM (Logged.emit .debug .runCommand ("Run args: " ++ arguments.quoted))
  match ← liftM (Attempt.within "Failed to load scriptrun configuration"
      (Settings.load host config arguments.overrides)).run with
  | .error trouble => pure (.error trouble)
  | .ok settings =>
      match host.currentDirectory with
      | .error trouble => pure (.error trouble)
      | .ok directory =>
          let service ←
            Service.setUp (projectFolder arguments.project directory) (runner settings)
          let outcome ← service.runTask
            (chosenFolder arguments.input directory service.project)
            (chosenFolder arguments.output directory service.project)
          liftM (reportTask outcome)

end RunArguments

/-- Shows the settings, and the command for the current directory. -/
def performConfig (host : Host) (config : Option Path) (overrides : Layer) :
    Logged (Except Trouble String) := do
  Logged.emit .info .configCommand "Handling config command..."
  let loaded ← (Attempt.within "Failed to load scriptrun configuration"
    (Settings.load host config overrides)).run
  pure (loaded.bind fun settings =>
    host.currentDirectory.map fun directory => settings.describe directory.display ++ "\n")

namespace Invocation

/-- Does what an invocation asks for. -/
def perform (wording : Wording) (runner : Settings → Runner m) (host : Host)
    (invocation : Invocation) : m (Except Trouble String) := do
  liftM (Logged.emit .debug .program ("Parsed CLI arguments: " ++ invocation.quoted))
  let result ← match invocation.command with
    | .run arguments => arguments.perform runner host invocation.config
    | .config overrides => liftM (performConfig host invocation.config overrides)
  if let .error trouble := result then
    liftM (Logged.emit .error .program ("Command execution failed: " ++ trouble.detailed wording))
  pure result

end Invocation

end FolderScript
