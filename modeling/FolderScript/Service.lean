/-
Script runs for one project.  A task without an input folder or an output folder
is skipped; every other task is handed to the runner once.
-/
import FolderScript.Path
import FolderScript.Process.Run
import FolderScript.Request

namespace FolderScript

/-- Something that answers a request. -/
abbrev Runner (m : Type → Type) := Request → m (Except Failure Captured)

/-- What became of a task. -/
inductive TaskOutcome where
  | skipped
  | completed (captured : Captured)
  deriving DecidableEq, Repr

/-- The runs of one project. -/
structure Service (m : Type → Type) where
  project : Option String
  runner : Runner m

namespace Service

def projectName (project : Option String) : String :=
  match project.bind fun folder => (Path.ofText folder).fileName? with
  | some name => Utf8.lossy name
  | none => "<unknown>"

/-- What is logged when a task is skipped. -/
def noFolderMessage : String :=
  "No output folder is available for the project; skipping script run."

variable {m : Type → Type} [Monad m] [MonadLiftT Logged m]

def setUp (project : Option String) (runner : Runner m) : m (Service m) := do
  liftM (Logged.emit .info .runCommand
    ("Project service ready for '" ++ projectName project ++ "'"))
  pure ⟨project, runner⟩

def runTask (service : Service m) (input output : Option String) :
    m (Except Failure TaskOutcome) := do
  match Request.ofParts input output with
  | .error failure =>
      liftM (Logged.emit .debug .runCommand ("Not running script: " ++ failure.message))
      liftM (Logged.emit .error .runCommand noFolderMessage)
      pure (.ok .skipped)
  | .ok request =>
      let result ← service.runner request
      pure (result.map .completed)

end Service

end FolderScript
