/-
Rules that settings have to meet before a script is run.  A working directory
that does not exist is only worth a warning: it may appear until the run.
-/
import FolderScript.Host
import FolderScript.Settings.Layer
import FolderScript.Text.Blank
import FolderScript.Trouble

namespace FolderScript

namespace Settings

def blankInterpreter : Failure := .settings "Interpreter cannot be empty."

def blankScript : Failure := .settings "Script path cannot be empty."

def notADirectory (directory : Path) : Failure :=
  .settings ("Configured working directory '" ++ directory.display ++
    "' exists but is not a directory.")

def zeroTimeout : Failure :=
  .settings "Timeout must be at least 1 second; omit it to wait indefinitely."

/-- The first rule that settings violate. -/
def violation? (host : Host) (settings : Settings) : Option Failure :=
  let directory := settings.workingDirectory
  if allBlank settings.interpreter then some blankInterpreter
  else if allBlank settings.scriptPath then some blankScript
  else if host.files.pathExists host.directory directory
      && !host.files.isDirectory host.directory directory then
    some (notADirectory directory)
  else if settings.timeout = some 0 then some zeroTimeout
  else none

/-- Whether the check gets as far as a working directory that is not there. -/
def lacksDirectory (host : Host) (settings : Settings) : Bool :=
  !allBlank settings.interpreter && !allBlank settings.scriptPath
    && !host.files.pathExists host.directory settings.workingDirectory

/-- Checks the settings. -/
def validate (host : Host) (settings : Settings) : Attempt Unit := do
  Attempt.emit .info .settings "Validating final configuration..."
  if settings.lacksDirectory host then
    Attempt.emit .warn .settings ("Configured working directory '" ++
      settings.workingDirectory.display ++ "' does not exist.")
  match settings.violation? host with
  | some failure => throw (Trouble.ofFailure failure)
  | none => Attempt.emit .info .settings "Configuration validation successful."

end Settings

end FolderScript
