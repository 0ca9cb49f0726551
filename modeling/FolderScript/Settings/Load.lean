/-
Loading the settings: the files' layers, the command line's layer over them,
built-in values, tildes, rules.  An explicit file takes the place of the user
file and the project file.
-/
import FolderScript.Settings.Discovery
import FolderScript.Settings.Expansion
import FolderScript.Settings.Validation

namespace FolderScript

namespace Layer

/-- Reads one settings file. -/
def ofFile (host : Host) (path : Path) : Attempt Layer := do
  let text ← Attempt.within ("Failed to read configuration file: " ++ path.display)
    (Attempt.ofExcept ((host.files.readText host.directory path).mapError
      fun error => ⟨[], .io error⟩))
  Attempt.within ("Failed to parse TOML from file: " ++ path.display)
    (Attempt.ofExcept ((parse text).mapError fun fault => ⟨[], .document text fault⟩))

/-- The layer of the user file; empty if there is none. -/
def ofUser (host : Host) : Attempt Layer :=
  match Discovery.userFile? host with
  | none => do
      Attempt.emit .warn .settings "Could not determine user config directory."
      pure empty
  | some path =>
      if host.files.pathExists host.directory path then do
        Attempt.emit .info .settings ("Loading user configuration from: " ++ path.display)
        ofFile host path
      else do
        Attempt.emit .debug .settings
          ("User configuration file not found at " ++ path.display)
        pure empty

/-- The layer of the project file; empty if there is none. -/
def ofProject (host : Host) : Attempt Layer := do
  let directory ← Attempt.ofExcept host.currentDirectory
  match ← ExceptT.lift (Discovery.projectFile host directory) with
  | some path =>
      Attempt.emit .info .settings ("Loading project configuration from: " ++ path.display)
      ofFile host path
  | none =>
      Attempt.emit .debug .settings
        "No project configuration file (.scriptrun.toml) found in current directory or ancestors."
      pure empty

/-- The project layer over the user layer. -/
def merged (user : Layer) (project : Option Layer) : Layer :=
  (project.getD empty).onTopOf user

/-- The layer of all files: the explicit one alone, or the project file over
the user file. -/
def ofFiles (host : Host) (explicit : Option Path) : Attempt Layer :=
  match explicit with
  | some path => do
      Attempt.emit .info .settings ("Loading configuration from: " ++ path.display)
      ofFile host path
  | none => do
      let user ← ofUser host
      let project ← ofProject host
      pure (merged user (some project))

end Layer

namespace Settings

/-- Loads the settings; the overrides win over every file. -/
def load (host : Host) (explicit : Option Path) (overrides : Layer) : Attempt Settings := do
  let files ← Layer.ofFiles host explicit
  let settings ← Attempt.within "Failed to expand paths in configuration"
    (((overrides.onTopOf files).resolve).expand host.home?)
  Attempt.within "Configuration validation failed" (settings.validate host)
  Attempt.emit .debug .settings ("Final loaded configuration: " ++ settings.quoted)
  pure settings

end Settings

end FolderScript
