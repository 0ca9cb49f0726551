/-
What loading reads when a settings file is named: that file, the home directory, and
whether the working directory that comes out is there and is a directory.  Nothing
else of the surroundings matters, neither the user file nor a project file nor a
version control root.
-/
import FolderScript.Proofs.Settings.Precedence

namespace FolderScript

variable {first second : Host} {path : Path}

namespace Settings

/-- The settings of a named file under overrides, before they are checked. -/
def intended (host : Host) (path : Path) (overrides : Layer) : Except Trouble Settings := do
  let file ← (Layer.ofFile host path).result
  ((overrides.onTopOf file).resolve.expand host.home?).result

theorem intended_eq_ok {host : Host} {overrides file : Layer} {settings : Settings}
    (hfile : (Layer.ofFile host path).result = .ok file)
    (hexpand : ((overrides.onTopOf file).resolve.expand host.home?).result = .ok settings) :
    intended host path overrides = .ok settings := by
  rw [intended, hfile]
  exact hexpand

end Settings

/-- Hosts that agree on all that a load with a named file depends on, each seen from its
own current directory. -/
structure Host.AgreeOnFile (first second : Host) (path : Path) (overrides : Layer) : Prop where
  home : first.home? = second.home?
  /-- The file can be read on both, with the same content, or on neither for the same
  reason. -/
  content : first.files.readText first.directory path =
    second.files.readText second.directory path
  workingDirectory : ∀ settings, Settings.intended first path overrides = .ok settings →
    first.files.pathExists first.directory settings.workingDirectory =
        second.files.pathExists second.directory settings.workingDirectory ∧
      first.files.isDirectory first.directory settings.workingDirectory =
        second.files.isDirectory second.directory settings.workingDirectory

namespace Settings

/-- With a named file, hosts that agree on what is read of it load the same settings or
have the same trouble, and they log the same; whatever else there is on either. -/
theorem load_named_eq {overrides : Layer} (h : first.AgreeOnFile second path overrides) :
    load first (some path) overrides = load second (some path) overrides := by
  have hfiles : Layer.ofFiles first (some path) = Layer.ofFiles second (some path) := by
    rw [Layer.ofFiles, Layer.ofFiles, Layer.ofFile_congr h.content]
  rw [load, load, ← hfiles, ← h.home]
  refine Attempt.bind_congr fun file hfile => Attempt.bind_congr fun settings hsettings => ?_
  have hintended : intended first path overrides = .ok settings := by
    rw [Layer.ofFiles, Attempt.result_emit_bind] at hfile
    rw [Attempt.result_within, mapError_eq_ok_iff] at hsettings
    exact intended_eq_ok hfile hsettings
  obtain ⟨hexists, hdirectory⟩ := h.workingDirectory settings hintended
  rw [validate_congr hexists hdirectory]

end Settings

namespace IsolationWitness

open PrecedenceWitness (directory file)

/-- What both hosts have: a directory to work in, and the file that is named. -/
def shared : List (Position × Node) :=
  [directory ["home"], directory ["home", "w"],
    file ["a.toml"] "[runner]\nscript_path = 'a.py'\nworking_directory = '~/w'\n"]

/-- A host whose user file is no document. -/
def host : Host where
  files := ⟨shared ++ [directory ["etc"], directory ["etc", "scriptrun"],
    file ["etc", "scriptrun", "config.toml"] "[runner"]⟩
  environment := [("HOME", Utf8.encode "/home"), ("XDG_CONFIG_HOME", Utf8.encode "/etc")]
  directory := []

/-- A project file with a key that is not known. -/
def misspelt : String := "[runner]\nshell = 'sh'\n"

/-- A host without a user file, whose project file sets what there is not to set, at a
version control root. -/
def otherHost : Host where
  files := ⟨shared ++ [directory [".git"], file [".scriptrun.toml"] misspelt]⟩
  environment := [("HOME", Utf8.encode "/home"), ("SHELL", Utf8.encode "sh")]
  directory := []

def overrides : Layer where
  timeout := some 5

def settings : Settings where
  interpreter := "python"
  scriptPath := "a.py"
  workingDirectory := Path.ofText "/home/w"
  timeout := some 5

theorem intended_host : Settings.intended host (Path.ofText "a.toml") overrides = .ok settings := by
  decide +kernel

theorem agreeOnFile_host : host.AgreeOnFile otherHost (Path.ofText "a.toml") overrides where
  home := rfl
  content := by decide +kernel
  workingDirectory := fun found hfound => by
    obtain rfl := Except.ok.inj (intended_host.symm.trans hfound)
    decide +kernel

def userTrouble : Trouble :=
  ⟨["Failed to parse TOML from file: /etc/scriptrun/config.toml"], .document "[runner" .malformed⟩

def projectTrouble : Trouble :=
  ⟨["Failed to parse TOML from file: /.scriptrun.toml"],
    .document misspelt (.misfit (.unknownField "shell"))⟩

/-- With the named file both hosts have the same settings; without it neither has any, and
each for a reason of its own. -/
theorem load_named_eq_on_broken_hosts :
    Settings.load host (some (Path.ofText "a.toml")) overrides =
      Settings.load otherHost (some (Path.ofText "a.toml")) overrides ∧
    (Settings.load host (some (Path.ofText "a.toml")) overrides).result = .ok settings ∧
    (Settings.load host none overrides).result = .error userTrouble ∧
    (Settings.load otherHost none overrides).result = .error projectTrouble := by
  refine ⟨Settings.load_named_eq agreeOnFile_host, ?_, ?_, ?_⟩
  · decide +kernel
  · decide +kernel
  · decide +kernel

end IsolationWitness

end FolderScript
