/-
Which source decides a setting.  Every field is decided on its own, by the first
source that sets it: the command line, the variables, the project file, the user
file, the built-in value; an explicit file stands in for the two files.
-/
import FolderScript.Proofs.CommandLine.Accepted
import FolderScript.Proofs.Settings.Load
import Mathlib.Control.Monad.Basic

namespace FolderScript

namespace Settings

/-- All layers below a command line as it is written, the one that wins first. -/
def sources (host : Host) (written : Invocation) : Except Trouble (List Layer) :=
  let fallback := Options.ofVariables host.valueOf?
  (Layer.filesInOrder host (written.config.or fallback.config)).map fun files =>
    written.overrides :: fallback.runner :: files

/-- Every field of the settings is that of the first layer which sets it, or the
built-in one; the script and the directory lose their tildes. -/
structure Decided (home : Option Path) (layers : List Layer) (settings : Settings) : Prop where
  interpreter : settings.interpreter =
    (layers.findSome? Layer.interpreter).getD builtIn.interpreter
  scriptPath : settings.scriptPath = expandTilde (homeText? home)
    ((layers.findSome? Layer.scriptPath).getD builtIn.scriptPath)
  workingDirectory : .ok settings.workingDirectory = expandDirectory home
    ((layers.findSome? Layer.workingDirectory).getD builtIn.workingDirectory)
  timeout : settings.timeout = (layers.findSome? Layer.timeout).or builtIn.timeout

theorem decided_of_expand {home : Option Path} {layers : List Layer} {settings : Settings}
    (h : ((Layer.stacked layers).resolve.expand home).result = .ok settings) :
    Decided home layers settings := by
  rw [result_expand] at h
  obtain ⟨directory, hdirectory, rfl⟩ := map_eq_ok_iff.mp h
  rw [mapError_eq_ok_iff] at hdirectory
  constructor
  · rw [← Layer.stacked_field rfl fun _ _ => rfl]
    rfl
  · rw [← Layer.stacked_field rfl fun _ _ => rfl]
    rfl
  · rw [← Layer.stacked_field rfl fun _ _ => rfl]
    exact hdirectory.symm
  · rw [← Layer.stacked_field rfl fun _ _ => rfl]
    exact (Option.or_none).symm

/-- Settings decided by layers that agree on a field agree on that field,
whatever the layers say about the others. -/
structure Unmoved (layers others : List Layer) (settings other : Settings) : Prop where
  interpreter : layers.map Layer.interpreter = others.map Layer.interpreter →
    settings.interpreter = other.interpreter
  scriptPath : layers.map Layer.scriptPath = others.map Layer.scriptPath →
    settings.scriptPath = other.scriptPath
  workingDirectory : layers.map Layer.workingDirectory = others.map Layer.workingDirectory →
    settings.workingDirectory = other.workingDirectory
  timeout : layers.map Layer.timeout = others.map Layer.timeout →
    settings.timeout = other.timeout

theorem findSome?_congr_map {α β : Type} {f : α → Option β} {list other : List α}
    (h : list.map f = other.map f) : list.findSome? f = other.findSome? f := by
  rw [← Function.id_comp f, ← List.findSome?_map, ← List.findSome?_map, h]

theorem Decided.unmoved {home : Option Path} {layers others : List Layer}
    {settings other : Settings} (hsettings : Decided home layers settings)
    (hother : Decided home others other) : Unmoved layers others settings other where
  interpreter h := by
    rw [hsettings.interpreter, hother.interpreter, findSome?_congr_map h]
  scriptPath h := by
    rw [hsettings.scriptPath, hother.scriptPath, findSome?_congr_map h]
  workingDirectory h := by
    apply Except.ok.inj
    rw [hsettings.workingDirectory, hother.workingDirectory, findSome?_congr_map h]
  timeout h := by
    rw [hsettings.timeout, hother.timeout, findSome?_congr_map h]

/-- A command line is accepted, and its settings can be loaded from sources. -/
def LoadedFrom (host : Host) (arguments : List Bytes) (layers : List Layer)
    (settings : Settings) : Prop :=
  ∃ written invocation, Invocation.parse (fun _ => none) arguments = .ok written ∧
    sources host written = .ok layers ∧
    Invocation.parse host.valueOf? arguments = .ok invocation ∧
    (load host invocation.config invocation.overrides).result = .ok settings

theorem exists_loadedFrom {host : Host} {arguments : List Bytes} {invocation : Invocation}
    {settings : Settings} (hparse : Invocation.parse host.valueOf? arguments = .ok invocation)
    (hload : (load host invocation.config invocation.overrides).result = .ok settings) :
    ∃ layers, LoadedFrom host arguments layers settings := by
  obtain ⟨written, hwritten, _, hconfig⟩ := Invocation.parse_eq_ok hparse
  obtain ⟨files, hfiles, _⟩ := load_eq_ok hload
  refine ⟨written.overrides :: (Options.ofVariables host.valueOf?).runner :: files,
    written, invocation, hwritten, ?_, hparse, hload⟩
  rw [sources, ← hconfig, hfiles]
  rfl

theorem LoadedFrom.decided {host : Host} {arguments : List Bytes} {layers : List Layer}
    {settings : Settings} (h : LoadedFrom host arguments layers settings) :
    Decided host.home? layers settings := by
  obtain ⟨written, invocation, hwritten, hsources, hparse, hload⟩ := h
  obtain ⟨other, hother, hoverrides, hconfig⟩ := Invocation.parse_eq_ok hparse
  obtain rfl := Except.ok.inj (hwritten.symm.trans hother)
  obtain ⟨files, hfiles, hexpand, _⟩ := load_eq_ok hload
  rw [sources, ← hconfig, hfiles] at hsources
  obtain rfl := Except.ok.inj hsources
  apply decided_of_expand
  rwa [hoverrides, Layer.stacked_cons, Layer.onTopOf_assoc] at hexpand

/-- The settings of an accepted command line come from the sources in their
order, and in any two runs a field on which the sources agree is the same. -/
theorem load_decided {host : Host} {arguments : List Bytes} {invocation : Invocation}
    {settings : Settings} (hparse : Invocation.parse host.valueOf? arguments = .ok invocation)
    (hload : (load host invocation.config invocation.overrides).result = .ok settings) :
    ∃ layers, LoadedFrom host arguments layers settings ∧
      Decided host.home? layers settings ∧
      ∀ otherHost otherArguments others other,
        LoadedFrom otherHost otherArguments others other →
        otherHost.home? = host.home? → Unmoved layers others settings other := by
  obtain ⟨layers, hlayers⟩ := exists_loadedFrom hparse hload
  refine ⟨layers, hlayers, hlayers.decided, ?_⟩
  intro otherHost otherArguments others other hothers hhome
  exact hlayers.decided.unmoved (hhome ▸ hothers.decided)

end Settings

namespace PrecedenceWitness

def directory (names : List String) : Position × Node :=
  (names.map Utf8.encode, { entry := .directory, mode := 0o755 })

def file (names : List String) (text : String) : Position × Node :=
  (names.map Utf8.encode, { entry := .file (Utf8.encode text), mode := 0o644 })

/-- Both files set the script, and each of them sets one more field; a variable
sets the timeout once more. -/
def host : Host where
  files := ⟨[directory ["etc"], directory ["etc", "scriptrun"],
    file ["etc", "scriptrun", "config.toml"]
      "[runner]\nscript_path = 'b.py'\nworking_directory = '~/b'\n",
    file [".scriptrun.toml"] "[runner]\nscript_path = '~/a.py'\ntimeout_secs = 7\n"]⟩
  environment := [("HOME", Utf8.encode "/home"), ("XDG_CONFIG_HOME", Utf8.encode "/etc"),
    ("SCRIPTRUN_TIMEOUT", Utf8.encode "9")]
  directory := []

/-- The flag asks for what would be the interpreter anyway. -/
def arguments : List Bytes := ["config", "--interpreter", "python"].map Utf8.encode

def invocation : Invocation where
  command := .config { interpreter := some "python", timeout := some 9 }
  verbosity := 0
  config := none

def settings : Settings where
  interpreter := "python"
  scriptPath := "/home/a.py"
  workingDirectory := Path.ofText "/home/b"
  timeout := some 9

theorem parse_arguments : Invocation.parse host.valueOf? arguments = .ok invocation := by
  decide +kernel

theorem result_load_host :
    (Settings.load host invocation.config invocation.overrides).result = .ok settings := by
  decide +kernel

theorem load_decided_everywhere :
    ∃ layers, Settings.LoadedFrom host arguments layers settings ∧
      Settings.Decided host.home? layers settings ∧
      ∀ otherHost otherArguments others other,
        Settings.LoadedFrom otherHost otherArguments others other →
        otherHost.home? = host.home? → Settings.Unmoved layers others settings other :=
  Settings.load_decided parse_arguments result_load_host

end PrecedenceWitness

end FolderScript
