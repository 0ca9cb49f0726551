/-
What `config` shows about `run`.  Both load the same settings from the same flags, and fail
alike if there are none.  The command that is shown is the one that a run without folders
starts, unless the current directory has no text: then one is shown and none is started.
-/
import FolderScript.Proofs.CommandLine.FolderOptions
import FolderScript.Proofs.Folder
import FolderScript.Proofs.Run.WhenRun

namespace FolderScript

theorem Path.display_of_text? {path : Path} {text : String} (h : path.text? = some text) :
    path.display = text :=
  Utf8.lossy_of_decode? h

abbrev RunArguments.withoutFolders (overrides : Layer) : RunArguments where
  overrides := overrides

namespace Settings

def limitText : Option Duration → String
  | some limit => toString limit.seconds ++ "s"
  | none => "none"

theorem limitText_limit (settings : Settings) : limitText settings.limit = settings.timeoutText := by
  unfold limit timeoutText
  cases settings.timeout with
  | none => rfl
  | some seconds =>
      rw [Option.map_some, limitText, Duration.seconds_ofSeconds]
      rfl

/-- The text that shows settings with a command line: one on a line, and the parts of the
command line with one blank between them. -/
def shown (settings : Settings) (directory : Path) (limit : Option Duration)
    (line : List String) : String :=
  "interpreter       = " ++ settings.interpreter ++
  "\nscript_path       = " ++ settings.scriptPath ++
  "\nworking_directory = " ++ directory.display ++
  "\ntimeout           = " ++ limitText limit ++
  "\ncommand           = " ++ " ".intercalate line ++ "\n"

/-- Settings are shown with the command that they lead to in a folder. -/
theorem describe_eq_shown (settings : Settings) (folder : String) :
    settings.describe folder ++ "\n" =
      settings.shown settings.workingDirectory settings.limit
        (settings.commandLine ⟨folder, folder⟩) := by
  unfold describe shown commandLine
  rw [limitText_limit]

/-- Settings that cannot be loaded, or a current directory that is not known: `config` and
`run` fail with the same chain of causes, and nothing is started. -/
structure FailAlike (host : Host) (config : Option Path) (overrides : Layer)
    (trouble : Trouble) : Prop where
  reason : (∃ cause, (load host config overrides).result = .error cause ∧
      trouble = cause.within "Failed to load scriptrun configuration") ∨
    (∃ settings error, (load host config overrides).result = .ok settings ∧
      host.currentPath = .error error ∧
      trouble = ⟨["Failed to get current directory"], .io error⟩)
  shown : (performConfig host config overrides).value = .error trouble
  requests : ∀ answers,
    (RunArguments.withoutFolders overrides).requests host config answers = []
  started : ∀ launch schedule,
    ((RunArguments.withoutFolders overrides).course launch schedule host config).started = []
  result : ∀ launch schedule,
    ((RunArguments.withoutFolders overrides).course launch schedule host config).result =
      some (.error trouble)

/-- The command of a run is the one that is shown, with its directory and its limit; it is
started, and nothing else, for the current directory, and what it comes to is reported. -/
structure RunAsShown (host : Host) (config : Option Path) (overrides : Layer)
    (settings : Settings) (directory : String) (command : Command) : Prop where
  loaded : (load host config overrides).result = .ok settings
  shown : (performConfig host config overrides).value =
    .ok (settings.shown command.directory settings.limit (command.program :: command.arguments))
  requests : ∀ answers, (RunArguments.withoutFolders overrides).requests host config answers =
    [⟨directory, directory⟩]
  launched : command = settings.command ⟨directory, directory⟩
  started : ∀ launch schedule,
    ((RunArguments.withoutFolders overrides).course launch schedule host config).started =
      [command]
  result : ∀ launch schedule, ∃ ended, command.Ran launch settings.limit ended ∧
    ((RunArguments.withoutFolders overrides).course launch schedule host config).result =
      ended.map reported

/-- A command is shown, with the replaced text of the current directory, and none is started. -/
structure ShownOnly (host : Host) (config : Option Path) (overrides : Layer)
    (settings : Settings) (directory : Path) : Prop where
  loaded : (load host config overrides).result = .ok settings
  shown : (performConfig host config overrides).value =
    .ok (settings.shown settings.workingDirectory settings.limit
      [settings.interpreter, settings.scriptPath, Utf8.lossy directory.bytes,
        Utf8.lossy directory.bytes])
  requests : ∀ answers,
    (RunArguments.withoutFolders overrides).requests host config answers = []
  started : ∀ launch schedule,
    ((RunArguments.withoutFolders overrides).course launch schedule host config).started = []
  result : ∀ launch schedule,
    ((RunArguments.withoutFolders overrides).course launch schedule host config).result =
      some (.ok "")

variable {host : Host} {config : Option Path} {overrides : Layer}

theorem failAlike_of_error {trouble : Trouble}
    (h : loadHere host config overrides = .error trouble) :
    FailAlike host config overrides trouble where
  reason := loadHere_eq_error_iff.mp h
  shown := by
    rw [value_performConfig, h]
    rfl
  requests answers := by simp only [RunArguments.requests_eq, h]
  started launch schedule := by simp only [RunArguments.started_perform, h]
  result launch schedule := by simp only [RunArguments.result_perform, h]

/-- Without folders a run asks for the current directory, twice, if that has a text. -/
theorem request_withoutFolders {directory : Path} {text : String} (overrides : Layer)
    (habsolute : directory.isAbsolute) (htext : directory.text? = some text) :
    (RunArguments.withoutFolders overrides).request directory = .ok ⟨text, text⟩ := by
  have hne := text_ne_empty_of_isAbsolute habsolute htext
  exact RunArguments.request_eq_ok_iff.mpr ⟨⟨htext, hne⟩, htext, hne⟩

theorem request_withoutFolders_of_lost {directory : Path} (overrides : Layer)
    (htext : directory.text? = none) :
    ∃ failure, (RunArguments.withoutFolders overrides).request directory = .error failure := by
  have hchosen : (RunArguments.withoutFolders overrides).chosen directory none = none := htext
  rw [RunArguments.request, hchosen]
  exact ⟨_, rfl⟩

section

variable {settings : Settings} {directory : Path}
  (h : loadHere host config overrides = .ok (settings, directory))

include h

theorem value_performConfig_of_ok :
    (performConfig host config overrides).value =
      .ok (settings.shown settings.workingDirectory settings.limit
        (settings.commandLine ⟨directory.display, directory.display⟩)) := by
  rw [value_performConfig, h]
  exact congrArg Except.ok (describe_eq_shown settings directory.display)

theorem runAsShown_of_text? {text : String} (htext : directory.text? = some text) :
    RunAsShown host config overrides settings text (settings.command ⟨text, text⟩) := by
  have hfound := loadHere_eq_ok_iff.mp h
  have hrequest := request_withoutFolders overrides
    (Host.isAbsolute_of_currentPath hfound.2) htext
  exact {
    loaded := hfound.1
    shown := by
      rw [value_performConfig_of_ok h, Path.display_of_text? htext]
      rfl
    requests := fun answers => by
      simp only [RunArguments.requests_eq, h, hrequest]
      rfl
    launched := rfl
    started := fun launch schedule => by
      simp only [RunArguments.started_perform, h, hrequest]
      rfl
    result := fun launch schedule =>
      ⟨_, Command.ran_supervise launch schedule _ _, by
        simp only [RunArguments.result_perform, h, hrequest]⟩ }

theorem shownOnly_of_text? (htext : directory.text? = none) :
    ShownOnly host config overrides settings directory := by
  obtain ⟨failure, hrequest⟩ := request_withoutFolders_of_lost overrides htext
  exact {
    loaded := (loadHere_eq_ok_iff.mp h).1
    shown := value_performConfig_of_ok h
    requests := fun answers => by
      simp only [RunArguments.requests_eq, h, hrequest]
      rfl
    started := fun launch schedule => by
      simp only [RunArguments.started_perform, h, hrequest]
      rfl
    result := fun launch schedule => by
      simp only [RunArguments.result_perform, h, hrequest] }

end

end Settings

open Invocation

/-- `config` tells the truth about `run`, and starts nothing.  The same flags are accepted for
both, and bring the same; both then fail alike, or the command that is shown is the one that a
run starts, or, in a directory without a text, one is shown and none is started. -/
theorem config_tells_run {front : List Bytes} {runName configName : Bytes}
    (hfront : leadsUp front) (hrun : Opened.ofName? runName = some (.scope .run))
    (hconfig : Opened.ofName? configName = some (.scope .config)) (host : Host)
    (flags : List Bytes) :
    (∀ overrides verbosity config,
      parse host.valueOf? (front ++ configName :: flags) =
          .ok ⟨.config overrides, verbosity, config⟩ ↔
        parse host.valueOf? (front ++ runName :: flags) =
          .ok ⟨.run (.withoutFolders overrides), verbosity, config⟩) ∧
    ∀ overrides config, (performConfig host config overrides).started = [] ∧
      ((∃ trouble, Settings.FailAlike host config overrides trouble) ∨
        (∃ settings directory text command, host.currentPath = .ok directory ∧
          directory.text? = some text ∧
          Settings.RunAsShown host config overrides settings text command) ∨
        (∃ settings directory, host.currentPath = .ok directory ∧ directory.text? = none ∧
          Settings.ShownOnly host config overrides settings directory)) := by
  refine ⟨fun overrides verbosity config => parse_config_iff hfront hrun hconfig,
    fun overrides config => ⟨started_performConfig host config overrides, ?_⟩⟩
  cases hload : Settings.loadHere host config overrides with
  | error trouble => exact .inl ⟨trouble, Settings.failAlike_of_error hload⟩
  | ok found =>
      obtain ⟨settings, directory⟩ := found
      have hdirectory := (Settings.loadHere_eq_ok_iff.mp hload).2
      cases htext : directory.text? with
      | some text =>
          exact .inr (.inl ⟨settings, directory, text, _, hdirectory, htext,
            Settings.runAsShown_of_text? hload htext⟩)
      | none =>
          exact .inr (.inr ⟨settings, directory, hdirectory, htext,
            Settings.shownOnly_of_text? hload htext⟩)

namespace ShownWitness

open WhenRunWitness (host settings)

/-- The flags of both commands. -/
def flags : List Bytes := ["--interpreter=sh", "--workdir", "/w"].map Utf8.encode

def overrides : Layer where
  interpreter := some "sh"
  workingDirectory := some (Path.ofText "/w")

def command : Command where
  program := "sh"
  arguments := ["idea-plugin-test/pyscr/test.py", "/work", "/work"]
  directory := Path.ofText "/w"

theorem parse_config :
    parse host.valueOf? ([Utf8.encode "-v"] ++ Utf8.encode "config" :: flags) =
      .ok ⟨.config overrides, 1, none⟩ := by
  decide +kernel

theorem config_tells_run_in_work :
    parse host.valueOf? ([Utf8.encode "-v"] ++ Utf8.encode "r" :: flags) =
        .ok ⟨.run (.withoutFolders overrides), 1, none⟩ ∧
      (performConfig host none overrides).value = .ok
        (settings.shown (Path.ofText "/w") none
          ["sh", "idea-plugin-test/pyscr/test.py", "/work", "/work"]) ∧
      ∀ launch schedule,
        ((RunArguments.withoutFolders overrides).course launch schedule host none).started =
          [command] ∧
        ∃ ended, command.Ran launch none ended ∧
          ((RunArguments.withoutFolders overrides).course launch schedule host none).result =
            ended.map reported := by
  have hfront : leadsUp [Utf8.encode "-v"] := by decide
  have hrun : Opened.ofName? (Utf8.encode "r") = some (.scope .run) := by decide
  have hconfig : Opened.ofName? (Utf8.encode "config") = some (.scope .config) := by decide
  obtain ⟨haccepted, htells⟩ := config_tells_run hfront hrun hconfig host flags
  refine ⟨(haccepted overrides 1 none).mp parse_config, ?_⟩
  have hload : (Settings.load host none overrides).result = .ok settings :=
    WhenRunWitness.result_load_host
  have htext : (Host.pathOf WhenRunWitness.directory).text? = some "/work" := by decide +kernel
  obtain ⟨-, ⟨trouble, hfails⟩ | ⟨found, directory, text, command, hdirectory, hfound, hruns⟩ |
    ⟨_, directory, hdirectory, hfound, -⟩⟩ := htells overrides none
  · rcases hfails.reason with ⟨cause, hcause, -⟩ | ⟨_, error, -, herror, -⟩
    · rw [hload] at hcause
      contradiction
    · rw [WhenRunWitness.currentPath_host] at herror
      contradiction
  · obtain rfl := Except.ok.inj (WhenRunWitness.currentPath_host.symm.trans hdirectory)
    obtain rfl := Option.some.inj (htext.symm.trans hfound)
    obtain rfl := Except.ok.inj (hload.symm.trans hruns.loaded)
    obtain rfl := hruns.launched
    exact ⟨hruns.shown, fun launch schedule =>
      ⟨hruns.started launch schedule, hruns.result launch schedule⟩⟩
  · obtain rfl := Except.ok.inj (WhenRunWitness.currentPath_host.symm.trans hdirectory)
    rw [htext] at hfound
    contradiction

end ShownWitness

end FolderScript
