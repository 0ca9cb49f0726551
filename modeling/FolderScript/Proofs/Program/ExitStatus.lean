/-
What the program leaves behind after a command line that it accepts.  The exit code
tells only whether the command came to a text or to trouble; so it depends neither on
what the script writes nor on the code with which it ends, and what is logged changes
nothing but standard error.
-/
import FolderScript.Proofs.CommandLine.Accepted
import FolderScript.Proofs.Process.Limit
import FolderScript.Proofs.Process.SameCourse
import FolderScript.Proofs.Program.Surroundings
import FolderScript.Proofs.Run.Performed

namespace FolderScript

def exitCode : Except Trouble String → Nat
  | .ok _ => 0
  | .error _ => 1

/-- The standard output for a result. -/
def printed : Except Trouble String → String
  | .ok output => output
  | .error _ => ""

/-- What is left behind, apart from standard error. -/
def Finished.shown (left : Finished) : Nat × String := (left.exitCode, left.output)

namespace Invocation

/-- What the command of an invocation comes to, one case for each way that it can take;
none if it goes on for ever. -/
inductive ComesTo (launch : Launcher) (schedule : Schedule) (host : Host)
    (invocation : Invocation) : Option (Except Trouble String) → Prop
  /-- There are no settings. -/
  | unloaded {trouble : Trouble}
      (load : (Settings.load host invocation.config invocation.overrides).result =
        .error trouble) :
      ComesTo launch schedule host invocation
        (some (.error (trouble.within "Failed to load scriptrun configuration")))
  /-- There are settings, and the current directory is not known. -/
  | lost {settings : Settings} {error : IoError}
      (load : (Settings.load host invocation.config invocation.overrides).result = .ok settings)
      (unknown : host.currentPath = .error error) :
      ComesTo launch schedule host invocation
        (some (.error ⟨["Failed to get current directory"], .io error⟩))
  /-- The settings are shown. -/
  | described {overrides : Layer} {settings : Settings} {directory : Path}
      (asked : invocation.command = .config overrides)
      (load : (Settings.load host invocation.config overrides).result = .ok settings)
      (known : host.currentPath = .ok directory) :
      ComesTo launch schedule host invocation
        (some (.ok (settings.describe directory.display ++ "\n")))
  /-- A run is skipped for want of two folders. -/
  | skipped {arguments : RunArguments} {settings : Settings} {directory : Path}
      {failure : Failure}
      (asked : invocation.command = .run arguments)
      (load : (Settings.load host invocation.config arguments.overrides).result =
        .ok settings)
      (known : host.currentPath = .ok directory)
      (unusable : arguments.request directory = .error failure) :
      ComesTo launch schedule host invocation (some (.ok ""))
  /-- The script has run to its end. -/
  | completed {arguments : RunArguments} {settings : Settings} {directory : Path}
      {request : Request} {captured : Captured}
      (asked : invocation.command = .run arguments)
      (load : (Settings.load host invocation.config arguments.overrides).result =
        .ok settings)
      (known : host.currentPath = .ok directory)
      (usable : arguments.request directory = .ok request)
      (ended : ((settings.command request).supervise launch schedule
        settings.limit).value.result = some (.ok captured)) :
      ComesTo launch schedule host invocation (some (.ok (captured.report ++ "\n")))
  /-- The script has not been started, or not been read to its end. -/
  | failed {arguments : RunArguments} {settings : Settings} {directory : Path}
      {request : Request} {failure : Failure}
      (asked : invocation.command = .run arguments)
      (load : (Settings.load host invocation.config arguments.overrides).result =
        .ok settings)
      (known : host.currentPath = .ok directory)
      (usable : arguments.request directory = .ok request)
      (failed : ((settings.command request).supervise launch schedule
        settings.limit).value.result = some (.error failure)) :
      ComesTo launch schedule host invocation
        (some (.error ((Trouble.ofFailure failure).within "Script run failed")))
  /-- The script runs for ever. -/
  | endless {arguments : RunArguments} {settings : Settings} {directory : Path}
      {request : Request}
      (asked : invocation.command = .run arguments)
      (load : (Settings.load host invocation.config arguments.overrides).result =
        .ok settings)
      (known : host.currentPath = .ok directory)
      (usable : arguments.request directory = .ok request)
      (running : ((settings.command request).supervise launch schedule
        settings.limit).value.result = none) :
      ComesTo launch schedule host invocation none

variable {launch : Launcher} {schedule : Schedule} {host : Host} {invocation : Invocation}

/-- Both commands fail alike without settings, or in a directory that is not known. -/
theorem comesTo_of_error {trouble : Trouble}
    (h : Settings.loadHere host invocation.config invocation.overrides = .error trouble) :
    invocation.ComesTo launch schedule host (some (.error trouble)) := by
  rcases Settings.loadHere_eq_error_iff.mp h with
    ⟨cause, hload, rfl⟩ | ⟨settings, error, hload, hunknown, rfl⟩
  · exact .unloaded hload
  · exact .lost hload hunknown

theorem comesTo_handled (launch : Launcher) (schedule : Schedule) (host : Host)
    (invocation : Invocation) :
    invocation.ComesTo launch schedule host (invocation.handled launch schedule host) := by
  unfold handled
  cases hcommand : invocation.command with
  | config overrides =>
      have hoverrides : invocation.overrides = overrides := by simp [Invocation.overrides, hcommand]
      simp only [value_performConfig]
      cases hload : Settings.loadHere host invocation.config overrides with
      | error trouble => exact comesTo_of_error (hoverrides ▸ hload)
      | ok found =>
          have hfound := Settings.loadHere_eq_ok_iff.mp hload
          exact .described hcommand hfound.1 hfound.2
  | run arguments =>
      have hoverrides : invocation.overrides = arguments.overrides := by
        simp [Invocation.overrides, hcommand]
      simp only [RunArguments.result_perform]
      cases hload : Settings.loadHere host invocation.config arguments.overrides with
      | error trouble => exact comesTo_of_error (hoverrides ▸ hload)
      | ok found =>
          obtain ⟨settings, directory⟩ := found
          obtain ⟨hsettings, hknown⟩ := Settings.loadHere_eq_ok_iff.mp hload
          dsimp only
          cases hparts : arguments.request directory with
          | error failure => exact .skipped hcommand hsettings hknown hparts
          | ok request =>
              dsimp only
              cases hresult : ((settings.command request).supervise launch schedule
                  settings.limit).value.result with
              | none => exact .endless hcommand hsettings hknown hparts hresult
              | some result =>
                  cases result with
                  | error failure => exact .failed hcommand hsettings hknown hparts hresult
                  | ok captured => exact .completed hcommand hsettings hknown hparts hresult

end Invocation

/-- A text that has the lines of events that a filter shows, and nothing else. -/
def LogFilter.Logs (filter : LogFilter) (wording : Wording) (log : String) : Prop :=
  ∃ events : List LogEvent, (∀ event ∈ events, filter.shows event = true) ∧
    log = LogEvent.text wording.lead events

namespace Program

/-- What is left behind for what the command comes to.  Trouble leaves nothing on
standard output, and below the log the chain of its links from the outermost on. -/
def Leaves (wording : Wording) (filter : LogFilter) (left : Option Finished) :
    Option (Except Trouble String) → Prop
  | none => left = none
  | some (.ok output) => ∃ log, filter.Logs wording log ∧ left = some ⟨0, output, log⟩
  | some (.error trouble) => ∃ log, filter.Logs wording log ∧
      left = some ⟨1, "", log ++ "Error: " ++ ": ".intercalate (trouble.links wording) ++ "\n"⟩

section

variable {host : Host} {arguments : List Bytes} {invocation : Invocation}
  (hparse : Invocation.parse host.valueOf? arguments = .ok invocation) (wording : Wording)
  (launch : Launcher) (schedule : Schedule)

include hparse

theorem run_eq_map_handled :
    ∃ events, run wording launch schedule host arguments =
      (invocation.handled launch schedule host).map
        (Invocation.finished wording (invocation.logFilter host) events) := by
  refine ⟨(invocation.course wording launch schedule host).run.events, ?_⟩
  rw [run, hparse, ← Invocation.result_course launch schedule wording]
  rfl

theorem leaves_handled :
    Leaves wording (invocation.logFilter host) (run wording launch schedule host arguments)
      (invocation.handled launch schedule host) := by
  obtain ⟨events, hrun⟩ := run_eq_map_handled hparse wording launch schedule
  have hlogs : (invocation.logFilter host).Logs wording
      (LogEvent.text wording.lead (events.filter (invocation.logFilter host).shows)) :=
    ⟨_, fun event hevent => (List.mem_filter.mp hevent).2, rfl⟩
  rw [hrun]
  match invocation.handled launch schedule host with
  | none => exact rfl
  | some (.ok output) => exact ⟨_, hlogs, rfl⟩
  | some (.error trouble) => exact ⟨_, hlogs, rfl⟩

end

end Program

namespace ExitStatusWitness

def directory : Position := [Utf8.encode "work"]

/-- A directory without settings, and a choice of what is logged or none. -/
def host (log : Option String) : Host where
  files := ⟨[(directory, { entry := .directory, mode := 0o755 })]⟩
  environment := ("HOME", Utf8.encode "/home") ::
    log.toList.map fun text => (Host.logVariable, Utf8.encode text)
  directory := directory

def arguments (flags : List String) : List Bytes :=
  (flags ++ ["run", "--workdir", "/w", "--script", "a.py"]).map Utf8.encode

def overrides : Layer where
  scriptPath := some "a.py"
  workingDirectory := some (Path.ofText "/w")

def given : RunArguments where
  overrides := overrides

def invocation (verbosity : Nat) : Invocation where
  command := .run given
  verbosity := verbosity
  config := none

def life (text : String) (code : Nat) : Life where
  child :=
    { writes := [(0, .out, Utf8.encode text)]
      outUntil := some (Duration.ofMilliseconds 1)
      errUntil := some (Duration.ofMilliseconds 1) }
  ending := some (Duration.ofMilliseconds 1, .exited code)

/-- A machine on which every command is such a script. -/
def launcher (text : String) (code : Nat) : Launcher := fun _ => .ok fun _ => life text code

theorem parse_arguments_plain :
    Invocation.parse (host none).valueOf? (arguments []) = .ok (invocation 0) := by
  decide +kernel

theorem timeline_life (text : String) (code : Nat) : (life text code).timeline =
    [(0, .written .out (Utf8.encode text)), (1000, .closed .out), (1000, .closed .err)] := by
  rw [Life.timeline]
  exact List.mergeSort_of_pairwise (by simp [Life.holders, life, Life.closesAt, Holder.holdsUntil,
    Happening.place, Happening.rank, Duration.ofMilliseconds])

theorem written_life (text : String) (code : Nat) :
    (life text code).written .out = Utf8.encode text ∧ (life text code).written .err = [] := by
  simp only [Life.written, timeline_life]
  exact ⟨List.append_nil _, rfl⟩

theorem isDoneBy_life (text : String) (code : Nat) :
    (life text code).IsDoneBy none (.exited code) := by
  refine ⟨fun side => ⟨Duration.ofMilliseconds 1, ?_, rfl⟩, Duration.ofMilliseconds 1, rfl, rfl⟩
  cases side <;> rfl

/-- A script is captured with its code and its lines, in whatever order its streams are read. -/
theorem result_supervise_launcher (text : String) (code : Nat) (command : Command)
    (schedule : Schedule) :
    (command.supervise (launcher text code) schedule none).value.result =
      some (.ok ⟨code, String.join ((lines (Utf8.encode text)).map (· ++ "\n"))⟩) := by
  have hlaunch : launcher text code command = .ok fun _ => life text code := rfl
  have hsupervision := Command.supervision_supervise hlaunch schedule none
  obtain ⟨output, hresult⟩ := hsupervision.result_of_isDoneBy ⟨rfl, rfl⟩ (isDoneBy_life text code)
  obtain ⟨ending, merged, -, hmerged, hcaptured⟩ := hsupervision.of_captured hresult
  rw [(written_life text code).1, (written_life text code).2] at hmerged
  have hmerged : merged = lines (Utf8.encode text) := hmerged.eq_of_nil_right
  rw [hresult, (Captured.mk.inj hcaptured).2, hmerged]
  rfl

def settings : Settings where
  interpreter := "python"
  scriptPath := "a.py"
  workingDirectory := Path.ofText "/w"
  timeout := none

theorem result_load_overrides :
    (Settings.load (host none) none overrides).result = .ok settings := by
  decide +kernel

theorem currentPath_host : (host none).currentPath = .ok (Host.pathOf directory) := by
  decide

theorem request_given : given.request (Host.pathOf directory) = .ok ⟨"/work", "/work"⟩ := by
  decide

def report : String := "Process exited with code: 3\nProcess output:\nx\n\n"

end ExitStatusWitness

end FolderScript
