/-
What the program comes to with a machine that it really starts processes on.
The log does not matter for the result; what is left is a chain of at most three
results: the settings, the request, and what the supervised process comes to.
-/
import FolderScript.Program
import FolderScript.Proofs.Run.Requests

namespace FolderScript

namespace Course

/-- What a course comes to; none if it goes on for ever. -/
def result {α : Type} (course : Course α) : Option α := course.run.value

theorem result_bind {α β : Type} (first : Course α) (next : α → Course β) :
    result (first >>= next) = (result first).bind fun value => result (next value) := by
  unfold result
  rw [OptionT.run_bind]
  simp only [Option.elimM, Logged.value_bind]
  cases first.run.value <;> rfl

@[simp] theorem result_pure {α : Type} (value : α) : result (pure value) = some value := rfl

@[simp] theorem result_liftM {α : Type} (logged : Logged α) :
    result (liftM logged : Course α) = some logged.value := rfl

@[simp] theorem result_liftM_bind {α β : Type} (logged : Logged α) (next : α → Course β) :
    result (liftM logged >>= next) = result (next logged.value) := rfl

/-- What is done about a result does not change it. -/
theorem result_bind_of_kept {α : Type} {course : Course α} {next : α → Course α}
    (h : ∀ value, result (next value) = some value) : result (course >>= next) = result course := by
  rw [result_bind]
  cases result course with
  | none => rfl
  | some value => exact h value

end Course

/-- What is reported about a process that has come to an end. -/
def reported : Except Failure Captured → Except Trouble String
  | .ok captured => .ok (captured.report ++ "\n")
  | .error failure => .error ((Trouble.ofFailure failure).within "Script run failed")

theorem value_reportTask (result : Except Failure Captured) :
    (reportTask (result.map .completed)).value = reported result := by
  cases result with
  | error failure => rfl
  | ok captured =>
      simp only [Except.map, reportTask, reported]
      cases captured.succeeded <;> rfl

theorem Service.result_setUp (project : Option String) (runner : Runner Course) :
    Course.result (setUp project runner) = some ⟨project, runner⟩ := rfl

/-- A run of the script as a machine does it. -/
abbrev RunArguments.course (launch : Launcher) (schedule : Schedule) (host : Host) (config : Option Path)
    (arguments : RunArguments) : Course (Except Trouble String) :=
  arguments.perform (fun settings => settings.execute launch schedule) host config

variable (launch : Launcher) (schedule : Schedule)

namespace Settings

/-- The result of a run of the script is that of the supervised process. -/
theorem result_execute (settings : Settings) (request : Request) :
    Course.result (settings.execute launch schedule request) =
      ((settings.command request).supervise launch schedule settings.limit).value.result := by
  have hrun : Course.result ((settings.command request).run launch schedule settings.limit) =
      ((settings.command request).supervise launch schedule settings.limit).value.result := rfl
  -- There are always four texts on the command line, so one of them is the program.
  have hcommand : settings.command request =
      ⟨settings.interpreter, [settings.scriptPath, request.input, request.output],
        settings.workingDirectory⟩ := rfl
  rw [← hrun, hcommand, execute, commandLine]
  simp only [Course.result_bind]
  generalize Course.result (Command.run launch schedule _ settings.limit) = outcome
  cases outcome with
  | none => rfl
  | some result => cases result <;> rfl

/-- A task is skipped without two folders that can be used, or else there is one
process. -/
theorem result_runTask (settings : Settings) (project input output : Option String) :
    Course.result
        ((⟨project, settings.execute launch schedule⟩ : Service Course).runTask input output) =
      match Request.ofParts input output with
      | .error _ => some (.ok .skipped)
      | .ok request =>
          ((settings.command request).supervise launch schedule
            settings.limit).value.result.map (Except.map .completed) := by
  unfold Service.runTask
  cases Request.ofParts input output with
  | error failure => rfl
  | ok request =>
      simp only [Course.result_bind, result_execute, Course.result_pure]
      cases ((settings.command request).supervise launch schedule
        settings.limit).value.result <;> rfl

end Settings

/-- The result of a run: the trouble with its settings or the current directory, or nothing
at all if it is skipped, or else what is reported of the supervised process. -/
theorem RunArguments.result_perform (host : Host) (config : Option Path)
    (arguments : RunArguments) :
    (arguments.course launch schedule host config).result =
      match Settings.loadHere host config arguments.overrides with
      | .error trouble => some (.error trouble)
      | .ok (settings, directory) =>
          match arguments.request directory with
          | .error _ => some (.ok "")
          | .ok request =>
              ((settings.command request).supervise launch schedule
                settings.limit).value.result.map reported := by
  simp only [course, perform, Course.result_liftM_bind, Settings.value_run_load,
    Settings.loadHere]
  cases (Settings.load host config arguments.overrides).result with
  | error trouble => rfl
  | ok settings =>
      cases host.currentDirectory with
      | error trouble => rfl
      | ok directory =>
          simp only [mapError_ok, Course.result_bind, Course.result_liftM,
            Service.result_setUp, Option.bind_some, Settings.result_runTask, request, chosen,
            Except.bind, Except.map]
          cases Request.ofParts
              (chosenFolder arguments.input directory
                (projectFolder arguments.project directory))
              (chosenFolder arguments.output directory
                (projectFolder arguments.project directory)) with
          | error failure => rfl
          | ok request =>
              dsimp only
              cases ((settings.command request).supervise launch schedule
                settings.limit).value.result with
              | none => rfl
              | some result => exact congrArg some (value_reportTask result)

/-- The result of showing the settings: the trouble with them or with the current directory,
or their text. -/
theorem value_performConfig (host : Host) (config : Option Path) (overrides : Layer) :
    (performConfig host config overrides).value =
      (Settings.loadHere host config overrides).map fun (settings, directory) =>
        settings.describe directory.display ++ "\n" := by
  simp only [performConfig, Logged.value_bind, Logged.value_pure, Settings.value_run_load,
    Settings.loadHere]
  cases (Settings.load host config overrides).result with
  | error trouble => rfl
  | ok settings => cases host.currentDirectory <;> rfl

namespace Invocation

/-- What the command of an invocation comes to. -/
def handled (launch : Launcher) (schedule : Schedule) (host : Host) (invocation : Invocation) :
    Option (Except Trouble String) :=
  match invocation.command with
  | .run arguments => (arguments.course launch schedule host invocation.config).result
  | .config overrides => some (performConfig host invocation.config overrides).value

/-- With settings and two folders a run comes to what is reported of its process. -/
theorem handled_of_usable {host : Host} {invocation : Invocation} {arguments : RunArguments}
    {settings : Settings} {directory : Path} {request : Request}
    (asked : invocation.command = .run arguments)
    (load : Settings.loadHere host invocation.config arguments.overrides =
      .ok (settings, directory))
    (usable : arguments.request directory = .ok request) :
    invocation.handled launch schedule host =
      ((settings.command request).supervise launch schedule
        settings.limit).value.result.map reported := by
  rw [handled, asked]
  dsimp only
  rw [RunArguments.result_perform, load]
  dsimp only
  rw [usable]

/-- The result of an invocation is that of its command; the log of its trouble does not
change it. -/
theorem result_course (wording : Wording) (host : Host) (invocation : Invocation) :
    Course.result (invocation.course wording launch schedule host) =
      invocation.handled launch schedule host := by
  rw [course, perform, handled, Course.result_liftM_bind]
  cases invocation.command with
  | run arguments => exact Course.result_bind_of_kept fun result => by cases result <;> rfl
  | config overrides => exact Course.result_bind_of_kept fun result => by cases result <;> rfl

end Invocation

end FolderScript
