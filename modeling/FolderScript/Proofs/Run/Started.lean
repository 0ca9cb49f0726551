/-
What a machine is given to start.  Nothing is started while settings are loaded, checked
or shown.  A run that makes a request has the command of that request started, once and
whatever comes of it; any other run has nothing started.
-/
import FolderScript.Proofs.Process.Supervision
import FolderScript.Proofs.Run.Performed

namespace FolderScript

namespace Attempt

variable {α β : Type}

/-- The commands that are started on the way. -/
def started (attempt : Attempt α) : List Command := attempt.run.started

@[simp] theorem started_pure (value : α) : started (pure value : Attempt α) = [] := rfl

@[simp] theorem started_throw (trouble : Trouble) :
    started (throw trouble : Attempt α) = [] := rfl

@[simp] theorem started_ofExcept (result : Except Trouble α) : started (ofExcept result) = [] :=
  rfl

@[simp] theorem started_emit (level : Level) (origin : Origin) (message : String) :
    started (emit level origin message) = [] := rfl

@[simp] theorem started_lift (logged : Logged α) :
    started (ExceptT.lift logged : Attempt α) = logged.started :=
  List.append_nil logged.started

@[simp] theorem started_within (context : String) (attempt : Attempt α) :
    started (within context attempt) = started attempt :=
  List.append_nil attempt.run.started

theorem started_bind_eq_nil {first : Attempt α} {next : α → Attempt β}
    (hfirst : started first = []) (hnext : ∀ value, started (next value) = []) :
    started (first >>= next) = [] := by
  unfold started at hfirst ⊢
  rw [ExceptT.run_bind, Logged.started_bind, hfirst]
  cases first.run.value with
  | error trouble => rfl
  | ok value => exact hnext value

theorem started_emit_bind (level : Level) (origin : Origin) (message : String)
    {next : Attempt α} (hnext : started next = []) :
    started (emit level origin message >>= fun _ => next) = [] :=
  started_bind_eq_nil (started_emit level origin message) fun _ => hnext

end Attempt

theorem Discovery.started_searchAlong (host : Host) (paths : List Path) :
    (searchAlong host paths).started = [] := by
  induction paths with
  | nil => rfl
  | cons path rest ih =>
      unfold searchAlong
      split
      · rfl
      · split
        · rfl
        · exact ih

namespace Layer

theorem started_ofFile (host : Host) (path : Path) : (ofFile host path).started = [] :=
  Attempt.started_bind_eq_nil (by simp) fun _ => by simp

theorem started_ofUser (host : Host) : (ofUser host).started = [] := by
  unfold ofUser
  split
  · exact Attempt.started_emit_bind _ _ _ (Attempt.started_pure _)
  · split
    · exact Attempt.started_emit_bind _ _ _ (started_ofFile host _)
    · exact Attempt.started_emit_bind _ _ _ (Attempt.started_pure _)

theorem started_ofProject (host : Host) : (ofProject host).started = [] := by
  refine Attempt.started_bind_eq_nil (Attempt.started_ofExcept _) fun directory => ?_
  refine Attempt.started_bind_eq_nil ?_ fun found => ?_
  · rw [Attempt.started_lift]
    exact Discovery.started_searchAlong host _
  · cases found with
    | some path => exact Attempt.started_emit_bind _ _ _ (started_ofFile host path)
    | none => exact Attempt.started_emit_bind _ _ _ (Attempt.started_pure _)

theorem started_ofFiles (host : Host) (explicit : Option Path) :
    (ofFiles host explicit).started = [] := by
  cases explicit with
  | some path => exact Attempt.started_emit_bind _ _ _ (started_ofFile host path)
  | none =>
      refine Attempt.started_bind_eq_nil (started_ofUser host) fun user => ?_
      exact Attempt.started_bind_eq_nil (started_ofProject host) fun project =>
        Attempt.started_pure _

end Layer

namespace Settings

theorem started_expand (home : Option Path) (settings : Settings) :
    (settings.expand home).started = [] :=
  Attempt.started_emit_bind _ _ _ (Attempt.started_bind_eq_nil (Attempt.started_ofExcept _)
    fun _ => Attempt.started_emit_bind _ _ _ (Attempt.started_pure _))

theorem started_validate (host : Host) (settings : Settings) :
    (settings.validate host).started = [] := by
  refine Attempt.started_emit_bind _ _ _ ?_
  cases settings.lacksDirectory host <;> cases settings.violation? host <;> rfl

/-- Loading the settings starts nothing. -/
theorem started_load (host : Host) (explicit : Option Path) (overrides : Layer) :
    (load host explicit overrides).started = [] := by
  refine Attempt.started_bind_eq_nil (Layer.started_ofFiles host explicit) fun files => ?_
  refine Attempt.started_bind_eq_nil ?_ fun settings => ?_
  · rw [Attempt.started_within]
    exact started_expand _ _
  · refine Attempt.started_bind_eq_nil ?_ fun _ => ?_
    · rw [Attempt.started_within]
      exact started_validate host settings
    · exact Attempt.started_emit_bind _ _ _ (Attempt.started_pure _)

theorem started_run_load (host : Host) (config : Option Path) (overrides : Layer) :
    (Attempt.within "Failed to load scriptrun configuration"
      (load host config overrides)).run.started = [] :=
  (Attempt.started_within _ _).trans (started_load host config overrides)

end Settings

/-- Showing the settings starts nothing. -/
theorem started_performConfig (host : Host) (config : Option Path) (overrides : Layer) :
    (performConfig host config overrides).started = [] := by
  unfold performConfig
  rw [Logged.started_bind, Logged.started_bind, Settings.started_run_load]
  rfl

namespace Course

variable {α β : Type}

/-- The commands that are started on the way, however long it goes on. -/
def started (course : Course α) : List Command := course.run.started

@[simp] theorem started_pure (value : α) : started (pure value : Course α) = [] := rfl

@[simp] theorem started_lift (logged : Logged α) :
    started (OptionT.lift logged : Course α) = logged.started :=
  List.append_nil logged.started

theorem started_bind (first : Course α) (next : α → Course β) :
    started (first >>= next) = started first ++
      match result first with
      | none => []
      | some value => started (next value) := by
  unfold started result
  rw [OptionT.run_bind]
  simp only [Option.elimM, Logged.started_bind]
  cases first.run.value <;> rfl

/-- What only reports a result starts nothing more. -/
theorem started_bind_of_quiet {first : Course α} {next : α → Course β}
    (hnext : ∀ value, started (next value) = []) : started (first >>= next) = started first := by
  rw [started_bind]
  cases result first with
  | none => exact List.append_nil _
  | some value => exact (congrArg (started first ++ ·) (hnext value)).trans (List.append_nil _)

theorem started_lift_bind (logged : Logged α) (next : α → Course β) :
    started (OptionT.lift logged >>= next) = logged.started ++ started (next logged.value) := by
  rw [started_bind, started_lift]
  rfl

end Course

theorem started_reportTask (outcome : Except Failure TaskOutcome) :
    (reportTask outcome).started = [] := by
  cases outcome with
  | error failure => rfl
  | ok outcome =>
      cases outcome with
      | skipped => rfl
      | completed captured =>
          unfold reportTask
          dsimp only
          split <;> rfl

variable (launch : Launcher) (schedule : Schedule)

theorem Command.started_run (command : Command) (limit : Option Duration) :
    Course.started (command.run launch schedule limit) = [command] :=
  (List.append_nil _).trans (started_supervise launch schedule command limit)

namespace Settings

/-- A request has its command started, and nothing else. -/
theorem started_execute (settings : Settings) (request : Request) :
    Course.started (settings.execute launch schedule request) = [settings.command request] := by
  unfold execute commandLine
  dsimp only
  rw [Course.started_lift_bind, Logged.started_emit, List.nil_append]
  refine (Course.started_bind_of_quiet fun result => ?_).trans (Command.started_run _ _ _ _)
  cases result <;> rfl

theorem started_runTask (settings : Settings) (project input output : Option String) :
    Course.started
        ((⟨project, settings.execute launch schedule⟩ : Service Course).runTask input output) =
      (Request.ofParts input output).toOption.toList.map settings.command := by
  unfold Service.runTask
  cases Request.ofParts input output with
  | error failure => rfl
  | ok request =>
      dsimp only
      rw [Course.started_bind_of_quiet fun result => Course.started_pure _, started_execute]
      rfl

end Settings

/-- What a run has started: the command of its request, if it gets as far as to make one. -/
theorem RunArguments.started_perform (host : Host) (config : Option Path)
    (arguments : RunArguments) :
    (arguments.course launch schedule host config).started =
      match Settings.loadHere host config arguments.overrides with
      | .error _ => []
      | .ok (settings, directory) =>
          (arguments.request directory).toOption.toList.map settings.command := by
  have hload := Settings.started_run_load host config arguments.overrides
  have hvalue := Settings.value_run_load host config arguments.overrides
  unfold course perform Settings.loadHere
  simp only [liftM, monadLift, MonadLift.monadLift]
  rw [Course.started_lift_bind, Course.started_lift_bind, Course.started_lift_bind, hload, hvalue]
  cases (Settings.load host config arguments.overrides).result with
  | error trouble => rfl
  | ok settings =>
      cases host.currentDirectory with
      | error trouble => rfl
      | ok directory =>
          simp only [Except.bind, Except.map, mapError_ok, Logged.started_emit,
            List.nil_append]
          -- Setting the service up is one log event; what follows hangs on its project.
          rw [Course.started_bind, Service.result_setUp]
          refine (Course.started_bind_of_quiet fun outcome => ?_).trans
            (Settings.started_runTask launch schedule settings _ _ _)
          exact (Course.started_lift _).trans (started_reportTask outcome)

end FolderScript
