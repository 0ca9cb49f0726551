/-
The requests that a run makes.  They are what a runner would be handed that
keeps every request, whatever it answers; a run makes one, of the folders that
are chosen, or none.
-/
import FolderScript.Program.Perform
import FolderScript.Proofs.Settings.Load
import FolderScript.Service.Scripted

namespace FolderScript

theorem requireFolder_eq_ok_iff {role folder : String} {given : Option String} :
    requireFolder role given = .ok folder ↔ given = some folder ∧ folder ≠ "" := by
  unfold requireFolder
  cases given with
  | none => simp
  | some text => grind

/-- A request is made of two folders that are there and not empty. -/
theorem Request.ofParts_eq_ok_iff {input output : Option String} {request : Request} :
    Request.ofParts input output = .ok request ↔
      (input = some request.input ∧ request.input ≠ "") ∧
        output = some request.output ∧ request.output ≠ "" := by
  rw [Request.ofParts, bind_eq_ok_iff]
  constructor
  · rintro ⟨first, hfirst, hrest⟩
    obtain ⟨second, hsecond, hrequest⟩ := bind_eq_ok_iff.mp hrest
    obtain rfl := Except.ok.inj hrequest
    exact ⟨requireFolder_eq_ok_iff.mp hfirst, requireFolder_eq_ok_iff.mp hsecond⟩
  · rintro ⟨hinput, houtput⟩
    refine ⟨request.input, requireFolder_eq_ok_iff.mpr hinput, ?_⟩
    exact bind_eq_ok_iff.mpr ⟨request.output, requireFolder_eq_ok_iff.mpr houtput, rfl⟩

namespace Script

/-- What is logged does not touch the script. -/
theorem value_run_liftM_bind {α β : Type} (logged : Logged α) (next : α → StateT Script Logged β)
    (script : Script) :
    ((liftM logged >>= next : StateT Script Logged β).run script).value =
      ((next logged.value).run script).value := rfl

/-- A task is one request of the runner, or none. -/
theorem requests_runTask (project input output : Option String) (script : Script) :
    (((⟨project, runner⟩ : Service _).runTask input output).run script).value.2.requests =
      script.requests ++ (Request.ofParts input output).toOption.toList := by
  unfold Service.runTask
  cases Request.ofParts input output with
  | error failure => exact (List.append_nil script.requests).symm
  | ok request => rfl

end Script

namespace Settings

/-- The settings and the current directory, or the trouble that a command has with them. -/
def loadHere (host : Host) (config : Option Path) (overrides : Layer) :
    Except Trouble (Settings × Path) :=
  ((load host config overrides).result.mapError
    (Trouble.within "Failed to load scriptrun configuration")).bind fun settings =>
      host.currentDirectory.map fun directory => (settings, directory)

theorem loadHere_eq_ok_iff {host : Host} {config : Option Path} {overrides : Layer}
    {settings : Settings} {directory : Path} :
    loadHere host config overrides = .ok (settings, directory) ↔
      (load host config overrides).result = .ok settings ∧ host.currentPath = .ok directory := by
  unfold loadHere Host.currentDirectory
  cases (load host config overrides).result with
  | error trouble => simp [mapError_error, Except.bind]
  | ok found =>
      cases host.currentPath <;>
        simp [mapError_ok, mapError_error, Except.bind, Except.map]

/-- A command has trouble with its settings, or with a directory that is not known. -/
theorem loadHere_eq_error_iff {host : Host} {config : Option Path} {overrides : Layer}
    {trouble : Trouble} :
    loadHere host config overrides = .error trouble ↔
      (∃ cause, (load host config overrides).result = .error cause ∧
        trouble = cause.within "Failed to load scriptrun configuration") ∨
      ∃ settings error, (load host config overrides).result = .ok settings ∧
        host.currentPath = .error error ∧
        trouble = ⟨["Failed to get current directory"], .io error⟩ := by
  unfold loadHere Host.currentDirectory
  cases (load host config overrides).result with
  | error cause => simp [mapError_error, Except.bind, eq_comm]
  | ok settings =>
      cases host.currentPath <;>
        simp [mapError_ok, mapError_error, Except.bind, Except.map, eq_comm]

/-- The result of loading the settings, within the context that both commands add. -/
theorem value_run_load (host : Host) (config : Option Path) (overrides : Layer) :
    (Attempt.within "Failed to load scriptrun configuration"
      (load host config overrides)).run.value =
      (load host config overrides).result.mapError
        (Trouble.within "Failed to load scriptrun configuration") := rfl

end Settings

namespace RunArguments

def requests (arguments : RunArguments) (host : Host) (config : Option Path)
    (answers : List (Except Failure Captured)) : List Request :=
  let run : StateT Script Logged (Except Trouble String) :=
    arguments.perform (fun _ => Script.runner) host config
  (run.run { answers := answers }).value.2.requests

def chosen (arguments : RunArguments) (directory : Path) (given : Option String) :
    Option String :=
  chosenFolder given directory (projectFolder arguments.project directory)

def request (arguments : RunArguments) (directory : Path) : Except Failure Request :=
  Request.ofParts (arguments.chosen directory arguments.input)
    (arguments.chosen directory arguments.output)

theorem requests_eq (arguments : RunArguments) (host : Host) (config : Option Path)
    (answers : List (Except Failure Captured)) :
    arguments.requests host config answers =
      match Settings.loadHere host config arguments.overrides with
      | .error _ => []
      | .ok (_, directory) => (arguments.request directory).toOption.toList := by
  simp only [requests, perform, Script.value_run_liftM_bind, Settings.value_run_load,
    Settings.loadHere]
  cases (Settings.load host config arguments.overrides).result with
  | error trouble => rfl
  | ok settings =>
      cases host.currentDirectory with
      | error trouble => rfl
      | ok directory => exact Script.requests_runTask _ _ _ { answers := answers }

theorem mem_requests_iff {arguments : RunArguments} {host : Host} {config : Option Path}
    {answers : List (Except Failure Captured)} {request : Request} :
    request ∈ arguments.requests host config answers ↔
      ∃ settings directory, (Settings.load host config arguments.overrides).result = .ok settings ∧
        host.currentPath = .ok directory ∧ arguments.request directory = .ok request := by
  simp only [requests_eq, ← and_assoc, ← Settings.loadHere_eq_ok_iff]
  cases Settings.loadHere host config arguments.overrides with
  | error trouble => simp
  | ok found =>
      obtain ⟨settings, directory⟩ := found
      simp only [Except.ok.injEq, Prod.mk.injEq, Option.mem_toList,
        toOption_eq_some_iff]
      constructor
      · exact fun h => ⟨settings, directory, ⟨rfl, rfl⟩, h⟩
      · rintro ⟨_, _, ⟨rfl, rfl⟩, h⟩
        exact h

end RunArguments

end FolderScript
