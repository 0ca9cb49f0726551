/-
What loading the settings comes to, without the log events on the way: each step
is an equation between results, and the files are a stack of layers of which the
first is the one that wins.  A step looks at little of its host, and is the same on
two hosts that agree on that.
-/
import FolderScript.Proofs.Outcome
import FolderScript.Settings.Load

namespace FolderScript

namespace Layer

/-- Layers put on top of each other, the first one topmost. -/
def stacked : List Layer → Layer := List.foldr onTopOf empty

@[simp] theorem stacked_nil : stacked [] = empty := rfl

@[simp] theorem stacked_cons (layer : Layer) (layers : List Layer) :
    stacked (layer :: layers) = layer.onTopOf (stacked layers) := rfl

/-- A field of the stack is that of the first layer that sets it. -/
theorem stacked_field {α : Type} {field : Layer → Option α} (hempty : field empty = none)
    (honTopOf : ∀ upper lower : Layer,
      field (upper.onTopOf lower) = (field upper).or (field lower))
    (layers : List Layer) : field (stacked layers) = layers.findSome? field := by
  induction layers with
  | nil => exact hempty
  | cons layer rest ih =>
      rw [stacked_cons, honTopOf, ih, List.findSome?_cons]
      cases field layer <;> rfl

/-- The layers of the files, the one that wins first: the explicit file alone, or
the project file and then the user file. -/
def filesInOrder (host : Host) : Option Path → Except Trouble (List Layer)
  | some path => (ofFile host path).result.map fun file => [file]
  | none => do
      let user ← (ofUser host).result
      let project ← (ofProject host).result
      pure [project, user]

theorem result_ofFiles (host : Host) (explicit : Option Path) :
    (ofFiles host explicit).result = (filesInOrder host explicit).map stacked := by
  cases explicit with
  | some path =>
      rw [ofFiles, Attempt.result_emit_bind, filesInOrder]
      cases (ofFile host path).result with
      | error trouble => rfl
      | ok file => simp [Except.map]
  | none =>
      simp only [ofFiles, filesInOrder, Attempt.result_bind, Attempt.result_pure]
      cases (ofUser host).result with
      | error trouble => rfl
      | ok user =>
          cases (ofProject host).result with
          | error trouble => rfl
          | ok project => simp [Except.map, Except.bind, pure, Except.pure, bind, merged]

end Layer

namespace Settings

theorem result_expand (home : Option Path) (settings : Settings) :
    (settings.expand home).result =
      ((expandDirectory home settings.workingDirectory).mapError Trouble.ofFailure).map
        fun directory =>
          { settings with
            scriptPath := expandTilde (homeText? home) settings.scriptPath
            workingDirectory := directory } := by
  simp only [expand, Attempt.result_bind, Attempt.result_ofExcept]
  cases expandDirectory home settings.workingDirectory <;> rfl

theorem result_validate (host : Host) (settings : Settings) :
    (settings.validate host).result =
      match settings.violation? host with
      | some failure => .error (Trouble.ofFailure failure)
      | none => .ok () := by
  simp only [validate, Attempt.result_bind]
  cases settings.lacksDirectory host <;> cases settings.violation? host <;> rfl

theorem result_load (host : Host) (explicit : Option Path) (overrides : Layer) :
    (load host explicit overrides).result = (do
      let files ← (Layer.ofFiles host explicit).result
      let settings ← (((overrides.onTopOf files).resolve).expand host.home?).result.mapError
        (Trouble.within "Failed to expand paths in configuration")
      (settings.validate host).result.mapError
        (Trouble.within "Configuration validation failed")
      pure settings) := by
  simp only [load, Attempt.result_bind, Attempt.result_within]
  rfl

/-- Loaded settings are those of the stack of all layers, without their tildes
and fit to be used. -/
theorem load_eq_ok {host : Host} {explicit : Option Path} {overrides : Layer}
    {settings : Settings} (h : (load host explicit overrides).result = .ok settings) :
    ∃ files, Layer.filesInOrder host explicit = .ok files ∧
      ((Layer.stacked (overrides :: files)).resolve.expand host.home?).result = .ok settings ∧
      settings.violation? host = none := by
  rw [result_load] at h
  obtain ⟨below, hfiles, h⟩ := bind_eq_ok_iff.mp h
  obtain ⟨expanded, hexpand, h⟩ := bind_eq_ok_iff.mp h
  obtain ⟨_, hvalidate, h⟩ := bind_eq_ok_iff.mp h
  obtain rfl := Except.ok.inj h
  rw [mapError_eq_ok_iff] at hexpand hvalidate
  rw [Layer.result_ofFiles] at hfiles
  obtain ⟨files, hinOrder, rfl⟩ := map_eq_ok_iff.mp hfiles
  refine ⟨files, hinOrder, hexpand, ?_⟩
  rw [result_validate] at hvalidate
  cases hviolation : expanded.violation? host with
  | none => rfl
  | some failure => simp [hviolation] at hvalidate

end Settings

/-- A file that reads alike on two hosts gives the same layer, or the same trouble. -/
theorem Layer.ofFile_congr {first second : Host} {path : Path}
    (h : first.files.readText first.directory path =
      second.files.readText second.directory path) :
    ofFile first path = ofFile second path := by
  rw [ofFile, ofFile, h]

namespace Settings

variable {first second : Host} {settings : Settings}

/-- The rules ask a host for the working directory only. -/
theorem violation?_congr
    (hexists : first.files.pathExists first.directory settings.workingDirectory =
      second.files.pathExists second.directory settings.workingDirectory)
    (hdirectory : first.files.isDirectory first.directory settings.workingDirectory =
      second.files.isDirectory second.directory settings.workingDirectory) :
    settings.violation? first = settings.violation? second := by
  rw [violation?, violation?, hexists, hdirectory]

theorem validate_congr
    (hexists : first.files.pathExists first.directory settings.workingDirectory =
      second.files.pathExists second.directory settings.workingDirectory)
    (hdirectory : first.files.isDirectory first.directory settings.workingDirectory =
      second.files.isDirectory second.directory settings.workingDirectory) :
    settings.validate first = settings.validate second := by
  have hlacks : settings.lacksDirectory first = settings.lacksDirectory second := by
    rw [lacksDirectory, lacksDirectory, hexists]
  rw [validate, validate, hlacks, violation?_congr hexists hdirectory]

end Settings

namespace Attempt

/-- Computations that go on alike from what a first one comes to are alike. -/
theorem bind_congr {α β : Type} {first : Attempt α} {next other : α → Attempt β}
    (h : ∀ value, first.result = .ok value → next value = other value) :
    first >>= next = first >>= other := by
  apply ExceptT.ext
  rw [ExceptT.run_bind, ExceptT.run_bind]
  change Logged.bind first.run _ = Logged.bind first.run _
  unfold Logged.bind
  cases hvalue : first.run.value with
  | error trouble => rfl
  | ok value =>
      dsimp only
      rw [h value hvalue]

end Attempt

end FolderScript
