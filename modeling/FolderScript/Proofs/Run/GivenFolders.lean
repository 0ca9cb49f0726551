/-
Which folders a run is made on.  A folder that cannot be anchored counts as one that is
not given, so the project folder takes its place, if there is one; it takes a directory
without a text, and a project given by an absolute path.
-/
import FolderScript.Proofs.Folder
import FolderScript.Proofs.Run.Requests
import Mathlib.Control.Monad.Basic

namespace FolderScript

theorem Host.isAbsolute_of_currentPath {host : Host} {directory : Path}
    (h : host.currentPath = .ok directory) : directory.isAbsolute := by
  unfold currentPath at h
  split at h
  · contradiction
  · split at h
    · contradiction
    · obtain rfl := Except.ok.inj h
      rfl

/-- A folder that is given, and lost because it cannot be anchored. -/
def IsLost (directory : Path) (given : Option String) : Prop :=
  ∃ folder, given = some folder ∧ anchorFolder folder directory = none

/-- A request for the folders that were given, anchored at a directory. -/
structure Request.Keeps (request : Request) (arguments : RunArguments) (directory : Path) :
    Prop where
  input : ∀ folder, arguments.input = some folder →
    anchorFolder folder directory = some request.input
  output : ∀ folder, arguments.output = some folder →
    anchorFolder folder directory = some request.output

namespace RunArguments

/-- The folder of a request: the one that is given, anchored at a directory; or that of the
project, if none is given or the one that is given is lost. -/
structure Takes (arguments : RunArguments) (directory : Path) (given : Option String)
    (folder : String) : Prop where
  kept : ∀ text anchored, given = some text → anchorFolder text directory = some anchored →
    folder = anchored
  project : given = none ∨ IsLost directory given →
    projectFolder arguments.project directory = some folder

/-- A run that replaces a folder it was given. -/
structure Replaces (arguments : RunArguments) (host : Host) (config : Option Path)
    (directory : Path) : Prop where
  loads : ∃ settings, (Settings.load host config arguments.overrides).result = .ok settings
  directory : directory.text? = none
  project : ∃ path, arguments.project = some path ∧ path.isAbsolute ∧ path.text?.isSome
  input : arguments.input ≠ some ""
  output : arguments.output ≠ some ""
  relative : ∃ folder, (arguments.input = some folder ∨ arguments.output = some folder) ∧
    IsRelativeFolder folder

variable {arguments : RunArguments} {host : Host} {config : Option Path} {directory : Path}
  {answers : List (Except Failure Captured)} {request : Request} {folder : String}

theorem chosen_of_anchored {anchored : String} (h : anchorFolder folder directory = some anchored) :
    arguments.chosen directory (some folder) = some anchored := by
  rw [chosen, chosenFolder, Option.bind_some, h, Option.some_or]

theorem chosen_of_lost (h : anchorFolder folder directory = none) :
    arguments.chosen directory (some folder) = projectFolder arguments.project directory := by
  rw [chosen, chosenFolder, Option.bind_some, h, Option.none_or]

theorem takes_of_chosen {given : Option String}
    (h : arguments.chosen directory given = some folder) :
    arguments.Takes directory given folder where
  kept text anchored hgiven hanchored := by
    rw [hgiven, chosen_of_anchored hanchored] at h
    exact (Option.some.inj h).symm
  project := by
    rintro (rfl | ⟨text, rfl, hlost⟩)
    · exact h
    · rw [chosen_of_lost hlost] at h
      exact h

/-- With a project folder, every folder can be used but one that is given empty. -/
theorem isUsable_chosen_iff (habsolute : directory.isAbsolute)
    (hproject : IsUsable (projectFolder arguments.project directory)) (given : Option String) :
    IsUsable (arguments.chosen directory given) ↔ given ≠ some "" := by
  cases given with
  | none => simpa [chosen, chosenFolder] using hproject
  | some folder =>
      rw [Ne, Option.some.injEq, ← anchorFolder_eq_some_empty_iff habsolute folder]
      cases hanchored : anchorFolder folder directory with
      | none => simpa [chosen_of_lost hanchored] using hproject
      | some anchored => simp [chosen_of_anchored hanchored, isUsable_some_iff]

theorem ofParts_eq_ok_of_isUsable {input output : Option String} (hinput : IsUsable input)
    (houtput : IsUsable output) : ∃ request, Request.ofParts input output = .ok request := by
  obtain ⟨first, rfl, hfirst⟩ := hinput
  obtain ⟨second, rfl, hsecond⟩ := houtput
  exact ⟨⟨first, second⟩, Request.ofParts_eq_ok_iff.mpr ⟨⟨rfl, hfirst⟩, rfl, hsecond⟩⟩

theorem request_eq_ok_iff :
    arguments.request directory = .ok request ↔
      (arguments.chosen directory arguments.input = some request.input ∧ request.input ≠ "") ∧
        arguments.chosen directory arguments.output = some request.output ∧
          request.output ≠ "" :=
  Request.ofParts_eq_ok_iff

theorem exists_of_mem_requests (hdirectory : host.currentPath = .ok directory)
    (h : request ∈ arguments.requests host config answers) :
    (∃ settings, (Settings.load host config arguments.overrides).result = .ok settings) ∧
      arguments.request directory = .ok request := by
  obtain ⟨settings, found, hload, hfound, hrequest⟩ := mem_requests_iff.mp h
  obtain rfl := Except.ok.inj (hdirectory.symm.trans hfound)
  exact ⟨⟨settings, hload⟩, hrequest⟩

theorem replaces_of_lost (hdirectory : host.currentPath = .ok directory)
    (hrequest : request ∈ arguments.requests host config answers)
    (hgiven : arguments.input = some folder ∨ arguments.output = some folder)
    (hlost : anchorFolder folder directory = none) :
    arguments.Replaces host config directory := by
  have habsolute := Host.isAbsolute_of_currentPath hdirectory
  obtain ⟨hloads, hparts⟩ := exists_of_mem_requests hdirectory hrequest
  obtain ⟨hinput, houtput⟩ := request_eq_ok_iff.mp hparts
  have husableInput : IsUsable (arguments.chosen directory arguments.input) :=
    ⟨request.input, hinput⟩
  have husableOutput : IsUsable (arguments.chosen directory arguments.output) :=
    ⟨request.output, houtput⟩
  obtain ⟨hrelative, htext⟩ := (anchorFolder_eq_none_iff habsolute folder).mp hlost
  have hproject : IsUsable (projectFolder arguments.project directory) := by
    rw [← chosen_of_lost hlost]
    rcases hgiven with hgiven | hgiven
    · exact hgiven ▸ husableInput
    · exact hgiven ▸ husableOutput
  exact {
    loads := hloads
    directory := htext
    project := (isUsable_projectFolder_iff habsolute htext arguments.project).mp hproject
    input := (isUsable_chosen_iff habsolute hproject arguments.input).mp husableInput
    output := (isUsable_chosen_iff habsolute hproject arguments.output).mp husableOutput
    relative := ⟨folder, hgiven, hrelative⟩ }

theorem Replaces.exists_request (hdirectory : host.currentPath = .ok directory)
    (h : arguments.Replaces host config directory) (answers : List (Except Failure Captured)) :
    ∃ request ∈ arguments.requests host config answers, ¬ request.Keeps arguments directory := by
  have habsolute := Host.isAbsolute_of_currentPath hdirectory
  have hproject :=
    (isUsable_projectFolder_iff habsolute h.directory arguments.project).mpr h.project
  obtain ⟨settings, hload⟩ := h.loads
  obtain ⟨request, hrequest⟩ := ofParts_eq_ok_of_isUsable
    ((isUsable_chosen_iff habsolute hproject arguments.input).mpr h.input)
    ((isUsable_chosen_iff habsolute hproject arguments.output).mpr h.output)
  refine ⟨request, mem_requests_iff.mpr ⟨settings, directory, hload, hdirectory, hrequest⟩, ?_⟩
  intro hkeeps
  obtain ⟨folder, hgiven, hrelative⟩ := h.relative
  have hlost := (anchorFolder_eq_none_iff habsolute folder).mpr ⟨hrelative, h.directory⟩
  rcases hgiven with hgiven | hgiven
  · exact Option.some_ne_none _ ((hkeeps.input folder hgiven).symm.trans hlost)
  · exact Option.some_ne_none _ ((hkeeps.output folder hgiven).symm.trans hlost)

/-- Given folders are kept, unless a relative one is given in a directory without a text
together with an absolute project. -/
theorem keeps_given_iff (hdirectory : host.currentPath = .ok directory) :
    (∀ request ∈ arguments.requests host config answers, request.Keeps arguments directory) ↔
      ¬ arguments.Replaces host config directory := by
  constructor
  · intro hkeeps hreplaces
    obtain ⟨request, hrequest, hnot⟩ := hreplaces.exists_request hdirectory answers
    exact hnot (hkeeps request hrequest)
  · intro hreplaces request hrequest
    obtain ⟨-, hparts⟩ := exists_of_mem_requests hdirectory hrequest
    obtain ⟨⟨hinput, -⟩, houtput, -⟩ := request_eq_ok_iff.mp hparts
    constructor
    · intro folder hgiven
      cases hanchored : anchorFolder folder directory with
      | none =>
          exact absurd (replaces_of_lost hdirectory hrequest (.inl hgiven) hanchored) hreplaces
      | some anchored => rw [← hinput, hgiven, chosen_of_anchored hanchored]
    · intro folder hgiven
      cases hanchored : anchorFolder folder directory with
      | none =>
          exact absurd (replaces_of_lost hdirectory hrequest (.inr hgiven) hanchored) hreplaces
      | some anchored => rw [← houtput, hgiven, chosen_of_anchored hanchored]

/-- A run without a project folder is skipped if a folder that it is given is lost. -/
theorem requests_of_lost (hdirectory : host.currentPath = .ok directory)
    (hlost : IsLost directory arguments.input ∨ IsLost directory arguments.output)
    (hproject : projectFolder arguments.project directory = none) :
    arguments.requests host config answers = [] := by
  rw [List.eq_nil_iff_forall_not_mem]
  intro request hrequest
  obtain ⟨-, hparts⟩ := exists_of_mem_requests hdirectory hrequest
  obtain ⟨⟨hinput, -⟩, houtput, -⟩ := request_eq_ok_iff.mp hparts
  rcases hlost with hlost | hlost
  · have hfolder := (takes_of_chosen hinput).project (.inr hlost)
    exact Option.some_ne_none _ (hfolder.symm.trans hproject)
  · have hfolder := (takes_of_chosen houtput).project (.inr hlost)
    exact Option.some_ne_none _ (hfolder.symm.trans hproject)

/-- A run is made on the folders that it is given, anchored at the current directory.  The
project folder is taken only where none is given, or the one that is given cannot be
anchored; without a project folder such a run is skipped.  So given folders are kept unless
a relative one is given in a directory without a text together with an absolute project. -/
theorem takes_given_folders (hdirectory : host.currentPath = .ok directory) :
    (∀ request ∈ arguments.requests host config answers,
      arguments.Takes directory arguments.input request.input ∧
        arguments.Takes directory arguments.output request.output) ∧
    (IsLost directory arguments.input ∨ IsLost directory arguments.output →
      projectFolder arguments.project directory = none →
        arguments.requests host config answers = []) ∧
    ((∀ request ∈ arguments.requests host config answers, request.Keeps arguments directory) ↔
      ¬ arguments.Replaces host config directory) := by
  refine ⟨fun request hrequest => ?_, requests_of_lost hdirectory, keeps_given_iff hdirectory⟩
  obtain ⟨-, hparts⟩ := exists_of_mem_requests hdirectory hrequest
  obtain ⟨⟨hinput, -⟩, houtput, -⟩ := request_eq_ok_iff.mp hparts
  exact ⟨takes_of_chosen hinput, takes_of_chosen houtput⟩

end RunArguments

namespace GivenFoldersWitness

/-- A directory whose name is no text. -/
def directory : Position := [Utf8.encode "tmp", [0x64, 0xFF]]

def host : Host where
  files := ⟨[(directory, { entry := .directory, mode := 0o755 })]⟩
  environment := [("HOME", Utf8.encode "/home")]
  directory := directory

def arguments : RunArguments where
  project := some (Path.ofText "/p")
  input := some "in"
  overrides := { interpreter := some "sh", workingDirectory := some (Path.ofText "/w") }

theorem currentPath_host : host.currentPath = .ok (Host.pathOf directory) := by
  decide

theorem requests_arguments : arguments.requests host none [] = [⟨"/p", "/p"⟩] := by
  decide +kernel

/-- The folder that is given is lost, and the project folder is taken. -/
theorem takes_given_folders_lost :
    arguments.Takes (Host.pathOf directory) (some "in") "/p" ∧
      IsLost (Host.pathOf directory) (some "in") ∧
      ({ arguments with project := none } : RunArguments).requests host none [] = [] := by
  have hlost : IsLost (Host.pathOf directory) (some "in") := ⟨"in", rfl, by decide +kernel⟩
  refine ⟨?_, hlost, ?_⟩
  · have hmem : (⟨"/p", "/p"⟩ : Request) ∈ arguments.requests host none [] := by
      rw [requests_arguments]
      exact List.mem_singleton_self _
    exact ((RunArguments.takes_given_folders currentPath_host).1 _ hmem).1
  · exact (RunArguments.takes_given_folders currentPath_host).2.1 (.inl hlost)
      (by decide +kernel)

theorem given_folder_replaced :
    ¬ ∀ (arguments : RunArguments) (host : Host) (config : Option Path) (directory : Path)
        (answers : List (Except Failure Captured)), host.currentPath = .ok directory →
      ∀ request ∈ arguments.requests host config answers,
        request.Keeps arguments directory := by
  intro hkeeps
  have hmem : (⟨"/p", "/p"⟩ : Request) ∈ arguments.requests host none [] := by
    rw [requests_arguments]
    exact List.mem_singleton_self _
  have hanchored :=
    (hkeeps arguments host none _ [] currentPath_host _ hmem).input "in" rfl
  exact absurd hanchored (by decide +kernel)

end GivenFoldersWitness

end FolderScript
