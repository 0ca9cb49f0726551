/-
When the script is run, and with what.  In a directory with a text every given
folder can be anchored, so a run is skipped for two reasons only: an empty folder is
given, or one is missing and the project folder that would take its place has no text.
-/
import FolderScript.Proofs.Folder
import FolderScript.Proofs.Run.GivenFolders
import FolderScript.Proofs.Run.Started

namespace FolderScript

namespace RunArguments

/-- Both folders can be told: none is given empty, and the project folder has a text
where it takes the place of one that is not given. -/
structure NamesFolders (arguments : RunArguments) : Prop where
  input : arguments.input ≠ some ""
  output : arguments.output ≠ some ""
  project : arguments.project = none ∨
    (∃ path, arguments.project = some path ∧ path.text?.isSome) ∨
    (arguments.input.isSome ∧ arguments.output.isSome)

/-- A folder for the script: the given one anchored, or else that of the project. -/
structure Means (arguments : RunArguments) (directory : Path) (given : Option String)
    (folder : String) : Prop where
  source : match given with
    | some text => anchorFolder text directory = some folder
    | none => projectFolder arguments.project directory = some folder
  handedOn : IsHandedOn (given.isSome || arguments.project.isSome) folder

theorem not_namesFolders_of_lost {arguments : RunArguments} {given : Option String}
    (hgiven : given = arguments.input ∨ given = arguments.output)
    (hlost : given = some "" ∨
      given = none ∧ ∃ path, arguments.project = some path ∧ path.text? = none) :
    ¬ arguments.NamesFolders := by
  intro hnames
  rcases hlost with rfl | ⟨rfl, path, hproject, hlost⟩
  · rcases hgiven with hgiven | hgiven
    · exact hnames.input hgiven.symm
    · exact hnames.output hgiven.symm
  · rcases hnames.project with hnone | ⟨other, hother, htext⟩ | ⟨hinput, houtput⟩
    · rw [hproject] at hnone
      contradiction
    · rw [hproject, Option.some.injEq] at hother
      subst hother
      rw [hlost] at htext
      contradiction
    · rcases hgiven with hgiven | hgiven <;> simp [← hgiven] at hinput houtput

section

variable {arguments : RunArguments} {directory : Path} (habsolute : directory.isAbsolute)
  (htext : directory.text?.isSome)

include habsolute htext

theorem exists_anchored (folder : String) :
    ∃ anchored, anchorFolder folder directory = some anchored := by
  rw [← Option.ne_none_iff_exists']
  intro hnone
  obtain ⟨-, hlost⟩ := (anchorFolder_eq_none_iff habsolute folder).mp hnone
  rw [hlost] at htext
  contradiction

/-- The project folder in a directory with a text: it is lost only if a project is given
that has none. -/
theorem projectFolder_cases (hproject : arguments.project ≠ some ⟨[]⟩) :
    (∃ path, arguments.project = some path ∧ path.text? = none ∧
      projectFolder arguments.project directory = none) ∨
    ((∀ path, arguments.project = some path → path.text?.isSome) ∧
      ∃ folder, projectFolder arguments.project directory = some folder ∧
        IsHandedOn arguments.project.isSome folder) := by
  cases hgiven : arguments.project with
  | none =>
      obtain ⟨text, hdirectory⟩ := Option.isSome_iff_exists.mp htext
      refine .inr ⟨fun path hpath => by contradiction, text, hdirectory,
        text_ne_empty_of_isAbsolute habsolute hdirectory, ?_, fun hfalse => by contradiction⟩
      rw [Path.ofText_of_text? hdirectory]
      exact habsolute
  | some path =>
      cases hpath : path.text? with
      | none => exact .inl ⟨path, rfl, hpath, by simp [projectFolder, hpath]⟩
      | some text =>
          right
          have hne : text ≠ "" := by
            rintro rfl
            rw [hgiven, ← Path.ofText_of_text? hpath] at hproject
            exact hproject (by decide)
          obtain ⟨anchored, hanchored⟩ := exists_anchored habsolute htext text
          refine ⟨?_, anchored, ?_, isHandedOn_of_anchorFolder habsolute hne hanchored⟩
          · intro other hother
            obtain rfl := Option.some.inj hother
            simp [hpath]
          · simpa [projectFolder, hpath] using hanchored

/-- Whether a folder can be chosen, and what it is then. -/
theorem chosen_cases (hproject : arguments.project ≠ some ⟨[]⟩) (given : Option String) :
    (¬ IsUsable (arguments.chosen directory given) ∧ (given = some "" ∨
      given = none ∧ ∃ path, arguments.project = some path ∧ path.text? = none)) ∨
    (given ≠ some "" ∧ (given.isSome ∨ ∀ path, arguments.project = some path →
        path.text?.isSome) ∧
      ∃ folder, arguments.chosen directory given = some folder ∧
        arguments.Means directory given folder) := by
  cases given with
  | some text =>
      obtain ⟨anchored, hanchored⟩ := exists_anchored habsolute htext text
      have hchosen : arguments.chosen directory (some text) = some anchored :=
        chosen_of_anchored hanchored
      by_cases hempty : text = ""
      · refine .inl ⟨?_, .inl (by rw [hempty])⟩
        rw [(anchorFolder_eq_some_empty_iff habsolute text).mpr hempty,
          Option.some.injEq] at hanchored
        rw [hchosen, ← hanchored, isUsable_some_iff]
        exact fun hne => hne rfl
      · exact .inr ⟨by simpa using hempty, .inl rfl, anchored, hchosen, hanchored,
          isHandedOn_of_anchorFolder habsolute hempty hanchored⟩
  | none =>
      have hchosen : arguments.chosen directory none =
          projectFolder arguments.project directory := rfl
      rw [hchosen]
      rcases projectFolder_cases habsolute htext hproject with
        ⟨path, hpath, hlost, hnone⟩ | ⟨htexts, folder, hfolder, hhandedOn⟩
      · rw [hnone]
        exact .inl ⟨not_isUsable_none, .inr ⟨rfl, path, hpath, hlost⟩⟩
      · exact .inr ⟨by simp, .inr htexts, folder, hfolder, hfolder, by simpa using hhandedOn⟩

/-- In a directory with a text there is a request just if both folders can be told. -/
theorem request_cases (hproject : arguments.project ≠ some ⟨[]⟩) :
    (arguments.NamesFolders ∧ ∃ request, arguments.request directory = .ok request ∧
      arguments.Means directory arguments.input request.input ∧
      arguments.Means directory arguments.output request.output) ∨
    (¬ arguments.NamesFolders ∧ ∃ failure, arguments.request directory = .error failure) := by
  have hskipped {given : Option String}
      (hgiven : given = arguments.input ∨ given = arguments.output)
      (hunusable : ¬ IsUsable (arguments.chosen directory given)) :
      ∃ failure, arguments.request directory = .error failure := by
    cases hparts : arguments.request directory with
    | error failure => exact ⟨failure, rfl⟩
    | ok request =>
        obtain ⟨hinput, houtput⟩ := request_eq_ok_iff.mp hparts
        rcases hgiven with rfl | rfl
        · exact absurd ⟨_, hinput⟩ hunusable
        · exact absurd ⟨_, houtput⟩ hunusable
  rcases chosen_cases habsolute htext hproject arguments.input with
    ⟨hunusable, hlost⟩ | ⟨hinput, hinputText, input, hinputChosen, hinputMeans⟩
  · exact .inr ⟨not_namesFolders_of_lost (.inl rfl) hlost, hskipped (.inl rfl) hunusable⟩
  rcases chosen_cases habsolute htext hproject arguments.output with
    ⟨hunusable, hlost⟩ | ⟨houtput, houtputText, output, houtputChosen, houtputMeans⟩
  · exact .inr ⟨not_namesFolders_of_lost (.inr rfl) hlost, hskipped (.inr rfl) hunusable⟩
  refine .inl ⟨⟨hinput, houtput, ?_⟩, ⟨input, output⟩, ?_, hinputMeans, houtputMeans⟩
  · cases hgiven : arguments.project with
    | none => exact .inl rfl
    | some path =>
        rcases hinputText with hinputText | hall
        · rcases houtputText with houtputText | hall
          · exact .inr (.inr ⟨hinputText, houtputText⟩)
          · exact .inr (.inl ⟨path, rfl, hall path hgiven⟩)
        · exact .inr (.inl ⟨path, rfl, hall path hgiven⟩)
  · exact request_eq_ok_iff.mpr
      ⟨⟨hinputChosen, hinputMeans.handedOn.nonempty⟩,
        houtputChosen, houtputMeans.handedOn.nonempty⟩

end

/-- With settings and in a directory with a text, a run makes one request, of the
folders that its arguments mean, or it is skipped without a word.  For the request one
command is started, and no other: the interpreter with the script and the two folders, in
the directory of the settings; what the run of that command comes to is reported. -/
theorem runs_once_or_skips {arguments : RunArguments} {host : Host} {config : Option Path}
    {settings : Settings} {directory : Path}
    (hload : (Settings.load host config arguments.overrides).result = .ok settings)
    (hdirectory : host.currentPath = .ok directory) (htext : directory.text?.isSome)
    (hproject : arguments.project ≠ some ⟨[]⟩) :
    (arguments.NamesFolders → ∃ (request : Request) (command : Command),
      (∀ answers, arguments.requests host config answers = [request]) ∧
      arguments.Means directory arguments.input request.input ∧
      arguments.Means directory arguments.output request.output ∧
      command.program :: command.arguments =
        [settings.interpreter, settings.scriptPath, request.input, request.output] ∧
      command.directory = settings.workingDirectory ∧
      ∀ launch schedule, (arguments.course launch schedule host config).started = [command] ∧
        ∃ ended, command.Ran launch settings.limit ended ∧
          (arguments.course launch schedule host config).result = ended.map reported) ∧
    (¬ arguments.NamesFolders →
      (∀ answers, arguments.requests host config answers = []) ∧
      ∀ launch schedule, (arguments.course launch schedule host config).started = [] ∧
        (arguments.course launch schedule host config).result = some (.ok "")) := by
  have hhere := Settings.loadHere_eq_ok_iff.mpr ⟨hload, hdirectory⟩
  rcases request_cases (Host.isAbsolute_of_currentPath hdirectory) htext hproject with
    ⟨hnames, request, hrequest, hinput, houtput⟩ | ⟨hnames, failure, hrequest⟩
  · refine ⟨fun _ => ⟨request, settings.command request, fun answers => ?_, hinput, houtput,
      rfl, rfl, fun launch schedule => ⟨?_, _, Command.ran_supervise launch schedule _ _, ?_⟩⟩,
      fun hnot => absurd hnames hnot⟩
    · simp only [requests_eq, hhere, hrequest]
      rfl
    · simp only [started_perform, hhere, hrequest]
      rfl
    · simp only [result_perform, hhere, hrequest]
  · refine ⟨fun hnot => absurd hnot hnames, fun _ => ⟨fun answers => ?_,
      fun launch schedule => ⟨?_, ?_⟩⟩⟩
    · simp only [requests_eq, hhere, hrequest]
      rfl
    · simp only [started_perform, hhere, hrequest]
      rfl
    · simp only [result_perform, hhere, hrequest]

end RunArguments

namespace WhenRunWitness

def directory : Position := [Utf8.encode "work"]

def host : Host where
  files := ⟨[(directory, { entry := .directory, mode := 0o755 })]⟩
  environment := [("HOME", Utf8.encode "/home")]
  directory := directory

/-- A project whose name is no text, and two folders that do without it. -/
def arguments : RunArguments where
  project := some ⟨[0xFF]⟩
  input := some "./in//a/"
  output := some "/../out"
  overrides := { interpreter := some "sh", workingDirectory := some (Path.ofText "/w") }

/-- The same without a folder to read from. -/
def lacking : RunArguments := { arguments with input := none }

/-- The same with the root to read from. -/
def rooted : RunArguments := { arguments with input := some "/" }

def settings : Settings where
  interpreter := "sh"
  scriptPath := "idea-plugin-test/pyscr/test.py"
  workingDirectory := Path.ofText "/w"
  timeout := none

theorem currentPath_host : host.currentPath = .ok (Host.pathOf directory) := by
  decide

theorem isSome_text?_directory : (Host.pathOf directory).text?.isSome := by
  decide

theorem result_load_host :
    (Settings.load host none arguments.overrides).result = .ok settings := by
  decide +kernel

/-- The folders to be given do not matter for the settings. -/
theorem result_load_lacking :
    (Settings.load host none lacking.overrides).result = .ok settings :=
  result_load_host

theorem runs_once_or_skips_without_project :
    (∃ (request : Request) (command : Command),
      (∀ answers, arguments.requests host none answers = [request]) ∧
      arguments.Means (Host.pathOf directory) (some "./in//a/") request.input ∧
      arguments.Means (Host.pathOf directory) (some "/../out") request.output ∧
      command.directory = Path.ofText "/w" ∧
      ∀ launch schedule, (arguments.course launch schedule host none).started = [command]) ∧
    ∀ launch schedule, (lacking.course launch schedule host none).started = [] ∧
      (lacking.course launch schedule host none).result = some (.ok "") := by
  have hnames : arguments.NamesFolders :=
    ⟨by decide, by decide, .inr (.inr ⟨rfl, rfl⟩)⟩
  have hlacks : ¬ lacking.NamesFolders := by
    intro hnames
    rcases hnames.project with hproject | ⟨path, hproject, hpath⟩ | hboth
    · contradiction
    · obtain rfl := Option.some.inj hproject
      exact absurd hpath (by decide)
    · exact absurd hboth.1 (by decide)
  obtain ⟨request, command, hrequests, hinput, houtput, -, hin, hruns⟩ :=
    (RunArguments.runs_once_or_skips result_load_host currentPath_host
      isSome_text?_directory (by decide)).1 hnames
  obtain ⟨-, hskips⟩ :=
    (RunArguments.runs_once_or_skips result_load_lacking currentPath_host
      isSome_text?_directory (by decide)).2 hlacks
  exact ⟨⟨request, command, hrequests, hinput, houtput, hin,
    fun launch schedule => (hruns launch schedule).1⟩, hskips⟩

/-- The root that is given is handed on as it is, and so it ends with a separator. -/
theorem root_handed_on :
    ¬ ∀ (arguments : RunArguments) (host : Host) (config : Option Path) (settings : Settings)
        (directory : Path), (Settings.load host config arguments.overrides).result = .ok settings →
      host.currentPath = .ok directory → directory.text?.isSome →
      arguments.project ≠ some ⟨[]⟩ → arguments.NamesFolders → arguments.input.isSome →
      ∀ answers, ∀ request ∈ arguments.requests host config answers,
        (Path.ofText request.input).IsNormal := by
  intro hnormal
  have hrequests : rooted.requests host none [] = [⟨"/", "/../out"⟩] := by
    decide +kernel
  have hroot := hnormal rooted host none settings _ result_load_host currentPath_host
    isSome_text?_directory (by decide) ⟨by decide, by decide, .inr (.inr ⟨rfl, rfl⟩)⟩ rfl []
    _ (hrequests ▸ List.mem_singleton_self _)
  exact (hroot.segments [] (by decide)).1 rfl

end WhenRunWitness

end FolderScript
