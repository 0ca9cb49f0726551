/-
The rules that loaded settings have met.  They are checked last, on what the sources, the
built-in values and the home directory have come to; so the settings that are handed on meet
all of them, wherever their values are from.
-/
import FolderScript.Proofs.Settings.Expansion
import FolderScript.Proofs.Settings.Precedence

namespace FolderScript

/-- Of a list, the first that has a property. -/
def IsFirstOf {α : Type} (p : α → Prop) (list : List α) (x : α) : Prop :=
  p x ∧ ∃ before after, list = before ++ x :: after ∧ ∀ earlier ∈ before, ¬ p earlier

theorem find?_eq_some_iff_isFirstOf {α : Type} {p : α → Prop} [DecidablePred p] {list : List α}
    {x : α} : list.find? (fun y => decide (p y)) = some x ↔ IsFirstOf p list x := by
  simp [List.find?_eq_some_iff_append, IsFirstOf]

namespace Settings

/-- The rules, one for each field. -/
inductive Rule where
  | interpreter
  | scriptPath
  | workingDirectory
  | timeout
  deriving DecidableEq, Repr

namespace Rule

def inOrder : List Rule := [.interpreter, .scriptPath, .workingDirectory, .timeout]

theorem mem_inOrder (rule : Rule) : rule ∈ inOrder := by
  cases rule <;> decide

def failure (settings : Settings) : Rule → Failure
  | .interpreter => blankInterpreter
  | .scriptPath => blankScript
  | .workingDirectory => notADirectory settings.workingDirectory
  | .timeout => zeroTimeout

end Rule

/-- What it is to break a rule. -/
def Breaks (host : Host) (settings : Settings) : Rule → Prop
  | .interpreter => ∀ char ∈ settings.interpreter.toList, isBlank char
  | .scriptPath => ∀ char ∈ settings.scriptPath.toList, isBlank char
  | .workingDirectory =>
      host.files.pathExists host.directory settings.workingDirectory ∧
        ¬ host.files.isDirectory host.directory settings.workingDirectory
  | .timeout => settings.timeout = some 0

instance (host : Host) (settings : Settings) : DecidablePred (settings.Breaks host)
  | .interpreter => List.decidableBAll (fun char => isBlank char = true) settings.interpreter.toList
  | .scriptPath => List.decidableBAll (fun char => isBlank char = true) settings.scriptPath.toList
  | .workingDirectory => inferInstanceAs (Decidable (_ ∧ ¬ _))
  | .timeout => inferInstanceAs (Decidable (settings.timeout = some 0))

variable {host : Host} {settings : Settings}

/-- The rules are gone through in their order. -/
theorem violation?_eq_find? :
    settings.violation? host =
      (Rule.inOrder.find? fun rule => decide (settings.Breaks host rule)).map
        (Rule.failure settings) := by
  have hinterpreter :
      decide (settings.Breaks host .interpreter) = allBlank settings.interpreter := by
    rw [Bool.eq_iff_iff, decide_eq_true_iff]
    exact List.all_eq_true.symm
  have hscript : decide (settings.Breaks host .scriptPath) = allBlank settings.scriptPath := by
    rw [Bool.eq_iff_iff, decide_eq_true_iff]
    exact List.all_eq_true.symm
  have hdirectory : decide (settings.Breaks host .workingDirectory) =
      (host.files.pathExists host.directory settings.workingDirectory &&
        !host.files.isDirectory host.directory settings.workingDirectory) := by
    rw [Bool.eq_iff_iff, decide_eq_true_iff]
    simp [Breaks]
  have htimeout : decide (settings.Breaks host .timeout) = decide (settings.timeout = some 0) := rfl
  simp only [violation?, Rule.inOrder, List.find?_cons, List.find?_nil, hinterpreter, hscript,
    hdirectory, htimeout]
  cases allBlank settings.interpreter with
  | true => rfl
  | false =>
      cases allBlank settings.scriptPath with
      | true => rfl
      | false =>
          cases host.files.pathExists host.directory settings.workingDirectory &&
              !host.files.isDirectory host.directory settings.workingDirectory with
          | true => rfl
          | false => by_cases hzero : settings.timeout = some 0 <;> simp [hzero, Rule.failure]

/-- What is reported is the first rule that is broken. -/
theorem violation?_eq_some_iff {failure : Failure} :
    settings.violation? host = some failure ↔
      ∃ rule, IsFirstOf (settings.Breaks host) Rule.inOrder rule ∧
        rule.failure settings = failure := by
  simp only [violation?_eq_find?, Option.map_eq_some_iff, find?_eq_some_iff_isFirstOf]

/-- Where nothing is reported, all rules are met. -/
theorem violation?_eq_none_iff :
    settings.violation? host = none ↔ ∀ rule, ¬ settings.Breaks host rule := by
  rw [violation?_eq_find?, Option.map_eq_none_iff, List.find?_eq_none]
  simp [Rule.mem_inOrder]

theorem exists_not_isBlank {text : String} (h : ¬ ∀ char ∈ text.toList, isBlank char) :
    ∃ char ∈ text.toList, isBlank char = false := by
  simpa using h

end Settings

/-- The home directory takes the place of a tilde for good, unless it begins with one. -/
theorem not_isTildedText_expandTilde {home : String} (h : home.toList.head? ≠ some '~')
    (text : String) : ¬ IsTildedText (expandTilde (some home) text) := by
  by_cases htilded : IsTildedText text
  · rw [IsTildedText, toList_expandTilde htilded]
    cases hhome : home.toList with
    | nil =>
        -- What stands after the tilde is empty or begins with a separator.
        rcases htilded with htext | ⟨rest, htext⟩
        · simp [htext]
        · simp [← htext]
    | cons first rest =>
        have hne : first ≠ '~' := by simpa [hhome] using h
        simp [hne, hne.symm]
  · rwa [expandTilde_of_not_isTildedText htilded]

namespace Settings

variable {host : Host} {settings : Settings}

theorem not_isTilded_expandDirectory {home : Option Path} {text : String}
    (hhome : homeText? home = some text) (htext : text.toList.head? ≠ some '~')
    {directory expanded : Path} (h : expandDirectory home directory = .ok expanded) :
    ¬ expanded.IsTilded := by
  obtain ⟨path, rfl, hpath⟩ := Option.bind_eq_some_iff.mp hhome
  rw [← isTildedText_display_iff]
  unfold expandDirectory at h
  split at h
  · obtain rfl := Except.ok.inj h
    rw [← Path.ofText_of_text? hpath, Path.display_ofText]
    rintro (hlone | ⟨rest, hinside⟩)
    · simp [hlone] at htext
    · simp [← hinside] at htext
  · obtain rfl := Except.ok.inj h
    rw [Path.display_ofText, hhome]
    exact not_isTildedText_expandTilde htext _

/-- Settings that a script can be run with. -/
structure IsRunnable (host : Host) (settings : Settings) : Prop where
  interpreter : ∃ char ∈ settings.interpreter.toList, isBlank char = false
  scriptPath : ∃ char ∈ settings.scriptPath.toList, isBlank char = false
  timeout : ∀ seconds, settings.timeout = some seconds → 1 ≤ seconds
  workingDirectory :
    host.files.isDirectory host.directory settings.workingDirectory = true ∨
      host.files.pathExists host.directory settings.workingDirectory = false
  /-- No tilde is left to replace, unless the home directory brings one in or is no text. -/
  spelledOut : ∀ home, homeText? host.home? = some home → home.toList.head? ≠ some '~' →
    ¬ IsTildedText settings.scriptPath ∧ ¬ settings.workingDirectory.IsTilded

/-- All settings that are loaded can be used. -/
theorem isRunnable_of_load {explicit : Option Path} {overrides : Layer}
    (h : (load host explicit overrides).result = .ok settings) : settings.IsRunnable host := by
  obtain ⟨files, -, hexpand, hviolation⟩ := load_eq_ok h
  have hkeeps := violation?_eq_none_iff.mp hviolation
  refine ⟨exists_not_isBlank (hkeeps .interpreter), exists_not_isBlank (hkeeps .scriptPath),
    ?_, ?_, ?_⟩
  · intro seconds hseconds
    have hne : seconds ≠ 0 := by
      rintro rfl
      exact hkeeps .timeout hseconds
    exact UInt64.le_iff_toNat_le.mpr (Nat.one_le_iff_ne_zero.mpr fun hzero =>
      hne (UInt64.toNat_inj.mp hzero))
  · by_cases hdirectory : host.files.isDirectory host.directory settings.workingDirectory = true
    · exact .inl hdirectory
    · exact .inr (Bool.eq_false_iff.mpr fun hexists =>
        hkeeps .workingDirectory ⟨hexists, hdirectory⟩)
  · intro home hhome hhead
    rw [result_expand] at hexpand
    obtain ⟨directory, hdirectory, rfl⟩ := map_eq_ok_iff.mp hexpand
    rw [mapError_eq_ok_iff] at hdirectory
    refine ⟨?_, not_isTilded_expandDirectory hhome hhead hdirectory⟩
    rw [hhome]
    exact not_isTildedText_expandTilde hhead _

end Settings

namespace RulesWitness

open PrecedenceWitness (directory file)

/-- A host whose files fill in what the command line leaves open: a blank interpreter that is
not used, a script in the home directory, and a directory that is there. -/
def host : Host where
  files := ⟨[directory ["home"], directory ["home", "w"],
    file [".scriptrun.toml"]
      "[runner]\ninterpreter = ' '\nscript_path = '~/a.py'\nworking_directory = '~/w'\n"]⟩
  environment := [("HOME", Utf8.encode "/home")]
  directory := []

def overrides : Layer where
  interpreter := some "sh"
  timeout := some 1

def settings : Settings where
  interpreter := "sh"
  scriptPath := "/home/a.py"
  workingDirectory := Path.ofText "/home/w"
  timeout := some 1

theorem isRunnable_of_load_host :
    (Settings.load host none overrides).result = .ok settings ∧ settings.IsRunnable host ∧
      Settings.homeText? host.home? = some "/home" ∧ ¬ IsTildedText settings.scriptPath := by
  have hload : (Settings.load host none overrides).result = .ok settings := by decide +kernel
  have hrunnable := Settings.isRunnable_of_load hload
  have hhome : Settings.homeText? host.home? = some "/home" := by decide +kernel
  exact ⟨hload, hrunnable, hhome, (hrunnable.spelledOut "/home" hhome (by decide)).1⟩

end RulesWitness

end FolderScript
