/-
The tilde in texts.  Where the home directory is a text, the script path and the working
directory, as it is shown, are mapped alike by one function of texts, for which "~" alone is
no special case.  What it puts in the place of a tilde begins with none, unless the home
directory does; so nothing is left to be replaced a second time.
-/
import FolderScript.Proofs.Settings.Rules

namespace FolderScript

/-- A function of texts that puts the home directory in the place of a leading tilde, and
leaves every other text as it is, also one that begins with a tilde before a name. -/
structure ReplacesTilde (home : String) (replaced : String → String) : Prop where
  alone : replaced "~" = home
  inside : ∀ rest, replaced ("~/" ++ rest) = home ++ "/" ++ rest
  elsewhere : ∀ text, text ≠ "~" → (∀ rest, text ≠ "~/" ++ rest) → replaced text = text

theorem isTildedText_iff {text : String} :
    IsTildedText text ↔ text = "~" ∨ ∃ rest, text = "~/" ++ rest := by
  rw [IsTildedText, ← String.toList_inj]
  refine or_congr_right ⟨?_, ?_⟩
  · rintro ⟨chars, hchars⟩
    refine ⟨String.ofList chars, ?_⟩
    rw [← String.toList_inj, ← hchars]
    simp
  · rintro ⟨rest, rfl⟩
    exact ⟨rest.toList, by simp⟩

theorem replacesTilde_expandTilde (home : String) :
    ReplacesTilde home (expandTilde (some home)) where
  alone := by
    have htilded : IsTildedText "~" := isTildedText_iff.mpr (.inl rfl)
    rw [← String.toList_inj, toList_expandTilde htilded]
    exact List.append_nil home.toList
  inside rest := by
    have htilded : IsTildedText ("~/" ++ rest) := isTildedText_iff.mpr (.inr ⟨rest, rfl⟩)
    rw [← String.toList_inj, toList_expandTilde htilded]
    simp [String.toList_append]
  elsewhere text halone hinside := by
    apply expandTilde_of_not_isTildedText
    rw [isTildedText_iff]
    rintro (htext | ⟨rest, htext⟩)
    · exact halone htext
    · exact hinside rest htext

/-- Nothing is left to be replaced, unless the home directory brings a tilde in. -/
theorem expandTilde_expandTilde {home : String} (h : home.toList.head? ≠ some '~')
    (text : String) :
    expandTilde (some home) (expandTilde (some home) text) = expandTilde (some home) text :=
  expandTilde_of_not_isTildedText (not_isTildedText_expandTilde h text) _

namespace Settings

variable {home : Path} {text : String}

/-- The settings with the script path and the text of the working directory replaced. -/
def mapTexts (settings : Settings) (replaced : String → String) : Settings :=
  { settings with
    scriptPath := replaced settings.scriptPath
    workingDirectory := Path.ofText (replaced settings.workingDirectory.display) }

theorem mapTexts_mapTexts (settings : Settings) (first second : String → String) :
    (settings.mapTexts first).mapTexts second =
      settings.mapTexts fun text => second (first text) := by
  simp only [mapTexts, Path.display_ofText]

/-- The special case for a lone tilde agrees with the general one. -/
theorem expandDirectory_eq_expandTilde (h : home.text? = some text) (directory : Path) :
    expandDirectory (some home) directory =
      .ok (Path.ofText (expandTilde (some text) directory.display)) := by
  unfold expandDirectory
  by_cases halone : directory.display = "~"
  · rw [if_pos halone, halone, (replacesTilde_expandTilde text).alone, Path.ofText_of_text? h]
  · rw [if_neg halone, homeText?, Option.bind_some, h]

theorem result_expand_eq_mapTexts (h : home.text? = some text) (settings : Settings) :
    (settings.expand (some home)).result =
      .ok (settings.mapTexts (expandTilde (some text))) := by
  rw [result_expand, expandDirectory_eq_expandTilde h, homeText?, Option.bind_some, h]
  rfl

/-- If the home directory is a text, one function of texts says what becomes of the script path
and of the working directory, and nothing else is changed.  If moreover the home directory does
not begin with a tilde, settings that have been expanded stay as they are. -/
theorem expand_replacesTilde (h : home.text? = some text) :
    ∃ replaced, ReplacesTilde text replaced ∧
      (∀ settings : Settings,
        (settings.expand (some home)).result = .ok (settings.mapTexts replaced)) ∧
      (text.toList.head? ≠ some '~' → ∀ settings : Settings,
        (settings.expand (some home) >>= fun expanded => expanded.expand (some home)).result =
          (settings.expand (some home)).result) := by
  refine ⟨_, replacesTilde_expandTilde text, result_expand_eq_mapTexts h,
    fun hhead settings => ?_⟩
  have htwice : (settings.mapTexts (expandTilde (some text))).mapTexts
      (expandTilde (some text)) = settings.mapTexts (expandTilde (some text)) := by
    rw [mapTexts_mapTexts]
    simp only [expandTilde_expandTilde hhead]
  calc (settings.expand (some home) >>= fun expanded => expanded.expand (some home)).result
      = ((settings.mapTexts (expandTilde (some text))).expand (some home)).result := by
        rw [Attempt.result_bind, result_expand_eq_mapTexts h]
        rfl
    _ = (settings.expand (some home)).result := by
        rw [result_expand_eq_mapTexts h, result_expand_eq_mapTexts h, htwice]

end Settings

namespace TildeWitness

def home : Path := Path.ofText "/home/ü"

/-- The script of another user, and a directory of ours whose name is no text. -/
def settings : Settings :=
  { Settings.builtIn with
    scriptPath := "~user/a.py"
    workingDirectory := ⟨[0x7E, 0x2F, 0x77, 0xFF]⟩ }

def expanded : Settings :=
  { settings with workingDirectory := Path.ofText "/home/ü/w\uFFFD" }

theorem expand_replacesTilde_in_home :
    home.text? = some "/home/ü" ∧
      (settings.expand (some home)).result = .ok expanded ∧
      (expanded.expand (some home)).result = .ok expanded := by
  have htext : home.text? = some "/home/ü" := Path.text?_ofText _
  obtain ⟨replaced, hreplaced, hexpand, htwice⟩ := Settings.expand_replacesTilde htext
  have hscript : replaced "~user/a.py" = "~user/a.py" := by
    apply hreplaced.elsewhere _ (by decide)
    intro rest hrest
    have hchars := congrArg (fun text => text.toList[1]?) hrest
    simp [String.toList_append] at hchars
  have hdirectory : replaced settings.workingDirectory.display = "/home/ü/w\uFFFD" := by
    have hshown : settings.workingDirectory.display = "~/" ++ "w\uFFFD" := by decide +kernel
    rw [hshown, hreplaced.inside]
    decide
  have honce : (settings.expand (some home)).result = .ok expanded := by
    rw [hexpand, Settings.mapTexts, hdirectory]
    exact congrArg (fun script => Except.ok { expanded with scriptPath := script }) hscript
  refine ⟨htext, honce, ?_⟩
  have hagain := htwice (by decide) settings
  rw [Attempt.result_bind, honce] at hagain
  exact hagain

end TildeWitness

end FolderScript
