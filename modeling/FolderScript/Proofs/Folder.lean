/-
Which folders can be anchored, and in what form they are handed on.  A given folder is lost
only if it is relative and the directory of the invocation has no text.  An anchored folder is
absolute, and between its separators there are only segments that mean something; so no text of
it can be taken for an option, and no two texts of it differ in idle segments.
-/
import FolderScript.Folder
import FolderScript.Proofs.Path

namespace FolderScript

/-- A folder that needs a directory to be anchored at. -/
def IsRelativeFolder (folder : String) : Prop :=
  folder ≠ "" ∧ (Path.ofText folder).isAbsolute = false

theorem text_ne_empty_of_isAbsolute {path : Path} {text : String} (h : path.isAbsolute)
    (htext : path.text? = some text) : text ≠ "" := by
  rintro rfl
  rw [Path.text?, Path.bytes_of_isAbsolute h, Utf8.decode?_eq] at htext
  obtain ⟨chars, hchars, hempty⟩ := Option.map_eq_some_iff.mp htext
  rw [Utf8.decodeFrom?_cons] at hchars
  obtain ⟨rest, -, rfl⟩ := Option.map_eq_some_iff.mp hchars
  simp at hempty

theorem isAbsolute_joined {directory : Path} (h : directory.isAbsolute) (folder : String) :
    (directory.join (Path.ofText folder)).isAbsolute := by
  rw [Path.isAbsolute_join, h, Bool.or_true]

/-- A folder can be anchored unless it is relative and the directory has no text. -/
theorem anchorFolder_eq_none_iff {directory : Path} (h : directory.isAbsolute)
    (folder : String) :
    anchorFolder folder directory = none ↔ IsRelativeFolder folder ∧ directory.text? = none := by
  by_cases hempty : folder = ""
  · simp [anchorFolder, IsRelativeFolder, hempty]
  have hnone : anchorFolder folder directory = none ↔
      (directory.join (Path.ofText folder)).text?.isSome = false := by
    rw [anchorFolder, if_neg hempty, ← Path.isSome_text?_normalize (isAbsolute_joined h folder),
      Option.isSome_eq_false_iff, Option.isNone_iff_eq_none]
  rw [hnone]
  cases hfolder : (Path.ofText folder).isAbsolute with
  | true => simp [Path.join, hfolder, IsRelativeFolder, Path.text?_ofText]
  | false => simp [Path.isSome_text?_join hfolder, hfolder, IsRelativeFolder, hempty,
      Path.text?_ofText]

/-- Only the empty folder is anchored as the empty text. -/
theorem anchorFolder_eq_some_empty_iff {directory : Path} (h : directory.isAbsolute)
    (folder : String) : anchorFolder folder directory = some "" ↔ folder = "" := by
  constructor
  · intro hanchored
    by_cases hfolder : folder = ""
    · exact hfolder
    · rw [anchorFolder, if_neg hfolder] at hanchored
      have habsolute := Path.isAbsolute_normalize (isAbsolute_joined h folder)
      exact absurd rfl (text_ne_empty_of_isAbsolute habsolute hanchored)
  · rintro rfl
    rfl

/-- A folder that a script can be given: there is one, and it is not empty. -/
def IsUsable (folder : Option String) : Prop := ∃ text, folder = some text ∧ text ≠ ""

theorem isUsable_some_iff {text : String} : IsUsable (some text) ↔ text ≠ "" :=
  ⟨fun ⟨_, h, hne⟩ => Option.some.inj h ▸ hne, fun hne => ⟨text, rfl, hne⟩⟩

theorem not_isUsable_none : ¬ IsUsable none := fun ⟨_, h, _⟩ => Option.some_ne_none _ h.symm

theorem isUsable_anchorFolder_iff {directory : Path} (h : directory.isAbsolute)
    (folder : String) :
    IsUsable (anchorFolder folder directory) ↔
      folder ≠ "" ∧ ((Path.ofText folder).isAbsolute ∨ directory.text?.isSome) := by
  have hnone := anchorFolder_eq_none_iff h folder
  have hempty := anchorFolder_eq_some_empty_iff h folder
  cases hanchored : anchorFolder folder directory with
  | none =>
      obtain ⟨⟨-, hrelative⟩, htext⟩ := hnone.mp hanchored
      simp [not_isUsable_none, hrelative, htext]
  | some anchored =>
      rw [isUsable_some_iff]
      rw [hanchored, Option.some.injEq] at hempty
      rw [hanchored, IsRelativeFolder] at hnone
      cases htext : directory.text? <;> grind

/-- In a directory without a text there is a project folder only if one is given
by an absolute path with a text. -/
theorem isUsable_projectFolder_iff {directory : Path} (h : directory.isAbsolute)
    (hdirectory : directory.text? = none) (project : Option Path) :
    IsUsable (projectFolder project directory) ↔
      ∃ path, project = some path ∧ path.isAbsolute ∧ path.text?.isSome := by
  cases project with
  | none => simp [projectFolder, hdirectory, not_isUsable_none]
  | some path =>
      simp only [projectFolder, Option.some.injEq, exists_eq_left']
      cases htext : path.text? with
      | none => simp [not_isUsable_none]
      | some text =>
          have hempty : path.isAbsolute → text ≠ "" := fun habsolute =>
            text_ne_empty_of_isAbsolute habsolute htext
          rw [Option.bind_some, isUsable_anchorFolder_iff h, Path.ofText_of_text? htext]
          simp [hdirectory, and_iff_right_of_imp hempty]

namespace Path

theorem splitSlash_append (front back : Bytes) :
    splitSlash (front ++ slash :: back) = splitSlash front ++ splitSlash back := by
  induction front with
  | nil => simp [splitSlash]
  | cons byte rest ih =>
      by_cases hbyte : byte = slash
      · rw [List.cons_append, splitSlash, if_pos hbyte, ih, splitSlash, if_pos hbyte]
        rfl
      · cases hrest : splitSlash rest with
        | nil => exact absurd hrest (splitSlash_ne_nil rest)
        | cons first parts =>
            rw [List.cons_append, splitSlash, if_neg hbyte, ih, hrest, splitSlash,
              if_neg hbyte, hrest]
            rfl

theorem splitSlash_of_notMem {part : Bytes} (h : slash ∉ part) : splitSlash part = [part] := by
  induction part with
  | nil => rfl
  | cons byte part ih =>
      rw [List.mem_cons, not_or] at h
      rw [splitSlash, if_neg (Ne.symm h.1), ih h.2]

/-- Cutting gives the parts back that were put together. -/
theorem splitSlash_joinSlash {parts : List Bytes} (hne : parts ≠ [])
    (hparts : ∀ part ∈ parts, slash ∉ part) : splitSlash (joinSlash parts) = parts := by
  induction parts with
  | nil => contradiction
  | cons part parts ih =>
      have hpart := hparts part List.mem_cons_self
      cases parts with
      | nil => exact splitSlash_of_notMem hpart
      | cons next others =>
          have hrest := ih (List.cons_ne_nil next others)
            fun other hother => hparts other (List.mem_cons_of_mem part hother)
          rw [joinSlash_cons_of_ne_nil part (List.cons_ne_nil next others),
            splitSlash_append, splitSlash_of_notMem hpart, hrest]
          rfl

/-- A path from the root with one separator in front of each segment, and none of the
segments a lone dot.  An empty segment would be a separator that is doubled or comes
last, so the root itself is not among these paths. -/
structure IsNormal (path : Path) : Prop where
  absolute : path.isAbsolute = true
  segments : ∀ segment ∈ path.segments, segment ≠ [] ∧ segment ≠ [dot]

/-- Only the segments that mean something are left of a normal path, and the root if
there are none. -/
theorem normalize_cases {path : Path} (h : path.isAbsolute) :
    path.normalize = ⟨[slash]⟩ ∨ path.normalize.IsNormal := by
  have hbytes := bytes_normalize_of_isAbsolute h
  by_cases hnone : path.segments.filter isKept = []
  · rw [hnone] at hbytes
    exact .inl (congrArg Path.mk hbytes)
  · refine .inr ⟨isAbsolute_normalize h, fun segment hsegment => ?_⟩
    have hnames : ∀ name ∈ path.segments.filter isKept, IsName name :=
      fun name hname => isName_of_mem_filter_isKept hname
    rw [Path.segments, if_pos (isAbsolute_normalize h), hbytes, List.tail_cons,
      splitSlash_joinSlash hnone fun name hname => (hnames name hname).2] at hsegment
    obtain ⟨-, hkept⟩ := List.mem_filter.mp hsegment
    simpa [isKept] using hkept

end Path

/-- A folder that a script can be given: its text names a path from the root, and if it
comes from an option that path is normal, or it is the root. -/
structure IsHandedOn (given : Bool) (folder : String) : Prop where
  nonempty : folder ≠ ""
  absolute : (Path.ofText folder).isAbsolute = true
  normal : given = true → folder = "/" ∨ (Path.ofText folder).IsNormal

theorem isHandedOn_of_anchorFolder {directory : Path} (h : directory.isAbsolute)
    {folder anchored : String} (hfolder : folder ≠ "")
    (hanchored : anchorFolder folder directory = some anchored) : IsHandedOn true anchored := by
  have habsolute := isAbsolute_joined h folder
  rw [anchorFolder, if_neg hfolder] at hanchored
  have hpath := Path.ofText_of_text? hanchored
  refine ⟨text_ne_empty_of_isAbsolute (Path.isAbsolute_normalize habsolute) hanchored, ?_, ?_⟩
  · rw [hpath]
    exact Path.isAbsolute_normalize habsolute
  · intro _
    rcases Path.normalize_cases habsolute with hroot | hnormal
    · rw [hroot] at hanchored
      exact .inl (Option.some.inj (hanchored.symm.trans (by decide)))
    · rw [hpath]
      exact .inr hnormal

end FolderScript
