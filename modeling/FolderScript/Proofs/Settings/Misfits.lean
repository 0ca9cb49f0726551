/-
What does not fit in a document.  It is collected along the document, in its order; of this
reading reports the first, and where there is nothing of the kind the document is a
settings file.
-/
import FolderScript.Proofs.Outcome
import FolderScript.Settings.Document

namespace FolderScript

open Toml (Entries Scalar Value)

/-- What the field of a key is to hold. -/
def Wanted.ofKey? : String → Option Wanted
  | "interpreter" | "script_path" => some .text
  | "working_directory" => some .path
  | "timeout_secs" => some .seconds
  | _ => none

namespace Misfit

/-- What does not fit about a value where something else may be wanted. -/
def ofValue? : Wanted → Value → Option Misfit
  | .text, .scalar (.string _) | .path, .scalar (.string _) => none
  | .seconds, .scalar (.integer seconds) =>
      if seconds < 0 then some (.negativeSeconds seconds) else none
  | wanted, value => some (.wrongType (describeFound value) wanted)

/-- What does not fit about a key of the settings and its value. -/
def ofField? (entry : String × Value) : Option Misfit :=
  match Wanted.ofKey? entry.1 with
  | some wanted => ofValue? wanted entry.2
  | none => some (.unknownField entry.1)

/-- All that does not fit in what stands under "runner", in order.  An array that is too
short is so at its end. -/
def inRunner : Value → List Misfit
  | .table _ entries => entries.filterMap ofField?
  | .array _ items => (Layer.fieldKeys.zip items).filterMap ofField? ++
      if items.length < Layer.fieldKeys.length then [.tooFewItems items.length] else []
  | .scalar (.moment _) => [.unknownField momentKey]
  | .scalar value => [.wrongType (describeFound (.scalar value)) .runnerTable]

/-- All that does not fit in a document, in its order.  There a table has the place of its
own header, also if a header before it has named it on the way. -/
def inDocument (document : Entries) : List Misfit :=
  document.flatMap fun (key, value) =>
    if key = "runner" then inRunner value else [.unknownSection key]

end Misfit

namespace Layer

variable {layer after : Layer} {key : String} {value : Value} {misfit : Misfit}

theorem readText_eq_error_iff {wanted : Wanted} (h : wanted = .text ∨ wanted = .path) :
    readText wanted value = .error misfit ↔ Misfit.ofValue? wanted value = some misfit := by
  rcases h with rfl | rfl <;> cases value with
  | scalar value => cases value <;> simp [readText, Misfit.ofValue?]
  | array | table => simp [readText, Misfit.ofValue?]

theorem readSeconds_eq_error_iff :
    readSeconds value = .error misfit ↔ Misfit.ofValue? .seconds value = some misfit := by
  cases value with
  | scalar value =>
      cases value with
      | integer seconds => by_cases h : seconds < 0 <;> simp [readSeconds, Misfit.ofValue?, h]
      | string | float | boolean | moment => simp [readSeconds, Misfit.ofValue?]
  | array | table => simp [readSeconds, Misfit.ofValue?]

/-- A field is refused for its key and value alone. -/
theorem readField_eq_error_iff (layer : Layer) (key : String) (value : Value) :
    layer.readField key value = .error misfit ↔ Misfit.ofField? (key, value) = some misfit := by
  unfold readField
  split
  · rw [map_eq_error_iff, readText_eq_error_iff (.inl rfl)]
    rfl
  · rw [map_eq_error_iff, readText_eq_error_iff (.inl rfl)]
    rfl
  · rw [map_eq_error_iff, readText_eq_error_iff (.inr rfl)]
    rfl
  · rw [map_eq_error_iff, readSeconds_eq_error_iff]
    rfl
  · have hnone : Wanted.ofKey? key = none := by
      unfold Wanted.ofKey?
      split <;> simp_all
    simp [Misfit.ofField?, hnone]

theorem ofEntries_eq_error_iff {entries : Entries} :
    ofEntries entries = .error misfit ↔
      (entries.filterMap Misfit.ofField?).head? = some misfit := by
  rw [List.head?_filterMap]
  exact foldlM_eq_error_iff (fun layer entry misfit => readField_eq_error_iff layer entry.1 entry.2)
    entries empty

theorem ofItems_eq_error_iff {items : List Value} :
    ofItems items = .error misfit ↔
      (((fieldKeys.zip items).filterMap Misfit.ofField? ++
        if items.length < fieldKeys.length then [Misfit.tooFewItems items.length] else []).head? =
          some misfit) := by
  rw [ofItems, List.head?_append]
  cases hread : ofEntries (fieldKeys.zip items) with
  | error fault =>
      rw [ofEntries_eq_error_iff.mp hread]
      simp
  | ok layer =>
      have hnone : ((fieldKeys.zip items).filterMap Misfit.ofField?).head? = none := by
        refine Option.eq_none_iff_forall_ne_some.mpr fun fault hfault => ?_
        rw [ofEntries_eq_error_iff.mpr hfault] at hread
        contradiction
      rw [hnone, Option.none_or]
      by_cases hshort : items.length < fieldKeys.length <;> simp [hshort]

theorem ofRunner_eq_error_iff :
    ofRunner value = .error misfit ↔ (Misfit.inRunner value).head? = some misfit := by
  cases value with
  | table form entries => exact ofEntries_eq_error_iff
  | array form items => exact ofItems_eq_error_iff
  | scalar value => cases value <;> simp [ofRunner, Misfit.inRunner]

/-- What is reported of a document is the first that does not fit. -/
theorem ofDocument_eq_error_iff {document : Entries} :
    ofDocument document = .error misfit ↔ (Misfit.inDocument document).head? = some misfit := by
  rw [Misfit.inDocument, List.head?_flatMap]
  refine foldlM_eq_error_iff (fun layer entry misfit => ?_) document empty
  obtain ⟨key, value⟩ := entry
  by_cases hkey : key = "runner"
  · simp only [hkey, if_true]
    exact ofRunner_eq_error_iff
  · simp [hkey]

/-- A key of the settings with a value that its field can hold. -/
inductive IsField : String → Value → Prop
  | interpreter (text : String) : IsField "interpreter" (.scalar (.string text))
  | scriptPath (text : String) : IsField "script_path" (.scalar (.string text))
  | workingDirectory (text : String) : IsField "working_directory" (.scalar (.string text))
  | timeout {seconds : Int} : 0 ≤ seconds → IsField "timeout_secs" (.scalar (.integer seconds))

/-- What may stand under "runner": a table of fields, or an array that begins with the
values of all fields in order. -/
inductive IsRunner : Value → Prop
  | table {form : Toml.TableForm} {entries : Entries} :
      (∀ entry ∈ entries, IsField entry.1 entry.2) → IsRunner (.table form entries)
  | array {form : Toml.ArrayForm} {interpreter scriptPath workingDirectory timeout : Value}
      {others : List Value} :
      IsField "interpreter" interpreter → IsField "script_path" scriptPath →
      IsField "working_directory" workingDirectory → IsField "timeout_secs" timeout →
      IsRunner (.array form (interpreter :: scriptPath :: workingDirectory :: timeout :: others))

/-- A document with nothing in it but fitting settings under "runner". -/
def IsSettingsFile (document : Entries) : Prop :=
  ∀ entry ∈ document, entry.1 = "runner" ∧ IsRunner entry.2

theorem ofValue?_text_eq_none_iff {wanted : Wanted} (h : wanted = .text ∨ wanted = .path) :
    Misfit.ofValue? wanted value = none ↔ ∃ text, value = .scalar (.string text) := by
  rcases h with rfl | rfl <;> cases value with
  | scalar value => cases value <;> simp [Misfit.ofValue?]
  | array | table => simp [Misfit.ofValue?]

theorem ofValue?_seconds_eq_none_iff :
    Misfit.ofValue? .seconds value = none ↔
      ∃ seconds, 0 ≤ seconds ∧ value = .scalar (.integer seconds) := by
  cases value with
  | scalar value => cases value <;> simp [Misfit.ofValue?]
  | array | table => simp [Misfit.ofValue?]

theorem ofField?_eq_none_iff : Misfit.ofField? (key, value) = none ↔ IsField key value := by
  constructor
  · intro h
    unfold Misfit.ofField? Wanted.ofKey? at h
    dsimp only at h
    split at h
    · rename_i wanted hwanted
      split at hwanted
      · obtain rfl := Option.some.inj hwanted
        obtain ⟨text, rfl⟩ := (ofValue?_text_eq_none_iff (.inl rfl)).mp h
        exact .interpreter text
      · obtain rfl := Option.some.inj hwanted
        obtain ⟨text, rfl⟩ := (ofValue?_text_eq_none_iff (.inl rfl)).mp h
        exact .scriptPath text
      · obtain rfl := Option.some.inj hwanted
        obtain ⟨text, rfl⟩ := (ofValue?_text_eq_none_iff (.inr rfl)).mp h
        exact .workingDirectory text
      · obtain rfl := Option.some.inj hwanted
        obtain ⟨seconds, hseconds, rfl⟩ := ofValue?_seconds_eq_none_iff.mp h
        exact .timeout hseconds
      · contradiction
    · contradiction
  · rintro (_ | _ | _ | hseconds)
    · rfl
    · rfl
    · rfl
    · exact ofValue?_seconds_eq_none_iff.mpr ⟨_, hseconds, rfl⟩

theorem inRunner_array_eq_nil_iff {form : Toml.ArrayForm} {items : List Value} :
    Misfit.inRunner (.array form items) = [] ↔ IsRunner (.array form items) := by
  rw [Misfit.inRunner, List.append_eq_nil_iff, List.filterMap_eq_nil_iff]
  constructor
  · rintro ⟨hfields, hlength⟩
    match items with
    | [] | [_] | [_, _] | [_, _, _] => contradiction
    | interpreter :: scriptPath :: workingDirectory :: timeout :: others =>
        have hfield (entry) (h : entry ∈ fieldKeys.zip
            [interpreter, scriptPath, workingDirectory, timeout]) : IsField entry.1 entry.2 :=
          ofField?_eq_none_iff.mp (hfields entry h)
        exact .array (hfield (_, _) (by simp [fieldKeys])) (hfield (_, _) (by simp [fieldKeys]))
          (hfield (_, _) (by simp [fieldKeys])) (hfield (_, _) (by simp [fieldKeys]))
  · rintro ⟨⟩
    rename_i hinterpreter hscript hdirectory htimeout
    simp [fieldKeys, ofField?_eq_none_iff, *]

theorem inRunner_eq_nil_iff : Misfit.inRunner value = [] ↔ IsRunner value := by
  cases value with
  | scalar value =>
      have hnot : ¬ IsRunner (.scalar value) := by rintro ⟨⟩
      cases value <;> simp [Misfit.inRunner, hnot]
  | table form entries =>
      rw [Misfit.inRunner, List.filterMap_eq_nil_iff]
      refine ⟨fun h => .table fun entry hentry => ofField?_eq_none_iff.mp (h entry hentry), ?_⟩
      rintro ⟨h⟩ entry hentry
      exact ofField?_eq_none_iff.mpr (h entry hentry)
  | array form items => exact inRunner_array_eq_nil_iff

theorem inDocument_eq_nil_iff {document : Entries} :
    Misfit.inDocument document = [] ↔ IsSettingsFile document := by
  rw [Misfit.inDocument, List.flatMap_eq_nil_iff]
  refine forall₂_congr fun entry _ => ?_
  by_cases hkey : entry.1 = "runner"
  · simp [hkey, inRunner_eq_nil_iff]
  · simp [hkey]

theorem exists_ofRunner_eq_ok_iff : (∃ layer, ofRunner value = .ok layer) ↔ IsRunner value :=
  (exists_eq_ok_iff_nil fun _ => ofRunner_eq_error_iff).trans inRunner_eq_nil_iff

/-- The settings files are the documents that are read. -/
theorem exists_ofDocument_eq_ok_iff {document : Entries} :
    (∃ layer, ofDocument document = .ok layer) ↔ IsSettingsFile document :=
  (exists_eq_ok_iff_nil fun _ => ofDocument_eq_error_iff).trans inDocument_eq_nil_iff

end Layer

end FolderScript
