/-
What a settings file sets.  A document that is read leaves in each field the value that it
gives for it, as a table in whatever order or as an array, and sets no other field.
-/
import FolderScript.Proofs.Settings.Misfits
import FolderScript.Proofs.Toml.Validity
import Mathlib.Logic.Function.Basic

namespace FolderScript.Layer

open Toml (Entries Scalar Value)

variable {layer after : Layer} {key : String} {value : Value}

/-- The value that stands for a key in what is under "runner"; in an array it stands in the
place of the key. -/
def runnerField? : Value → String → Option Value
  | .table _ entries, key => Entries.get? entries key
  | .array _ items, key => Entries.get? (fieldKeys.zip items) key
  | .scalar _, _ => none

/-- The value that a document gives for a key of the settings. -/
def documentField? (document : Entries) (key : String) : Option Value :=
  (document.get? "runner").bind fun value => runnerField? value key

/-- Each field for whose key a value is given holds it, and the others are unset. -/
structure Holds (layer : Layer) (given : String → Option Value) : Prop where
  interpreter : Option.Rel (fun value text => value = .scalar (.string text))
    (given "interpreter") layer.interpreter
  scriptPath : Option.Rel (fun value text => value = .scalar (.string text))
    (given "script_path") layer.scriptPath
  workingDirectory : Option.Rel
    (fun value path => ∃ text, value = .scalar (.string text) ∧ path = Path.ofText text)
    (given "working_directory") layer.workingDirectory
  timeout : Option.Rel (fun value seconds => value = .scalar (.integer seconds.toNat))
    (given "timeout_secs") layer.timeout

variable {given : String → Option Value}

theorem holds_empty : empty.Holds fun _ => none := ⟨.none, .none, .none, .none⟩

theorem readText_eq_ok_iff {wanted : Wanted} {text : String} :
    readText wanted value = .ok text ↔ value = .scalar (.string text) := by
  cases value with
  | scalar value => cases value <;> simp [readText]
  | array | table => simp [readText]

/-- Seconds are what is given, because an integer of a document fits into 64 bits. -/
theorem eq_of_readSeconds_eq_ok {seconds : UInt64} (hvalue : value.IsValid)
    (h : readSeconds value = .ok seconds) : value = .scalar (.integer seconds.toNat) := by
  unfold readSeconds at h
  split at h
  · rename_i found
    split at h
    · contradiction
    · rename_i hpositive
      obtain rfl := Except.ok.inj h
      cases hvalue with
      | scalar hfits =>
          have hbound : found.toNat < 2 ^ 64 := by
            simp only [Scalar.IsValid, Toml.fitsInteger, Bool.and_eq_true, decide_eq_true_eq]
              at hfits
            omega
          have hnat : (UInt64.ofNat found.toNat).toNat = found.toNat :=
            UInt64.toNat_ofNat_of_lt' hbound
          rw [hnat, Int.toNat_of_nonneg (Int.not_lt.mp hpositive)]
  · contradiction

/-- One field more is read. -/
theorem Holds.readField (hlayer : layer.Holds given) (hvalue : value.IsValid)
    (h : layer.readField key value = .ok after) :
    after.Holds (Function.update given key (some value)) := by
  unfold Layer.readField at h
  split at h
  · obtain ⟨text, htext, rfl⟩ := map_eq_ok_iff.mp h
    obtain rfl := readText_eq_ok_iff.mp htext
    exact ⟨.some rfl, hlayer.scriptPath, hlayer.workingDirectory, hlayer.timeout⟩
  · obtain ⟨text, htext, rfl⟩ := map_eq_ok_iff.mp h
    obtain rfl := readText_eq_ok_iff.mp htext
    exact ⟨hlayer.interpreter, .some rfl, hlayer.workingDirectory, hlayer.timeout⟩
  · obtain ⟨text, htext, rfl⟩ := map_eq_ok_iff.mp h
    obtain rfl := readText_eq_ok_iff.mp htext
    exact ⟨hlayer.interpreter, hlayer.scriptPath, .some ⟨text, rfl, rfl⟩, hlayer.timeout⟩
  · obtain ⟨seconds, hseconds, rfl⟩ := map_eq_ok_iff.mp h
    have hgiven := eq_of_readSeconds_eq_ok hvalue hseconds
    exact ⟨hlayer.interpreter, hlayer.scriptPath, hlayer.workingDirectory, .some hgiven⟩
  · contradiction

/-- All fields of a table are read.  None is set twice, since keys stand once. -/
theorem Holds.foldlM_readField {entries : Entries} (hlayer : layer.Holds given)
    (hentries : entries.IsValid)
    (h : entries.foldlM (fun layer (key, value) => layer.readField key value) layer = .ok after) :
    after.Holds fun key => (entries.get? key).or (given key) := by
  induction entries generalizing layer given with
  | nil => exact Except.ok.inj h ▸ hlayer
  | cons entry rest ih =>
      obtain ⟨hfirst, hvalue, hrest⟩ := hentries.of_cons
      rw [List.foldlM_cons] at h
      obtain ⟨next, hnext, h⟩ := bind_eq_ok_iff.mp h
      have hafter := ih (hlayer.readField hvalue hnext) hrest h
      convert hafter using 2 with key
      rw [Entries.get?_cons]
      by_cases hkey : key = entry.1
      · subst hkey
        rw [if_pos rfl, Entries.get?_eq_none_iff.mpr hfirst, Option.none_or, Function.update_self,
          Option.some_or]
      · rw [if_neg hkey, Function.update_of_ne hkey]

theorem holds_ofEntries {entries : Entries} (hentries : entries.IsValid)
    (h : ofEntries entries = .ok layer) : layer.Holds entries.get? := by
  simpa using holds_empty.foldlM_readField hentries h

theorem keys_zip_fieldKeys (items : List Value) :
    Entries.keys (fieldKeys.zip items) = fieldKeys.take items.length := by
  match items with
  | [] | [_] | [_, _] | [_, _, _] => rfl
  | _ :: _ :: _ :: _ :: _ => simp [Entries.keys, fieldKeys]

/-- An array is read like a table in which the keys stand for its items. -/
theorem isValid_zip_fieldKeys {items : List Value} (h : ∀ item ∈ items, item.IsValid) :
    Entries.IsValid (fieldKeys.zip items) := by
  refine ⟨?_, fun entry hentry => h _ (List.of_mem_zip hentry).2⟩
  rw [keys_zip_fieldKeys]
  exact List.Nodup.sublist (List.take_sublist ..) (by decide)

theorem ofItems_eq_ok_iff {items : List Value} :
    ofItems items = .ok layer ↔
      ofEntries (fieldKeys.zip items) = .ok layer ∧ fieldKeys.length ≤ items.length := by
  unfold ofItems
  cases ofEntries (fieldKeys.zip items) with
  | error fault => simp
  | ok found =>
      by_cases hshort : items.length < fieldKeys.length
      · simp [hshort]
      · simpa [hshort] using fun _ => Nat.not_lt.mp hshort

theorem holds_ofRunner (hvalue : value.IsValid) (h : ofRunner value = .ok layer) :
    layer.Holds (runnerField? value) := by
  cases hvalue with
  | table hkeys hvalues => exact holds_ofEntries ⟨hkeys, hvalues⟩ h
  | array hitems => exact holds_ofEntries (isValid_zip_fieldKeys hitems) (ofItems_eq_ok_iff.mp h).1
  | @scalar value _ => cases value <;> contradiction

theorem ofDocument_runner (value : Value) : ofDocument [("runner", value)] = ofRunner value := by
  simp [ofDocument]

/-- A document that is read is empty or has "runner" alone. -/
theorem ofDocument_eq_ok_iff {document : Entries} (hdocument : document.IsValid) :
    ofDocument document = .ok layer ↔
      document = [] ∧ layer = empty ∨
        ∃ value, document = [("runner", value)] ∧ ofRunner value = .ok layer := by
  constructor
  · intro h
    cases document with
    | nil => exact .inl ⟨rfl, (Except.ok.inj h).symm⟩
    | cons entry rest =>
        obtain ⟨key, value⟩ := entry
        obtain ⟨hfirst, -⟩ := hdocument.of_cons
        have hfile : IsSettingsFile ((key, value) :: rest) :=
          exists_ofDocument_eq_ok_iff.mp ⟨layer, h⟩
        obtain ⟨⟨rfl, -⟩, hrest⟩ := List.forall_mem_cons.mp hfile
        obtain rfl : rest = [] := List.eq_nil_iff_forall_not_mem.mpr fun other hother =>
          hfirst (List.mem_map.mpr ⟨other, hother, (hrest other hother).1⟩)
        exact .inr ⟨value, rfl, ofDocument_runner value ▸ h⟩
  · rintro (⟨rfl, rfl⟩ | ⟨value, rfl, h⟩)
    · rfl
    · rwa [ofDocument_runner]

theorem holds_ofDocument {document : Entries} (hdocument : document.IsValid)
    (h : ofDocument document = .ok layer) : layer.Holds (documentField? document) := by
  rcases (ofDocument_eq_ok_iff hdocument).mp h with ⟨rfl, rfl⟩ | ⟨value, rfl, hrunner⟩
  · exact holds_empty
  · exact holds_ofRunner (hdocument.values _ List.mem_cons_self) hrunner

theorem eq_of_rel {α : Type} {r : Value → α → Prop}
    (hr : ∀ value x y, r value x → r value y → x = y) {given : Option Value}
    {first second : Option α} (hfirst : Option.Rel r given first)
    (hsecond : Option.Rel r given second) : first = second := by
  cases hfirst with
  | none => cases hsecond; rfl
  | some hx =>
      cases hsecond with
      | some hy => exact congrArg some (hr _ _ _ hx hy)

/-- What is given decides all fields. -/
theorem Holds.unique {other : Layer} (hlayer : layer.Holds given) (hother : other.Holds given) :
    layer = other := by
  have htext : ∀ (value : Value) (first second : String), value = .scalar (.string first) →
      value = .scalar (.string second) → first = second := by
    rintro value first second rfl h
    simpa using h
  have hinterpreter := eq_of_rel htext hlayer.interpreter hother.interpreter
  have hscript := eq_of_rel htext hlayer.scriptPath hother.scriptPath
  have hdirectory := eq_of_rel (fun value first second => by
    rintro ⟨text, rfl, rfl⟩ ⟨text', h, rfl⟩
    rw [htext _ text text' rfl h]) hlayer.workingDirectory hother.workingDirectory
  have htimeout := eq_of_rel (fun value (first second : UInt64) => by
    rintro rfl h
    have hnat : (first.toNat : Int) = second.toNat := by simpa using h
    exact UInt64.toNat_inj.mp (Int.ofNat_inj.mp hnat)) hlayer.timeout hother.timeout
  cases layer
  cases other
  simp_all

/-- The order of the keys of a table does not matter. -/
theorem ofRunner_perm {form : Toml.TableForm} {entries others : Entries}
    (hentries : entries.IsValid) (hperm : entries.Perm others)
    (h : ofRunner (.table form entries) = .ok layer) :
    ofRunner (.table form others) = .ok layer := by
  have hrunner : IsRunner (.table form others) := by
    cases exists_ofRunner_eq_ok_iff.mp ⟨layer, h⟩ with
    | table hfields => exact .table fun entry hentry => hfields entry (hperm.mem_iff.mpr hentry)
  obtain ⟨other, hother⟩ := exists_ofRunner_eq_ok_iff.mpr hrunner
  have hlayer : layer.Holds entries.get? := holds_ofEntries hentries h
  have hgiven : other.Holds entries.get? :=
    Entries.get?_perm hentries.keys hperm ▸ holds_ofEntries (hentries.perm hperm) hother
  rw [hother, hlayer.unique hgiven]

/-- What a document with valid values comes to.  It is read if it is a settings file; then
each field holds the value given for its key, the others are unset, and the keys could
stand in any order.  If it is none, the first of its misfits is reported. -/
theorem ofDocument_decided {document : Entries} (hdocument : document.IsValid) :
    ((∃ layer, ofDocument document = .ok layer) ↔ IsSettingsFile document) ∧
    (∀ layer, ofDocument document = .ok layer → layer.Holds (documentField? document)) ∧
    (∀ form entries others layer, document = [("runner", .table form entries)] →
      entries.Perm others →
        (ofDocument [("runner", .table form others)] = .ok layer ↔
          ofDocument document = .ok layer)) ∧
    (∀ misfit, ofDocument document = .error misfit ↔
      (Misfit.inDocument document).head? = some misfit) := by
  refine ⟨exists_ofDocument_eq_ok_iff, fun layer => holds_ofDocument hdocument, ?_,
    fun misfit => ofDocument_eq_error_iff⟩
  rintro form entries others layer rfl hperm
  have hentries : Entries.IsValid entries :=
    Entries.isValid_of_table (hdocument.values _ List.mem_cons_self)
  rw [ofDocument_runner, ofDocument_runner]
  exact ⟨ofRunner_perm (hentries.perm hperm) hperm.symm, ofRunner_perm hentries hperm⟩

end FolderScript.Layer

namespace FolderScript.FieldsWitness

open Toml (Entries)

/-- Two settings. -/
def entries : Entries :=
  [("timeout_secs", .scalar (.integer 60)), ("interpreter", .scalar (.string "ruby"))]

/-- They stand under "runner". -/
def document : Entries := [("runner", .table .header entries)]

/-- Three things do not fit, one of them outside "runner". -/
def misfitting : Entries :=
  [("runner", .table .header
      [("timeout_secs", .scalar (.integer (-60))), ("timeout", .scalar (.integer 60))]),
    ("logging", .table .header [])]

theorem isValid_document : document.IsValid := by
  have hentries : entries.IsValid :=
    ⟨by decide, List.forall_mem_cons.mpr
      ⟨.scalar rfl, List.forall_mem_singleton.mpr (.scalar trivial)⟩⟩
  exact ⟨by decide, List.forall_mem_singleton.mpr (hentries.table .header)⟩

theorem isValid_misfitting : misfitting.IsValid := by
  have hrunner : Entries.IsValid
      [("timeout_secs", .scalar (.integer (-60))), ("timeout", .scalar (.integer 60))] :=
    ⟨by decide, List.forall_mem_cons.mpr
      ⟨.scalar rfl, List.forall_mem_singleton.mpr (.scalar rfl)⟩⟩
  exact ⟨by decide, List.forall_mem_cons.mpr ⟨hrunner.table .header,
    List.forall_mem_singleton.mpr (Entries.isValid_nil.table .header)⟩⟩

/-- The settings are read in either order, and what comes first is reported where more does
not fit. -/
theorem ofDocument_decided_ruby :
    document.IsValid ∧ Layer.IsSettingsFile document ∧
      Layer.ofDocument [("runner", .table .header entries.reverse)] =
        .ok { interpreter := some "ruby", timeout := some 60 } ∧
      misfitting.IsValid ∧ (Misfit.inDocument misfitting).length = 3 ∧
      Layer.ofDocument misfitting = .error (.negativeSeconds (-60)) := by
  obtain ⟨hread, -, hperm, -⟩ := Layer.ofDocument_decided isValid_document
  obtain ⟨-, -, -, hmisfit⟩ := Layer.ofDocument_decided isValid_misfitting
  have hlayer : Layer.ofDocument document =
      .ok { interpreter := some "ruby", timeout := some 60 } := rfl
  have hreversed := (hperm _ _ _ _ rfl entries.reverse_perm.symm).mpr hlayer
  exact ⟨isValid_document, hread.mp ⟨_, hlayer⟩, hreversed, isValid_misfitting, rfl,
    (hmisfit _).mpr rfl⟩

end FolderScript.FieldsWitness
