/-
What becomes of the scalars of a settings file.  The fields that are set hold them, one
each; only what stands in an array after the values of all fields is read by no one.
-/
import FolderScript.Proofs.Path
import FolderScript.Proofs.Settings.Fields
import FolderScript.Proofs.Toml.Reading

namespace FolderScript

namespace Toml

mutual

def Value.scalars : Value → List Scalar
  | .scalar value => [value]
  | .array _ items => Value.itemScalars items
  | .table _ entries => Value.entryScalars entries

def Value.itemScalars : List Value → List Scalar
  | [] => []
  | item :: rest => item.scalars ++ Value.itemScalars rest

def Value.entryScalars : List (String × Value) → List Scalar
  | [] => []
  | (_, value) :: rest => value.scalars ++ Value.entryScalars rest

end

/-- The scalars of a table, in order. -/
def Entries.scalars (entries : Entries) : List Scalar :=
  entries.flatMap fun entry => entry.2.scalars

theorem Value.scalars_array (form : ArrayForm) (items : List Value) :
    (Value.array form items).scalars = items.flatMap Value.scalars := by
  rw [Value.scalars]
  induction items with
  | nil => rfl
  | cons item rest ih => rw [Value.itemScalars, ih, List.flatMap_cons]

theorem Value.scalars_table (form : TableForm) (entries : Entries) :
    (Value.table form entries).scalars = entries.scalars := by
  rw [Value.scalars]
  induction entries with
  | nil => rfl
  | cons entry rest ih => rw [Value.entryScalars, ih]; rfl

/-- A table whose keys are all in a list can be brought into the order of that list. -/
theorem Entries.perm_filterMap_get? {entries : Entries} {order : List String}
    (hkeys : entries.keys.Nodup) (horder : order.Nodup)
    (hmem : ∀ key ∈ entries.keys, key ∈ order) :
    entries.Perm (order.filterMap fun key => (entries.get? key).map (key, ·)) := by
  have hordered : (order.filterMap fun key => (entries.get? key).map (key, ·)).Nodup := by
    refine horder.filterMap fun key other entry hentry hother => ?_
    obtain ⟨_, -, rfl⟩ := Option.map_eq_some_iff.mp hentry
    obtain ⟨_, -, heq⟩ := Option.map_eq_some_iff.mp hother
    exact (Prod.mk.inj heq).1.symm
  refine (List.perm_ext_iff_of_nodup (List.Nodup.of_map _ hkeys) hordered).mpr fun entry => ?_
  simp only [List.mem_filterMap, Option.map_eq_some_iff]
  constructor
  · intro hentry
    have hkey : entry.1 ∈ entries.keys := List.mem_map.mpr ⟨entry, hentry, rfl⟩
    exact ⟨entry.1, hmem _ hkey, entry.2, get?_of_mem hkeys hentry, rfl⟩
  · rintro ⟨key, -, value, hvalue, rfl⟩
    exact mem_of_get? hvalue

end Toml

namespace Layer

open Toml (Entries Scalar Value)

variable {layer : Layer} {document : Entries}

/-- What the fields that are set hold, as scalars of a document. -/
def scalars (layer : Layer) : List Scalar :=
  layer.interpreter.toList.map Scalar.string ++ layer.scriptPath.toList.map Scalar.string ++
    layer.workingDirectory.toList.map (fun path => Scalar.string path.display) ++
    layer.timeout.toList.map fun seconds => Scalar.integer seconds.toNat

/-- What stands in an array under "runner" after the values of all fields. -/
def surplus (document : Entries) : List Value :=
  match document.get? "runner" with
  | some (.array _ items) => items.drop fieldKeys.length
  | _ => []

/-- A field that is set holds the one scalar that is given for it. -/
theorem scalars_of_rel {α : Type} {r : Value → α → Prop} {f : α → Scalar}
    (hr : ∀ value x, r value x → value = .scalar (f x)) {given : Option Value} {field : Option α}
    (h : Option.Rel r given field) :
    field.toList.map f = given.toList.flatMap Value.scalars := by
  cases h with
  | none => rfl
  | some hx =>
      obtain rfl := hr _ _ hx
      simp [Value.scalars]

theorem Holds.scalars_eq {given : String → Option Value} (h : layer.Holds given) :
    layer.scalars = fieldKeys.flatMap fun key => (given key).toList.flatMap Value.scalars := by
  have hinterpreter := scalars_of_rel (f := Scalar.string) (fun _ _ => id) h.interpreter
  have hscript := scalars_of_rel (f := Scalar.string) (fun _ _ => id) h.scriptPath
  have hdirectory := scalars_of_rel (f := fun path : Path => Scalar.string path.display)
    (by
      rintro _ _ ⟨text, rfl, rfl⟩
      rw [Path.display_ofText]) h.workingDirectory
  have htimeout := scalars_of_rel (f := fun seconds : UInt64 => Scalar.integer seconds.toNat)
    (fun _ _ => id) h.timeout
  simp [scalars, fieldKeys, hinterpreter, hscript, hdirectory, htimeout]

theorem mem_fieldKeys_of_isField {key : String} {value : Value} (h : IsField key value) :
    key ∈ fieldKeys := by
  cases h <;> decide

theorem mem_fieldKeys_of_ofEntries {entries : Entries} (h : ofEntries entries = .ok layer) :
    ∀ key ∈ entries.keys, key ∈ fieldKeys := by
  intro key hkey
  obtain ⟨entry, hentry, rfl⟩ := List.mem_map.mp hkey
  have hrunner : IsRunner (.table .header entries) := exists_ofRunner_eq_ok_iff.mp ⟨layer, h⟩
  cases hrunner with
  | table hfields => exact mem_fieldKeys_of_isField (hfields entry hentry)

/-- The scalars of a table of fields are those of the fields that it sets. -/
theorem perm_scalars_ofEntries {entries : Entries} (hentries : entries.IsValid)
    (h : ofEntries entries = .ok layer) : entries.scalars.Perm layer.scalars := by
  have hperm := (entries.perm_filterMap_get? hentries.keys (by decide)
    (mem_fieldKeys_of_ofEntries h)).flatMap_right fun entry => entry.2.scalars
  have hgiven : (fieldKeys.filterMap fun key => (entries.get? key).map (key, ·)).flatMap
      (fun entry => entry.2.scalars) = layer.scalars := by
    rw [(holds_ofEntries hentries h).scalars_eq, List.filterMap_eq_flatMap_toList,
      List.flatMap_assoc]
    refine List.flatMap_congr fun key _ => ?_
    cases entries.get? key <;> simp
  exact hgiven ▸ hperm

theorem scalars_zip_fieldKeys (items : List Value) :
    Entries.scalars (fieldKeys.zip items) =
      (items.take fieldKeys.length).flatMap Value.scalars := by
  match items with
  | [] | [_] | [_, _] | [_, _, _] => rfl
  | _ :: _ :: _ :: _ :: _ => simp [Entries.scalars, fieldKeys]

/-- The scalars under "runner" are those of the fields that are set, and the surplus. -/
theorem perm_scalars_ofRunner {value : Value} (hvalue : value.IsValid)
    (h : ofRunner value = .ok layer) :
    value.scalars.Perm
      (layer.scalars ++ (surplus [("runner", value)]).flatMap Value.scalars) := by
  cases hvalue with
  | @scalar value _ => cases value <;> contradiction
  | table hkeys hvalues =>
      rw [Value.scalars_table]
      simpa [surplus, Entries.get?] using perm_scalars_ofEntries ⟨hkeys, hvalues⟩ h
  | @array form items hitems =>
      have hread := perm_scalars_ofEntries (isValid_zip_fieldKeys hitems)
        (ofItems_eq_ok_iff.mp h).1
      rw [scalars_zip_fieldKeys] at hread
      have hsurplus : surplus [("runner", .array form items)] = items.drop fieldKeys.length := by
        simp [surplus, Entries.get?]
      rw [Value.scalars_array, hsurplus]
      conv_lhs => rw [← List.take_append_drop fieldKeys.length items, List.flatMap_append]
      exact hread.append_right _

/-- The scalars of a document are those of the fields that are set, and the surplus. -/
theorem perm_scalars_ofDocument (hdocument : document.IsValid)
    (h : ofDocument document = .ok layer) :
    document.scalars.Perm (layer.scalars ++ (surplus document).flatMap Value.scalars) := by
  rcases (ofDocument_eq_ok_iff hdocument).mp h with ⟨rfl, rfl⟩ | ⟨value, rfl, hrunner⟩
  · exact .refl _
  · have hvalue := hdocument.values _ List.mem_cons_self
    simpa [Entries.scalars] using perm_scalars_ofRunner hvalue hrunner

/-- The scalars of a settings file are what the fields that are set hold, one each, unless
an array under "runner" goes on after the values of all fields with further scalars. -/
theorem perm_scalars_iff {text : String} (hdocument : Toml.parse? text = some document)
    (h : parse text = .ok layer) :
    document.scalars.Perm (layer.scalars ++ (surplus document).flatMap Value.scalars) ∧
    (document.scalars.Perm layer.scalars ↔ ∀ value ∈ surplus document, value.scalars = []) := by
  have hread : ofDocument document = .ok layer := by
    rw [parse, hdocument] at h
    exact mapError_eq_ok_iff.mp h
  have hperm := perm_scalars_ofDocument (Toml.isValid_of_parse? hdocument) hread
  refine ⟨hperm, ?_⟩
  rw [← List.flatMap_eq_nil_iff]
  constructor
  · intro hkept
    have hlength := (hperm.symm.trans hkept).length_eq
    rw [List.length_append] at hlength
    exact List.eq_nil_of_length_eq_zero (Nat.add_eq_left.mp hlength)
  · intro hnone
    rwa [hnone, List.append_nil] at hperm

end Layer

end FolderScript

namespace FolderScript.KeptWitness

open Toml (Entries Scalar Value)

/-- Dotted keys, the last field first. -/
def dotted : String := "runner.timeout_secs = 60\nrunner.interpreter = 'ruby'\n"

/-- An array with a value too many. -/
def overlong : String := "runner = ['a', 'b', 'c', 1, 'd']\n"

theorem perm_scalars_iff_dotted : ∃ document layer,
    Toml.parse? dotted = some document ∧ Layer.parse dotted = .ok layer ∧
      document.scalars = [.integer 60, .string "ruby"] ∧
      layer.scalars = [.string "ruby", .integer 60] ∧ document.scalars.Perm layer.scalars := by
  have hscalars : (Toml.parse? dotted).map Entries.scalars =
      some [.integer 60, .string "ruby"] := by decide +kernel
  have hfields : (Layer.parse dotted).toOption.map Layer.scalars =
      some [.string "ruby", .integer 60] := by decide +kernel
  have hsurplus : ((Toml.parse? dotted).map fun document => (Layer.surplus document).length) =
      some 0 := by decide +kernel
  obtain ⟨document, hdocument, hscalars⟩ := Option.map_eq_some_iff.mp hscalars
  obtain ⟨layer, hlayer, hfields⟩ := Option.map_eq_some_iff.mp hfields
  rw [toOption_eq_some_iff] at hlayer
  rw [hdocument, Option.map_some, Option.some.injEq, List.length_eq_zero_iff] at hsurplus
  obtain ⟨-, hkept⟩ := Layer.perm_scalars_iff hdocument hlayer
  exact ⟨document, layer, hdocument, hlayer, hscalars, hfields, hkept.mpr (by simp [hsurplus])⟩

/-- The last item of the array is in no field. -/
theorem overlong_array_read : ∃ document layer,
    Toml.parse? overlong = some document ∧ Layer.parse overlong = .ok layer ∧
      .string "d" ∈ document.scalars ∧ .string "d" ∉ layer.scalars ∧
      document.scalars.length = 5 ∧ layer.scalars.length = 4 := by
  have hscalars : (Toml.parse? overlong).map Entries.scalars =
      some [.string "a", .string "b", .string "c", .integer 1, .string "d"] := by decide +kernel
  have hfields : (Layer.parse overlong).toOption.map Layer.scalars =
      some [.string "a", .string "b", .string "c", .integer 1] := by decide +kernel
  obtain ⟨document, hdocument, hscalars⟩ := Option.map_eq_some_iff.mp hscalars
  obtain ⟨layer, hlayer, hfields⟩ := Option.map_eq_some_iff.mp hfields
  refine ⟨document, layer, hdocument, toOption_eq_some_iff.mp hlayer, ?_⟩
  rw [hscalars, hfields]
  decide

end FolderScript.KeptWitness
