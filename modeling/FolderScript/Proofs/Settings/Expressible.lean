/-
What a settings file can say.  The layers that files come to are those whose working directory
is a text and whose time limit is an integer of a document: such a layer is written out and
read back, and no file comes to another.
-/
import FolderScript.Proofs.Settings.Fields
import FolderScript.Proofs.Path
import FolderScript.Proofs.Toml.Lines
import FolderScript.Proofs.Toml.Reading
import Mathlib.Algebra.Group.Nat.Defs

namespace FolderScript.Layer

open Toml (Entries Scalar Value Spells IsBareKey)

/-- A layer that can be said in a settings file. -/
structure IsExpressible (layer : Layer) : Prop where
  workingDirectory : ∀ path, layer.workingDirectory = some path → path.text?.isSome
  timeout : ∀ seconds, layer.timeout = some seconds → seconds.toNat ≤ 2 ^ 63 - 1

/-- A field of a settings file: the key, the value as it is written, and the value. -/
structure Field where
  key : String
  chars : List Char
  scalar : Scalar

namespace Field

def ofText (key text : String) : Field := ⟨key, Toml.quoted text, .string text⟩

def ofNumber (key : String) (number : Nat) : Field :=
  ⟨key, Nat.toDigits 10 number, .integer number⟩

def entry (field : Field) : String × Value := (field.key, .scalar field.scalar)

def line (field : Field) : List Char := Toml.assignmentLine field.key field.chars

end Field

variable {layer : Layer}

def fields (layer : Layer) : List Field :=
  (layer.interpreter.map (Field.ofText "interpreter")).toList ++
    ((layer.scriptPath.map (Field.ofText "script_path")).toList ++
      ((layer.workingDirectory.map fun path =>
          Field.ofText "working_directory" path.display).toList ++
        (layer.timeout.map fun seconds =>
          Field.ofNumber "timeout_secs" seconds.toNat).toList))

def written (layer : Layer) : String :=
  String.ofList (Toml.ended (Toml.headerLine "runner" :: layer.fields.map Field.line))

theorem keys_toList {α : Type} (given : Option α) (field : α → Field) {key : String}
    (h : ∀ x, (field x).key = key) :
    ((given.map field).toList.map Field.key).Sublist [key] := by
  cases given with
  | none => exact List.nil_sublist _
  | some x => exact h x ▸ List.Sublist.refl _

/-- The fields stand in their order. -/
theorem keys_fields (layer : Layer) : (layer.fields.map Field.key).Sublist fieldKeys := by
  have hinterpreter := keys_toList layer.interpreter (Field.ofText "interpreter") fun _ => rfl
  have hscript := keys_toList layer.scriptPath (Field.ofText "script_path") fun _ => rfl
  have hdirectory := keys_toList layer.workingDirectory
    (fun path => Field.ofText "working_directory" path.display) fun _ => rfl
  have htimeout := keys_toList layer.timeout
    (fun seconds => Field.ofNumber "timeout_secs" seconds.toNat) fun _ => rfl
  simp only [fields, List.map_append]
  exact hinterpreter.append (hscript.append (hdirectory.append htimeout))

theorem isBareKey_of_mem {key : String} (h : key ∈ fieldKeys) : IsBareKey key where
  ne_nil := by
    have hkeys : ∀ key ∈ fieldKeys, key.toList ≠ [] := by decide
    exact hkeys key h
  bare := by
    have hkeys : ∀ key ∈ fieldKeys, key.toList.all Toml.isBare = true := by decide
    exact hkeys key h

theorem spells_fields (h : layer.IsExpressible) {field : Field} (hfield : field ∈ layer.fields) :
    Spells field.chars field.scalar := by
  simp only [fields, List.mem_append, Option.mem_toList, Option.map_eq_some_iff] at hfield
  rcases hfield with ⟨text, -, rfl⟩ | ⟨text, -, rfl⟩ | ⟨path, -, rfl⟩ | ⟨seconds, hseconds, rfl⟩
  · exact Toml.spells_quoted text
  · exact Toml.spells_quoted text
  · exact Toml.spells_quoted path.display
  · refine Toml.spells_toDigits ?_
    have hlimit := h.timeout seconds hseconds
    simp only [Toml.fitsInteger, Bool.and_eq_true, decide_eq_true_eq]
    omega

theorem parse?_written (h : layer.IsExpressible) :
    Toml.parse? layer.written =
      some [("runner", .table .header (layer.fields.map Field.entry))] := by
  refine Toml.parse?_table ⟨by decide, by decide⟩ ?_ ?_
  · have hkeys : Entries.keys (layer.fields.map Field.entry) = layer.fields.map Field.key :=
      List.map_map
    rw [hkeys]
    exact List.Nodup.sublist layer.keys_fields (by decide)
  · rw [List.forall₂_map_left_iff, List.map_map, List.forall₂_map_right_iff, List.forall₂_same]
    intro field hfield
    have hkey := layer.keys_fields.subset (List.mem_map_of_mem hfield)
    exact Toml.states_assignmentLine (isBareKey_of_mem hkey) (spells_fields h hfield)

def readFields (layer : Layer) (fields : List Field) : Except Misfit Layer :=
  fields.foldlM (fun layer field => layer.readField field.key (.scalar field.scalar)) layer

theorem ofEntries_map_entry (fields : List Field) :
    ofEntries (fields.map Field.entry) = empty.readFields fields :=
  List.foldlM_map

theorem readFields_append {next : Layer} {first second : List Field}
    (h : layer.readFields first = .ok next) :
    layer.readFields (first ++ second) = next.readFields second := by
  rw [readFields, List.foldlM_append]
  change (layer.readFields first).bind _ = _
  rw [h]
  rfl

/-- A field that may be set is set if it is. -/
theorem readFields_toList {α : Type} (given : Option α) (field : α → Field)
    (after : Option α → Layer)
    (h : ∀ x, given = some x →
      (after none).readField (field x).key (.scalar (field x).scalar) = .ok (after (some x))) :
    (after none).readFields (given.map field).toList = .ok (after given) := by
  cases given with
  | none => rfl
  | some x =>
      change ((after none).readField _ _).bind .ok = _
      rw [h x rfl]
      rfl

theorem readField_workingDirectory {path : Path} (h : path.text?.isSome) (layer : Layer) :
    layer.readField "working_directory" (.scalar (.string path.display)) =
      .ok { layer with workingDirectory := some path } := by
  obtain ⟨text, htext⟩ := Option.isSome_iff_exists.mp h
  obtain rfl := Path.ofText_of_text? htext
  rw [Path.display_ofText]
  rfl

theorem readField_timeout (seconds : UInt64) (layer : Layer) :
    layer.readField "timeout_secs" (.scalar (.integer seconds.toNat)) =
      .ok { layer with timeout := some seconds } := by
  have hread : readSeconds (.scalar (.integer seconds.toNat)) = .ok seconds := by
    rw [readSeconds, if_neg (by omega), Int.toNat_natCast, UInt64.ofNat_toNat]
  simp only [readField, hread]
  rfl

/-- The fields that a layer sets make that layer. -/
theorem ofEntries_fields (h : layer.IsExpressible) :
    ofEntries (layer.fields.map Field.entry) = .ok layer := by
  obtain ⟨interpreter, scriptPath, workingDirectory, timeout⟩ := layer
  have hinterpreter := readFields_toList interpreter (Field.ofText "interpreter")
    (fun interpreter => { interpreter }) fun _ _ => rfl
  have hscript := readFields_toList scriptPath (Field.ofText "script_path")
    (fun scriptPath => { interpreter, scriptPath }) fun _ _ => rfl
  have hdirectory := readFields_toList workingDirectory
    (fun path => Field.ofText "working_directory" path.display)
    (fun workingDirectory => { interpreter, scriptPath, workingDirectory })
    fun path hpath => readField_workingDirectory (h.workingDirectory path hpath) _
  have htimeout := readFields_toList timeout
    (fun seconds => Field.ofNumber "timeout_secs" seconds.toNat)
    (fun timeout => { interpreter, scriptPath, workingDirectory, timeout })
    fun seconds _ => readField_timeout seconds _
  rw [ofEntries_map_entry, fields]
  calc
    empty.readFields _ = _ := readFields_append hinterpreter
    _ = _ := readFields_append hscript
    _ = _ := readFields_append hdirectory
    _ = _ := htimeout

theorem parse_written (h : layer.IsExpressible) : parse layer.written = .ok layer := by
  rw [parse, parse?_written h]
  dsimp only
  rw [ofDocument_runner, ofRunner, ofEntries_fields h]
  rfl

theorem isValid_of_documentField? {document : Entries} {key : String} {value : Value}
    (hdocument : document.IsValid) (h : documentField? document key = some value) :
    value.IsValid := by
  obtain ⟨runner, hrunner, hvalue⟩ := Option.bind_eq_some_iff.mp h
  have hvalid := hdocument.values _ (Entries.mem_of_get? hrunner)
  cases hvalid with
  | scalar => contradiction
  | table hkeys hvalues => exact hvalues _ (Entries.mem_of_get? hvalue)
  | array hitems => exact (isValid_zip_fieldKeys hitems).values _ (Entries.mem_of_get? hvalue)

theorem exists_of_rel_some {α : Type} {r : Value → α → Prop} {given : Option Value} {x : α}
    (h : Option.Rel r given (some x)) : ∃ value, given = some value ∧ r value x := by
  cases h with
  | some hvalue => exact ⟨_, rfl, hvalue⟩

theorem isExpressible_of_parse {text : String} (h : parse text = .ok layer) :
    layer.IsExpressible := by
  unfold parse at h
  split at h
  · contradiction
  · rename_i document hdocument
    have hvalid := Toml.isValid_of_parse? hdocument
    have hholds := holds_ofDocument hvalid (mapError_eq_ok_iff.mp h)
    constructor
    · intro path hpath
      obtain ⟨_, -, text, -, rfl⟩ := exists_of_rel_some (hpath ▸ hholds.workingDirectory)
      rw [Path.text?_ofText]
      rfl
    · intro seconds hseconds
      obtain ⟨_, hgiven, rfl⟩ := exists_of_rel_some (hseconds ▸ hholds.timeout)
      cases isValid_of_documentField? hvalid hgiven with
      | scalar hfits =>
          simp only [Scalar.IsValid, Toml.fitsInteger, Bool.and_eq_true, decide_eq_true_eq] at hfits
          omega

/-- The layers that settings files come to are those that can be said in one. -/
theorem exists_parse_eq_ok_iff (layer : Layer) :
    (∃ text, parse text = .ok layer) ↔ layer.IsExpressible :=
  ⟨fun ⟨_, h⟩ => isExpressible_of_parse h, fun h => ⟨_, parse_written h⟩⟩

end FolderScript.Layer
