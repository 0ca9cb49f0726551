/-
What is read from a text is valid.  Each reader refuses, or gives a valid value; so every
document that can be read is valid.
-/
import FolderScript.Proofs.Toml.Validity
import FolderScript.Toml.Document

namespace FolderScript.Toml

/-- A reader's result, if it has read anything, is a value with a property. -/
inductive Gives {α : Type} (p : α → Prop) : Option (α × List Char) → Prop
  | none : Gives p none
  | some {value : α} {rest : List Char} : p value → Gives p (some (value, rest))

namespace Gives

variable {α β : Type} {p : α → Prop} {q : β → Prop} {result : Option (α × List Char)}

theorem of_eq_some (h : Gives p result) {value : α} {rest : List Char}
    (hresult : result = Option.some (value, rest)) : p value := by
  subst hresult
  cases h with
  | some hvalue => exact hvalue

theorem map {change : α × List Char → β × List Char} (h : Gives p result)
    (hchange : ∀ value rest, p value → q (change (value, rest)).1) :
    Gives q (result.map change) := by
  cases h with
  | none => exact .none
  | some hvalue => exact .some (hchange _ _ hvalue)

/-- What is made of anything has the property if whatever is made so has it. -/
theorem of_map {γ : Type} {change : γ → α × List Char} (h : ∀ found, p (change found).1)
    (found? : Option γ) : Gives p (found?.map change) := by
  cases found? with
  | none => exact .none
  | some found => exact .some (h found)

end Gives

/-- All that a reader can read has a property. -/
def Reads {α : Type} (reader : Reader α) (p : α → Prop) : Prop :=
  ∀ input, Gives p (reader input)

theorem reads_basedInteger (base : Nat) (isDigit : Char → Bool) :
    Reads (basedInteger base isDigit) Scalar.IsValid := by
  intro input
  unfold basedInteger
  split
  · exact .none
  · dsimp only
    split
    · exact .some (by assumption)
    · exact .none

theorem reads_integer : Reads integer Scalar.IsValid := by
  intro input
  unfold integer
  split
  · exact reads_basedInteger 16 _ _
  · exact reads_basedInteger 8 _ _
  · exact reads_basedInteger 2 _ _
  · dsimp only
    split
    · exact .none
    · split
      · exact .some (by assumption)
      · exact .none

theorem reads_special : Reads special Scalar.IsValid := by
  intro input
  unfold special
  dsimp only
  split
  · exact .some trivial
  · exact .some trivial
  · exact .none

theorem reads_float : Reads float Scalar.IsValid := by
  intro input
  unfold float
  dsimp only
  split
  · exact .none
  · split
    · exact .none
    · split
      · exact .none
      · split
        · exact .none
        · split
          · exact .none
          · exact .some trivial

theorem reads_moment : Reads moment Scalar.IsValid :=
  fun _ => Gives.of_map (fun _ => trivial) _

theorem reads_numeral : Reads numeral Scalar.IsValid := by
  intro input
  unfold numeral
  split
  · exact .some ((reads_moment input).of_eq_some (by assumption))
  · split
    · exact .some ((reads_float input).of_eq_some (by assumption))
    · split
      · exact .some ((reads_special input).of_eq_some (by assumption))
      · exact reads_integer input

theorem reads_scalarValue : Reads scalarValue Value.IsValid := by
  intro input
  refine Gives.map ?_ fun _ _ => Value.IsValid.scalar
  split
  · exact .some trivial
  · exact .some trivial
  · exact Gives.of_map (fun _ => trivial) _
  · exact Gives.of_map (fun _ => trivial) _
  · exact reads_numeral _

section

variable {reader : Reader Value} (hreader : Reads reader Value.IsValid)

include hreader

theorem reads_items (fuel : Nat) :
    Reads (items reader fuel) fun found => ∀ item ∈ found, item.IsValid := by
  induction fuel with
  | zero => exact fun _ => .none
  | succ fuel ih =>
      intro input
      rw [items]
      split
      · exact .none
      · exact .some (by simp)
      · split
        · exact .none
        · rename_i item after hitem
          have hvalid := (hreader _).of_eq_some hitem
          split
          · exact .some (List.forall_mem_singleton.mpr hvalid)
          · exact (ih _).map fun _ _ hothers => List.forall_mem_cons.mpr ⟨hvalid, hothers⟩
          · exact .none

theorem reads_pair : Reads (pair reader) fun found => found.2.2.IsValid := by
  intro input
  unfold pair
  split
  · exact .none
  · split
    · exact (hreader _).map fun _ _ => id
    · exact .none

theorem reads_pairs (fuel : Nat) :
    Reads (pairs reader fuel) fun found => ∀ pair ∈ found, pair.2.2.IsValid := by
  induction fuel with
  | zero => exact fun _ => .none
  | succ fuel ih =>
      intro input
      rw [pairs]
      split
      · exact .none
      · rename_i first after hfirst
        have hvalid := (reads_pair hreader _).of_eq_some hfirst
        split
        · exact .some (List.forall_mem_singleton.mpr hvalid)
        · exact (ih _).map fun _ _ hothers => List.forall_mem_cons.mpr ⟨hvalid, hothers⟩
        · exact .none

theorem reads_inlineTable : Reads (inlineTable reader) Value.IsValid := by
  intro input
  unfold inlineTable
  split
  · exact .some (Entries.isValid_nil.table .inline)
  · split
    · exact .none
    · rename_i found after hfound
      have hpairs := (reads_pairs hreader _ _).of_eq_some hfound
      cases hentries : Entries.ofPairs? found with
      | none => exact .none
      | some entries => exact .some ((Entries.isValid_ofPairs? hpairs hentries).table .inline)

end

theorem reads_value (depth : Nat) : Reads (value depth) Value.IsValid := by
  induction depth with
  | zero => exact reads_scalarValue
  | succ depth ih =>
      intro input
      unfold value
      split
      · exact (reads_items ih _ _).map fun _ _ => Value.IsValid.array
      · exact reads_inlineTable ih _
      · exact reads_scalarValue _

theorem reads_header : Reads header Statement.IsValid := by
  intro input
  unfold header
  split
  · split
    · exact .none
    · split
      · exact .some trivial
      · exact .none
  · split
    · exact .none
    · split
      · exact .some trivial
      · exact .none

theorem reads_statement : Reads statement Statement.IsValid := by
  intro input
  unfold statement
  split
  · exact reads_header _
  · exact (reads_pair (reads_value nestingLimit) _).map fun _ _ => id

theorem isValid_of_mem_statements {fuel : Nat} {input : List Char} {found : List Statement}
    (h : statements fuel input = some found) : ∀ statement ∈ found, statement.IsValid := by
  induction fuel generalizing input found with
  | zero => cases h
  | succ fuel ih =>
      rw [statements] at h
      split at h
      · cases h
      · obtain rfl := Option.some.inj h
        simp
      · split at h
        · cases h
        · rename_i first after hfirst
          have hvalid := (reads_statement _).of_eq_some hfirst
          split at h
          · cases h
          · obtain ⟨others, hothers, rfl⟩ := Option.map_eq_some_iff.mp h
            exact List.forall_mem_cons.mpr ⟨hvalid, ih hothers⟩

/-- In a document that has been read, every key stands once in its table and every integer
fits into 64 bits. -/
theorem isValid_of_parse? {text : String} {document : Entries} (h : parse? text = some document) :
    document.IsValid := by
  obtain ⟨found, hfound, hdocument⟩ := Option.bind_eq_some_iff.mp h
  exact Entries.isValid_ofStatements? (isValid_of_mem_statements hfound) hdocument

end FolderScript.Toml
