/-
Valid documents: in each table a key stands once, and integers fit into 64 bits.  What
statements build from valid values is valid, and in a valid table the order of the keys
does not matter for what stands under them.
-/
import FolderScript.Toml.Numbers
import FolderScript.Toml.Value
import Mathlib.Data.List.Nodup

namespace FolderScript.Toml

/-- An integer of a document fits into 64 bits. -/
def Scalar.IsValid : Scalar → Prop
  | .integer value => fitsInteger value = true
  | _ => True

/-- Everywhere in a value, keys stand once and integers fit. -/
inductive Value.IsValid : Value → Prop
  | scalar {value : Scalar} : value.IsValid → IsValid (.scalar value)
  | array {form : ArrayForm} {items : List Value} :
      (∀ item ∈ items, IsValid item) → IsValid (.array form items)
  | table {form : TableForm} {entries : List (String × Value)} :
      (entries.map Prod.fst).Nodup → (∀ entry ∈ entries, IsValid entry.2) →
        IsValid (.table form entries)

namespace Entries

/-- The keys of a table, in order. -/
def keys (entries : Entries) : List String := entries.map Prod.fst

/-- A table in which keys stand once and all values are valid. -/
structure IsValid (entries : Entries) : Prop where
  keys : entries.keys.Nodup
  values : ∀ entry ∈ entries, entry.2.IsValid

variable {entries result : Entries} {key : String}

theorem IsValid.table (h : entries.IsValid) (form : TableForm) :
    (Value.table form entries).IsValid :=
  .table h.keys h.values

theorem isValid_of_table {form : TableForm} (h : (Value.table form entries).IsValid) :
    entries.IsValid := by
  cases h with
  | table hkeys hvalues => exact ⟨hkeys, hvalues⟩

theorem isValid_nil : IsValid [] := ⟨List.nodup_nil, by simp⟩

theorem IsValid.of_cons {entry : String × Value} (h : IsValid (entry :: entries)) :
    entry.1 ∉ entries.keys ∧ entry.2.IsValid ∧ entries.IsValid := by
  obtain ⟨hkeys, hvalues⟩ := h
  obtain ⟨hfirst, hrest⟩ := List.nodup_cons.mp hkeys
  exact ⟨hfirst, hvalues entry List.mem_cons_self, hrest,
    fun other hother => hvalues other (List.mem_cons_of_mem entry hother)⟩

theorem IsValid.cons {entry : String × Value} (h : entries.IsValid)
    (hkey : entry.1 ∉ entries.keys) (hvalue : entry.2.IsValid) : IsValid (entry :: entries) :=
  ⟨List.nodup_cons.mpr ⟨hkey, h.keys⟩, List.forall_mem_cons.mpr ⟨hvalue, h.values⟩⟩

/-- A change at a key adds no other key. -/
theorem mem_keys_of_alter {change : Option Value → Option Value} {other : String}
    (h : alter key change entries = some result) (hother : other ∈ result.keys) :
    other = key ∨ other ∈ entries.keys := by
  induction entries generalizing result with
  | nil =>
      obtain ⟨value, -, rfl⟩ := Option.map_eq_some_iff.mp h
      exact .inl (List.mem_singleton.mp hother)
  | cons entry rest ih =>
      rw [alter] at h
      split at h
      · obtain ⟨value, -, rfl⟩ := Option.map_eq_some_iff.mp h
        exact .inr hother
      · obtain ⟨altered, haltered, rfl⟩ := Option.map_eq_some_iff.mp h
        rcases List.mem_cons.mp hother with rfl | hother
        · exact .inr List.mem_cons_self
        · exact (ih haltered hother).imp_right (List.mem_cons_of_mem _)

/-- A change that makes valid values of valid ones, and of none, keeps a table valid. -/
theorem isValid_alter {change : Option Value → Option Value} (hentries : entries.IsValid)
    (hnew : ∀ value, change none = some value → value.IsValid)
    (hold : ∀ old value, old.IsValid → change (some old) = some value → value.IsValid)
    (h : alter key change entries = some result) : result.IsValid := by
  induction entries generalizing result with
  | nil =>
      obtain ⟨value, hvalue, rfl⟩ := Option.map_eq_some_iff.mp h
      exact isValid_nil.cons (by simp [keys]) (hnew value hvalue)
  | cons entry rest ih =>
      obtain ⟨hfirst, hvalue, hrest⟩ := hentries.of_cons
      rw [alter] at h
      split at h
      · obtain ⟨changed, hchanged, rfl⟩ := Option.map_eq_some_iff.mp h
        exact hrest.cons hfirst (hold _ changed hvalue hchanged)
      · rename_i hne
        obtain ⟨altered, haltered, rfl⟩ := Option.map_eq_some_iff.mp h
        refine (ih hrest haltered).cons (fun hmem => ?_) hvalue
        exact (mem_keys_of_alter haltered hmem).elim hne hfirst

/-- A change of tables that keeps them valid does so wherever it is carried out. -/
theorem isValid_within {dotted : Bool} {change : TableForm → Entries → Option Entries}
    (hchange : ∀ form entries result, IsValid entries → change form entries = some result →
      IsValid result)
    {path : List String} {form : TableForm} (hentries : entries.IsValid)
    (h : within dotted change path form entries = some result) : result.IsValid := by
  induction path generalizing form entries result with
  | nil => exact hchange form entries result hentries h
  | cons key path ih =>
      rw [within] at h
      refine isValid_alter hentries (fun value hvalue => ?_) (fun old value hold hvalue => ?_) h
      · obtain ⟨inner, hinner, rfl⟩ := Option.map_eq_some_iff.mp hvalue
        exact (ih isValid_nil hinner).table _
      · dsimp only at hvalue
        split at hvalue
        · contradiction
        · rename_i form inner heq
          obtain rfl := Option.some.inj heq
          split at hvalue
          · contradiction
          · obtain ⟨changed, hchanged, rfl⟩ := Option.map_eq_some_iff.mp hvalue
            exact (ih (isValid_of_table hold) hchanged).table form
        · rename_i items heq
          obtain rfl := Option.some.inj heq
          cases hold with
          | array hitems =>
              split at hvalue
              · rename_i form inner hlast
                obtain ⟨changed, hchanged, rfl⟩ := Option.map_eq_some_iff.mp hvalue
                have hinner := isValid_of_table (hitems _ (List.mem_of_getLast? hlast))
                refine .array fun item hitem => ?_
                rcases List.mem_append.mp hitem with hitem | hitem
                · exact hitems item (List.dropLast_subset _ hitem)
                · exact List.mem_singleton.mp hitem ▸ (ih hinner hchanged).table form
              · contradiction
        · contradiction

theorem isValid_addNew {value : Value} (hentries : entries.IsValid) (hvalue : value.IsValid)
    (h : addNew key value entries = some result) : result.IsValid := by
  refine isValid_alter hentries (fun other hother => ?_) (fun _ _ _ hother => ?_) h
  · exact Option.some.inj hother ▸ hvalue
  · contradiction

theorem isValid_assign {path : List String} {value : Value} (hentries : entries.IsValid)
    (hvalue : value.IsValid) (h : entries.assign path key value = some result) :
    result.IsValid := by
  refine isValid_within (fun form inner changed hinner hchanged => ?_) hentries h
  split at hchanged
  · exact isValid_addNew hinner hvalue hchanged
  · contradiction

theorem IsValid.concat {value : Value} (h : entries.IsValid) (hkey : key ∉ entries.keys)
    (hvalue : value.IsValid) : IsValid (entries ++ [(key, value)]) := by
  refine ⟨?_, ?_⟩
  · have hkeys : Entries.keys (entries ++ [(key, value)]) = entries.keys ++ [key] :=
      List.map_append
    rw [hkeys]
    exact List.Nodup.append h.keys (List.nodup_singleton key) (by simpa using hkey)
  · intro entry hentry
    rcases List.mem_append.mp hentry with hentry | hentry
    · exact h.values entry hentry
    · exact List.mem_singleton.mp hentry ▸ hvalue

theorem IsValid.filter (h : entries.IsValid) (p : String × Value → Bool) :
    IsValid (List.filter p entries) :=
  ⟨h.keys.sublist (List.filter_sublist.map _),
    fun entry hentry => h.values entry (List.mem_filter.mp hentry).1⟩

theorem get?_eq_none_iff : entries.get? key = none ↔ key ∉ entries.keys := by
  simp only [get?, keys, List.lookup_eq_none_iff, List.mem_map, not_exists, not_and, bne_iff_ne]
  exact forall₂_congr fun entry _ => ne_comm

theorem mem_of_get? {value : Value} (h : entries.get? key = some value) :
    (key, value) ∈ entries := by
  obtain ⟨front, back, rfl, -⟩ := List.lookup_eq_some_iff.mp h
  simp

theorem get?_cons (entry : String × Value) (entries : Entries) (key : String) :
    get? (entry :: entries) key = if key = entry.1 then some entry.2 else entries.get? key := by
  obtain ⟨other, value⟩ := entry
  rw [get?, List.lookup_cons]
  by_cases h : key = other
  · simp [h]
  · simp [h, beq_eq_false_iff_ne.mpr h, get?]

/-- Where keys stand once, an entry can be found under its key. -/
theorem get?_of_mem {value : Value} (hkeys : entries.keys.Nodup) (h : (key, value) ∈ entries) :
    entries.get? key = some value := by
  induction entries with
  | nil => contradiction
  | cons entry rest ih =>
      obtain ⟨hfirst, hrest⟩ := List.nodup_cons.mp hkeys
      rw [get?_cons]
      rcases List.mem_cons.mp h with rfl | h
      · rw [if_pos rfl]
      · have hne : key ≠ entry.1 := fun heq => hfirst (List.mem_map.mpr ⟨_, h, heq⟩)
        rw [if_neg hne, ih hrest h]

/-- Where keys stand once, their order does not matter for what stands under them. -/
theorem get?_perm {others : Entries} (hkeys : entries.keys.Nodup) (h : entries.Perm others) :
    entries.get? = others.get? := by
  have hothers : others.keys.Nodup := (h.map Prod.fst).nodup_iff.mp hkeys
  funext key
  refine Option.ext fun value => ⟨fun hvalue => ?_, fun hvalue => ?_⟩
  · exact get?_of_mem hothers (h.mem_iff.mp (mem_of_get? hvalue))
  · exact get?_of_mem hkeys (h.mem_iff.mpr (mem_of_get? hvalue))

theorem IsValid.perm {others : Entries} (hvalid : entries.IsValid) (h : entries.Perm others) :
    others.IsValid :=
  ⟨(h.map Prod.fst).nodup_iff.mp hvalid.keys,
    fun entry hentry => hvalid.values entry (h.mem_iff.mpr hentry)⟩

end Entries

/-- What every step of a fold that may stop keeps, the whole fold keeps. -/
theorem foldlM_keeps {σ α : Type} {step : σ → α → Option σ} {p : σ → Prop} {q : α → Prop}
    (hstep : ∀ state x after, p state → q x → step state x = some after → p after)
    {xs : List α} (hxs : ∀ x ∈ xs, q x) {state last : σ} (hstate : p state)
    (h : xs.foldlM step state = some last) : p last := by
  induction xs generalizing state with
  | nil => exact Option.some.inj h ▸ hstate
  | cons x rest ih =>
      obtain ⟨hx, hrest⟩ := List.forall_mem_cons.mp hxs
      rw [List.foldlM_cons, Option.bind_eq_bind, Option.bind_eq_some_iff] at h
      obtain ⟨after, hafter, h⟩ := h
      exact ih hrest (hstep state x after hstate hx hafter) h

theorem Entries.isValid_ofPairs? {pairs : List (List String × String × Value)}
    {result : Entries} (hpairs : ∀ pair ∈ pairs, pair.2.2.IsValid)
    (h : ofPairs? pairs = some result) : result.IsValid := by
  refine foldlM_keeps (p := IsValid) ?_ hpairs isValid_nil h
  rintro entries ⟨path, key, value⟩ after hentries hvalue hafter
  exact isValid_assign hentries hvalue hafter

/-- The value that a statement sets is valid. -/
def Statement.IsValid : Statement → Prop
  | .assign _ _ value => value.IsValid
  | .openTable .. | .openArray .. => True

theorem Draft.isValid_execute {draft after : Draft} {statement : Statement}
    (hdraft : draft.entries.IsValid) (hstatement : statement.IsValid)
    (h : draft.execute statement = some after) : after.entries.IsValid := by
  have hempty (form : TableForm) : (Value.table form []).IsValid := Entries.isValid_nil.table form
  cases statement with
  | openTable path key =>
      obtain ⟨entries, hentries, rfl⟩ := Option.map_eq_some_iff.mp h
      refine Entries.isValid_within (fun form inner changed hinner hchanged => ?_) hdraft hentries
      split at hchanged
      · rename_i hget
        exact Option.some.inj hchanged ▸
          hinner.concat (Entries.get?_eq_none_iff.mp hget) (hempty .header)
      · rename_i opened hget
        have hopened := Entries.isValid_of_table (hinner.values _ (Entries.mem_of_get? hget))
        obtain rfl := Option.some.inj hchanged
        refine (hinner.filter _).concat ?_ (hopened.table .header)
        intro hmem
        obtain ⟨entry, hentry, rfl⟩ := List.mem_map.mp hmem
        simpa using (List.mem_filter.mp hentry).2
      · contradiction
  | openArray path key =>
      obtain ⟨entries, hentries, rfl⟩ := Option.map_eq_some_iff.mp h
      refine Entries.isValid_within (fun form inner changed hinner hchanged => ?_) hdraft hentries
      refine Entries.isValid_alter hinner (fun value hvalue => ?_) (fun old value hold hvalue => ?_)
        hchanged
      · obtain rfl := Option.some.inj hvalue
        exact .array fun item hitem => List.mem_singleton.mp hitem ▸ hempty .header
      · split at hvalue
        · contradiction
        · rename_i items heq
          obtain rfl := Option.some.inj heq
          obtain rfl := Option.some.inj hvalue
          cases hold with
          | array hitems =>
              refine .array fun item hitem => ?_
              rcases List.mem_append.mp hitem with hitem | hitem
              · exact hitems item hitem
              · exact List.mem_singleton.mp hitem ▸ hempty .header
        · contradiction
  | assign path key value =>
      obtain ⟨entries, hentries, rfl⟩ := Option.map_eq_some_iff.mp h
      exact Entries.isValid_within (fun form inner changed hinner hchanged =>
        Entries.isValid_assign hinner hstatement hchanged) hdraft hentries

theorem Entries.isValid_ofStatements? {statements : List Statement} {document : Entries}
    (hstatements : ∀ statement ∈ statements, statement.IsValid)
    (h : ofStatements? statements = some document) : document.IsValid := by
  obtain ⟨draft, hdraft, rfl⟩ := Option.map_eq_some_iff.mp h
  refine foldlM_keeps (p := fun draft : Draft => draft.entries.IsValid) ?_ hstatements
    isValid_nil hdraft
  exact fun before statement after hbefore hstatement hafter =>
    Draft.isValid_execute hbefore hstatement hafter

end FolderScript.Toml
