/-
The laws of tables.  The chains that tell in which order a table is gone through are kept
up by every use of it, and none of that shows in the values: a table holds what was put
under a key last.
-/
import FolderScript.Machine.Awk.Table
import Mathlib.Tactic.Common

namespace FolderScript.Awk

open Shell (Text)

namespace Table

variable (table : Table) (key other : Key)

@[simp] theorem values_spell : table.spell.values = table.values := by
  unfold spell
  split <;> rfl

@[simp] theorem values_grown : table.grown.values = table.values := by
  unfold grown
  dsimp only
  split <;> rfl

@[simp] theorem values_used : (table.used key).values = table.values := by
  cases key with
  | spelled text => exact values_spell table
  | number value => rfl

theorem values_visited :
    (table.visited key).values =
      if table.values.contains key.text then table.values
      else table.values.insert key.text .unset := by
  unfold visited
  dsimp only
  split
  · exact values_used table key
  · cases key <;> simp

theorem values_put (value : Value) :
    (table.put key value).values = (table.visited key).values.insert key.text value := rfl

/-- Looking a key up changes no value. -/
@[simp] theorem get_visited : (table.visited key).get other = table.get other := by
  rw [get, get, values_visited]
  split
  · rfl
  · next habsent =>
      rw [Std.HashMap.getElem?_insert]
      split
      · next hsame =>
          have hnone : table.values[other.text]? = none := by
            rw [← beq_iff_eq.mp hsame]
            exact Std.HashMap.getElem?_eq_none (by simpa using habsent)
          rw [hnone]
          rfl
      · rfl

theorem contains_visited :
    (table.visited key).contains other = (key.text == other.text || table.contains other) := by
  rw [contains, contains, values_visited]
  split
  · next hpresent =>
      by_cases hsame : key.text = other.text
      · rw [← hsame, hpresent]
        simp
      · simp [hsame]
  · rw [Std.HashMap.contains_insert]

/-- A table holds what was put under a key last. -/
theorem get_put (value : Value) :
    (table.put key value).get other = if key.text = other.text then value else table.get other := by
  rw [get, values_put, Std.HashMap.getElem?_insert]
  by_cases hsame : key.text = other.text
  · simp [hsame]
  · rw [if_neg (by simpa using hsame), if_neg hsame]
    exact get_visited table key other

theorem contains_put (value : Value) :
    (table.put key value).contains other = (key.text == other.text || table.contains other) := by
  rw [contains, values_put, Std.HashMap.contains_insert, ← contains, contains_visited,
    ← Bool.or_assoc, Bool.or_self]

theorem getElem?_erase (text : Text) :
    (table.erase key).values[text]? = if key.text = text then none else table.values[text]? := by
  have herased : (table.values.erase key.text)[text]? =
      if key.text = text then none else table.values[text]? := by
    rw [Std.HashMap.getElem?_erase]
    simp only [beq_iff_eq]
  unfold erase
  dsimp only
  split
  · next habsent =>
      by_cases hsame : key.text = text
      · rw [if_pos hsame, ← hsame]
        exact Std.HashMap.getElem?_eq_none (by simpa using habsent)
      · rw [if_neg hsame]
  · rw [values_used]
    split
    · next hempty =>
        rw [← herased, Std.HashMap.getElem?_of_isEmpty hempty]
        exact Std.HashMap.getElem?_empty
    · exact herased

/-- What is taken out of a table is not there any more, and all else still is. -/
theorem contains_erase :
    (table.erase key).contains other = (!(key.text == other.text) && table.contains other) := by
  rw [contains, contains, Std.HashMap.contains_eq_isSome_getElem?,
    Std.HashMap.contains_eq_isSome_getElem?, getElem?_erase]
  by_cases hsame : key.text = other.text <;> simp [hsame]

theorem get_erase :
    (table.erase key).get other = if key.text = other.text then .unset else table.get other := by
  rw [get, get, getElem?_erase]
  split <;> rfl

end Table

end FolderScript.Awk
