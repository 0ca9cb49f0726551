/-
Variables that hold several values, by numbers or by keys.
-/
import FolderScript.Machine.Shell.Script

namespace FolderScript.Shell

/-- The values of a variable that holds several. -/
inductive Store where
  /-- By numbers, in order. -/
  | indexed (entries : List (Nat × Text))
  /-- By keys, in the order in which they came. -/
  | keyed (entries : List (Text × Text))
  deriving DecidableEq, Repr

namespace Store

/-- The place of a key in a table of 1024 places. -/
def bucket (key : Text) : Nat :=
  (key.foldl (fun hash char => Nat.xor (hash * 16777619 % 4294967296) char.toNat) 2166136261)
    % 1024

/-- Entries by keys in the order in which the table gives them: by their places, of two
at one place the later first. -/
def inOrder (entries : List (Text × Text)) : List (Text × Text) :=
  entries.reverse.mergeSort fun left right => bucket left.1 ≤ bucket right.1

/-- The keys with their values. -/
def entries : Store → List (Text × Text)
  | .indexed entries => entries.map fun (index, value) => (Text.ofNat index, value)
  | .keyed entries => inOrder entries

def keys (store : Store) : List Text := store.entries.map Prod.fst

def values (store : Store) : List Text := store.entries.map Prod.snd

/-- How many values there are. -/
def size : Store → Nat
  | .indexed entries => entries.length
  | .keyed entries => entries.length

/-- One more than the highest number. -/
def limit : Store → Nat
  | .indexed entries => (entries.getLast?.map fun entry => entry.1 + 1).getD 0
  | .keyed _ => 0

def get? (store : Store) (key : Text) : Option Text :=
  match store with
  | .indexed entries => (Text.toNat? key).bind fun index => List.lookup index entries
  | .keyed entries => List.lookup key entries

def putAt (index : Nat) (value : Text) : List (Nat × Text) → List (Nat × Text)
  | [] => [(index, value)]
  | (other, old) :: rest =>
      if other < index then (other, old) :: putAt index value rest
      else if other = index then (index, value) :: rest
      else (index, value) :: (other, old) :: rest

def put (store : Store) (key value : Text) : Store :=
  match store with
  | .indexed entries =>
      match Text.toNat? key with
      | some index =>
          if store.limit ≤ index then .indexed (entries ++ [(index, value)])
          else .indexed (putAt index value entries)
      | none => store
  | .keyed entries =>
      if (List.lookup key entries).isSome then
        .keyed (entries.map fun entry => if entry.1 = key then (key, value) else entry)
      else .keyed (entries ++ [(key, value)])

/-- Removes the value at a key. -/
def erase (store : Store) (key : Text) : Store :=
  match store with
  | .indexed entries => .indexed (entries.filter fun entry => some entry.1 ≠ Text.toNat? key)
  | .keyed entries => .keyed (entries.filter fun entry => entry.1 ≠ key)

def ofList (values : List Text) : Store :=
  .indexed (values.zipIdx.map fun (value, index) => (index, value))

/-- A list comes back as the values of its store. -/
theorem values_ofList (values : List Text) : (ofList values).values = values := by
  simp only [ofList, Store.values, entries, List.map_map]
  calc values.zipIdx.map _ = values.zipIdx.map Prod.fst := List.map_congr_left fun _ _ => rfl
    _ = values := List.zipIdx_map_fst ..

/-- What was put at a key is found there. -/
theorem get?_put_keyed (entries : List (Text × Text)) (key value : Text) :
    ((keyed entries).put key value).get? key = some value := by
  by_cases h : (List.lookup key entries).isSome
  · simp only [put, h, if_true, get?]
    induction entries with
    | nil => simp at h
    | cons entry rest ih =>
        obtain ⟨other, old⟩ := entry
        by_cases same : other = key
        · subst same
          simp
        · have differs : (key == other) = false := by
            simp [Ne.symm same]
          simp only [List.lookup_cons, differs] at h
          simp [List.lookup_cons, same, differs, ih h]
  · have missing : List.lookup key entries = none := Option.not_isSome_iff_eq_none.1 h
    simp only [put, h, get?]
    simp only [Bool.false_eq_true, if_false]
    induction entries with
    | nil => simp
    | cons entry rest ih =>
        obtain ⟨other, old⟩ := entry
        by_cases same : key = other
        · subst same
          simp at missing
        · have differs : (key == other) = false := by simp [same]
          simp only [List.lookup_cons, differs] at missing
          have away : ¬(List.lookup key rest).isSome = true := by rw [missing]; simp
          simp [List.lookup_cons, differs, ih away missing]

end Store

end FolderScript.Shell
