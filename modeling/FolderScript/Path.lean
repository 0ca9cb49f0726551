/-
Paths as written.  A path is a byte string; cutting it at the separator gives
its segments, and the segments that mean something are its components.
Repeated separators, inner or trailing "." and trailing separators mean
nothing, ".." is kept.
-/
import FolderScript.Text.Utf8

namespace FolderScript

/-- A path as it was written, in bytes. -/
structure Path where
  bytes : Bytes
  deriving DecidableEq, Repr

namespace Path

/-- The separator. -/
def slash : UInt8 := 0x2F

/-- The byte of "." and "..". -/
def dot : UInt8 := 0x2E

def ofText (text : String) : Path := ⟨Utf8.encode text⟩

/-- The text of the path, if it is well-formed UTF-8. -/
def text? (path : Path) : Option String := Utf8.decode? path.bytes

/-- The path as it is shown, broken bytes replaced. -/
def display (path : Path) : String := Utf8.lossy path.bytes

/-- Whether the path starts at the root. -/
def isAbsolute (path : Path) : Bool := path.bytes.head? == some slash

/-- Cuts bytes at every separator; the parts between may be empty. -/
def splitSlash : Bytes → List Bytes
  | [] => [[]]
  | byte :: rest =>
      if byte = slash then [] :: splitSlash rest
      else
        match splitSlash rest with
        | [] => [[byte]]
        | part :: parts => (byte :: part) :: parts

/-- Puts parts together with separators between them. -/
def joinSlash : List Bytes → Bytes
  | [] => []
  | [part] => part
  | part :: parts => part ++ slash :: joinSlash parts

/-- The parts of the path, after the root if it has one. -/
def segments (path : Path) : List Bytes :=
  splitSlash (if path.isAbsolute then path.bytes.tail else path.bytes)

/-- A part of a path that means something. -/
inductive Component where
  | root
  | current
  | parent
  | normal (name : Bytes)
  deriving DecidableEq, Repr

/-- What one segment means; "." counts only where it leads a relative path. -/
def Component.ofSegment? (leading : Bool) (segment : Bytes) : Option Component :=
  if segment = [] then none
  else if segment = [dot] then if leading then some .current else none
  else if segment = [dot, dot] then some .parent
  else some (.normal segment)

def Component.path : Component → Path
  | .root => ⟨[slash]⟩
  | .current => ⟨[dot]⟩
  | .parent => ⟨[dot, dot]⟩
  | .normal name => ⟨name⟩

def components (path : Path) : List Component :=
  if path.isAbsolute then
    .root :: path.segments.filterMap (Component.ofSegment? false)
  else
    match path.segments with
    | [] => []
    | first :: rest =>
        (Component.ofSegment? true first).toList ++
          rest.filterMap (Component.ofSegment? false)

/-- The child inside the base; an absolute child stands alone. -/
def join (base child : Path) : Path :=
  if child.isAbsolute then child
  else if base.bytes = [] ∨ base.bytes.getLast? = some slash then
    ⟨base.bytes ++ child.bytes⟩
  else ⟨base.bytes ++ slash :: child.bytes⟩

def ofComponents (parts : List Component) : Path :=
  parts.foldl (fun path part => path.join part.path) ⟨[]⟩

/-- The path with only its components left. -/
def normalize (path : Path) : Path := ofComponents path.components

/-- The last component, if it is a name. -/
def fileName? (path : Path) : Option Bytes :=
  match path.components.getLast? with
  | some (.normal name) => some name
  | _ => none

/-- Drops segments that mean nothing from the front of a list that holds the
segments last first. -/
def dropIdle (relative : Bool) : List Bytes → List Bytes
  | [] => []
  | segment :: rest =>
      if (Component.ofSegment? (relative && rest.isEmpty) segment).isSome then
        segment :: rest
      else dropIdle relative rest

/-- The path without its last component, otherwise as written; none for the
root and for the empty path. -/
def parent? (path : Path) : Option Path :=
  match dropIdle (!path.isAbsolute) path.segments.reverse with
  | [] => none
  | _ :: rest =>
      let kept := joinSlash (dropIdle (!path.isAbsolute) rest).reverse
      some ⟨if path.isAbsolute then slash :: kept else kept⟩

/-- The bytes that segments take up, with one separator after each. -/
def extent : List Bytes → Nat
  | [] => 0
  | segment :: rest => segment.length + 1 + extent rest

theorem extent_append (front back : List Bytes) :
    extent (front ++ back) = extent front + extent back := by
  induction front with
  | nil => simp [extent]
  | cons segment rest ih =>
      rw [List.cons_append, extent, extent, ih]
      omega

theorem extent_reverse (segments : List Bytes) :
    extent segments.reverse = extent segments := by
  induction segments with
  | nil => rfl
  | cons segment rest ih =>
      rw [List.reverse_cons, extent_append, ih]
      simp only [extent]
      omega

theorem length_joinSlash (segments : List Bytes) :
    (joinSlash segments).length = extent segments - 1 := by
  induction segments with
  | nil => rfl
  | cons part parts ih =>
      cases parts with
      | nil => simp [joinSlash, extent]
      | cons next others =>
          rw [joinSlash, List.length_append, List.length_cons, ih]
          · simp only [extent]
            omega
          · simp

theorem length_splitSlash_extent (bytes : Bytes) :
    extent (splitSlash bytes) = bytes.length + 1 := by
  induction bytes with
  | nil => rfl
  | cons byte rest ih =>
      by_cases h : byte = slash
      · simp only [splitSlash, if_pos h, extent, ih, List.length_nil, List.length_cons]
        omega
      · cases hsplit : splitSlash rest with
        | nil => simp [hsplit, extent] at ih
        | cons part parts =>
            rw [hsplit] at ih
            simp only [extent] at ih
            simp only [splitSlash, if_neg h, hsplit, extent, List.length_cons]
            omega

theorem extent_dropIdle_le (relative : Bool) (segments : List Bytes) :
    extent (dropIdle relative segments) ≤ extent segments := by
  induction segments with
  | nil => exact Nat.le_refl _
  | cons segment rest ih =>
      by_cases h : (Component.ofSegment? (relative && rest.isEmpty) segment).isSome
      · have kept : dropIdle relative (segment :: rest) = segment :: rest := by
          rw [dropIdle, if_pos h]
        exact Nat.le_of_eq (congrArg extent kept)
      · rw [dropIdle, if_neg h]
        simp only [extent]
        omega

theorem head_dropIdle_ne_nil (relative : Bool) (segments : List Bytes)
    {head : Bytes} {rest : List Bytes}
    (h : dropIdle relative segments = head :: rest) : head ≠ [] := by
  induction segments with
  | nil => simp [dropIdle] at h
  | cons segment others ih =>
      by_cases hs : (Component.ofSegment? (relative && others.isEmpty) segment).isSome
      · rw [dropIdle, if_pos hs] at h
        obtain ⟨rfl, _⟩ := List.cons.inj h
        rintro rfl
        simp [Component.ofSegment?] at hs
      · rw [dropIdle, if_neg hs] at h
        exact ih h

/-- Every step to the parent makes the path shorter. -/
theorem parent?_length_lt {path parent : Path} (h : path.parent? = some parent) :
    parent.bytes.length < path.bytes.length := by
  unfold parent? at h
  split at h
  · simp at h
  · rename_i head rest hdrop
    obtain rfl := Option.some.inj h
    have hhead : head ≠ [] := head_dropIdle_ne_nil _ _ hdrop
    have hpos : 0 < head.length := List.length_pos_iff.mpr hhead
    have hwhole := extent_dropIdle_le (!path.isAbsolute) path.segments.reverse
    have hrest := extent_dropIdle_le (!path.isAbsolute) rest
    rw [hdrop, extent_reverse] at hwhole
    have hcons : extent (head :: rest) = head.length + 1 + extent rest := rfl
    have hsegments : extent path.segments =
        (if path.isAbsolute then path.bytes.tail else path.bytes).length + 1 :=
      length_splitSlash_extent _
    by_cases habs : path.isAbsolute = true
    · have hne : path.bytes ≠ [] := by
        intro hnil
        simp [isAbsolute, hnil] at habs
      have hlen : 0 < path.bytes.length := List.length_pos_iff.mpr hne
      simp only [if_pos habs, List.length_tail] at hsegments
      simp only [habs, if_true, List.length_cons, length_joinSlash, extent_reverse]
      rw [habs] at hrest
      omega
    · have hrel : path.isAbsolute = false := by simpa using habs
      rw [hrel] at hsegments hrest
      simp only [hrel, Bool.false_eq_true, if_false, length_joinSlash, extent_reverse]
      simp only [Bool.false_eq_true, if_false] at hsegments
      omega

/-- The path itself, its parent, its parent's parent, and so on. -/
def chain (path : Path) : List Path :=
  path :: match _h : path.parent? with
    | none => []
    | some parent => chain parent
termination_by path.bytes.length
decreasing_by exact parent?_length_lt _h

end Path

end FolderScript
