/-
Paths as segments.  Cutting at the separators loses nothing, and a normal
absolute path is the root with the segments that mean something, one separator
between any two of them; so its text can be read if every segment can.
-/
import FolderScript.Path
import FolderScript.Proofs.Text.Utf8

namespace FolderScript

namespace Path

theorem splitSlash_ne_nil (bytes : Bytes) : splitSlash bytes ≠ [] := by
  cases bytes with
  | nil => simp [splitSlash]
  | cons byte rest =>
      rw [splitSlash]
      split
      · simp
      · split <;> simp

theorem slash_notMem_of_mem_splitSlash {bytes part : Bytes} (h : part ∈ splitSlash bytes) :
    slash ∉ part := by
  induction bytes generalizing part with
  | nil =>
      obtain rfl := List.mem_singleton.mp h
      simp
  | cons byte rest ih =>
      by_cases hbyte : byte = slash
      · rw [splitSlash, if_pos hbyte] at h
        rcases List.mem_cons.mp h with rfl | h
        · simp
        · exact ih h
      · cases hrest : splitSlash rest with
        | nil => exact absurd hrest (splitSlash_ne_nil rest)
        | cons first parts =>
            rw [hrest] at ih
            rw [splitSlash, if_neg hbyte, hrest] at h
            rcases List.mem_cons.mp h with rfl | h
            · simp only [List.mem_cons, not_or]
              exact ⟨Ne.symm hbyte, ih List.mem_cons_self⟩
            · exact ih (List.mem_cons_of_mem first h)

theorem joinSlash_cons_of_ne_nil (part : Bytes) {parts : List Bytes} (h : parts ≠ []) :
    joinSlash (part :: parts) = part ++ slash :: joinSlash parts := by
  cases parts with
  | nil => contradiction
  | cons next others => rfl

/-- Putting the parts back together gives the bytes that were cut. -/
theorem joinSlash_splitSlash (bytes : Bytes) : joinSlash (splitSlash bytes) = bytes := by
  induction bytes with
  | nil => rfl
  | cons byte rest ih =>
      by_cases hbyte : byte = slash
      · rw [splitSlash, if_pos hbyte, joinSlash_cons_of_ne_nil _ (splitSlash_ne_nil rest), ih,
          hbyte]
        rfl
      · cases hrest : splitSlash rest with
        | nil => exact absurd hrest (splitSlash_ne_nil rest)
        | cons first parts =>
            rw [hrest] at ih
            rw [splitSlash, if_neg hbyte, hrest]
            cases parts with
            | nil => exact congrArg (byte :: ·) ih
            | cons next others =>
                rw [joinSlash_cons_of_ne_nil _ (List.cons_ne_nil next others)] at ih ⊢
                rw [List.cons_append, ih]

theorem joinSlash_append_singleton {parts : List Bytes} (h : parts ≠ []) (part : Bytes) :
    joinSlash (parts ++ [part]) = joinSlash parts ++ slash :: part := by
  induction parts with
  | nil => contradiction
  | cons first parts ih =>
      cases parts with
      | nil => rfl
      | cons next others =>
          rw [List.cons_append, joinSlash_cons_of_ne_nil first (by simp),
            ih (List.cons_ne_nil next others),
            joinSlash_cons_of_ne_nil first (List.cons_ne_nil next others), List.append_assoc]
          rfl

/-- Joined parts can be read if every part can. -/
theorem isSome_decode?_joinSlash (parts : List Bytes) :
    (Utf8.decode? (joinSlash parts)).isSome =
      parts.all fun part => (Utf8.decode? part).isSome := by
  induction parts with
  | nil => rfl
  | cons part parts ih =>
      cases parts with
      | nil => simp [joinSlash]
      | cons next others =>
          rw [joinSlash_cons_of_ne_nil part (List.cons_ne_nil next others),
            Utf8.isSome_decode?_append (by decide), ih]
          rfl

/-- Whether a segment means something, wherever it stands but at the front of a
relative path. -/
def isKept (segment : Bytes) : Bool := segment ≠ [] ∧ segment ≠ [dot]

theorem bytes_path_of_ofSegment? {segment : Bytes} {component : Component}
    (h : Component.ofSegment? false segment = some component) :
    component.path.bytes = segment := by
  unfold Component.ofSegment? at h
  grind [Component.path]

theorem map_path_filterMap_ofSegment? (segments : List Bytes) :
    (segments.filterMap (Component.ofSegment? false)).map (fun part => part.path.bytes) =
      segments.filter isKept := by
  induction segments with
  | nil => rfl
  | cons segment rest ih =>
      cases hpart : Component.ofSegment? false segment with
      | none =>
          have hdrop : isKept segment = false := by
            unfold Component.ofSegment? at hpart
            grind [isKept]
          rw [List.filterMap_cons_none hpart, ih, List.filter_cons_of_neg (by simp [hdrop])]
      | some part =>
          have hkeep : isKept segment = true := by
            unfold Component.ofSegment? at hpart
            grind [isKept]
          rw [List.filterMap_cons_some hpart, List.map_cons, ih,
            List.filter_cons_of_pos hkeep, bytes_path_of_ofSegment? hpart]

/-- A name that is one segment, and no empty one. -/
def IsName (name : Bytes) : Prop := name ≠ [] ∧ slash ∉ name

theorem IsName.isAbsolute_eq_false {name : Bytes} (h : IsName name) :
    isAbsolute ⟨name⟩ = false := by
  rw [isAbsolute, beq_eq_false_iff_ne]
  intro hhead
  exact h.2 (List.mem_of_head? hhead)

theorem getLast?_cons_joinSlash {names : List Bytes} (hnames : ∀ name ∈ names, IsName name) :
    (slash :: joinSlash names).getLast? = some slash ↔ names = [] := by
  constructor
  · intro hlast
    rcases List.eq_nil_or_concat names with hnil | ⟨front, name, rfl⟩
    · exact hnil
    · rw [List.concat_eq_append] at hnames hlast
      obtain ⟨hne, hslash⟩ := hnames name (by simp)
      refine absurd (List.mem_of_getLast? ?_) hslash
      by_cases hfront : front = []
      · rwa [hfront, List.nil_append, joinSlash, List.getLast?_cons_of_ne_nil hne] at hlast
      · rw [joinSlash_append_singleton hfront, ← List.cons_append, List.getLast?_append,
          List.getLast?_cons_of_ne_nil hne, List.getLast?_eq_some_getLast hne] at hlast
        rwa [List.getLast?_eq_some_getLast hne]
  · rintro rfl
    rfl

theorem join_name {done : List Bytes} {name : Bytes} (hdone : ∀ name ∈ done, IsName name)
    (hname : IsName name) :
    join ⟨slash :: joinSlash done⟩ ⟨name⟩ = ⟨slash :: joinSlash (done ++ [name])⟩ := by
  rw [join, if_neg (by simp [hname.isAbsolute_eq_false])]
  by_cases hnil : done = []
  · rw [if_pos (.inr ((getLast?_cons_joinSlash hdone).mpr hnil)), hnil]
    rfl
  · rw [if_neg, joinSlash_append_singleton hnil]
    · rfl
    · simp [getLast?_cons_joinSlash hdone, hnil]

/-- Joining names one by one onto the root puts single separators between them. -/
theorem foldl_join_names {done names : List Bytes} (hdone : ∀ name ∈ done, IsName name)
    (hnames : ∀ name ∈ names, IsName name) :
    names.foldl (fun (path : Path) name => path.join ⟨name⟩) ⟨slash :: joinSlash done⟩ =
      ⟨slash :: joinSlash (done ++ names)⟩ := by
  induction names generalizing done with
  | nil => rw [List.foldl_nil, List.append_nil]
  | cons name names ih =>
      have hname := hnames name List.mem_cons_self
      rw [List.foldl_cons, join_name hdone hname, ih, List.append_assoc]
      · rfl
      · intro other hother
        rcases List.mem_append.mp hother with hother | hother
        · exact hdone other hother
        · exact List.mem_singleton.mp hother ▸ hname
      · exact fun other hother => hnames other (List.mem_cons_of_mem name hother)

theorem isName_of_mem_filter_isKept {bytes name : Bytes}
    (h : name ∈ (splitSlash bytes).filter isKept) : IsName name := by
  obtain ⟨hmem, hkept⟩ := List.mem_filter.mp h
  simp only [isKept, decide_eq_true_eq] at hkept
  exact ⟨hkept.1, slash_notMem_of_mem_splitSlash hmem⟩

theorem bytes_of_isAbsolute {path : Path} (h : path.isAbsolute) :
    path.bytes = slash :: joinSlash path.segments := by
  rw [segments, if_pos h, joinSlash_splitSlash]
  rw [isAbsolute, beq_iff_eq, List.head?_eq_some_iff] at h
  obtain ⟨rest, hrest⟩ := h
  rw [hrest, List.tail_cons]

/-- A normal absolute path is the root with the segments that mean something. -/
theorem bytes_normalize_of_isAbsolute {path : Path} (h : path.isAbsolute) :
    path.normalize.bytes = slash :: joinSlash (path.segments.filter isKept) := by
  have hfold : path.normalize = (path.segments.filter isKept).foldl
      (fun (path : Path) name => path.join ⟨name⟩) ⟨slash :: joinSlash []⟩ := by
    rw [normalize, components, if_pos h, ofComponents, List.foldl_cons,
      ← map_path_filterMap_ofSegment?, List.foldl_map]
    rfl
  have hnames : ∀ name ∈ path.segments.filter isKept, IsName name := by
    intro name hname
    exact isName_of_mem_filter_isKept hname
  rw [hfold, foldl_join_names (by simp) hnames, List.nil_append]

theorem isAbsolute_normalize {path : Path} (h : path.isAbsolute) : path.normalize.isAbsolute := by
  rw [isAbsolute, bytes_normalize_of_isAbsolute h]
  rfl

theorem isSome_decode?_cons_joinSlash (parts : List Bytes) :
    (Utf8.decode? (slash :: joinSlash parts)).isSome =
      parts.all fun part => (Utf8.decode? part).isSome := by
  have hcut := Utf8.isSome_decode?_append (show slash.toNat < 0x80 by decide) []
    (joinSlash parts)
  rw [List.nil_append] at hcut
  rw [hcut, isSome_decode?_joinSlash]
  rfl

/-- Making an absolute path normal neither mends nor breaks its text. -/
theorem isSome_text?_normalize {path : Path} (h : path.isAbsolute) :
    path.normalize.text?.isSome = path.text?.isSome := by
  rw [text?, text?, bytes_normalize_of_isAbsolute h, bytes_of_isAbsolute h,
    isSome_decode?_cons_joinSlash, isSome_decode?_cons_joinSlash, List.all_filter]
  refine congrArg _ (funext fun segment => ?_)
  cases hkept : isKept segment with
  | true => rfl
  | false =>
      have hidle : segment = [] ∨ segment = [dot] := by grind [isKept]
      rcases hidle with rfl | rfl <;> decide

theorem isAbsolute_join (base child : Path) :
    (base.join child).isAbsolute = (child.isAbsolute || base.isAbsolute) := by
  unfold join
  cases hchild : child.isAbsolute with
  | true => rw [if_pos rfl, hchild, Bool.true_or]
  | false =>
      rw [if_neg Bool.false_ne_true, Bool.false_or]
      obtain ⟨bytes⟩ := base
      cases bytes with
      | nil => exact hchild
      | cons byte rest => split <;> rfl

/-- A relative child inside a base has a text if both have one. -/
theorem isSome_text?_join {child : Path} (h : child.isAbsolute = false) (base : Path) :
    (base.join child).text?.isSome = (base.text?.isSome && child.text?.isSome) := by
  rw [join, if_neg (by simp [h])]
  by_cases hend : base.bytes = [] ∨ base.bytes.getLast? = some slash
  · rw [if_pos hend]
    rcases hend with hnil | hlast
    · simp only [text?, hnil, List.nil_append]
      rfl
    · obtain ⟨front, hfront⟩ := List.getLast?_eq_some_iff.mp hlast
      have hbase : base.text?.isSome = (Utf8.decode? front).isSome := by
        rw [text?, hfront, Utf8.isSome_decode?_append (by decide)]
        exact Bool.and_true _
      rw [hbase, text?, hfront, List.append_assoc]
      exact Utf8.isSome_decode?_append (by decide) front child.bytes
  · rw [if_neg hend]
    exact Utf8.isSome_decode?_append (by decide) base.bytes child.bytes

theorem text?_ofText (text : String) : (ofText text).text? = some text :=
  Utf8.decode?_encode text

theorem display_ofText (text : String) : (ofText text).display = text :=
  Utf8.lossy_of_decode? (Utf8.decode?_encode text)

theorem ofText_of_text? {path : Path} {text : String} (h : path.text? = some text) :
    ofText text = path := by
  rw [ofText, Utf8.encode_of_decode? h]

end Path

end FolderScript
