/-
What an anchored folder names.  Its components are those of the folder, after those of the
directory if the folder is relative; nothing is resolved on the way, only lone dots go.  A
normal path is determined by its components, so a folder that is anchored once can be anchored
again anywhere, and it does not matter whether a path is anchored at once or part by part.
-/
import FolderScript.Proofs.Folder

namespace FolderScript

namespace Path

/-- Elsewhere than at the front of a relative path a lone dot is no component. -/
theorem filter_filterMap_ofSegment? (segments : List Bytes) :
    (segments.filterMap (Component.ofSegment? false)).filter (· ≠ .current) =
      segments.filterMap (Component.ofSegment? false) := by
  rw [List.filter_eq_self]
  intro component hcomponent
  obtain ⟨segment, -, hsegment⟩ := List.mem_filterMap.mp hcomponent
  rw [decide_eq_true_eq]
  rintro rfl
  unfold Component.ofSegment? at hsegment
  grind

/-- Only for a lone dot does it matter to stand at the front. -/
theorem filter_ofSegment?_true (segment : Bytes) :
    (Component.ofSegment? true segment).toList.filter (· ≠ .current) =
      (Component.ofSegment? false segment).toList := by
  unfold Component.ofSegment?
  grind

def innerComponents (bytes : Bytes) : List Component :=
  (splitSlash bytes).filterMap (Component.ofSegment? false)

variable {path base child : Path}

theorem components_of_isAbsolute (h : path.isAbsolute) :
    path.components = .root :: innerComponents path.bytes.tail := by
  rw [components, if_pos h, segments, if_pos h, innerComponents]

theorem filter_components_of_isAbsolute (h : path.isAbsolute) :
    path.components.filter (· ≠ .current) = path.components := by
  rw [components_of_isAbsolute h, List.filter_cons_of_pos (by decide), innerComponents,
    filter_filterMap_ofSegment?]

/-- A relative path that stands after a separator keeps its components, less a leading dot. -/
theorem innerComponents_bytes (h : path.isAbsolute = false) :
    innerComponents path.bytes = path.components.filter (· ≠ .current) := by
  have hrelative : ¬ path.isAbsolute = true := by simp [h]
  rw [components, if_neg hrelative, segments, if_neg hrelative, innerComponents]
  cases hsplit : splitSlash path.bytes with
  | nil => exact absurd hsplit (splitSlash_ne_nil path.bytes)
  | cons first rest =>
      dsimp only
      rw [List.filter_append, filter_ofSegment?_true, filter_filterMap_ofSegment?]
      cases hfirst : Component.ofSegment? false first with
      | none => rw [List.filterMap_cons_none hfirst]; rfl
      | some component => rw [List.filterMap_cons_some hfirst]; rfl

/-- The components before a separator and those after it. -/
theorem components_append {front : Bytes} (h : front ≠ []) (back : Bytes) :
    components ⟨front ++ slash :: back⟩ = components ⟨front⟩ ++ innerComponents back := by
  obtain ⟨byte, rest, rfl⟩ := List.exists_cons_of_ne_nil h
  by_cases hbyte : byte = slash
  · subst hbyte
    have hwhole : isAbsolute ⟨slash :: rest ++ slash :: back⟩ = true := rfl
    have hfront : isAbsolute ⟨slash :: rest⟩ = true := rfl
    rw [components_of_isAbsolute hwhole, components_of_isAbsolute hfront]
    simp [innerComponents, splitSlash_append]
  · have hwhole : ¬ isAbsolute ⟨byte :: rest ++ slash :: back⟩ = true := by
      simpa [isAbsolute] using hbyte
    have hfront : ¬ isAbsolute ⟨byte :: rest⟩ = true := by simpa [isAbsolute] using hbyte
    simp only [components, if_neg hwhole, if_neg hfront, segments, splitSlash_append]
    cases hsplit : splitSlash (byte :: rest) with
    | nil => exact absurd hsplit (splitSlash_ne_nil _)
    | cons first parts => simp [innerComponents]

theorem ne_nil_of_isAbsolute (h : path.isAbsolute) : path.bytes ≠ [] := by
  rw [bytes_of_isAbsolute h]
  exact List.cons_ne_nil _ _

theorem join_of_isAbsolute (h : child.isAbsolute) (base : Path) : base.join child = child :=
  if_pos h

/-- The components of a relative path inside another are those of both, one after the other. -/
theorem components_join (hbase : base.bytes ≠ []) (hchild : child.isAbsolute = false) :
    (base.join child).components =
      base.components ++ child.components.filter (· ≠ .current) := by
  rw [← innerComponents_bytes hchild, join, if_neg (by simp [hchild])]
  by_cases hend : base.bytes.getLast? = some slash
  · -- The separator is there already, after the root or after a front.
    rw [if_pos (.inr hend)]
    obtain ⟨front, hfront⟩ := List.getLast?_eq_some_iff.mp hend
    obtain ⟨bytes⟩ := base
    obtain rfl : bytes = front ++ [slash] := hfront
    rw [List.append_assoc, List.singleton_append]
    by_cases hroot : front = []
    · rw [hroot, List.nil_append, components_of_isAbsolute rfl]
      rfl
    · rw [components_append hroot, components_append hroot, List.append_assoc]
      rfl
  · rw [if_neg (by simp [hbase, hend])]
    exact components_append hbase child.bytes

theorem components_normalize (h : path.isAbsolute) :
    path.normalize.components = path.components := by
  rw [components_of_isAbsolute (isAbsolute_normalize h), components, if_pos h,
    bytes_normalize_of_isAbsolute h, List.tail_cons, innerComponents]
  have hkept : (path.segments.filter isKept).filterMap (Component.ofSegment? false) =
      path.segments.filterMap (Component.ofSegment? false) := by
    rw [List.filterMap_filter]
    refine congrArg (List.filterMap · path.segments) (funext fun segment => ?_)
    unfold Component.ofSegment?
    grind [isKept]
  by_cases hnone : path.segments.filter isKept = []
  · rw [← hkept, hnone]
    rfl
  · rw [splitSlash_joinSlash hnone fun name hname => (isName_of_mem_filter_isKept hname).2, hkept]

/-- Paths with the same components have the same normal form. -/
theorem normalize_congr {other : Path} (h : path.components = other.components) :
    path.normalize = other.normalize :=
  congrArg ofComponents h

theorem normalize_normalize (h : path.isAbsolute) : path.normalize.normalize = path.normalize :=
  normalize_congr (components_normalize h)

/-- What is put behind a child comes to stand behind it in the base. -/
theorem join_append (h : child.bytes ≠ []) (base : Path) (back : Bytes) :
    base.join ⟨child.bytes ++ slash :: back⟩ = ⟨(base.join child).bytes ++ slash :: back⟩ := by
  have habsolute : isAbsolute ⟨child.bytes ++ slash :: back⟩ = child.isAbsolute := by
    obtain ⟨byte, rest, hbytes⟩ := List.exists_cons_of_ne_nil h
    rw [isAbsolute, isAbsolute, hbytes]
    rfl
  unfold join
  rw [habsolute]
  split
  · rfl
  · split <;> simp

/-- A normal path does not end with a separator. -/
theorem IsNormal.getLast?_ne (h : path.IsNormal) : path.bytes.getLast? ≠ some slash := by
  have hnames : ∀ segment ∈ path.segments, IsName segment := fun segment hsegment =>
    ⟨(h.segments segment hsegment).1, slash_notMem_of_mem_splitSlash hsegment⟩
  rw [bytes_of_isAbsolute h.absolute, Ne, getLast?_cons_joinSlash hnames]
  exact splitSlash_ne_nil _

end Path

/-- A folder that is given in a directory, as it is handed on.  An empty segment or one that is
a lone dot is nowhere left in it, and no separator at its end, unless it is the root; and it
names what the folder names there, ".." and all. -/
structure IsAnchored (directory : Path) (folder anchored : String) : Prop where
  nonempty : anchored ≠ ""
  absolute : (Path.ofText anchored).isAbsolute = true
  normal : anchored = "/" ∨ (Path.ofText anchored).IsNormal
  unended : anchored ≠ "/" → (Path.ofText anchored).bytes.getLast? ≠ some Path.slash
  components : (Path.ofText anchored).components =
    (if (Path.ofText folder).isAbsolute then (Path.ofText folder).components
      else directory.components ++ (Path.ofText folder).components).filter (· ≠ .current)

theorem Path.bytes_ofText_ne_nil {text : String} (h : text ≠ "") : (ofText text).bytes ≠ [] := by
  intro hnil
  have htext := text?_ofText text
  rw [text?, hnil] at htext
  exact h (Option.some.inj htext).symm

section

variable {directory : Path} {folder anchored : String} (hfolder : folder ≠ "")
  (hanchored : anchorFolder folder directory = some anchored)

include hfolder hanchored

/-- The path of an anchored folder. -/
theorem ofText_anchored :
    Path.ofText anchored = (directory.join (Path.ofText folder)).normalize := by
  rw [anchorFolder, if_neg hfolder] at hanchored
  exact Path.ofText_of_text? hanchored

variable (h : directory.isAbsolute)

include h

theorem isAnchored_of_anchorFolder : IsAnchored directory folder anchored := by
  have hpath := ofText_anchored hfolder hanchored
  have hhanded := isHandedOn_of_anchorFolder h hfolder hanchored
  refine ⟨hhanded.nonempty, hhanded.absolute, hhanded.normal rfl, fun hroot => ?_, ?_⟩
  · exact ((hhanded.normal rfl).resolve_left hroot).getLast?_ne
  · rw [hpath, Path.components_normalize (isAbsolute_joined h folder)]
    by_cases habsolute : (Path.ofText folder).isAbsolute = true
    · rw [if_pos habsolute, Path.join_of_isAbsolute habsolute,
        Path.filter_components_of_isAbsolute habsolute]
    · have hrelative : (Path.ofText folder).isAbsolute = false := by simpa using habsolute
      rw [if_neg habsolute, Path.components_join (Path.ne_nil_of_isAbsolute h) hrelative,
        List.filter_append, Path.filter_components_of_isAbsolute h]

/-- A folder that has been anchored is not changed by a directory any more. -/
theorem anchorFolder_anchored (other : Path) : anchorFolder anchored other = some anchored := by
  have hhanded := isHandedOn_of_anchorFolder h hfolder hanchored
  have hpath := ofText_anchored hfolder hanchored
  rw [anchorFolder, if_neg hhanded.nonempty, Path.join_of_isAbsolute hhanded.absolute, hpath,
    Path.normalize_normalize (isAbsolute_joined h folder), ← hpath, Path.text?_ofText]

/-- Anchoring a path part by part comes to the same as anchoring it at once. -/
theorem anchorFolder_append {inner : String} (hinner : IsRelativeFolder inner) :
    anchorFolder inner (Path.ofText anchored) = anchorFolder (folder ++ "/" ++ inner) directory := by
  have hjoined := isAbsolute_joined h folder
  have hpath := ofText_anchored hfolder hanchored
  have hbytes : Path.ofText (folder ++ "/" ++ inner) =
      ⟨(Path.ofText folder).bytes ++ Path.slash :: (Path.ofText inner).bytes⟩ := by
    simp only [Path.ofText, Utf8.encode_append, List.append_assoc]
    rfl
  have hne : folder ++ "/" ++ inner ≠ "" := by simp
  rw [anchorFolder, if_neg hinner.1, anchorFolder, if_neg hne, hbytes,
    Path.join_append (Path.bytes_ofText_ne_nil hfolder), hpath]
  refine congrArg Path.text? (Path.normalize_congr ?_)
  rw [Path.components_join (Path.ne_nil_of_isAbsolute (Path.isAbsolute_normalize hjoined)) hinner.2,
    Path.components_normalize hjoined, Path.components_append (Path.ne_nil_of_isAbsolute hjoined),
    Path.innerComponents_bytes hinner.2]

end

/-- In an absolute directory a folder is lost only if it is relative and the directory has no
text.  Every other becomes an absolute path in normal form, with the components that the folder
names in the directory; so it names the same from everywhere, and a path inside it is anchored
to the same whether the folder is put before it or has been anchored first. -/
theorem anchorFolder_names_same {directory : Path} (h : directory.isAbsolute) {folder : String}
    (hfolder : folder ≠ "") :
    (anchorFolder folder directory = none ↔
      (Path.ofText folder).isAbsolute = false ∧ directory.text? = none) ∧
    ∀ anchored, anchorFolder folder directory = some anchored →
      IsAnchored directory folder anchored ∧
      (∀ other, anchorFolder anchored other = some anchored) ∧
      ∀ inner, IsRelativeFolder inner →
        anchorFolder inner (Path.ofText anchored) =
          anchorFolder (folder ++ "/" ++ inner) directory := by
  constructor
  · rw [anchorFolder_eq_none_iff h, IsRelativeFolder, and_iff_right hfolder]
  · intro anchored hanchored
    exact ⟨isAnchored_of_anchorFolder hfolder hanchored h,
      anchorFolder_anchored hfolder hanchored h,
      fun inner hinner => anchorFolder_append hfolder hanchored h hinner⟩

namespace AnchorWitness

/-- A directory whose name is no text. -/
def directory : Path := ⟨[Path.slash, 0xFF]⟩

/-- In a directory without a text a folder can be given by an absolute path, and then also what
is inside it; by a relative one it is lost. -/
theorem anchorFolder_names_same_in_broken :
    directory.isAbsolute ∧
      anchorFolder "in" directory = none ∧
      anchorFolder "//src/./a/../b/" directory = some "/src/a/../b" ∧
      IsAnchored directory "//src/./a/../b/" "/src/a/../b" ∧
      anchorFolder "/src/a/../b" directory = some "/src/a/../b" ∧
      IsRelativeFolder "./c/.." ∧
      anchorFolder "./c/.." (Path.ofText "/src/a/../b") =
        anchorFolder "//src/./a/../b//./c/.." directory := by
  have habsolute : directory.isAbsolute := by decide
  have hlost := (anchorFolder_names_same habsolute (by decide : "in" ≠ "")).1.mpr
    ⟨by decide +kernel, by decide +kernel⟩
  have hanchored : anchorFolder "//src/./a/../b/" directory = some "/src/a/../b" := by
    decide +kernel
  have hinner : IsRelativeFolder "./c/.." := ⟨by decide, by decide +kernel⟩
  obtain ⟨hnamed, hagain, hinside⟩ := (anchorFolder_names_same habsolute
    (by decide : "//src/./a/../b/" ≠ "")).2 _ hanchored
  exact ⟨habsolute, hlost, hanchored, hnamed, hagain directory, hinner, hinside _ hinner⟩

end AnchorWitness

end FolderScript
