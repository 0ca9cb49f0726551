/-
What a pattern stands for.  The rules below say it for each kind of glyph on its own;
the comparison takes shorter ways, and gives up a whole search where a star has found no
place for what follows it.  The two agree: the comparison decides the rules.
-/
import FolderScript.Machine.Shell.Pattern
import Mathlib.Data.List.Infix

namespace FolderScript.Shell

namespace Bracket

theorem length_named? {glyphs rest : List Glyph} {kind : CharClass}
    (h : named? glyphs = some (kind, rest)) : rest.length < glyphs.length := by
  unfold named? at h
  dsimp only at h
  split at h
  · next after hafter =>
      obtain ⟨found, -, hfound⟩ := Option.map_eq_some_iff.mp h
      obtain rfl := (Prod.mk.inj hfound).2
      have hdrop := congrArg List.length hafter
      simp only [List.length_drop, List.length_cons] at hdrop
      omega
  · contradiction

/-- The members of a bracket are read off the front, with the sign that closes it. -/
theorem length_membersFrom {fuel : Nat} {atStart : Bool} {glyphs after : List Glyph}
    {members : List Member} (h : membersFrom fuel atStart glyphs = some (members, after)) :
    after.length < glyphs.length := by
  have hmapped {member : Member} {found : Option (List Member × List Glyph)}
      {members : List Member} {after : List Glyph}
      (h : (found.map fun (more, after) => (member :: more, after)) = some (members, after)) :
      ∃ more, found = some (more, after) := by
    obtain ⟨⟨more, last⟩, hfound, hpair⟩ := Option.map_eq_some_iff.mp h
    obtain rfl := (Prod.mk.inj hpair).2
    exact ⟨more, hfound⟩
  fun_induction membersFrom fuel atStart glyphs generalizing members after
  case case1 | case2 => contradiction
  case case3 =>
    obtain rfl := (Prod.mk.inj (Option.some.inj h)).2
    simp
  case case4 rest _ _ _ _ inner hkind ih =>
    obtain ⟨more, hmore⟩ := hmapped h
    have hinner : inner.length < rest.length := by
      dsimp +zetaDelta only at hkind
      split at hkind
      · have := length_named? hkind
        simp only [List.length_cons]
        omega
      · contradiction
    have := ih _ hmore
    simp only [List.length_cons]
    omega
  case case5 ih | case6 ih | case7 ih | case8 ih | case9 ih | case10 ih | case11 ih =>
    obtain ⟨more, hmore⟩ := hmapped h
    have := ih _ hmore
    simp only [List.length_cons] at this ⊢
    omega

theorem length_read? {glyphs after : List Glyph} {bracket : Bracket}
    (h : read? glyphs = some (bracket, after)) : after.length < glyphs.length := by
  obtain ⟨found, hfound, hpair⟩ := Option.map_eq_some_iff.mp h
  obtain rfl := (Prod.mk.inj hpair).2
  have hmembers := length_membersFrom hfound
  split at hmembers
  · exact Nat.lt_succ_of_lt hmembers
  · exact Nat.lt_succ_of_lt hmembers
  · exact hmembers

end Bracket

namespace Pattern

theorem isSpecial_eq_false {char : Char} {quoted : Bool}
    (hstar : char = '*' → quoted = false → False) (hany : char = '?' → quoted = false → False)
    (hopening : char = '[' → quoted = false → False) : isSpecial (char, quoted) = false := by
  cases quoted <;> simp_all [isSpecial]

/-- A pattern stands for a text. -/
inductive Fits : List Glyph → Text → Prop
  | done : Fits [] []
  | star {rest : List Glyph} {more : Text} (text : Text) (follows : Fits rest more) :
      Fits (('*', false) :: rest) (text ++ more)
  | any {rest : List Glyph} {more : Text} (char : Char) (follows : Fits rest more) :
      Fits (('?', false) :: rest) (char :: more)
  | bracket {rest after : List Glyph} {bracket : Bracket} {char : Char} {more : Text}
      (read : Bracket.read? rest = some (bracket, after)) (held : bracket.holds char = true)
      (follows : Fits after more) : Fits (('[', false) :: rest) (char :: more)
  /-- What opens no bracket stands for itself. -/
  | opening {rest : List Glyph} {more : Text} (unread : Bracket.read? rest = none)
      (follows : Fits rest more) : Fits (('[', false) :: rest) ('[' :: more)
  | same {rest : List Glyph} {char : Char} {quoted : Bool} {more : Text}
      (plain : isSpecial (char, quoted) = false) (follows : Fits rest more) :
      Fits ((char, quoted) :: rest) (char :: more)

theorem fits_nil_iff {text : Text} : Fits [] text ↔ text = [] :=
  ⟨fun h => by cases h; rfl, fun h => h ▸ .done⟩

/-- A star stands for whatever is in front of what the rest of the pattern stands for. -/
theorem fits_star_iff {rest : List Glyph} {text : Text} :
    Fits (('*', false) :: rest) text ↔ ∃ later, later <:+ text ∧ Fits rest later := by
  constructor
  · intro h
    cases h with
    | @star _ more text follows => exact ⟨more, List.suffix_append text more, follows⟩
    | same plain follows => contradiction
  · rintro ⟨later, ⟨text, rfl⟩, h⟩
    exact .star text h

theorem fits_any_iff {rest : List Glyph} {char : Char} {more : Text} :
    Fits (('?', false) :: rest) (char :: more) ↔ Fits rest more := by
  constructor
  · intro h
    cases h with
    | any _ follows => exact follows
    | same plain _ => contradiction
  · exact .any char

theorem fits_bracket_iff {rest after : List Glyph} {bracket : Bracket} {char : Char}
    {more : Text} (hread : Bracket.read? rest = some (bracket, after)) :
    Fits (('[', false) :: rest) (char :: more) ↔
      bracket.holds char = true ∧ Fits after more := by
  constructor
  · intro h
    cases h with
    | bracket read held follows =>
        obtain ⟨rfl, rfl⟩ := Prod.mk.inj (Option.some.inj (read.symm.trans hread))
        exact ⟨held, follows⟩
    | opening unread _ => simp [unread] at hread
    | same plain _ => contradiction
  · exact fun ⟨held, follows⟩ => .bracket hread held follows

theorem fits_opening_iff {rest : List Glyph} {char : Char} {more : Text}
    (hunread : Bracket.read? rest = none) :
    Fits (('[', false) :: rest) (char :: more) ↔ char = '[' ∧ Fits rest more := by
  constructor
  · intro h
    cases h with
    | bracket read _ _ => simp [read] at hunread
    | opening _ follows => exact ⟨rfl, follows⟩
    | same plain _ => contradiction
  · rintro ⟨rfl, follows⟩
    exact .opening hunread follows

theorem fits_same_iff {rest : List Glyph} {expected char : Char} {quoted : Bool} {more : Text}
    (hplain : isSpecial (expected, quoted) = false) :
    Fits ((expected, quoted) :: rest) (char :: more) ↔ char = expected ∧ Fits rest more := by
  constructor
  · intro h
    generalize htext : char :: more = text at h
    cases h with
    | same _ follows =>
        obtain ⟨rfl, rfl⟩ := List.cons.inj htext
        exact ⟨rfl, follows⟩
    | star | any | bracket | opening => contradiction
  · rintro ⟨rfl, follows⟩
    exact .same hplain follows

namespace Verdict

/-- What a verdict tells about a pattern and a text. -/
def Tells (pattern : List Glyph) (text : Text) : Verdict → Prop
  | .fits => Fits pattern text
  | .differs => ¬ Fits pattern text
  | .lacks => ∀ later, later <:+ text → ¬ Fits pattern later

theorem Tells.not_fits {pattern : List Glyph} {text : Text} {verdict : Verdict}
    (h : verdict.Tells pattern text) (hverdict : verdict ≠ .fits) : ¬ Fits pattern text := by
  cases verdict with
  | fits => contradiction
  | differs => exact h
  | lacks => exact h text (List.suffix_refl text)

/-- A pattern that takes up one character tells of a text what the rest of it tells of
what follows that character. -/
theorem Tells.cons {pattern rest : List Glyph} {char : Char} {more : Text} {verdict : Verdict}
    (h : verdict.Tells rest more) (hhere : Fits rest more → Fits pattern (char :: more))
    (hthere : ∀ {char more}, Fits pattern (char :: more) → Fits rest more)
    (hnil : ¬ Fits pattern []) : verdict.Tells pattern (char :: more) := by
  cases verdict with
  | fits => exact hhere h
  | differs => exact fun hfits => h (hthere hfits)
  | lacks =>
      intro later hlater hfits
      cases later with
      | nil => exact hnil hfits
      | cons first later =>
          refine h later ?_ (hthere hfits)
          rcases List.suffix_cons_iff.mp hlater with heq | hsuffix
          · exact (List.cons.inj heq).2 ▸ List.suffix_refl later
          · exact (List.suffix_cons first later).trans hsuffix

/-- Where the rest of a pattern fits, or fits no later part either, so does a star before
it. -/
theorem Tells.star_here {rest : List Glyph} {text : Text} {verdict : Verdict}
    (h : verdict.Tells rest text) (hverdict : verdict ≠ .differs) :
    verdict.Tells (('*', false) :: rest) text := by
  cases verdict with
  | fits => exact fits_star_iff.mpr ⟨text, List.suffix_refl text, h⟩
  | differs => contradiction
  | lacks =>
      intro later hlater hfits
      obtain ⟨last, hlast, hfits⟩ := fits_star_iff.mp hfits
      exact h last (hlast.trans hlater) hfits

/-- Where the rest of a pattern does not fit, a star before it goes on to what follows the
first character. -/
theorem Tells.star_later {rest : List Glyph} {char : Char} {more : Text} {verdict : Verdict}
    (h : verdict.Tells (('*', false) :: rest) more) (hhere : ¬ Fits rest (char :: more)) :
    verdict.Tells (('*', false) :: rest) (char :: more) := by
  have hback (later : Text) (hlater : later <:+ char :: more)
      (hfits : Fits (('*', false) :: rest) later) : Fits (('*', false) :: rest) more := by
    obtain ⟨last, hlast, hfits⟩ := fits_star_iff.mp hfits
    rcases List.suffix_cons_iff.mp (hlast.trans hlater) with rfl | hsuffix
    · exact absurd hfits hhere
    · exact fits_star_iff.mpr ⟨last, hsuffix, hfits⟩
  cases verdict with
  | fits =>
      obtain ⟨last, hlast, hfits⟩ := fits_star_iff.mp h
      exact fits_star_iff.mpr ⟨last, hlast.trans (List.suffix_cons char more), hfits⟩
  | differs => exact fun hfits => h (hback _ (List.suffix_refl _) hfits)
  | lacks =>
      exact fun later hlater hfits => h more (List.suffix_refl more) (hback later hlater hfits)

end Verdict

/-- Only a star stands for nothing at all. -/
theorem not_fits_cons_nil {glyph : Glyph} {rest : List Glyph} (h : glyph ≠ ('*', false)) :
    ¬ Fits (glyph :: rest) [] := by
  intro hfits
  generalize htext : ([] : Text) = text at hfits
  cases hfits <;> simp_all

/-- The comparison is right about the pattern and the text, if it may take as many steps as
they are long. -/
theorem tells_compare {fuel : Nat} {pattern : List Glyph} {text : Text}
    (h : pattern.length + text.length < fuel) :
    (compare fuel pattern text).Tells pattern text := by
  fun_induction compare fuel pattern text
  case case1 => omega
  case case2 hempty => exact fits_nil_iff.mpr (List.isEmpty_iff.mp hempty)
  case case3 hempty => exact fun hfits => hempty (List.isEmpty_iff.mpr (fits_nil_iff.mp hfits))
  case case4 rest char more hdiffers ih ihStar =>
    simp only [List.length_cons] at h ih ihStar
    rw [hdiffers] at ih ⊢
    exact (ihStar (by omega)).star_later (ih (by omega))
  case case5 rest hdiffers ih =>
    simp only [List.length_cons] at h
    rw [hdiffers] at ih ⊢
    intro later hlater hfits
    obtain ⟨last, hlast, hfits⟩ := fits_star_iff.mp hfits
    obtain rfl := List.suffix_nil.mp (hlast.trans hlater)
    exact ih (by omega) hfits
  case case6 fuel rest text hcons hnil ih =>
    have hverdict : compare fuel rest text ≠ .differs := by
      intro hdiffers
      cases hshape : text with
      | nil => exact hnil hdiffers hshape
      | cons char more => exact hcons char more hdiffers hshape
    simp only [List.length_cons] at h
    split
    · exact absurd ‹_› hverdict
    · exact absurd ‹_› hverdict
    · exact (ih (by omega)).star_here hverdict
  case case7 ih =>
    simp only [List.length_cons] at h
    exact (ih (by omega)).cons fits_any_iff.mpr fits_any_iff.mp (not_fits_cons_nil (by decide))
  case case8 hread hheld ih =>
    have := Bracket.length_read? hread
    simp only [List.length_cons] at h
    exact (ih (by omega)).cons (fun hfits => (fits_bracket_iff hread).mpr ⟨hheld, hfits⟩)
      (fun hfits => ((fits_bracket_iff hread).mp hfits).2) (not_fits_cons_nil (by decide))
  case case9 hread hheld => exact fun hfits => hheld ((fits_bracket_iff hread).mp hfits).1
  case case10 hunread ih =>
    simp only [List.length_cons] at h
    exact (ih (by omega)).cons (fun hfits => (fits_opening_iff hunread).mpr ⟨rfl, hfits⟩)
      (fun hfits => ((fits_opening_iff hunread).mp hfits).2) (not_fits_cons_nil (by decide))
  case case11 hunread hother => exact fun hfits => hother ((fits_opening_iff hunread).mp hfits).1
  case case12 hstar hany hopening ih =>
    have hplain := isSpecial_eq_false hstar hany hopening
    simp only [List.length_cons] at h
    exact (ih (by omega)).cons (fun hfits => (fits_same_iff hplain).mpr ⟨rfl, hfits⟩)
      (fun hfits => ((fits_same_iff hplain).mp hfits).2)
      (not_fits_cons_nil fun heq => hstar (Prod.mk.inj heq).1 (Prod.mk.inj heq).2)
  case case13 hstar hany hopening hother =>
    have hplain := isSpecial_eq_false hstar hany hopening
    exact fun hfits => hother ((fits_same_iff hplain).mp hfits).1
  case case14 hstar =>
    intro later hlater
    obtain rfl := List.suffix_nil.mp hlater
    exact not_fits_cons_nil hstar

theorem length_unescaped (pattern : List Glyph) :
    (unescaped pattern).length ≤ pattern.length := by
  fun_induction unescaped pattern <;> simp only [List.length_cons, List.length_nil] <;> omega

/-- A pattern holds of a text if it fits it, once backslashes are read as quotes. -/
theorem holds_iff {pattern : List Glyph} {text : Text} :
    holds pattern text = true ↔ Fits (unescaped pattern) text := by
  have htells := @tells_compare (pattern.length + text.length + 1) (unescaped pattern) text
    (by have := length_unescaped pattern; omega)
  rw [holds, decide_eq_true_iff]
  constructor
  · intro hfits
    rwa [hfits] at htells
  · intro hfits
    by_contra hverdict
    exact htells.not_fits hverdict hfits

theorem unescaped_quoted (text : Text) :
    unescaped (text.map fun char => (char, true)) = text.map fun char => (char, true) := by
  induction text with
  | nil => rfl
  | cons char rest ih =>
      rw [List.map_cons, unescaped, ih]
      · simp
      · simp

/-- What is quoted stands for itself and nothing else. -/
theorem holds_quoted_iff {text other : Text} :
    holds (text.map fun char => (char, true)) other = true ↔ other = text := by
  rw [holds_iff, unescaped_quoted]
  induction text generalizing other with
  | nil => exact fits_nil_iff
  | cons char rest ih =>
      cases other with
      | nil => simpa using not_fits_cons_nil (by simp)
      | cons first more =>
          rw [List.map_cons, fits_same_iff (by simp [isSpecial]), ih, List.cons.injEq]

/-- The parts of a text at one of its ends, and what is left of it without them. -/
def Leaves (atFront : Bool) (text taken left : Text) : Prop :=
  if atFront then text = taken ++ left else text = left ++ taken

def part (atFront : Bool) (text : Text) (length : Nat) : Text :=
  if atFront then text.take length else text.drop (text.length - length)

def without (atFront : Bool) (text : Text) (length : Nat) : Text :=
  if atFront then text.drop length else text.take (text.length - length)

theorem leaves_part (atFront : Bool) (text : Text) (length : Nat) :
    Leaves atFront text (part atFront text length) (without atFront text length) := by
  cases atFront with
  | true => exact (List.take_append_drop length text).symm
  | false => exact (List.take_append_drop (text.length - length) text).symm

theorem length_part {atFront : Bool} {text : Text} {length : Nat} (h : length ≤ text.length) :
    (part atFront text length).length = length := by
  cases atFront with
  | true => exact List.length_take_of_le h
  | false =>
      rw [part, if_neg (by simp), List.length_drop]
      omega

theorem Leaves.eq_part {atFront : Bool} {text taken left : Text}
    (h : Leaves atFront text taken left) :
    taken.length ≤ text.length ∧ part atFront text taken.length = taken := by
  cases atFront with
  | true =>
      obtain rfl : text = taken ++ left := h
      simp [part]
  | false =>
      obtain rfl : text = left ++ taken := h
      simp [part]

/-- In an ordered list, what is found comes before everything else that could be found. -/
theorem eq_or_of_find? {α : Type} {before : α → α → Prop} {test : α → Bool} {list : List α}
    {found other : α} (hordered : list.Pairwise before) (hfound : list.find? test = some found)
    (hother : other ∈ list) (htest : test other = true) : other = found ∨ before found other := by
  obtain ⟨-, front, back, rfl, hfront⟩ := List.find?_eq_some_iff_append.mp hfound
  rcases List.mem_append.mp hother with hmem | hmem
  · simpa [htest] using hfront other hmem
  · rcases List.mem_cons.mp hmem with rfl | hmem
    · exact .inl rfl
    · exact .inr ((List.pairwise_cons.mp (List.pairwise_append.mp hordered).2.1).1 other hmem)

/-- The lengths of the parts of a text in the order in which they are tried. -/
def lengths (longest : Bool) (text : Text) : List Nat :=
  if longest then (List.range (text.length + 1)).reverse else List.range (text.length + 1)

theorem mem_lengths {longest : Bool} {text : Text} {length : Nat} :
    length ∈ lengths longest text ↔ length ≤ text.length := by
  have hrange : length ∈ List.range (text.length + 1) ↔ length ≤ text.length :=
    List.mem_range.trans Nat.lt_succ_iff
  cases longest with
  | true => exact List.mem_reverse.trans hrange
  | false => exact hrange

theorem pairwise_lengths (longest : Bool) (text : Text) :
    (lengths longest text).Pairwise fun first later =>
      if longest then later ≤ first else first ≤ later := by
  have hrange : (List.range (text.length + 1)).Pairwise (· ≤ ·) :=
    List.pairwise_lt_range.imp Nat.le_of_lt
  cases longest with
  | true => exact List.pairwise_reverse.mpr hrange
  | false => exact hrange

theorem cut_eq (atFront longest : Bool) (pattern : List Glyph) (text : Text) :
    cut atFront longest pattern text =
      match (lengths longest text).find? fun length => holds pattern (part atFront text length) with
      | none => text
      | some length => without atFront text length := by
  cases atFront <;> rfl

/-- Cutting takes the longest or the shortest part off that the pattern fits, at the front
or at the back, and leaves a text alone where it fits no part. -/
theorem cut_takes (atFront longest : Bool) (pattern : List Glyph) (text : Text) :
    (∃ taken, Leaves atFront text taken (cut atFront longest pattern text) ∧
      Fits (unescaped pattern) taken ∧
      ∀ other left, Leaves atFront text other left → Fits (unescaped pattern) other →
        if longest then other.length ≤ taken.length else taken.length ≤ other.length) ∨
    (cut atFront longest pattern text = text ∧
      ∀ other left, Leaves atFront text other left → ¬ Fits (unescaped pattern) other) := by
  rw [cut_eq]
  cases hfound : (lengths longest text).find? fun length =>
      holds pattern (part atFront text length) with
  | none =>
      refine .inr ⟨rfl, fun other left hleaves hfits => ?_⟩
      obtain ⟨hlength, hpart⟩ := hleaves.eq_part
      refine List.find?_eq_none.mp hfound _ (mem_lengths.mpr hlength) ?_
      exact holds_iff.mpr (hpart.symm ▸ hfits)
  | some length =>
      have hlength : length ≤ text.length := mem_lengths.mp (List.mem_of_find?_eq_some hfound)
      have hheld := List.find?_some hfound
      refine .inl ⟨part atFront text length, leaves_part atFront text length,
        holds_iff.mp hheld, fun other left hleaves hfits => ?_⟩
      obtain ⟨hother, hpart⟩ := hleaves.eq_part
      have hfirst := eq_or_of_find? (pairwise_lengths longest text) hfound
        (mem_lengths.mpr hother) (holds_iff.mpr (hpart.symm ▸ hfits))
      rw [length_part hlength]
      rcases hfirst with hsame | hbefore
      · simp [hsame]
      · exact hbefore

example : cut true true ("*/".toList.map fun char => (char, false)) "/usr/bin/sh".toList =
    "sh".toList := by
  decide

end Pattern

end FolderScript.Shell
