/-
Writing documents.  A text is written with an escape for each character that may not stand for
itself, a number in decimal digits, and each on a line of its own under the header of a table.
What is written so is read back as it was.
-/
import FolderScript.Proofs.Toml.Validity
import FolderScript.Toml.Document

namespace FolderScript.Toml

/-- A character of a class is none that is outside it. -/
theorem ne_of_class {p : Char → Bool} {char other : Char} (h : p char = true)
    (hother : p other = false) : char ≠ other := by
  rintro rfl
  rw [h] at hother
  contradiction

theorem isSpace_of_class {p : Char → Bool} {char : Char} (h : p char = true)
    (hblank : p ' ' = false) (htab : p '\t' = false) : isSpace char = false := by
  simp [isSpace, ne_of_class h hblank, ne_of_class h htab]

/-- A character as it is written in a basic string. -/
def escaped (char : Char) : List Char :=
  if char = '"' ∨ char = '\\' then ['\\', char]
  else if isPlain char then [char]
  else ['\\', 'u', '0', '0', (char.toNat / 16).digitChar, (char.toNat % 16).digitChar]

def quoted (text : String) : List Char := '"' :: (text.toList.flatMap escaped ++ ['"'])

theorem charOfHex?_digitChar :
    ∀ code < 128, charOfHex? ['0', '0', (code / 16).digitChar, (code % 16).digitChar] =
      some (Char.ofNat code) := by
  decide

theorem toNat_lt_of_not_isPlain {char : Char} (h : isPlain char = false) : char.toNat < 128 := by
  simp only [isPlain, Bool.or_eq_false_iff, Bool.and_eq_false_iff, decide_eq_false_iff_not] at h
  omega

theorem basicBody_shortEscape {letter char : Char} (h : shortEscape? letter = some char)
    (rest : List Char) :
    basicBody ('\\' :: letter :: rest) =
      (basicBody rest).map fun (text, rest) => (char :: text, rest) := by
  have hlower : letter ≠ 'u' := by
    rintro rfl
    contradiction
  have hupper : letter ≠ 'U' := by
    rintro rfl
    contradiction
  rw [basicBody, h]
  · cases basicBody rest <;> rfl
  · exact fun _ _ _ _ _ hletter _ => hlower hletter
  · exact fun _ _ _ _ _ _ _ _ _ hletter _ => hupper hletter

/-- Each character is read back, whatever comes after it. -/
theorem basicBody_escaped (char : Char) (rest : List Char) :
    basicBody (escaped char ++ rest) =
      (basicBody rest).map fun (text, rest) => (char :: text, rest) := by
  unfold escaped
  split
  · rename_i hescape
    rcases hescape with rfl | rfl
    · exact basicBody_shortEscape rfl rest
    · exact basicBody_shortEscape rfl rest
  · rename_i hescape
    obtain ⟨hquote, hslash⟩ := not_or.mp hescape
    split
    · rename_i hplain
      rw [List.singleton_append, basicBody]
      · simp [hplain, hslash]
      · exact hquote
      · exact fun _ _ _ _ _ hchar _ => hslash hchar
      · exact fun _ _ _ _ _ _ _ _ _ hchar _ => hslash hchar
      · exact fun _ _ hchar _ => hslash hchar
    · rename_i hplain
      have hread := charOfHex?_digitChar _ (toNat_lt_of_not_isPlain (Bool.eq_false_iff.mpr hplain))
      rw [Char.ofNat_toNat] at hread
      simp only [List.cons_append, List.nil_append, basicBody, hread]
      cases basicBody rest <;> rfl

theorem basicBody_flatMap_escaped (text : List Char) (rest : List Char) :
    basicBody (text.flatMap escaped ++ '"' :: rest) = some (text, rest) := by
  induction text with
  | nil => rfl
  | cons char text ih =>
      rw [List.flatMap_cons, List.append_assoc, basicBody_escaped, ih]
      rfl

/-- The quotes that open a text are not three, unless more quotes follow an empty one. -/
theorem anyString_quoted (text : String) {rest : List Char} (h : rest.head? ≠ some '"') :
    anyString (quoted text ++ rest) = some (text, rest) := by
  have hbody : basicBody (text.toList.flatMap escaped ++ '"' :: rest) = some (text.toList, rest) :=
    basicBody_flatMap_escaped ..
  have hquotes : ∀ after, text.toList.flatMap escaped ++ '"' :: rest ≠ '"' :: '"' :: after := by
    intro after heq
    cases htext : text.toList with
    | nil =>
        rw [htext] at heq
        have hrest : rest = '"' :: after := (List.cons.inj heq).2
        exact h (congrArg List.head? hrest)
    | cons char others =>
        -- A quote that is meant is never written first.
        rw [htext, List.flatMap_cons, List.append_assoc] at heq
        have hread := basicBody_escaped char (others.flatMap escaped ++ '"' :: rest)
        rw [heq, basicBody_flatMap_escaped] at hread
        simp [basicBody] at hread
  rw [quoted, List.cons_append, List.append_assoc, List.singleton_append]
  unfold anyString
  split
  · rename_i heq
    exact absurd (List.cons.inj heq).2 (hquotes _)
  · rename_i heq
    simp at heq
  · rw [lineString, hbody, Option.map_some]
    exact congrArg (fun read => some (read, rest)) String.ofList_toList

section

variable {digits after rest : List Char} {count value : Nat}

/-- Characters that are all decimal digits. -/
def AreDigits (digits : List Char) : Prop := ∀ char ∈ digits, isDecimal char = true

theorem moreDigits_append (hdigits : AreDigits digits) (rest : List Char) :
    moreDigits isDecimal (digits ++ '\n' :: rest) = (digits, '\n' :: rest) := by
  induction digits with
  | nil =>
      rw [List.nil_append, moreDigits, if_neg (by decide)]
      exact fun _ _ h _ => absurd h (by decide)
  | cons digit digits ih =>
      obtain ⟨hdigit, hdigits⟩ := List.forall_mem_cons.mp hdigits
      have hne : digit ≠ '_' := ne_of_class hdigit (by decide)
      rw [List.cons_append, moreDigits, if_pos hdigit, ih hdigits]
      exact fun _ _ h _ => hne h

/-- After as many digits as asked for, more digits stand or the end of the line. -/
theorem fixedDigits_append (hdigits : AreDigits digits)
    (h : fixedDigits count (digits ++ '\n' :: rest) = some (value, after)) :
    ∃ others, AreDigits others ∧ after = others ++ '\n' :: rest := by
  unfold fixedDigits at h
  dsimp only at h
  split at h
  · rename_i hfull
    obtain ⟨-, rfl⟩ := Prod.mk.inj (Option.some.inj h)
    by_cases hcount : count ≤ digits.length
    · rw [List.drop_append_of_le_length hcount]
      exact ⟨_, fun char hchar => hdigits char (List.mem_of_mem_drop hchar), rfl⟩
    · obtain ⟨more, hmore⟩ : ∃ more, count - digits.length = more + 1 :=
        Nat.exists_eq_add_one.mpr (Nat.sub_pos_of_lt (Nat.not_le.mp hcount))
      have hend : '\n' ∈ (digits ++ '\n' :: rest).take count := by
        rw [List.take_append, hmore]
        exact List.mem_append_right _ List.mem_cons_self
      exact absurd (List.all_eq_true.mp hfull.2 _ hend) (by decide)
  · contradiction

/-- No other sign follows the digits of a number. -/
theorem take_of_fixedDigits (hdigits : AreDigits digits) {char : Char}
    (hchar : isDecimal char = false) (hline : char ≠ '\n')
    (h : fixedDigits count (digits ++ '\n' :: rest) = some (value, after)) :
    take char after = none := by
  obtain ⟨others, hothers, rfl⟩ := fixedDigits_append hdigits h
  cases others with
  | nil => exact if_neg hline.symm
  | cons digit others => exact if_neg (ne_of_class (hothers digit List.mem_cons_self) hchar)

theorem fixedDigits_of_boundedDigits {low high : Nat} {input : List Char}
    (h : boundedDigits count low high input = some (value, after)) :
    fixedDigits count input = some (value, after) := by
  obtain ⟨found, hfound, h⟩ := Option.bind_eq_some_iff.mp h
  dsimp only at h
  split at h
  · rw [hfound, h]
  · contradiction

theorem moment_digits (hdigits : AreDigits digits) (rest : List Char) :
    moment (digits ++ '\n' :: rest) = none := by
  have hdate : date (digits ++ '\n' :: rest) = none := by
    unfold date
    cases hyear : fixedDigits 4 (digits ++ '\n' :: rest) with
    | none => rfl
    | some found =>
        have htake : take '-' found.2 = none :=
          take_of_fixedDigits hdigits (by decide) (by decide) hyear
        simp [htake]
  have htime : time (digits ++ '\n' :: rest) = none := by
    unfold time
    cases hhour : boundedDigits 2 0 23 (digits ++ '\n' :: rest) with
    | none => rfl
    | some found =>
        have htake : take ':' found.2 = none :=
          take_of_fixedDigits hdigits (by decide) (by decide) (fixedDigits_of_boundedDigits hhour)
        simp [htake]
  rw [moment, hdate, htime]
  rfl

end

theorem areDigits_toDigits (number : Nat) : AreDigits (Nat.toDigits 10 number) :=
  fun _ hchar => Nat.isDigit_of_mem_toDigits (by decide) (by decide) hchar

theorem hexDigit?_of_isDecimal {char : Char} (h : isDecimal char = true) :
    hexDigit? char = some (char.toNat - '0'.toNat) :=
  if_pos (by simpa [isDecimal] using h)

theorem digitsValue_toDigits (number : Nat) : digitsValue 10 (Nat.toDigits 10 number) = number := by
  have hvalue : digitsValue 10 (Nat.toDigits 10 number) =
      Nat.ofDigitChars 10 (Nat.toDigits 10 number) 0 := by
    refine List.foldl_ext _ _ _ fun value char hchar => ?_
    rw [hexDigit?_of_isDecimal (areDigits_toDigits number char hchar), Option.getD_some,
      Nat.mul_comm]
  rw [hvalue, Nat.ofDigitChars_ten_toDigits]

/-- Only zero is written with a zero in front. -/
theorem eq_nil_of_toDigits {number : Nat} {others : List Char}
    (h : Nat.toDigits 10 number = '0' :: others) : others = [] := by
  induction number using Nat.strongRecOn generalizing others with
  | ind number ih =>
      by_cases hsmall : number < 10
      · rw [Nat.toDigits_of_lt_base hsmall] at h
        exact (List.cons.inj h).2.symm
      · have hlarge : 10 ≤ number := Nat.not_lt.mp hsmall
        have hne : Nat.toDigits 10 (number / 10) ≠ [] := Nat.toDigits_ne_nil
        obtain ⟨first, more, hfront⟩ := List.exists_cons_of_ne_nil hne
        rw [Nat.toDigits_of_base_le (by decide) hlarge, hfront, List.cons_append] at h
        obtain ⟨rfl, -⟩ := List.cons.inj h
        -- The digits in front would be those of zero.
        have hmore := ih (number / 10) (by omega) hfront
        have hzero := digitsValue_toDigits (number / 10)
        rw [hfront, hmore] at hzero
        have hvalue : digitsValue 10 ['0'] = 0 := by decide
        omega

theorem exists_toDigits (number : Nat) :
    ∃ first others, Nat.toDigits 10 number = first :: others ∧ isDecimal first = true ∧
      AreDigits others ∧ (first = '0' → others = []) := by
  have hne : Nat.toDigits 10 number ≠ [] := Nat.toDigits_ne_nil
  obtain ⟨first, others, hdigits⟩ := List.exists_cons_of_ne_nil hne
  obtain ⟨hfirst, hothers⟩ := List.forall_mem_cons.mp (hdigits ▸ areDigits_toDigits number)
  refine ⟨first, others, hdigits, hfirst, hothers, ?_⟩
  rintro rfl
  exact eq_nil_of_toDigits hdigits

section

variable (number : Nat) (rest : List Char)

theorem sign_toDigits :
    sign (Nat.toDigits 10 number ++ '\n' :: rest) =
      (false, Nat.toDigits 10 number ++ '\n' :: rest) := by
  obtain ⟨first, others, hdigits, hfirst, -⟩ := exists_toDigits number
  rw [hdigits, List.cons_append, sign]
  · exact fun _ heq => ne_of_class hfirst (by decide) (List.cons.inj heq).1
  · exact fun _ heq => ne_of_class hfirst (by decide) (List.cons.inj heq).1

theorem wholeDigits_toDigits :
    wholeDigits (Nat.toDigits 10 number ++ '\n' :: rest) =
      some (Nat.toDigits 10 number, '\n' :: rest) := by
  obtain ⟨first, others, hdigits, hfirst, hothers, hzero⟩ := exists_toDigits number
  rw [hdigits, List.cons_append]
  unfold wholeDigits
  split
  · rename_i heq
    obtain ⟨rfl, rfl⟩ := List.cons.inj heq
    rw [hzero rfl, List.nil_append]
  · rw [someDigits, if_pos hfirst, moreDigits_append hothers]

theorem float_toDigits : float (Nat.toDigits 10 number ++ '\n' :: rest) = none := by
  simp [float, sign_toDigits, wholeDigits_toDigits, fraction, power]

theorem special_toDigits : special (Nat.toDigits 10 number ++ '\n' :: rest) = none := by
  obtain ⟨first, others, hdigits, hfirst, -⟩ := exists_toDigits number
  unfold special
  rw [sign_toDigits, hdigits, List.cons_append]
  dsimp only
  split
  · rename_i heq
    exact absurd (List.cons.inj heq).1 (ne_of_class hfirst (by decide))
  · rename_i heq
    exact absurd (List.cons.inj heq).1 (ne_of_class hfirst (by decide))
  · rfl

end

theorem integer_toDigits {number : Nat} (h : fitsInteger number = true) (rest : List Char) :
    integer (Nat.toDigits 10 number ++ '\n' :: rest) =
      some (.integer number, '\n' :: rest) := by
  obtain ⟨first, others, hdigits, hfirst, hothers, hzero⟩ := exists_toDigits number
  have hletter : ∀ letter after, Nat.toDigits 10 number ++ '\n' :: rest = '0' :: letter :: after →
      letter = '\n' := by
    intro letter after heq
    rw [hdigits, List.cons_append] at heq
    obtain ⟨hfirst, hafter⟩ := List.cons.inj heq
    rw [hzero hfirst] at hafter
    exact (List.cons.inj hafter).1.symm
  unfold integer
  split
  · rename_i heq
    exact absurd (hletter _ _ heq) (by decide)
  · rename_i heq
    exact absurd (hletter _ _ heq) (by decide)
  · rename_i heq
    exact absurd (hletter _ _ heq) (by decide)
  · simp [sign_toDigits, wholeDigits_toDigits, signed, digitsValue_toDigits, h]

/-- A number that fits is read back from its digits. -/
theorem numeral_toDigits {number : Nat} (h : fitsInteger number = true) (rest : List Char) :
    numeral (Nat.toDigits 10 number ++ '\n' :: rest) =
      some (.integer number, '\n' :: rest) := by
  rw [numeral, moment_digits (areDigits_toDigits number), float_toDigits, special_toDigits,
    integer_toDigits h]

theorem scalarValue_of_isDecimal {first : Char} (h : isDecimal first = true) (others : List Char) :
    scalarValue (first :: others) =
      (numeral (first :: others)).map fun (scalar, rest) => (.scalar scalar, rest) := by
  have hother : ∀ other rest, isDecimal other = false → first :: others ≠ other :: rest :=
    fun _ _ hother heq => ne_of_class h hother (List.cons.inj heq).1
  rw [scalarValue]
  · exact fun _ => hother _ _ (by decide)
  · exact fun _ => hother _ _ (by decide)
  · exact fun _ => hother _ _ (by decide)
  · exact fun _ => hother _ _ (by decide)

/-- The characters are read as a scalar up to the end of the line. -/
structure Spells (chars : List Char) (scalar : Scalar) : Prop where
  opens : ∃ first others, chars = first :: others ∧ isSpace first = false ∧ first ≠ '[' ∧
    first ≠ '\x7b'
  reads : ∀ rest, scalarValue (chars ++ '\n' :: rest) = some (.scalar scalar, '\n' :: rest)

theorem spells_quoted (text : String) : Spells (quoted text) (.string text) where
  opens := ⟨_, _, rfl, by decide, by decide, by decide⟩
  reads rest := by
    have hread : anyString (quoted text ++ '\n' :: rest) = some (text, '\n' :: rest) :=
      anyString_quoted text (by simp)
    change ((anyString (quoted text ++ '\n' :: rest)).map _).map _ = _
    rw [hread]
    rfl

theorem spells_toDigits {number : Nat} (h : fitsInteger number = true) :
    Spells (Nat.toDigits 10 number) (.integer number) := by
  obtain ⟨first, others, hdigits, hfirst, -⟩ := exists_toDigits number
  have hspace : isSpace first = false := isSpace_of_class hfirst (by decide) (by decide)
  refine ⟨⟨first, others, hdigits, hspace, ne_of_class hfirst (by decide),
    ne_of_class hfirst (by decide)⟩, fun rest => ?_⟩
  have hread := numeral_toDigits h rest
  rw [hdigits, List.cons_append] at hread ⊢
  rw [scalarValue_of_isDecimal hfirst, hread]
  rfl

theorem Spells.value {chars : List Char} {scalar : Scalar} (h : Spells chars scalar) (depth : Nat)
    (rest : List Char) :
    value depth (chars ++ '\n' :: rest) = some (.scalar scalar, '\n' :: rest) := by
  obtain ⟨first, others, hchars, -, harray, htable⟩ := h.opens
  rw [← h.reads rest, hchars, List.cons_append]
  cases depth with
  | zero => rw [Toml.value]
  | succ depth =>
      rw [Toml.value]
      · exact fun _ heq => harray (List.cons.inj heq).1
      · exact fun _ heq => htable (List.cons.inj heq).1

end FolderScript.Toml
