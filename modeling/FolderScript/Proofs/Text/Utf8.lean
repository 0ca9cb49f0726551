/-
UTF-8 and texts.  A text can be read back from its bytes, the bytes can be had
back from their text, and a byte that is a character of its own divides
well-formed bytes into well-formed parts.
-/
import FolderScript.Text.Utf8

namespace FolderScript

namespace Utf8

theorem decodeFrom?_more {value missing low high byte : Nat} (hlow : low ≤ byte)
    (hhigh : byte ≤ high) (hbyte : byte < 256) (rest : Bytes) :
    decodeFrom? (.inside value (missing + 2) low high) (UInt8.ofNat byte :: rest) =
      decodeFrom? (.inside (value * 64 + (byte - 0x80)) (missing + 1) 0x80 0xBF) rest := by
  have hmod : byte % 256 = byte := Nat.mod_eq_of_lt hbyte
  simp [decodeFrom?_cons, step?, hmod, hlow, hhigh]

theorem decodeFrom?_last {value low high byte : Nat} (hlow : low ≤ byte)
    (hhigh : byte ≤ high) (hbyte : byte < 256) (rest : Bytes) :
    decodeFrom? (.inside value 1 low high) (UInt8.ofNat byte :: rest) =
      (decodeFrom? .start rest).map (Char.ofNat (value * 64 + (byte - 0x80)) :: ·) := by
  have hmod : byte % 256 = byte := Nat.mod_eq_of_lt hbyte
  simp [decodeFrom?_cons, step?, hmod, hlow, hhigh]

theorem decodeFrom?_lead {byte : Nat} {state : State} (hbyte : byte < 256)
    (hlead : lead? byte = some (none, state)) (rest : Bytes) :
    decodeFrom? .start (UInt8.ofNat byte :: rest) = decodeFrom? state rest := by
  have hmod : byte % 256 = byte := Nat.mod_eq_of_lt hbyte
  simp [decodeFrom?_cons, step?, hmod, hlead]

theorem lead?_two : ∀ bits < 0x20, 2 ≤ bits →
    lead? (bits + 0xC0) = some (none, .inside bits 1 0x80 0xBF) := by
  decide

theorem lead?_three : ∀ bits < 0x10, lead? (bits + 0xE0) =
    some (none, .inside bits 2 (if bits = 0 then 0xA0 else 0x80)
      (if bits = 0xD then 0x9F else 0xBF)) := by
  decide

theorem lead?_four : ∀ bits < 5, lead? (bits + 0xF0) =
    some (none, .inside bits 3 (if bits = 0 then 0x90 else 0x80)
      (if bits = 4 then 0x8F else 0xBF)) := by
  decide

/-- A byte inside a character is never one that stands for itself. -/
theorem low_of_step? {state : State} {byte : UInt8} {char : Option Char}
    {value missing low high : Nat}
    (h : step? state byte = some (char, .inside value missing low high)) : 0x80 ≤ low := by
  cases state with
  | start =>
      simp only [step?, lead?] at h
      grind
  | inside value missing low high =>
      simp only [step?] at h
      grind

theorem decodeFrom?_encodeChar (char : Char) (rest : Bytes) :
    decodeFrom? .start (String.utf8EncodeChar char ++ rest) =
      (decodeFrom? .start rest).map (char :: ·) := by
  have hvalid : char.val.toNat < 0xD800 ∨ 0xDFFF < char.val.toNat ∧ char.val.toNat < 0x110000 :=
    char.valid
  have hchar : Char.ofNat char.val.toNat = char := Char.ofNat_toNat char
  unfold String.utf8EncodeChar
  generalize char.val.toNat = value at *
  by_cases hone : value ≤ 0x7F
  · have hmod : value % 256 = value := Nat.mod_eq_of_lt (by omega)
    have hlt : value < 0x80 := by omega
    simp [hone, decodeFrom?_cons, step?, lead?, hmod, hlt, hchar]
  rw [if_neg hone]
  by_cases htwo : value ≤ 0x7FF
  · rw [if_pos htwo, List.cons_append, List.cons_append, List.nil_append,
      decodeFrom?_lead (by omega) (lead?_two (value / 64 % 0x20) (by omega) (by omega)),
      decodeFrom?_last (by omega) (by omega) (by omega)]
    have hbits : value / 64 % 0x20 * 64 + (value % 0x40 + 0x80 - 0x80) = value := by omega
    rw [hbits, hchar]
  rw [if_neg htwo]
  by_cases hthree : value ≤ 0xFFFF
  · rw [if_pos hthree, List.cons_append, List.cons_append, List.cons_append, List.nil_append,
      decodeFrom?_lead (by omega) (lead?_three (value / 4096 % 0x10) (by omega)),
      decodeFrom?_more (by split <;> omega) (by split <;> omega) (by omega),
      decodeFrom?_last (by omega) (by omega) (by omega)]
    have hbits : (value / 4096 % 0x10 * 64 + (value / 64 % 0x40 + 0x80 - 0x80)) * 64 +
        (value % 0x40 + 0x80 - 0x80) = value := by omega
    rw [hbits, hchar]
  · rw [if_neg hthree, List.cons_append, List.cons_append, List.cons_append, List.cons_append,
      List.nil_append,
      decodeFrom?_lead (by omega) (lead?_four (value / 262144 % 0x08) (by omega)),
      decodeFrom?_more (by split <;> omega) (by split <;> omega) (by omega),
      decodeFrom?_more (by omega) (by omega) (by omega),
      decodeFrom?_last (by omega) (by omega) (by omega)]
    have hbits : ((value / 262144 % 0x08 * 64 + (value / 4096 % 0x40 + 0x80 - 0x80)) * 64 +
        (value / 64 % 0x40 + 0x80 - 0x80)) * 64 + (value % 0x40 + 0x80 - 0x80) = value := by
      omega
    rw [hbits, hchar]

theorem decode?_encode (text : String) : decode? (encode text) = some text := by
  have hchars (chars : List Char) :
      decodeFrom? .start (chars.flatMap String.utf8EncodeChar) = some chars := by
    induction chars with
    | nil => rfl
    | cons char chars ih => rw [List.flatMap_cons, decodeFrom?_encodeChar, ih]; rfl
  rw [decode?_eq, encode, hchars, Option.map_some, String.ofList_toList]

theorem of_decodeFrom?_more {value missing low high : Nat} {bytes : Bytes} {chars : List Char}
    (h : decodeFrom? (.inside value (missing + 2) low high) bytes = some chars) :
    ∃ byte rest, bytes = byte :: rest ∧ low ≤ byte.toNat ∧ byte.toNat ≤ high ∧
      decodeFrom? (.inside (value * 64 + (byte.toNat - 0x80)) (missing + 1) 0x80 0xBF) rest =
        some chars := by
  cases bytes with
  | nil => contradiction
  | cons byte rest =>
      rw [decodeFrom?_cons, step?] at h
      by_cases hrange : low ≤ byte.toNat ∧ byte.toNat ≤ high
      · rw [if_pos hrange, if_neg (by omega)] at h
        exact ⟨byte, rest, rfl, hrange.1, hrange.2, h⟩
      · simp [hrange] at h

theorem of_decodeFrom?_last {value low high : Nat} {bytes : Bytes} {chars : List Char}
    (h : decodeFrom? (.inside value 1 low high) bytes = some chars) :
    ∃ byte rest others, bytes = byte :: rest ∧ low ≤ byte.toNat ∧ byte.toNat ≤ high ∧
      decodeFrom? .start rest = some others ∧
      chars = Char.ofNat (value * 64 + (byte.toNat - 0x80)) :: others := by
  cases bytes with
  | nil => contradiction
  | cons byte rest =>
      rw [decodeFrom?_cons, step?] at h
      by_cases hrange : low ≤ byte.toNat ∧ byte.toNat ≤ high
      · rw [if_pos hrange, if_pos (by omega)] at h
        obtain ⟨others, hothers, hchars⟩ := Option.map_eq_some_iff.mp h
        exact ⟨byte, rest, others, rfl, hrange.1, hrange.2, hothers, hchars.symm⟩
      · simp [hrange] at h

/-- The lengths of a character, by its first byte. -/
theorem lead?_cases {byte : Nat} {char : Option Char} {state : State}
    (h : lead? byte = some (char, state)) :
    (byte < 0x80 ∧ char = some (Char.ofNat byte) ∧ state = .start) ∨
    (char = none ∧ 0xC2 ≤ byte ∧ byte < 0xE0 ∧ state = .inside (byte - 0xC0) 1 0x80 0xBF) ∨
    (char = none ∧ 0xE0 ≤ byte ∧ byte < 0xF0 ∧
      state = .inside (byte - 0xE0) 2 (if byte = 0xE0 then 0xA0 else 0x80)
        (if byte = 0xED then 0x9F else 0xBF)) ∨
    (char = none ∧ 0xF0 ≤ byte ∧ byte < 0xF5 ∧
      state = .inside (byte - 0xF0) 3 (if byte = 0xF0 then 0x90 else 0x80)
        (if byte = 0xF4 then 0x8F else 0xBF)) := by
  unfold lead? at h
  split at h
  · obtain ⟨rfl, rfl⟩ := Prod.mk.inj (Option.some.inj h)
    exact .inl ⟨by assumption, rfl, rfl⟩
  split at h
  · contradiction
  split at h
  · obtain ⟨rfl, rfl⟩ := Prod.mk.inj (Option.some.inj h)
    exact .inr (.inl ⟨rfl, by omega, by omega, rfl⟩)
  split at h
  · obtain ⟨rfl, rfl⟩ := Prod.mk.inj (Option.some.inj h)
    subst byte
    exact .inr (.inr (.inl ⟨rfl, by omega, by omega, rfl⟩))
  split at h
  · obtain ⟨rfl, rfl⟩ := Prod.mk.inj (Option.some.inj h)
    subst byte
    exact .inr (.inr (.inl ⟨rfl, by omega, by omega, rfl⟩))
  split at h
  · obtain ⟨rfl, rfl⟩ := Prod.mk.inj (Option.some.inj h)
    refine .inr (.inr (.inl ⟨rfl, by omega, by omega, ?_⟩))
    rw [if_neg (by assumption), if_neg (by assumption)]
  split at h
  · obtain ⟨rfl, rfl⟩ := Prod.mk.inj (Option.some.inj h)
    subst byte
    exact .inr (.inr (.inr ⟨rfl, by omega, by omega, rfl⟩))
  split at h
  · obtain ⟨rfl, rfl⟩ := Prod.mk.inj (Option.some.inj h)
    refine .inr (.inr (.inr ⟨rfl, by omega, by omega, ?_⟩))
    rw [if_neg (by assumption), if_neg (by omega)]
  split at h
  · obtain ⟨rfl, rfl⟩ := Prod.mk.inj (Option.some.inj h)
    subst byte
    exact .inr (.inr (.inr ⟨rfl, by omega, by omega, rfl⟩))
  · contradiction

theorem toNat_val_ofNat {value : Nat} (h : value.isValidChar) :
    (Char.ofNat value).val.toNat = value := by
  rw [Char.ofNat, dif_pos h]
  rfl

theorem ofNat_eq_of_toNat (byte : UInt8) {value : Nat} (h : value = byte.toNat) :
    UInt8.ofNat value = byte := by
  rw [h, UInt8.ofNat_toNat]

theorem encodeChar_one {first : UInt8} (h : first.toNat < 0x80) :
    String.utf8EncodeChar (Char.ofNat first.toNat) = [first] := by
  rw [String.utf8EncodeChar, toNat_val_ofNat (.inl (by omega)), if_pos (by omega),
    UInt8.ofNat_toNat]

theorem encodeChar_two {first second : UInt8} (hfirst : 0xC2 ≤ first.toNat)
    (hfirst' : first.toNat < 0xE0) (hsecond : 0x80 ≤ second.toNat) (hsecond' : second.toNat ≤ 0xBF) :
    String.utf8EncodeChar
      (Char.ofNat ((first.toNat - 0xC0) * 64 + (second.toNat - 0x80))) = [first, second] := by
  rw [String.utf8EncodeChar, toNat_val_ofNat (.inl (by omega)), if_neg (by omega),
    if_pos (by omega), ofNat_eq_of_toNat first (by omega), ofNat_eq_of_toNat second (by omega)]

theorem encodeChar_three {first second third : UInt8} (hfirst : 0xE0 ≤ first.toNat)
    (hfirst' : first.toNat < 0xF0)
    (hsecond : (if first.toNat = 0xE0 then 0xA0 else 0x80) ≤ second.toNat)
    (hsecond' : second.toNat ≤ (if first.toNat = 0xED then 0x9F else 0xBF))
    (hthird : 0x80 ≤ third.toNat) (hthird' : third.toNat ≤ 0xBF) :
    String.utf8EncodeChar (Char.ofNat (((first.toNat - 0xE0) * 64 + (second.toNat - 0x80)) * 64 +
      (third.toNat - 0x80))) = [first, second, third] := by
  have hlow : 0x80 ≤ second.toNat := Nat.le_trans (by split <;> decide) hsecond
  have hhigh : second.toNat ≤ 0xBF := Nat.le_trans hsecond' (by split <;> decide)
  have hvalid : (((first.toNat - 0xE0) * 64 + (second.toNat - 0x80)) * 64 +
      (third.toNat - 0x80)).isValidChar := by
    unfold Nat.isValidChar
    split at hsecond' <;> omega
  have hlong : 0x800 ≤ ((first.toNat - 0xE0) * 64 + (second.toNat - 0x80)) * 64 +
      (third.toNat - 0x80) := by
    split at hsecond <;> omega
  rw [String.utf8EncodeChar, toNat_val_ofNat hvalid, if_neg (by omega), if_neg (by omega),
    if_pos (by omega), ofNat_eq_of_toNat first (by omega), ofNat_eq_of_toNat second (by omega),
    ofNat_eq_of_toNat third (by omega)]

theorem encodeChar_four {first second third fourth : UInt8} (hfirst : 0xF0 ≤ first.toNat)
    (hfirst' : first.toNat < 0xF5)
    (hsecond : (if first.toNat = 0xF0 then 0x90 else 0x80) ≤ second.toNat)
    (hsecond' : second.toNat ≤ (if first.toNat = 0xF4 then 0x8F else 0xBF))
    (hthird : 0x80 ≤ third.toNat) (hthird' : third.toNat ≤ 0xBF)
    (hfourth : 0x80 ≤ fourth.toNat) (hfourth' : fourth.toNat ≤ 0xBF) :
    String.utf8EncodeChar (Char.ofNat ((((first.toNat - 0xF0) * 64 + (second.toNat - 0x80)) * 64 +
      (third.toNat - 0x80)) * 64 + (fourth.toNat - 0x80))) = [first, second, third, fourth] := by
  have hlow : 0x80 ≤ second.toNat := Nat.le_trans (by split <;> decide) hsecond
  have hhigh : second.toNat ≤ 0xBF := Nat.le_trans hsecond' (by split <;> decide)
  have hvalid : ((((first.toNat - 0xF0) * 64 + (second.toNat - 0x80)) * 64 +
      (third.toNat - 0x80)) * 64 + (fourth.toNat - 0x80)).isValidChar := by
    unfold Nat.isValidChar
    split at hsecond <;> split at hsecond' <;> omega
  have hlong : 0x10000 ≤ (((first.toNat - 0xF0) * 64 + (second.toNat - 0x80)) * 64 +
      (third.toNat - 0x80)) * 64 + (fourth.toNat - 0x80) := by
    split at hsecond <;> omega
  rw [String.utf8EncodeChar, toNat_val_ofNat hvalid, if_neg (by omega), if_neg (by omega),
    if_neg (by omega), ofNat_eq_of_toNat first (by omega), ofNat_eq_of_toNat second (by omega),
    ofNat_eq_of_toNat third (by omega), ofNat_eq_of_toNat fourth (by omega)]

/-- Bytes that can be read are at their end, or begin with the bytes of the
first character. -/
theorem of_decodeFrom?_start {bytes : Bytes} {chars : List Char}
    (h : decodeFrom? .start bytes = some chars) :
    (bytes = [] ∧ chars = []) ∨
      ∃ char rest others, bytes = String.utf8EncodeChar char ++ rest ∧ chars = char :: others ∧
        decodeFrom? .start rest = some others := by
  cases bytes with
  | nil => exact .inl ⟨rfl, (Option.some.inj h).symm⟩
  | cons first rest =>
      right
      rw [decodeFrom?_cons, step?] at h
      cases hlead : lead? first.toNat with
      | none => simp [hlead] at h
      | some found =>
          obtain ⟨char, state⟩ := found
          rw [hlead] at h
          rcases lead?_cases hlead with ⟨hfirst, rfl, rfl⟩ | ⟨rfl, hfirst, hfirst', rfl⟩ |
            ⟨rfl, hfirst, hfirst', rfl⟩ | ⟨rfl, hfirst, hfirst', rfl⟩
          · obtain ⟨others, hothers, rfl⟩ := Option.map_eq_some_iff.mp h
            exact ⟨_, rest, others, by rw [encodeChar_one hfirst]; rfl, rfl, hothers⟩
          · obtain ⟨second, rest, others, rfl, hsecond, hsecond', hothers, rfl⟩ :=
              of_decodeFrom?_last h
            exact ⟨_, rest, others,
              by rw [encodeChar_two hfirst hfirst' hsecond hsecond']; rfl, rfl, hothers⟩
          · obtain ⟨second, rest, rfl, hsecond, hsecond', h⟩ := of_decodeFrom?_more h
            obtain ⟨third, rest, others, rfl, hthird, hthird', hothers, rfl⟩ :=
              of_decodeFrom?_last h
            exact ⟨_, rest, others,
              by rw [encodeChar_three hfirst hfirst' hsecond hsecond' hthird hthird']; rfl, rfl,
              hothers⟩
          · obtain ⟨second, rest, rfl, hsecond, hsecond', h⟩ := of_decodeFrom?_more h
            obtain ⟨third, rest, rfl, hthird, hthird', h⟩ := of_decodeFrom?_more h
            obtain ⟨fourth, rest, others, rfl, hfourth, hfourth', hothers, rfl⟩ :=
              of_decodeFrom?_last h
            exact ⟨_, rest, others,
              by rw [encodeChar_four hfirst hfirst' hsecond hsecond' hthird hthird' hfourth
                hfourth']; rfl, rfl, hothers⟩

theorem flatMap_encodeChar_of_decodeFrom? {bytes : Bytes} {chars : List Char}
    (h : decodeFrom? .start bytes = some chars) :
    chars.flatMap String.utf8EncodeChar = bytes := by
  induction chars generalizing bytes with
  | nil =>
      rcases of_decodeFrom?_start h with ⟨rfl, -⟩ | ⟨_, _, _, _, hnil, _⟩
      · rfl
      · contradiction
  | cons char chars ih =>
      rcases of_decodeFrom?_start h with ⟨_, hnil⟩ | ⟨_, rest, _, rfl, hcons, hrest⟩
      · contradiction
      · obtain ⟨rfl, rfl⟩ := List.cons.inj hcons
        rw [List.flatMap_cons, ih hrest]

/-- Strict decoding loses nothing: the text spells the bytes. -/
theorem encode_of_decode? {bytes : Bytes} {text : String} (h : decode? bytes = some text) :
    encode text = bytes := by
  rw [decode?_eq] at h
  obtain ⟨chars, hchars, rfl⟩ := Option.map_eq_some_iff.mp h
  rw [encode, String.toList_ofList, flatMap_encodeChar_of_decodeFrom? hchars]

theorem isSome_decodeFrom?_cons (state : State) (byte : UInt8) (rest : Bytes) :
    (decodeFrom? state (byte :: rest)).isSome =
      ((step? state byte).any fun found => (decodeFrom? found.2 rest).isSome) := by
  rw [decodeFrom?_cons]
  split <;> simp [*]

/-- Before and after a byte that is a character of its own, well-formed bytes
are well-formed. -/
theorem isSome_decodeFrom?_append {byte : UInt8} (hbyte : byte.toNat < 0x80) {state : State}
    (hstate : ∀ value missing low high, state = .inside value missing low high → 0x80 ≤ low)
    (left right : Bytes) :
    (decodeFrom? state (left ++ byte :: right)).isSome =
      ((decodeFrom? state left).isSome && (decodeFrom? .start right).isSome) := by
  induction left generalizing state with
  | nil =>
      rw [List.nil_append, isSome_decodeFrom?_cons]
      cases state with
      | start => simp [step?, lead?, hbyte, decodeFrom?]
      | inside value missing low high =>
          have hlow := hstate value missing low high rfl
          have hnot : ¬ low ≤ byte.toNat := by omega
          simp [step?, hnot, decodeFrom?]
  | cons first left ih =>
      rw [List.cons_append, isSome_decodeFrom?_cons, isSome_decodeFrom?_cons]
      cases hstep : step? state first with
      | none => rfl
      | some found =>
          obtain ⟨char, next⟩ := found
          apply ih
          rintro value missing low high rfl
          exact low_of_step? hstep

theorem isSome_decode?_append {byte : UInt8} (hbyte : byte.toNat < 0x80) (left right : Bytes) :
    (decode? (left ++ byte :: right)).isSome =
      ((decode? left).isSome && (decode? right).isSome) := by
  simp only [decode?_eq, Option.isSome_map]
  exact isSome_decodeFrom?_append hbyte (fun _ _ _ _ h => State.noConfusion h) left right

theorem lossyFrom_of_decodeFrom? {state : State} {bytes : Bytes} {chars : List Char}
    (h : decodeFrom? state bytes = some chars) : lossyFrom state bytes = chars := by
  induction bytes generalizing state chars with
  | nil =>
      cases state with
      | start => exact Option.some.inj h
      | inside => contradiction
  | cons byte rest ih =>
      rw [decodeFrom?_cons] at h
      cases hstep : step? state byte with
      | none =>
          rw [hstep] at h
          contradiction
      | some found =>
          obtain ⟨char, next⟩ := found
          have hlossy : lossyStep state byte = (char.toList, next) := by
            simp only [lossyStep, hstep]
          rw [hstep] at h
          rw [lossyFrom_cons, hlossy]
          cases char with
          | none => exact ih h
          | some char =>
              obtain ⟨tail, htail, rfl⟩ := Option.map_eq_some_iff.mp h
              exact congrArg (List.cons char) (ih htail)

/-- In bytes that are well-formed nothing is replaced. -/
theorem lossy_of_decode? {bytes : Bytes} {text : String} (h : decode? bytes = some text) :
    lossy bytes = text := by
  rw [decode?_eq] at h
  obtain ⟨chars, hchars, rfl⟩ := Option.map_eq_some_iff.mp h
  rw [lossy_eq, lossyFrom_of_decodeFrom? hchars]

end Utf8

end FolderScript
