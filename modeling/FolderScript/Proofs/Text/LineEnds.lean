/-
Line ends in bytes and in the text of the bytes.  A byte that is a character of its
own ends whatever broken sequence stands before it, and lossy decoding makes such a
character of no other byte.  So a text has the line ends of its bytes, and a stream
may be decoded line by line or as a whole.
-/
import FolderScript.Proofs.Stream.Poll
import FolderScript.Proofs.Text.Utf8

namespace FolderScript

namespace Utf8

/-- A state that reading can get to from the start: only bytes above the one-byte
characters go on from it, and what they complete is no one-byte character. -/
def State.IsReached : State → Prop
  | .start => True
  | .inside value missing low _ =>
      0x80 ≤ low ∧ 2 ≤ if missing ≤ 1 then value else value * 64 + (low - 0x80)

theorem isReached_start : State.start.IsReached := trivial

theorem isReached_of_lead? {byte : Nat} {char : Option Char} {next : State}
    (h : lead? byte = some (char, next)) : next.IsReached := by
  rcases lead?_cases h with ⟨-, -, rfl⟩ | ⟨-, hlow, -, rfl⟩ | ⟨-, hlow, -, rfl⟩ |
    ⟨-, hlow, -, rfl⟩
  · trivial
  · exact ⟨by omega, by rw [if_pos (by omega)]; omega⟩
  · refine ⟨by split <;> omega, ?_⟩
    rw [if_neg (by omega)]
    split <;> omega
  · refine ⟨by split <;> omega, ?_⟩
    rw [if_neg (by omega)]
    split <;> omega

theorem isReached_of_step? {state next : State} {byte : UInt8} {char : Option Char}
    (hstate : state.IsReached) (h : step? state byte = some (char, next)) :
    next.IsReached := by
  cases state with
  | start => exact isReached_of_lead? h
  | inside value missing low high =>
      obtain ⟨hlow, hvalue⟩ := hstate
      rw [step?] at h
      split at h
      · dsimp only at h
        split at h
        · obtain ⟨-, rfl⟩ := Prod.mk.inj (Option.some.inj h)
          trivial
        · obtain ⟨-, rfl⟩ := Prod.mk.inj (Option.some.inj h)
          rw [if_neg (by assumption)] at hvalue
          exact ⟨Nat.le_refl _, by split <;> omega⟩
      · contradiction

theorem isReached_lossyStep {state : State} (h : state.IsReached) (byte : UInt8) :
    (lossyStep state byte).2.IsReached := by
  unfold lossyStep
  split
  · exact isReached_of_step? h (by assumption)
  · cases state with
    | start => trivial
    | inside value missing low high =>
        dsimp only
        split
        · exact isReached_of_step? isReached_start (by assumption)
        · trivial

/-- A byte that is a character of its own; zero is left out, for it also stands for the
numbers of no character. -/
def IsSingle (byte : UInt8) : Prop := 0 < byte.toNat ∧ byte.toNat < 0x80

instance (byte : UInt8) : Decidable (IsSingle byte) :=
  inferInstanceAs (Decidable (0 < byte.toNat ∧ byte.toNat < 0x80))

variable {byte : UInt8}

theorem IsSingle.isValidChar (h : IsSingle byte) : byte.toNat.isValidChar :=
  .inl (Nat.lt_trans h.2 (by decide))

theorem single_ne_ofNat (h : IsSingle byte) {value : Nat} (hvalue : 0x80 ≤ value) :
    Char.ofNat byte.toNat ≠ Char.ofNat value := by
  intro heq
  have hsame := congrArg (fun char => char.val.toNat) heq
  have hpos := h.1
  have hlt := h.2
  rw [toNat_val_ofNat h.isValidChar] at hsame
  by_cases hvalid : value.isValidChar
  · rw [toNat_val_ofNat hvalid] at hsame
    omega
  · rw [Char.ofNat, dif_neg hvalid] at hsame
    exact absurd hsame (Nat.ne_of_gt hpos)

theorem single_ne_replacement (h : IsSingle byte) : Char.ofNat byte.toNat ≠ replacement :=
  single_ne_ofNat h (show 0x80 ≤ 0xFFFD by decide)

theorem eq_of_step? (h : IsSingle byte) {state next : State} (hstate : state.IsReached)
    {first : UInt8} (hstep : step? state first = some (some (Char.ofNat byte.toNat), next)) :
    first = byte := by
  cases state with
  | start =>
      obtain ⟨hfirst, hchar, -⟩ | ⟨hnone, -⟩ | ⟨hnone, -⟩ | ⟨hnone, -⟩ := lead?_cases hstep
      · have hsame := congrArg (fun char => char.val.toNat) (Option.some.inj hchar)
        have hvalid : first.toNat.isValidChar := .inl (Nat.lt_trans hfirst (by decide))
        rw [toNat_val_ofNat h.isValidChar, toNat_val_ofNat hvalid] at hsame
        exact UInt8.toNat_inj.mp hsame.symm
      all_goals contradiction
  | inside value missing low high =>
      obtain ⟨hlow, hvalue⟩ := hstate
      rw [step?] at hstep
      split at hstep
      · dsimp only at hstep
        split at hstep
        · obtain ⟨hchar, -⟩ := Prod.mk.inj (Option.some.inj hstep)
          rw [if_pos (by assumption)] at hvalue
          exact absurd (Option.some.inj hchar).symm (single_ne_ofNat h (by omega))
        · obtain ⟨hchar, -⟩ := Prod.mk.inj (Option.some.inj hstep)
          contradiction
      · contradiction

/-- One step of lossy decoding makes a one-byte character of that byte only. -/
theorem eq_of_mem_lossyStep (h : IsSingle byte) {state : State} (hstate : state.IsReached)
    {first : UInt8} (hmem : Char.ofNat byte.toNat ∈ (lossyStep state first).1) :
    first = byte := by
  have hreplacement := single_ne_replacement h
  unfold lossyStep at hmem
  split at hmem
  · rename_i char next hstep
    obtain rfl := Option.mem_toList.mp hmem
    exact eq_of_step? h hstate hstep
  · cases state with
    | start => exact absurd (List.mem_singleton.mp hmem) hreplacement
    | inside value missing low high =>
        dsimp only at hmem
        split at hmem
        · rename_i char next hstep
          rcases List.mem_cons.mp hmem with heq | hmem
          · exact absurd heq hreplacement
          · obtain rfl := Option.mem_toList.mp hmem
            exact eq_of_step? h isReached_start hstep
        · simp [hreplacement] at hmem

/-- Lossy decoding makes a one-byte character of that byte only. -/
theorem mem_of_mem_lossyFrom (h : IsSingle byte) {state : State} (hstate : state.IsReached)
    {bytes : Bytes} (hmem : Char.ofNat byte.toNat ∈ lossyFrom state bytes) : byte ∈ bytes := by
  induction bytes generalizing state with
  | nil =>
      cases state with
      | start => contradiction
      | inside => exact absurd (List.mem_singleton.mp hmem) (single_ne_replacement h)
  | cons first rest ih =>
      rw [lossyFrom_cons] at hmem
      rcases List.mem_append.mp hmem with hmem | hmem
      · exact eq_of_mem_lossyStep h hstate hmem ▸ List.mem_cons_self
      · exact List.mem_cons_of_mem first (ih (isReached_lossyStep hstate first) hmem)

theorem lossyStep_single (h : IsSingle byte) {state : State} (hstate : state.IsReached) :
    lossyStep state byte = (lossyFrom state [] ++ [Char.ofNat byte.toNat], .start) := by
  cases state with
  | start => simp [lossyStep, step?, lead?, h.2, lossyFrom]
  | inside value missing low high =>
      have hlow : ¬ low ≤ byte.toNat := by
        have hle := hstate.1
        have hlt := h.2
        omega
      simp [lossyStep, step?, lead?, h.2, hlow, lossyFrom]

/-- Lossy decoding may stop before a one-byte character and start again behind it. -/
theorem lossyFrom_append (h : IsSingle byte) {state : State} (hstate : state.IsReached)
    (left right : Bytes) :
    lossyFrom state (left ++ byte :: right) =
      lossyFrom state left ++ Char.ofNat byte.toNat :: lossyFrom .start right := by
  induction left generalizing state with
  | nil => rw [List.nil_append, lossyFrom_cons, lossyStep_single h hstate]; simp
  | cons first left ih =>
      rw [List.cons_append, lossyFrom_cons, lossyFrom_cons, List.append_assoc,
        ih (isReached_lossyStep hstate first)]

/-- A byte that completes no character leaves one unfinished. -/
theorem ne_start_of_step? {state next : State} {first : UInt8}
    (h : step? state first = some (none, next)) : next ≠ .start := by
  rintro rfl
  cases state with
  | start =>
      obtain ⟨-, hchar, -⟩ | ⟨-, -, -, hnext⟩ | ⟨-, -, -, hnext⟩ | ⟨-, -, -, hnext⟩ :=
        lead?_cases h
      all_goals contradiction
  | inside value missing low high =>
      rw [step?] at h
      split at h
      · dsimp only at h
        split at h <;> simp at h
      · contradiction

theorem snd_lossyStep_ne_start {state : State} {first : UInt8}
    (h : (lossyStep state first).1 = []) : (lossyStep state first).2 ≠ .start := by
  unfold lossyStep at h ⊢
  split at h
  · rename_i char next hstep
    obtain rfl := Option.toList_eq_nil_iff.mp h
    exact ne_start_of_step? hstep
  · cases state with
    | start => contradiction
    | inside value missing low high =>
        dsimp only at h
        split at h <;> contradiction

theorem eq_nil_of_lossyFrom {state : State} {bytes : Bytes} (h : lossyFrom state bytes = []) :
    state = .start ∧ bytes = [] := by
  induction bytes generalizing state with
  | nil =>
      cases state with
      | start => exact ⟨rfl, rfl⟩
      | inside => contradiction
  | cons first rest ih =>
      rw [lossyFrom_cons, List.append_eq_nil_iff] at h
      exact absurd (ih h.2).1 (snd_lossyStep_ne_start h.1)

theorem getLast?_of_lossyFrom (h : IsSingle byte) {state : State} (hstate : state.IsReached)
    {bytes : Bytes} (hlast : (lossyFrom state bytes).getLast? = some (Char.ofNat byte.toNat)) :
    bytes.getLast? = some byte := by
  induction bytes generalizing state with
  | nil =>
      have hmem := mem_of_mem_lossyFrom h hstate (List.mem_of_getLast? hlast)
      contradiction
  | cons first rest ih =>
      rw [lossyFrom_cons, List.getLast?_append] at hlast
      cases hrest : (lossyFrom (lossyStep state first).2 rest).getLast? with
      | some char =>
          rw [hrest] at hlast
          have hfound := ih (isReached_lossyStep hstate first) (hrest.trans hlast)
          rw [List.getLast?_cons, hfound]
          rfl
      | none =>
          rw [hrest] at hlast
          obtain ⟨-, rfl⟩ := eq_nil_of_lossyFrom (List.getLast?_eq_none_iff.mp hrest)
          have hfirst := eq_of_mem_lossyStep h hstate (List.mem_of_getLast? hlast)
          rw [hfirst]
          rfl

/-- A text ends in a one-byte character if and only if its bytes do. -/
theorem getLast?_lossyFrom_iff (h : IsSingle byte) (bytes : Bytes) :
    (lossyFrom .start bytes).getLast? = some (Char.ofNat byte.toNat) ↔
      bytes.getLast? = some byte := by
  refine ⟨getLast?_of_lossyFrom h isReached_start, fun hlast => ?_⟩
  obtain ⟨front, rfl⟩ := List.getLast?_eq_some_iff.mp hlast
  rw [lossyFrom_append h isReached_start, List.getLast?_append]
  rfl

theorem lossyFrom_eq_nil_iff {bytes : Bytes} : lossyFrom .start bytes = [] ↔ bytes = [] :=
  ⟨fun h => (eq_nil_of_lossyFrom h).2, fun h => h ▸ rfl⟩

end Utf8

/-- Characters with every carriage return that stands directly before a line feed
dropped. -/
def unifyLineEnds : List Char → List Char
  | '\r' :: '\n' :: rest => '\n' :: unifyLineEnds rest
  | char :: rest => char :: unifyLineEnds rest
  | [] => []

def endLastLine (chars : List Char) : List Char :=
  if chars = [] ∨ chars.getLast? = some '\n' then chars else chars ++ ['\n']

def withPlainLineEnds (text : String) : String :=
  String.ofList (endLastLine (unifyLineEnds text.toList))

/-- One carriage return at the end goes. -/
def dropReturn (chars : List Char) : List Char :=
  if chars.getLast? = some '\r' then chars.dropLast else chars

theorem unifyLineEnds_cons {char : Char} {rest : List Char}
    (h : char = '\r' → rest.head? ≠ some '\n') :
    unifyLineEnds (char :: rest) = char :: unifyLineEnds rest := by
  rw [unifyLineEnds]
  rintro others rfl rfl
  exact h rfl rfl

theorem unifyLineEnds_of_plain {chars : List Char} (h : ¬ ['\r', '\n'] <:+: chars) :
    unifyLineEnds chars = chars := by
  induction chars with
  | nil => rfl
  | cons char rest ih =>
      rw [unifyLineEnds_cons, ih fun hrest => h (hrest.trans (List.infix_cons List.infix_rfl))]
      rintro rfl hhead
      obtain ⟨others, rfl⟩ := List.head?_eq_some_iff.mp hhead
      exact h ⟨[], others, rfl⟩

theorem dropReturn_cons_cons (char next : Char) (rest : List Char) :
    dropReturn (char :: next :: rest) = char :: dropReturn (next :: rest) := by
  unfold dropReturn
  rw [List.getLast?_cons_cons]
  split <;> rfl

/-- The first line end, and what it takes off the line before it. -/
theorem unifyLineEnds_append {front : List Char} (h : '\n' ∉ front) (rest : List Char) :
    unifyLineEnds (front ++ '\n' :: rest) = dropReturn front ++ '\n' :: unifyLineEnds rest := by
  induction front with
  | nil => rfl
  | cons char front ih =>
      obtain ⟨hchar, hfront⟩ := not_or.mp (mt List.mem_cons.mpr h)
      cases front with
      | nil =>
          by_cases hreturn : char = '\r'
          · rw [hreturn]
            rfl
          · have hkept : dropReturn [char] = [char] := by simp [dropReturn, hreturn]
            rw [hkept, List.singleton_append, unifyLineEnds_cons fun heq => absurd heq hreturn]
            rfl
      | cons next others =>
          have hnext : next ≠ '\n' := fun heq => hfront (heq ▸ List.mem_cons_self)
          rw [dropReturn_cons_cons, List.cons_append, unifyLineEnds_cons, ih hfront]
          · rfl
          · exact fun _ hhead => hnext (Option.some.inj hhead)

theorem endLastLine_append (front rest : List Char) :
    endLastLine (front ++ '\n' :: rest) = front ++ '\n' :: endLastLine rest := by
  unfold endLastLine
  cases rest with
  | nil => simp
  | cons char rest =>
      have hlast : (front ++ '\n' :: char :: rest).getLast? = (char :: rest).getLast? := by
        rw [List.getLast?_append, List.getLast?_cons_cons, List.getLast?_cons]
        rfl
      rw [hlast]
      by_cases hend : (char :: rest).getLast? = some '\n' <;> simp [hend]

/-- Induction along the lines of a stream, the last of which may have no end. -/
@[elab_as_elim] theorem lineInduction {motive : Bytes → Prop}
    (last : ∀ held, newline ∉ held → motive held)
    (line : ∀ line more, newline ∉ line → motive more → motive (line ++ newline :: more))
    (bytes : Bytes) : motive bytes := by
  induction hlength : bytes.length using Nat.strong_induction_on generalizing bytes with
  | _ length ih =>
      by_cases hmem : newline ∈ bytes
      · obtain ⟨front, more, rfl, hfront⟩ := List.eq_append_cons_of_mem hmem
        refine line front more hfront (ih more.length ?_ more rfl)
        rw [← hlength, List.length_append, List.length_cons]
        omega
      · exact last bytes hmem

theorem toList_lossy (bytes : Bytes) : (Utf8.lossy bytes).toList = Utf8.lossyFrom .start bytes := by
  rw [Utf8.lossy_eq, String.toList_ofList]

theorem isSingle_newline : Utf8.IsSingle newline := by decide

theorem isSingle_carriageReturn : Utf8.IsSingle carriageReturn := by decide

theorem newline_notMem_lossyFrom {held : Bytes} (h : newline ∉ held) :
    '\n' ∉ Utf8.lossyFrom .start held :=
  fun hmem => h (Utf8.mem_of_mem_lossyFrom isSingle_newline Utf8.isReached_start hmem)

/-- The carriage return before a line end goes from the bytes as from their text. -/
theorem toList_lineText (line : Bytes) :
    (lineText line).toList = dropReturn (Utf8.lossyFrom .start line) := by
  have hreturn : Char.ofNat carriageReturn.toNat = '\r' := by decide
  have hiff := Utf8.getLast?_lossyFrom_iff isSingle_carriageReturn line
  rw [hreturn] at hiff
  rw [lineText, toList_lossy, dropReturn]
  by_cases hlast : line.getLast? = some carriageReturn
  · rw [if_pos hlast, if_pos (hiff.mpr hlast)]
    obtain ⟨front, rfl⟩ := List.getLast?_eq_some_iff.mp hlast
    have hcut := Utf8.lossyFrom_append isSingle_carriageReturn Utf8.isReached_start front []
    rw [List.dropLast_concat, hcut, Utf8.lossyFrom, List.dropLast_concat]
  · rw [if_neg hlast, if_neg (mt hiff.mp hlast)]

theorem newline_notMem_lineText {line : Bytes} (h : newline ∉ line) :
    '\n' ∉ (lineText line).toList := by
  rw [toList_lineText, dropReturn]
  split
  · exact fun hmem => newline_notMem_lossyFrom h (List.dropLast_subset _ hmem)
  · exact newline_notMem_lossyFrom h

/-- The lines of a stream, each with its end, are the text of the whole stream. -/
theorem join_lines (bytes : Bytes) :
    String.join ((lines bytes).map (· ++ "\n")) = withPlainLineEnds (Utf8.lossy bytes) := by
  rw [String.ext_iff, String.toList_join, List.flatMap_map, withPlainLineEnds,
    String.toList_ofList, toList_lossy]
  induction bytes using lineInduction with
  | last held h =>
      have hplain := newline_notMem_lossyFrom h
      have hsame : unifyLineEnds (Utf8.lossyFrom .start held) = Utf8.lossyFrom .start held :=
        unifyLineEnds_of_plain fun hpart =>
          hplain (hpart.subset (List.mem_cons_of_mem '\r' List.mem_cons_self))
      rw [lines_of_not_mem h, hsame]
      by_cases hheld : held = []
      · simp [hheld, Utf8.lossyFrom, endLastLine]
      · have htext : Utf8.lossyFrom .start held ≠ [] := mt Utf8.lossyFrom_eq_nil_iff.mp hheld
        have hopen : (Utf8.lossyFrom .start held).getLast? ≠ some '\n' :=
          fun hlast => hplain (List.mem_of_getLast? hlast)
        simp [hheld, endLastLine, htext, hopen, toList_lossy]
  | line line more h ih =>
      have hcut := Utf8.lossyFrom_append isSingle_newline Utf8.isReached_start line more
      have hend : Char.ofNat newline.toNat = '\n' := by decide
      rw [lines_append_newline more h, List.flatMap_cons, ih, hcut, hend,
        unifyLineEnds_append (newline_notMem_lossyFrom h), endLastLine_append,
        String.toList_append, toList_lineText, List.append_assoc]
      rfl

theorem infix_encode {chars : List Char} {text : String} (h : chars <:+: text.toList) :
    Utf8.encode (String.ofList chars) <:+: Utf8.encode text := by
  obtain ⟨front, back, htext⟩ := h
  refine ⟨Utf8.encode (String.ofList front), Utf8.encode (String.ofList back), ?_⟩
  simp only [Utf8.encode, String.toList_ofList, ← List.flatMap_append, htext]

/-- In bytes that are well-formed, and whose line ends are line feeds already, all that
changes is that the last line is ended. -/
theorem encode_withPlainLineEnds {bytes : Bytes} (hvalid : (Utf8.decode? bytes).isSome)
    (hplain : ¬ [carriageReturn, newline] <:+: bytes) :
    Utf8.encode (withPlainLineEnds (Utf8.lossy bytes)) =
      if bytes = [] ∨ bytes.getLast? = some newline then bytes else bytes ++ [newline] := by
  obtain ⟨text, htext⟩ := Option.isSome_iff_exists.mp hvalid
  have hlossy : Utf8.lossy bytes = text := Utf8.lossy_of_decode? htext
  have hchars : text.toList = Utf8.lossyFrom .start bytes := by rw [← hlossy, toList_lossy]
  have hencode : Utf8.encode text = bytes := Utf8.encode_of_decode? htext
  have hunified : unifyLineEnds text.toList = text.toList :=
    unifyLineEnds_of_plain fun hpart => hplain (hencode ▸ infix_encode hpart)
  have hend : Char.ofNat newline.toNat = '\n' := by decide
  have hiff := Utf8.getLast?_lossyFrom_iff isSingle_newline bytes
  rw [hend, ← hchars] at hiff
  have hnil : text.toList = [] ↔ bytes = [] := by rw [hchars, Utf8.lossyFrom_eq_nil_iff]
  rw [withPlainLineEnds, hlossy, hunified, endLastLine]
  simp only [hnil, hiff]
  split
  · rw [String.ofList_toList, hencode]
  · rw [Utf8.encode, String.toList_ofList, List.flatMap_append]
    exact congrArg (· ++ [newline]) hencode

end FolderScript
