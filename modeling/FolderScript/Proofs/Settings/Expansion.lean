/-
The tilde in bytes.  A text begins with "~" where its bytes do, so which paths stand for a
place in the home directory does not depend on how they are read.  What they become does:
all but "~" alone are taken as texts on the way, and keep their bytes only if they are.
-/
import FolderScript.Proofs.Path
import FolderScript.Proofs.Settings.Load
import FolderScript.Proofs.Text.LineEnds
import FolderScript.Runner

namespace FolderScript

namespace Utf8

/-- The text of any bytes spells these bytes only if they are a text. -/
theorem encode_lossy_eq_iff (bytes : Bytes) :
    encode (lossy bytes) = bytes ↔ (decode? bytes).isSome := by
  constructor
  · intro h
    rw [← h, decode?_encode]
    rfl
  · intro h
    obtain ⟨text, htext⟩ := Option.isSome_iff_exists.mp h
    rw [lossy_of_decode? htext, encode_of_decode? htext]

/-- A text begins with a one-byte character if and only if its bytes do. -/
theorem lossyFrom_eq_cons_iff {byte : UInt8} (h : IsSingle byte) {bytes : Bytes}
    {chars : List Char} :
    lossyFrom .start bytes = Char.ofNat byte.toNat :: chars ↔
      ∃ rest, bytes = byte :: rest ∧ lossyFrom .start rest = chars := by
  constructor
  · intro hchars
    have hmem : byte ∈ bytes :=
      mem_of_mem_lossyFrom h isReached_start (hchars ▸ List.mem_cons_self)
    -- What stands before the first such byte would begin the text.
    obtain ⟨left, rest, rfl, hleft⟩ := List.eq_append_cons_of_mem hmem
    rw [lossyFrom_append h isReached_start] at hchars
    cases hfront : lossyFrom .start left with
    | nil =>
        obtain rfl := lossyFrom_eq_nil_iff.mp hfront
        rw [hfront] at hchars
        exact ⟨rest, rfl, (List.cons.inj hchars).2⟩
    | cons first others =>
        rw [hfront] at hchars
        obtain ⟨rfl, -⟩ := List.cons.inj hchars
        have hin : byte ∈ left :=
          mem_of_mem_lossyFrom h isReached_start (hfront ▸ List.mem_cons_self)
        exact absurd hin hleft
  · rintro ⟨rest, rfl, rfl⟩
    exact lossyFrom_append h isReached_start [] rest

end Utf8

namespace Path

/-- The byte of "~". -/
def tilde : UInt8 := 0x7E

/-- A path that begins in the home directory: "~" alone or before a separator. -/
def IsTilded (path : Path) : Prop := path.bytes = [tilde] ∨ [tilde, slash] <+: path.bytes

instance (path : Path) : Decidable path.IsTilded :=
  inferInstanceAs (Decidable (path.bytes = [tilde] ∨ [tilde, slash] <+: path.bytes))

/-- The path without its tilde, all other bytes as they are. -/
def spelledOut (path home : Path) : Path :=
  if path.IsTilded then ⟨home.bytes ++ path.bytes.tail⟩ else path

variable {home path : Path}

theorem isTilded_iff :
    path.IsTilded ↔ path = ⟨[tilde]⟩ ∨ ∃ rest, path = ⟨tilde :: slash :: rest⟩ := by
  obtain ⟨bytes⟩ := path
  simp [IsTilded, List.prefix_iff_exists_append_eq, eq_comm]

theorem spelledOut_tilde (home : Path) : spelledOut ⟨[tilde]⟩ home = home := by
  simp [spelledOut, IsTilded]

theorem spelledOut_inside (home : Path) (rest : Bytes) :
    spelledOut ⟨tilde :: slash :: rest⟩ home = ⟨home.bytes ++ slash :: rest⟩ := by
  simp [spelledOut, IsTilded]

theorem spelledOut_of_not_isTilded (h : ¬ path.IsTilded) : path.spelledOut home = path :=
  if_neg h

end Path

/-- A text that begins in the home directory: "~" alone or before a separator. -/
def IsTildedText (text : String) : Prop :=
  text.toList = ['~'] ∨ ['~', '/'] <+: text.toList

theorem isSingle_tilde : Utf8.IsSingle Path.tilde := by decide

theorem isSingle_slash : Utf8.IsSingle Path.slash := by decide

/-- A path is shown as a lone tilde if it is one. -/
theorem toList_display_eq_tilde_iff {path : Path} :
    path.display.toList = ['~'] ↔ path.bytes = [Path.tilde] := by
  have htilde : Char.ofNat Path.tilde.toNat = '~' := by decide
  rw [Path.display, toList_lossy, ← htilde, Utf8.lossyFrom_eq_cons_iff isSingle_tilde]
  simp [Utf8.lossyFrom_eq_nil_iff]

/-- A path is shown as one inside the home directory if it is one. -/
theorem toList_display_eq_inside_iff {path : Path} {chars : List Char} :
    path.display.toList = '~' :: '/' :: chars ↔
      ∃ rest, path.bytes = Path.tilde :: Path.slash :: rest ∧
        Utf8.lossyFrom .start rest = chars := by
  have htilde : Char.ofNat Path.tilde.toNat = '~' := by decide
  have hslash : Char.ofNat Path.slash.toNat = '/' := by decide
  rw [Path.display, toList_lossy, ← htilde, ← hslash, Utf8.lossyFrom_eq_cons_iff isSingle_tilde]
  simp only [Utf8.lossyFrom_eq_cons_iff isSingle_slash]
  constructor
  · rintro ⟨_, hbytes, rest, rfl, hchars⟩
    exact ⟨rest, hbytes, hchars⟩
  · rintro ⟨rest, hbytes, hchars⟩
    exact ⟨_, hbytes, rest, rfl, hchars⟩

theorem isTildedText_display_iff {path : Path} : IsTildedText path.display ↔ path.IsTilded := by
  rw [IsTildedText, Path.IsTilded, toList_display_eq_tilde_iff]
  refine or_congr_right ⟨?_, ?_⟩
  · rintro ⟨chars, hchars⟩
    obtain ⟨rest, hbytes, -⟩ := toList_display_eq_inside_iff.mp hchars.symm
    exact ⟨rest, hbytes.symm⟩
  · rintro ⟨rest, hbytes⟩
    exact ⟨_, (toList_display_eq_inside_iff.mpr ⟨rest, hbytes.symm, rfl⟩).symm⟩

theorem expandTilde_of_not_isTildedText {text : String} (h : ¬ IsTildedText text)
    (home : Option String) : expandTilde home text = text := by
  cases home with
  | none => rfl
  | some home =>
      rw [expandTilde, ← String.toList_inj, String.toList_ofList]
      unfold expandTildeChars
      split
      · rename_i htext
        exact absurd (.inl htext) h
      · rename_i rest htext
        exact absurd (.inr ⟨rest, htext.symm⟩) h
      · rfl

theorem toList_expandTilde {text : String} (h : IsTildedText text) (home : String) :
    (expandTilde (some home) text).toList = home.toList ++ text.toList.tail := by
  rw [expandTilde, String.toList_ofList]
  rcases h with htext | ⟨rest, htext⟩
  · rw [htext]
    simp [expandTildeChars]
  · rw [← htext]
    rfl

namespace Settings

variable {home directory : Path}

theorem display_eq_tilde_iff : directory.display = "~" ↔ directory = ⟨[Path.tilde]⟩ := by
  obtain ⟨bytes⟩ := directory
  rw [← String.toList_inj, Path.mk.injEq]
  exact toList_display_eq_tilde_iff

theorem expandDirectory_tilde (home : Path) :
    expandDirectory (some home) ⟨[Path.tilde]⟩ = .ok home := by
  rw [expandDirectory, if_pos (display_eq_tilde_iff.mpr rfl)]

/-- A directory without a tilde becomes the path of its text. -/
theorem expandDirectory_of_not_isTilded (h : ¬ directory.IsTilded) (home : Option Path) :
    expandDirectory home directory = .ok (Path.ofText directory.display) := by
  have hne : directory.display ≠ "~" :=
    fun htilde => h (Path.isTilded_iff.mpr (.inl (display_eq_tilde_iff.mp htilde)))
  have htext : ¬ IsTildedText directory.display :=
    fun htext => h (isTildedText_display_iff.mp htext)
  unfold expandDirectory
  rw [if_neg hne, expandTilde_of_not_isTildedText htext]

/-- A place in the home directory is taken as a text; so is the home directory, if it is one,
and stays for a tilde if it is none. -/
theorem expandDirectory_inside (home : Path) (rest : Bytes) :
    expandDirectory (some home) ⟨Path.tilde :: Path.slash :: rest⟩ =
      .ok ⟨(if home.text?.isSome then home.bytes else [Path.tilde]) ++
        Path.slash :: Utf8.encode (Utf8.lossy rest)⟩ := by
  have hchars : (Path.display ⟨Path.tilde :: Path.slash :: rest⟩).toList =
      '~' :: '/' :: Utf8.lossyFrom .start rest :=
    toList_display_eq_inside_iff.mpr ⟨rest, rfl, rfl⟩
  have hne : Path.display ⟨Path.tilde :: Path.slash :: rest⟩ ≠ "~" := by
    simp [display_eq_tilde_iff]
  have htilde : String.utf8EncodeChar '~' = [Path.tilde] := by decide
  have hslash : String.utf8EncodeChar '/' = [Path.slash] := by decide
  unfold expandDirectory
  rw [if_neg hne, homeText?, Option.bind_some, Path.ofText, Utf8.encode]
  cases hhome : home.text? with
  | none =>
      rw [expandTilde, hchars]
      simp [Utf8.encode, toList_lossy, htilde, hslash]
  | some text =>
      have hspelled : text.toList.flatMap String.utf8EncodeChar = home.bytes :=
        Utf8.encode_of_decode? hhome
      rw [toList_expandTilde (.inr ⟨_, hchars.symm⟩), hchars]
      simp [Utf8.encode, toList_lossy, hspelled, hslash]

/-- No byte of a directory is lost: it is a text, and so is the home directory if a place
inside it is named. -/
def KeepsBytes (home directory : Path) : Prop :=
  directory.text?.isSome ∧ ([Path.tilde, Path.slash] <+: directory.bytes → home.text?.isSome)

theorem isSome_text?_inside (rest : Bytes) :
    (Path.text? ⟨Path.tilde :: Path.slash :: rest⟩).isSome = (Utf8.decode? rest).isSome := by
  have hfront : (Utf8.decode? [Path.tilde]).isSome = true := by decide
  have hcut := Utf8.isSome_decode?_append isSingle_slash.2 [Path.tilde] rest
  rwa [hfront, Bool.true_and] at hcut

theorem spelledOut_inside_iff (home : Path) (rest : Bytes) :
    expandDirectory (some home) ⟨Path.tilde :: Path.slash :: rest⟩ =
        .ok (Path.spelledOut ⟨Path.tilde :: Path.slash :: rest⟩ home) ↔
      (Utf8.decode? rest).isSome ∧ home.text?.isSome := by
  rw [expandDirectory_inside, Path.spelledOut_inside, Except.ok.injEq, Path.mk.injEq]
  by_cases hhome : home.text?.isSome
  · rw [if_pos hhome, List.append_cancel_left_eq, List.cons.injEq, Utf8.encode_lossy_eq_iff]
    simp [hhome]
  · -- The bytes of a text cannot be those of the home directory.
    rw [if_neg hhome]
    refine iff_of_false (fun heq => hhome ?_) fun h => hhome h.2
    have hsome := congrArg (fun bytes => (Utf8.decode? bytes).isSome) heq
    simp only [Utf8.isSome_decode?_append isSingle_slash.2, Utf8.decode?_encode] at hsome
    have hfront : (Utf8.decode? [Path.tilde]).isSome = true := by decide
    rw [hfront] at hsome
    exact (Bool.and_eq_true_iff.mp hsome.symm).1

/-- A directory becomes what it stands for, byte for byte, exactly if none is lost. -/
theorem expandDirectory_eq_spelledOut_iff (home directory : Path) :
    expandDirectory (some home) directory = .ok (directory.spelledOut home) ↔
      KeepsBytes home directory := by
  by_cases htilded : directory.IsTilded
  · rcases Path.isTilded_iff.mp htilded with rfl | ⟨rest, rfl⟩
    · rw [expandDirectory_tilde, Path.spelledOut_tilde]
      exact iff_of_true rfl ⟨by decide, fun h => by simp at h⟩
    · rw [spelledOut_inside_iff, KeepsBytes, isSome_text?_inside]
      simp
  · have hinside : ¬ [Path.tilde, Path.slash] <+: directory.bytes := fun h => htilded (.inr h)
    rw [expandDirectory_of_not_isTilded htilded, Path.spelledOut_of_not_isTilded htilded,
      Except.ok.injEq, KeepsBytes]
    simp only [hinside, false_implies, and_true]
    rw [Path.text?, ← Utf8.encode_lossy_eq_iff, Path.ofText, Path.display]
    exact Path.mk.injEq _ _ ▸ Iff.rfl

theorem exists_expandDirectory (home directory : Path) :
    ∃ expanded, expandDirectory (some home) directory = .ok expanded := by
  unfold expandDirectory
  split
  · exact ⟨home, rfl⟩
  · exact ⟨_, rfl⟩

/-- Where the home directory is known, all settings can be expanded, and the script is started
in the working directory that comes out.  It is the one that the settings name, a leading tilde
replaced by the bytes of the home directory and every other byte as it is, if and only if no
byte of it is lost. -/
theorem expand_keepsBytes_iff (home : Path) (settings : Settings) :
    ∃ expanded, (settings.expand (some home)).result = .ok expanded ∧
      (∀ request, (expanded.command request).directory = expanded.workingDirectory) ∧
      (expanded.workingDirectory = settings.workingDirectory.spelledOut home ↔
        KeepsBytes home settings.workingDirectory) := by
  obtain ⟨directory, hdirectory⟩ := exists_expandDirectory home settings.workingDirectory
  have hiff := expandDirectory_eq_spelledOut_iff home settings.workingDirectory
  rw [hdirectory, Except.ok.injEq] at hiff
  have hexpand := result_expand (some home) settings
  rw [hdirectory] at hexpand
  exact ⟨_, hexpand, fun _ => rfl, hiff⟩

end Settings

namespace ExpansionWitness

def home : Path := Path.ofText "/home"

/-- A working directory whose name is no text. -/
def settings : Settings := { Settings.builtIn with workingDirectory := ⟨[0x77, 0xFF]⟩ }

/-- Another directory takes the place of the one that is named. -/
theorem broken_directory_replaced :
    ¬ ∀ (home : Path) (settings expanded : Settings),
      (settings.expand (some home)).result = .ok expanded →
        expanded.workingDirectory = settings.workingDirectory.spelledOut home := by
  intro hkept
  have hreplaced : (settings.expand (some home)).result =
      .ok { settings with workingDirectory := Path.ofText "w\uFFFD" } := by
    decide +kernel
  exact absurd (hkept home settings _ hreplaced) (by decide +kernel)

end ExpansionWitness

end FolderScript
