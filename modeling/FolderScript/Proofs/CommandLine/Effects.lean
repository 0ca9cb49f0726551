/-
What arguments do to the options.  Each option that is read either counts once more or
gives one option its value, and two such effects can change places: an option is given at
most once, and otherwise no option touches another.
-/
import FolderScript.Proofs.CommandLine.Given
import FolderScript.Proofs.Text.Utf8

namespace FolderScript

namespace ValueOption

def argument (option : ValueOption) (value : Bytes) : Bytes :=
  Utf8.encode ("--" ++ option.long ++ "=") ++ value

theorem argument_eq (option : ValueOption) (value : Bytes) :
    option.argument value = Reading.dash :: Reading.dash ::
      (Utf8.encode option.long ++ Reading.equalsSign :: value) := by
  have hdashes : Utf8.encode "--" = [Reading.dash, Reading.dash] := by decide
  have hsign : Utf8.encode "=" = [Reading.equalsSign] := by decide
  rw [argument, Utf8.encode_append, Utf8.encode_append, hdashes, hsign]
  simp

theorem ne_equalsSign_of_mem_long (option : ValueOption) :
    ∀ byte ∈ Utf8.encode option.long, decide (byte ≠ Reading.equalsSign) :=
  List.all_eq_true.mp (by cases option <;> decide)

/-- The name of an option ends at the sign between it and its value. -/
theorem takeWhile_long (option : ValueOption) (value : Bytes) :
    (Utf8.encode option.long ++ Reading.equalsSign :: value).takeWhile
      (· ≠ Reading.equalsSign) = Utf8.encode option.long := by
  rw [List.takeWhile_append_of_pos option.ne_equalsSign_of_mem_long]
  simp

theorem dropWhile_long (option : ValueOption) (value : Bytes) :
    (Utf8.encode option.long ++ Reading.equalsSign :: value).dropWhile
      (· ≠ Reading.equalsSign) = Reading.equalsSign :: value := by
  rw [List.dropWhile_append_of_pos option.ne_equalsSign_of_mem_long]
  simp

end ValueOption

namespace Options

/-- Options are what has been given, and a count. -/
theorem ext_get? {first second : Options}
    (h : ∀ option, first.get? option = second.get? option)
    (hverbosity : first.verbosity = second.verbosity) : first = second := by
  have hmap {α : Type} {kind : α → Given} (hkind : Function.Injective kind)
      {left right : Option α} (hvalue : left.map kind = right.map kind) : left = right :=
    Option.map_injective hkind hvalue
  have hproject := hmap (fun _ _ => Given.path.inj) (h .project)
  have hinput := hmap (fun _ _ => Given.text.inj) (h .input)
  have houtput := hmap (fun _ _ => Given.text.inj) (h .output)
  have hinterpreter := hmap (fun _ _ => Given.text.inj) (h .interpreter)
  have hscript := hmap (fun _ _ => Given.text.inj) (h .script)
  have hworkdir := hmap (fun _ _ => Given.path.inj) (h .workdir)
  have htimeout := hmap (fun _ _ => Given.seconds.inj) (h .timeout)
  have hconfig := hmap (fun _ _ => Given.path.inj) (h .config)
  obtain ⟨project, input, output, ⟨interpreter, script, workdir, timeout⟩, config, verbosity⟩ :=
    first
  obtain ⟨project', input', output', ⟨interpreter', script', workdir', timeout'⟩, config',
    verbosity'⟩ := second
  simp_all

@[simp] theorem get?_countVerbose (options : Options) (option : ValueOption) :
    options.countVerbose.get? option = options.get? option := by
  cases option <;> rfl

end Options

namespace Reading

theorem verbosity_interpret {options filled : Options} {option : ValueOption} {value : Bytes}
    (h : interpret options option value = .ok filled) :
    filled.verbosity = options.verbosity := by
  unfold interpret at h
  split at h
  · split at h
    · contradiction
    · obtain rfl := Except.ok.inj h
      cases option <;> rfl
  · split at h
    · obtain rfl := Except.ok.inj h
      cases option <;> rfl
    · contradiction
  · split at h
    · contradiction
    · split at h
      · obtain rfl := Except.ok.inj h
        rfl
      · contradiction

theorem exists_interpret {option : ValueOption} {value : Bytes} {given : Given}
    (h : Given.ofBytes? option value = some given) (options : Options) :
    ∃ filled, interpret options option value = .ok filled := by
  unfold Given.ofBytes? at h
  unfold interpret
  cases hkind : option.kind with
  | path =>
      simp only [hkind] at h ⊢
      split at h
      · contradiction
      · rename_i hvalue
        exact ⟨_, if_neg hvalue⟩
  | text =>
      simp only [hkind] at h ⊢
      obtain ⟨text, htext, -⟩ := Option.map_eq_some_iff.mp h
      exact ⟨_, by rw [htext]⟩
  | seconds =>
      simp only [hkind] at h ⊢
      obtain ⟨text, htext, hseconds⟩ := Option.bind_eq_some_iff.mp h
      rw [htext]
      dsimp only
      cases hread : readSeconds text with
      | error fault => simp [hread, Except.toOption] at hseconds
      | ok seconds => exact ⟨_, rfl⟩

/-- An option is given a value if it has none, and the value is one that it takes; nothing
else is touched. -/
theorem assign_eq_ok_iff {options filled : Options} {option : ValueOption} {value : Bytes} :
    assign options option value = .ok filled ↔
      options.get? option = none ∧ filled.verbosity = options.verbosity ∧
        ∃ given, Given.ofBytes? option value = some given ∧
          ∀ other, filled.get? other =
            if other = option then some given else options.get? other := by
  unfold assign
  rw [Options.has_eq_isSome_get?]
  cases hget : options.get? option with
  | some given => simp [wrong]
  | none =>
      simp only [Option.isSome_none, Bool.false_eq_true, if_false, true_and]
      constructor
      · intro h
        exact ⟨verbosity_interpret h, interpret_eq_ok h⟩
      · rintro ⟨hverbosity, given, hgiven, hall⟩
        obtain ⟨found, hfound⟩ := exists_interpret hgiven options
        obtain ⟨same, hsame, hfoundAll⟩ := interpret_eq_ok hfound
        obtain rfl := Option.some.inj (hgiven.symm.trans hsame)
        rw [hfound]
        refine congrArg _ (Options.ext_get? (fun other => ?_) ?_)
        · rw [hfoundAll, hall]
        · rw [verbosity_interpret hfound, hverbosity]

end Reading

/-- What an option on the command line does to what has been given. -/
inductive Effect where
  | count
  | give (option : ValueOption) (value : Bytes)
  deriving DecidableEq, Repr

namespace Effect

/-- What has been given after the effect; none if the value cannot be given. -/
def on (effect : Effect) (options : Options) : Option Options :=
  match effect with
  | .count => some options.countVerbose
  | .give option value => (Reading.assign options option value).toOption

theorem give_on_eq_some_iff {option : ValueOption} {value : Bytes} {options filled : Options} :
    (give option value).on options = some filled ↔
      options.get? option = none ∧ filled.verbosity = options.verbosity ∧
        ∃ given, Given.ofBytes? option value = some given ∧
          ∀ other, filled.get? other =
            if other = option then some given else options.get? other := by
  rw [on, toOption_eq_some_iff, Reading.assign_eq_ok_iff]

theorem exists_give_on {option : ValueOption} {value : Bytes} {given : Given}
    (hgiven : Given.ofBytes? option value = some given) {options : Options}
    (hget : options.get? option = none) : ∃ filled, (give option value).on options = some filled := by
  obtain ⟨filled, hfilled⟩ := Reading.exists_interpret hgiven options
  refine ⟨filled, toOption_eq_some_iff.mpr ?_⟩
  rw [Reading.assign, Options.has_eq_isSome_get?, hget]
  exact hfilled

theorem swap_count_give {option : ValueOption} {value : Bytes} {options last : Options} :
    (give option value).on options.countVerbose = some last ↔
      ∃ filled, (give option value).on options = some filled ∧ filled.countVerbose = last := by
  constructor
  · intro h
    obtain ⟨hget, hverbosity, given, hgiven, hall⟩ := give_on_eq_some_iff.mp h
    rw [Options.get?_countVerbose] at hget
    obtain ⟨filled, hfilled⟩ := exists_give_on hgiven hget
    obtain ⟨-, hcount, same, hsame, hfilledAll⟩ := give_on_eq_some_iff.mp hfilled
    obtain rfl := Option.some.inj (hgiven.symm.trans hsame)
    refine ⟨filled, hfilled, Options.ext_get? (fun other => ?_) ?_⟩
    · rw [Options.get?_countVerbose, hfilledAll, hall, Options.get?_countVerbose]
    · rw [hverbosity, Options.countVerbose, Options.countVerbose, hcount]
  · rintro ⟨filled, hfilled, rfl⟩
    obtain ⟨hget, hverbosity, given, hgiven, hall⟩ := give_on_eq_some_iff.mp hfilled
    refine give_on_eq_some_iff.mpr ⟨?_, ?_, given, hgiven, fun other => ?_⟩
    · rw [Options.get?_countVerbose, hget]
    · rw [Options.countVerbose, Options.countVerbose, hverbosity]
    · rw [Options.get?_countVerbose, Options.get?_countVerbose, hall]

theorem swap_give_give {option other : ValueOption} {value otherValue : Bytes}
    {options middle last : Options} (hfirst : (give option value).on options = some middle)
    (hsecond : (give other otherValue).on middle = some last) :
    ((give other otherValue).on options).bind (give option value).on = some last := by
  obtain ⟨hget, hverbosity, given, hgiven, hall⟩ := give_on_eq_some_iff.mp hfirst
  obtain ⟨hotherGet, hlastVerbosity, otherGiven, hotherGiven, hlast⟩ :=
    give_on_eq_some_iff.mp hsecond
  have hne : other ≠ option := by
    rintro rfl
    rw [hall, if_pos rfl] at hotherGet
    contradiction
  rw [hall, if_neg hne] at hotherGet
  obtain ⟨filled, hfilled⟩ := exists_give_on hotherGiven hotherGet
  obtain ⟨-, hfilledVerbosity, same, hsame, hfilledAll⟩ := give_on_eq_some_iff.mp hfilled
  obtain rfl := Option.some.inj (hotherGiven.symm.trans hsame)
  rw [hfilled, Option.bind_some]
  refine give_on_eq_some_iff.mpr ⟨?_, ?_, given, hgiven, fun third => ?_⟩
  · rw [hfilledAll, if_neg hne.symm, hget]
  · rw [hlastVerbosity, hverbosity, hfilledVerbosity]
  · rw [hlast, hall, hfilledAll]
    grind

/-- What two effects come to, they also come to the other way round. -/
theorem swap {first second : Effect} {options middle last : Options}
    (hfirst : first.on options = some middle) (hsecond : second.on middle = some last) :
    (second.on options).bind first.on = some last := by
  cases first with
  | count =>
      obtain rfl := Option.some.inj hfirst
      cases second with
      | count => exact hsecond
      | give option value =>
          obtain ⟨filled, hfilled, rfl⟩ := swap_count_give.mp hsecond
          rw [hfilled]
          rfl
  | give option value =>
      cases second with
      | count =>
          obtain rfl := Option.some.inj hsecond
          exact swap_count_give.mpr ⟨middle, hfirst, rfl⟩
      | give other otherValue => exact swap_give_give hfirst hsecond

/-- Two effects can change places. -/
theorem comm (first second : Effect) (options : Options) :
    (first.on options).bind second.on = (second.on options).bind first.on := by
  ext last
  constructor
  · intro h
    obtain ⟨middle, hfirst, hsecond⟩ := Option.bind_eq_some_iff.mp h
    exact swap hfirst hsecond
  · intro h
    obtain ⟨middle, hsecond, hfirst⟩ := Option.bind_eq_some_iff.mp h
    exact swap hsecond hfirst

end Effect

end FolderScript
