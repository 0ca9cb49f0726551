/-
Options as they are written on a command line, each in one argument with its value.  Reading
the arguments is having their effects one after the other, and what that comes to hangs only
on which effects there are and how many of each: so the options are read back from their
arguments in any order, and an option that is given twice is refused in any order.
-/
import FolderScript.Proofs.CommandLine.Scopes
import FolderScript.Proofs.Text.Utf8
import Mathlib.Data.List.Perm.Basic

namespace FolderScript

theorem addDigit_digitChar (number : Nat) {digit : Nat} (hdigit : digit < 10)
    (hmost : 10 * number + digit ≤ mostSeconds) :
    addDigit number digit.digitChar = .ok (10 * number + digit) := by
  have hdigits : ∀ digit < 10, digit.digitChar.isDigit = true ∧
      digit.digitChar.toNat - '0'.toNat = digit := by decide
  obtain ⟨hisDigit, hvalue⟩ := hdigits digit hdigit
  rw [addDigit, hisDigit, hvalue]
  simp only [Bool.not_true, Bool.false_eq_true, if_false]
  rw [if_pos hmost]

/-- A number is read back from its decimal digits. -/
theorem foldlM_addDigit_toDigits {number : Nat} (hmost : number ≤ mostSeconds) :
    (Nat.toDigits 10 number).foldlM addDigit 0 = .ok number := by
  -- on the number that is left without its last digit
  induction number using Nat.strongRecOn with
  | ind number ih =>
      by_cases hsmall : number < 10
      · rw [Nat.toDigits_of_lt_base hsmall, List.foldlM_cons]
        rw [addDigit_digitChar 0 hsmall (by omega), Nat.mul_zero, Nat.zero_add]
        rfl
      · have hlast : 10 * (number / 10) + number % 10 = number := Nat.div_add_mod number 10
        have hfront := ih (number / 10) (by omega) (by omega)
        rw [Nat.toDigits_of_base_le (by decide) (by omega), List.foldlM_append, hfront]
        have hdigit := addDigit_digitChar (number / 10) (Nat.mod_lt number (by decide))
          (by rwa [hlast])
        rw [hlast] at hdigit
        exact bind_eq_ok_iff.mpr ⟨number / 10, rfl, bind_eq_ok_iff.mpr ⟨number, hdigit, rfl⟩⟩

theorem readSeconds_toString (seconds : UInt64) : readSeconds (toString seconds) = .ok seconds := by
  have htext : (toString seconds).toList = Nat.toDigits 10 seconds.toNat := Nat.toList_repr
  have hmost : seconds.toNat ≤ mostSeconds := Nat.le_of_lt_succ seconds.toNat_lt
  have hread := foldlM_addDigit_toDigits hmost
  rw [readSeconds, htext]
  cases hdigits : Nat.toDigits 10 seconds.toNat with
  | nil => exact absurd hdigits Nat.toDigits_ne_nil
  | cons first rest =>
      have hfirst : first ≠ '+' := by
        rintro rfl
        have hdigit := Nat.isDigit_of_mem_toDigits (b := 10) (n := seconds.toNat) (by decide)
          (by decide) (hdigits ▸ List.mem_cons_self)
        contradiction
      dsimp only
      rw [if_neg (fun hplus => hfirst hplus.1), ← hdigits, hread]
      exact congrArg Except.ok UInt64.ofNat_toNat

/-- The bytes that a value is written with. -/
def Given.bytes : Given → Bytes
  | .path file => file.bytes
  | .text content => Utf8.encode content
  | .seconds count => Utf8.encode (toString count)

namespace Options

/-- None of the options is a path without bytes. -/
def NamesPaths (options : Options) : Prop :=
  ∀ option path, options.get? option = some (.path path) → path.bytes ≠ []

/-- A value that is written is taken for what it is. -/
theorem ofBytes?_bytes {options : Options} (hpaths : options.NamesPaths) {option : ValueOption}
    {given : Given} (hget : options.get? option = some given) :
    Given.ofBytes? option given.bytes = some given := by
  have hkind : match given with
      | .path _ => option.kind = .path
      | .text _ => option.kind = .text
      | .seconds _ => option.kind = .seconds := by
    cases option <;> obtain ⟨value, -, rfl⟩ := Option.map_eq_some_iff.mp hget <;> rfl
  cases given with
  | path path =>
      rw [Given.ofBytes?, hkind]
      dsimp only [Given.bytes]
      exact if_neg (hpaths option path hget)
  | text text =>
      rw [Given.ofBytes?, hkind]
      dsimp only [Given.bytes]
      exact congrArg (Option.map Given.text) (Utf8.decode?_encode text)
  | seconds seconds =>
      rw [Given.ofBytes?, hkind]
      dsimp only [Given.bytes]
      rw [Utf8.decode?_encode, Option.bind_some, readSeconds_toString]
      rfl

end Options

namespace Effect

def argument : Effect → Bytes
  | .count => Utf8.encode "--verbose"
  | .give option value => option.argument value

def apply (options : Options) : Effect → Except Stop Options
  | .count => .ok options.countVerbose
  | .give option value => Reading.assign options option value

def value? (option : ValueOption) : Effect → Option Bytes
  | .count => none
  | .give other value => if other = option then some value else none

def values (option : ValueOption) (effects : List Effect) : List Bytes :=
  effects.filterMap (value? option)

@[simp] theorem values_nil (option : ValueOption) : values option [] = [] := rfl

@[simp] theorem values_count (option : ValueOption) (rest : List Effect) :
    values option (.count :: rest) = values option rest := rfl

@[simp] theorem values_give (option other : ValueOption) (value : Bytes) (rest : List Effect) :
    values option (.give other value :: rest) =
      if other = option then value :: values option rest else values option rest := by
  rw [values, List.filterMap_cons, value?]
  by_cases heq : other = option
  · rw [if_pos heq, if_pos heq]
    rfl
  · rw [if_neg heq, if_neg heq]
    rfl

end Effect

namespace Reading

theorem ofLong?_long (option : ValueOption) :
    ValueOption.ofLong? .run (Utf8.encode option.long) = some option := by
  cases option <;> decide

theorem readArgument_argument {reading : Reading} (htrailing : reading.trailing = false)
    (option : ValueOption) (value : Bytes) :
    reading.readArgument .run (option.argument value) = reading.giveValue option value := by
  rw [ValueOption.argument_eq, readArgument, htrailing]
  simp only [Bool.false_eq_true, if_false, and_self, if_true]
  rw [if_neg (by simp), readLong, ValueOption.takeWhile_long, ValueOption.dropWhile_long,
    ofLong?_long]
  rfl

theorem settle_of_pending {reading : Reading} (hpending : reading.pending = none) :
    reading.settle = .ok reading := by
  rw [settle, hpending]

/-- Reading an argument is having its effect. -/
theorem readArgument_effect {reading : Reading} (hpending : reading.pending = none)
    (htrailing : reading.trailing = false) (effect : Effect) :
    reading.readArgument .run effect.argument =
      (effect.apply reading.options).map fun options => { reading with options := options } := by
  cases effect with
  | count =>
      have hraise : reading.readArgument .run (Utf8.encode "--verbose") =
          reading.raise .run .verbose true := by
        have hword : Utf8.encode "--verbose" = dash :: dash :: Utf8.encode "verbose" := by decide
        rw [hword, readArgument, htrailing]
        rfl
      rw [Effect.argument, hraise, raise, settle_of_pending hpending]
      rfl
  | give option value =>
      rw [Effect.argument, readArgument_argument htrailing, giveValue, settle_of_pending hpending]
      rfl

/-- Reading arguments is having their effects. -/
theorem foldlM_readArgument (effects : List Effect) (reading : Reading)
    (hpending : reading.pending = none) (htrailing : reading.trailing = false) :
    (effects.map Effect.argument).foldlM (readArgument .run) reading =
      (effects.foldlM Effect.apply reading.options).map fun options =>
        { reading with options := options } := by
  induction effects generalizing reading with
  | nil => rfl
  | cons effect rest ih =>
      rw [List.map_cons, List.foldlM_cons, List.foldlM_cons,
        readArgument_effect hpending htrailing]
      cases effect.apply reading.options with
      | error stop => rfl
      | ok options => exact ih { reading with options := options } hpending htrailing

theorem readAll_effects (effects : List Effect) :
    readAll .run (effects.map Effect.argument) =
      (effects.foldlM Effect.apply {}).map fun options => { options := options } := by
  rw [readAll, foldlM_readArgument effects {} rfl rfl]
  cases effects.foldlM Effect.apply {} <;> rfl

theorem exists_usage_of_interpret {options : Options} {option : ValueOption} {value : Bytes}
    {stop : Stop} (h : interpret options option value = .error stop) :
    ∃ error, stop = .usage error := by
  unfold interpret at h
  split at h
  · split at h
    · exact ⟨_, (Except.error.inj h).symm⟩
    · contradiction
  · split at h
    · contradiction
    · exact ⟨_, (Except.error.inj h).symm⟩
  · split at h
    · exact ⟨_, (Except.error.inj h).symm⟩
    · split at h
      · contradiction
      · exact ⟨_, (Except.error.inj h).symm⟩

/-- An option that cannot be given a value has one, or cannot take it. -/
theorem assign_eq_error {options : Options} {option : ValueOption} {value : Bytes} {stop : Stop}
    (h : assign options option value = .error stop) :
    (stop = .usage (.repeated option) ∧ (options.get? option).isSome) ∨
      (Given.ofBytes? option value = none ∧ ∃ error, stop = .usage error) := by
  rw [assign, Options.has_eq_isSome_get?] at h
  split at h
  · rename_i hsome
    exact .inl ⟨(Except.error.inj h).symm, hsome⟩
  · refine .inr ⟨?_, ?_⟩
    · cases hgiven : Given.ofBytes? option value with
      | none => rfl
      | some given =>
          obtain ⟨filled, hfilled⟩ := exists_interpret hgiven options
          rw [hfilled] at h
          contradiction
    · exact exists_usage_of_interpret h

end Reading

namespace Effect

variable {effects rest : List Effect} {effect : Effect} {start next last : Options}

/-- What an option has been given, and then what is still to come for it. -/
def ledger (options : Options) (effects : List Effect) (option : ValueOption) :
    List (Option Given) :=
  (options.get? option).toList.map some ++ (values option effects).map (Given.ofBytes? option)

theorem ledger_perm {first second : List Effect} (h : first.Perm second) (options : Options)
    (option : ValueOption) : (ledger options first option).Perm (ledger options second option) :=
  ((h.filterMap _).map _).append_left _

theorem ledger_give (options : Options) (option other : ValueOption) (value : Bytes)
    (rest : List Effect) :
    (ledger options (.give option value :: rest) other).Perm
      (if option = other then Given.ofBytes? option value :: ledger options rest other
        else ledger options rest other) := by
  rw [ledger, values_give]
  by_cases heq : option = other
  · subst heq
    rw [if_pos rfl, if_pos rfl, List.map_cons]
    exact List.perm_middle
  · rw [if_neg heq, if_neg heq, ledger]

theorem none_notMem_ledger_nil (options : Options) (option : ValueOption) :
    none ∉ ledger options [] option := by
  simp [ledger]

theorem length_ledger_nil_le (options : Options) (option : ValueOption) :
    (ledger options [] option).length ≤ 1 := by
  cases hget : options.get? option <;> simp [ledger, hget]

theorem eq_of_ledger_nil
    (h : ∀ option, (ledger start [] option).Perm (ledger last [] option))
    (hverbosity : start.verbosity = last.verbosity) : start = last := by
  refine Options.ext_get? (fun option => ?_) hverbosity
  have hoption := h option
  cases hstart : start.get? option <;> cases hlast : last.get? option <;> simp_all [ledger]

/-- An effect moves a value from those to come to those given. -/
theorem ledger_apply (h : effect.apply start = .ok next) (rest : List Effect)
    (option : ValueOption) : ledger next rest option = ledger start (effect :: rest) option := by
  cases effect with
  | count =>
      obtain rfl := Except.ok.inj h
      simp [ledger]
  | give other value =>
      obtain ⟨hget, -, given, hgiven, hall⟩ := Reading.assign_eq_ok_iff.mp h
      by_cases heq : option = other
      · subst heq
        simp [ledger, hget, hall, hgiven]
      · simp [ledger, hall, heq, Ne.symm heq]

/-- An effect counts once more, or leaves the count as it is. -/
theorem verbosity_apply (hstart : start.verbosity ≤ Options.mostVerbose)
    (h : effect.apply start = .ok next) :
    next.verbosity = min (start.verbosity + [effect].count .count) Options.mostVerbose := by
  cases effect with
  | count =>
      obtain rfl := Except.ok.inj h
      rfl
  | give option value =>
      obtain ⟨-, hverbosity, -⟩ := Reading.assign_eq_ok_iff.mp h
      rw [hverbosity, List.count_singleton, if_neg (by simp), Nat.add_zero, Nat.min_eq_left hstart]

/-- An effect that cannot be had gives an option again, or a value that it does not take. -/
theorem apply_eq_error {stop : Stop} (h : effect.apply start = .error stop)
    (rest : List Effect) :
    (∃ option, stop = .usage (.repeated option) ∧
        1 < (ledger start (effect :: rest) option).length) ∨
      ((∃ option, none ∈ ledger start (effect :: rest) option) ∧
        ∃ error, stop = .usage error) := by
  cases effect with
  | count => contradiction
  | give option value =>
      rcases Reading.assign_eq_error h with ⟨hstop, hsome⟩ | ⟨hvalue, herror⟩
      · refine .inl ⟨option, hstop, ?_⟩
        obtain ⟨given, hgiven⟩ := Option.isSome_iff_exists.mp hsome
        simp [ledger, hgiven]
      · refine .inr ⟨⟨option, ?_⟩, herror⟩
        simp [ledger, hvalue]

/-- After all effects nothing is still to come, and what has been given is what was to come. -/
theorem foldlM_apply_eq_ok (hstart : start.verbosity ≤ Options.mostVerbose)
    (h : effects.foldlM apply start = .ok last) :
    (∀ option, ledger last [] option = ledger start effects option) ∧
      last.verbosity = min (start.verbosity + effects.count .count) Options.mostVerbose := by
  induction effects generalizing start with
  | nil =>
      obtain rfl := Except.ok.inj h
      exact ⟨fun _ => rfl, (Nat.min_eq_left hstart).symm⟩
  | cons effect rest ih =>
      rw [List.foldlM_cons, bind_eq_ok_iff] at h
      obtain ⟨next, happly, hrest⟩ := h
      have hverbosity := verbosity_apply hstart happly
      obtain ⟨hledger, hlast⟩ := ih (hverbosity ▸ Nat.min_le_right _ _) hrest
      refine ⟨fun option => ?_, ?_⟩
      · rw [hledger, ledger_apply happly]
      · have hcount : (effect :: rest).count .count =
            [effect].count .count + rest.count .count := by
          rw [← List.count_append, List.singleton_append]
        rw [hlast, hverbosity, hcount]
        omega

theorem foldlM_apply_eq_error {stop : Stop} (h : effects.foldlM apply start = .error stop) :
    (∃ option, stop = .usage (.repeated option) ∧ 1 < (ledger start effects option).length) ∨
      ((∃ option, none ∈ ledger start effects option) ∧ ∃ error, stop = .usage error) := by
  induction effects generalizing start with
  | nil => contradiction
  | cons effect rest ih =>
      rw [List.foldlM_cons] at h
      cases happly : effect.apply start with
      | ok next =>
          rw [happly] at h
          simpa only [ledger_apply happly] using ih h
      | error found =>
          rw [happly] at h
          obtain rfl := Except.error.inj h
          exact apply_eq_error happly rest

/-- Effects can be had if what an option has been given and what comes for it is one value at
most, and one that it takes. -/
theorem foldlM_apply_of_ledger (hstart : start.verbosity ≤ Options.mostVerbose)
    (hledger : ∀ option, (ledger start effects option).Perm (ledger last [] option))
    (hverbosity : last.verbosity =
      min (start.verbosity + effects.count .count) Options.mostVerbose) :
    effects.foldlM apply start = .ok last := by
  cases hrun : effects.foldlM apply start with
  | ok found =>
      obtain ⟨hfound, hcount⟩ := foldlM_apply_eq_ok hstart hrun
      refine congrArg _ (eq_of_ledger_nil (fun option => ?_) (hcount.trans hverbosity.symm))
      rw [hfound]
      exact hledger option
  | error stop =>
      rcases foldlM_apply_eq_error hrun with ⟨option, -, hlength⟩ | ⟨⟨option, hnone⟩, -⟩
      · rw [(hledger option).length_eq] at hlength
        exact absurd hlength (Nat.not_lt.mpr (length_ledger_nil_le last option))
      · rw [(hledger option).mem_iff] at hnone
        exact absurd hnone (none_notMem_ledger_nil last option)

end Effect

namespace Options

def giving? (options : Options) (option : ValueOption) : Option Effect :=
  (options.get? option).map fun given => .give option given.bytes

/-- What has to be written for the options: each option that is given, and the flag as often
as it counts. -/
def effects (options : Options) : List Effect :=
  (ValueOption.inScope .run).filterMap options.giving? ++
    List.replicate options.verbosity .count

def arguments (options : Options) : List Bytes := options.effects.map Effect.argument

variable {options : Options}

theorem count_effects (options : Options) : options.effects.count .count = options.verbosity := by
  rw [effects, List.count_append, List.count_replicate_self, Nat.add_eq_right, List.count_eq_zero]
  intro hmem
  obtain ⟨option, -, hoption⟩ := List.mem_filterMap.mp hmem
  obtain ⟨given, -, heq⟩ := Option.map_eq_some_iff.mp hoption
  contradiction

theorem values_giving? (options : Options) (option : ValueOption) {todo : List ValueOption}
    (htodo : todo.Nodup) :
    Effect.values option (todo.filterMap options.giving?) =
      if option ∈ todo then (options.get? option).toList.map Given.bytes else [] := by
  induction todo with
  | nil => rfl
  | cons other rest ih =>
      obtain ⟨hnew, hrest⟩ := List.nodup_cons.mp htodo
      cases hget : options.get? other with
      | none =>
          rw [List.filterMap_cons_none (by rw [giving?, hget]; rfl), ih hrest]
          by_cases heq : option = other
          · subst heq
            simp [hnew, hget]
          · simp [heq]
      | some given =>
          rw [List.filterMap_cons_some (by rw [giving?, hget]; rfl), Effect.values_give, ih hrest]
          by_cases heq : option = other
          · subst heq
            simp [hnew, hget]
          · simp [heq, Ne.symm heq]

theorem values_effects (options : Options) (option : ValueOption) :
    Effect.values option options.effects = (options.get? option).toList.map Given.bytes := by
  have hflags : (List.replicate options.verbosity Effect.count).filterMap (Effect.value? option) =
      [] := by
    simp [Effect.value?]
  rw [effects, Effect.values, List.filterMap_append, hflags, List.append_nil, ← Effect.values,
    values_giving? options option (by decide), if_pos (by cases option <;> decide)]

/-- What is written for the options comes to them. -/
theorem ledger_effects (hpaths : options.NamesPaths) (option : ValueOption) :
    Effect.ledger {} options.effects option = Effect.ledger options [] option := by
  have hempty : ({} : Options).get? option = none := by cases option <;> rfl
  rw [Effect.ledger, Effect.ledger, hempty, values_effects]
  cases hget : options.get? option with
  | none => rfl
  | some given => simp [ofBytes?_bytes hpaths hget]

/-- Options are read back from what is written for them, in any order. -/
theorem foldlM_apply_effects (hpaths : options.NamesPaths) {effects : List Effect}
    (heffects : effects.Perm options.effects) :
    effects.foldlM Effect.apply {} =
      .ok { options with verbosity := min options.verbosity mostVerbose } := by
  refine Effect.foldlM_apply_of_ledger (Nat.zero_le _) (fun option => ?_) ?_
  · have hledger := Effect.ledger_perm heffects {} option
    rw [ledger_effects hpaths] at hledger
    have hsame : Effect.ledger { options with verbosity := min options.verbosity mostVerbose } []
        option = Effect.ledger options [] option := by
      cases option <;> rfl
    rwa [hsame]
  · rw [heffects.count_eq, count_effects, Nat.zero_add]

/-- An option that is written twice is refused, wherever it stands. -/
theorem foldlM_apply_give_effects (hpaths : options.NamesPaths) {option : ValueOption}
    (hhas : options.has option = true) {value : Bytes} {effects : List Effect}
    (heffects : effects.Perm (.give option value :: options.effects)) :
    ∃ error, effects.foldlM Effect.apply {} = .error (.usage error) ∧
      ((Given.ofBytes? option value).isSome → error = .repeated option) := by
  have hledger (other : ValueOption) : (Effect.ledger {} effects other).Perm
      (if option = other then Given.ofBytes? option value :: Effect.ledger options [] other
        else Effect.ledger options [] other) := by
    have hgive := (Effect.ledger_perm heffects {} other).trans
      (Effect.ledger_give {} option other value options.effects)
    rwa [ledger_effects hpaths] at hgive
  cases hrun : effects.foldlM Effect.apply {} with
  | ok last =>
      obtain ⟨hlast, -⟩ := Effect.foldlM_apply_eq_ok (Nat.zero_le _) hrun
      have hmost := Effect.length_ledger_nil_le last option
      rw [has_eq_isSome_get?] at hhas
      obtain ⟨given, hgiven⟩ := Option.isSome_iff_exists.mp hhas
      rw [hlast, (hledger option).length_eq, if_pos rfl, Effect.ledger, hgiven] at hmost
      simp at hmost
  | error stop =>
      rcases Effect.foldlM_apply_eq_error hrun with
        ⟨other, rfl, hlength⟩ | ⟨⟨other, hnone⟩, error, rfl⟩
      · refine ⟨_, rfl, fun _ => ?_⟩
        by_contra hne
        have hother : option ≠ other := fun heq => hne (heq ▸ rfl)
        rw [(hledger other).length_eq, if_neg hother] at hlength
        exact absurd hlength (Nat.not_lt.mpr (Effect.length_ledger_nil_le options other))
      · refine ⟨error, rfl, fun htaken => ?_⟩
        rw [(hledger other).mem_iff] at hnone
        split at hnone
        · rcases List.mem_cons.mp hnone with hvalue | hrest
          · rw [← hvalue] at htaken
            contradiction
          · exact absurd hrest (Effect.none_notMem_ledger_nil options other)
        · exact absurd hnone (Effect.none_notMem_ledger_nil options other)

end Options

namespace Invocation

variable {environment : String → Option Bytes} {name : Bytes}

/-- With nothing before the subcommand's name and nothing from the environment, the options
after the name are all there is. -/
theorem combine_alone (scope : Scope) (options : Options) :
    combine scope options options {} {} =
      { command := subcommand scope options
        verbosity := options.verbosity
        config := options.config } := by
  have hverbosity : (if options.verbosity = 0 then 0 else options.verbosity) =
      options.verbosity := by
    split <;> simp_all
  rw [combine, hverbosity]
  simp

theorem parse_effects
    (hunset : ∀ option : ValueOption, option.environmentName?.bind environment = none)
    (hname : Opened.ofName? name = some (.scope .run)) (effects : List Effect) :
    parse environment (name :: effects.map Effect.argument) =
      (effects.foldlM Effect.apply {}).map fun options =>
        { command := subcommand .run options
          verbosity := options.verbosity
          config := options.config } := by
  have hread : readProgram {} (name :: effects.map Effect.argument) =
      .ok ({}, some (.scope .run, effects.map Effect.argument)) := by
    rw [readProgram]
    simp [Reading.isWaiting, hname]
  have hfilled (scope : Scope) (options : Options) :=
    Reading.fromEnvironment_unset hunset scope options
  simp only [parse, hread, bind, Except.bind, Reading.readAll_effects]
  cases effects.foldlM Effect.apply {} with
  | error stop => rfl
  | ok options =>
      simp only [Except.map, hfilled, Reading.settle, ← combine_alone]
      rfl

/-- Options that are written after `run`, each in one argument with its value, are read back in
whatever order they stand; one that is written twice is refused. -/
theorem parse_perm_arguments
    (hunset : ∀ option key, ValueOption.environmentName? option = some key →
      environment key = none)
    (hname : name = Utf8.encode "run" ∨ name = Utf8.encode "r") {options : Options}
    (hpaths : options.NamesPaths) :
    (∀ arguments, arguments.Perm options.arguments →
      parse environment (name :: arguments) = .ok {
        command := .run {
          project := options.project
          input := options.input
          output := options.output
          overrides := options.runner }
        verbosity := min options.verbosity Options.mostVerbose
        config := options.config }) ∧
    (∀ option value, options.has option = true →
      ∀ arguments, arguments.Perm (option.argument value :: options.arguments) →
        ∃ error, parse environment (name :: arguments) = .error (.usage error) ∧
          ((Given.ofBytes? option value).isSome → error = .repeated option)) := by
  have hvariables (option : ValueOption) : option.environmentName?.bind environment = none := by
    cases hkey : option.environmentName? with
    | none => rfl
    | some key => exact hunset option key hkey
  have hopened : Opened.ofName? name = some (.scope .run) := by
    rcases hname with rfl | rfl <;> decide
  have hshuffled (arguments : List Bytes) (effects : List Effect)
      (h : arguments.Perm (effects.map Effect.argument)) :
      ∃ shuffled : List Effect, arguments = shuffled.map Effect.argument ∧ shuffled.Perm effects :=
    (congrFun₂ (List.eq_map_comp_perm Effect.argument) arguments effects).mpr h
  refine ⟨fun arguments harguments => ?_, fun option value hhas arguments harguments => ?_⟩
  · obtain ⟨effects, rfl, heffects⟩ := hshuffled arguments options.effects harguments
    rw [parse_effects hvariables hopened, Options.foldlM_apply_effects hpaths heffects]
    rfl
  · obtain ⟨effects, rfl, heffects⟩ :=
      hshuffled arguments (.give option value :: options.effects) harguments
    obtain ⟨error, hrun, herror⟩ := Options.foldlM_apply_give_effects hpaths hhas heffects
    refine ⟨error, ?_, herror⟩
    rw [parse_effects hvariables hopened, hrun]
    rfl

end Invocation

namespace RoundTripWitness

/-- A project that is no text, an empty input, an output that looks like an option, the longest
timeout, and the flag twice. -/
def options : Options where
  project := some ⟨[0xFF, 0x3D]⟩
  input := some ""
  output := some "-x=y"
  runner := { timeout := some 0xFFFFFFFFFFFFFFFF }
  config := some ⟨Utf8.encode "c"⟩
  verbosity := 2

/-- The options, not in the order in which the table has them. -/
def shuffled : List Bytes :=
  [ Utf8.encode "--verbose",
    Utf8.encode "--output=-x=y",
    Utf8.encode "--timeout=18446744073709551615",
    Utf8.encode "--project=" ++ [0xFF, 0x3D],
    Utf8.encode "--verbose",
    Utf8.encode "--config=c",
    Utf8.encode "--input=" ]

theorem namesPaths_options : options.NamesPaths := by
  intro option path h
  cases option <;> simp [Options.get?, options] at h <;> subst h <;> decide

/-- The arguments are read, and with a second timeout among them they are refused. -/
theorem parse_shuffled :
    options.NamesPaths ∧
    Invocation.parse (fun _ => none) (Utf8.encode "r" :: shuffled) = .ok {
      command := .run {
        project := some ⟨[0xFF, 0x3D]⟩
        input := some ""
        output := some "-x=y"
        overrides := { timeout := some 0xFFFFFFFFFFFFFFFF } }
      verbosity := 2
      config := some ⟨Utf8.encode "c"⟩ } ∧
    Invocation.parse (fun _ => none)
        (Utf8.encode "r" :: (shuffled ++ [Utf8.encode "--timeout=7"])) =
      .error (.usage (.repeated .timeout)) := by
  obtain ⟨haccepted, hrefused⟩ := @Invocation.parse_perm_arguments (fun _ => none)
    (Utf8.encode "r") (fun _ _ _ => rfl) (.inr rfl) options namesPaths_options
  obtain ⟨error, herror, hrepeated⟩ := hrefused .timeout (Utf8.encode "7") rfl
    (shuffled ++ [Utf8.encode "--timeout=7"]) (by decide +kernel)
  refine ⟨namesPaths_options, haccepted shuffled (by decide +kernel), ?_⟩
  rw [herror, hrepeated (by decide +kernel)]

end RoundTripWitness

end FolderScript
