/-
The options that both scopes take, and where they stand.  One of them has the same effect
before a subcommand's name and after it, but on the options of that scope only; and the two
scopes are put together, not read as one.  So where it stands matters exactly when the same
option stands on both sides of the name.
-/
import FolderScript.Proofs.CommandLine.Scopes

namespace FolderScript

namespace Reading

/-- A way of reading on, argument by argument, that takes what begins with a dash, and what
is waited for, as arguments of a scope. -/
structure ReadsOn {α : Type} (scope : Scope) (result : List Bytes → Reading → Option α) :
    Prop where
  ignoresSettling : ∀ arguments, IgnoresSettling (result arguments)
  cons : ∀ argument rest reading, reading.isWaiting ∨ argument.head? = some dash →
    result (argument :: rest) reading = (reading.after? scope argument).bind (result rest)

theorem readsOn_through (scope : Scope) : ReadsOn scope (through scope) where
  ignoresSettling := ignoresSettling_through scope
  cons argument rest reading _ := congrFun (through_cons scope argument rest) reading

theorem readsOn_lead : ReadsOn .program Invocation.lead where
  ignoresSettling := Invocation.ignoresSettling_lead
  cons argument rest reading h := by
    apply Invocation.lead_cons_of_opened?
    unfold Invocation.opened?
    obtain hwaiting | hdash := h
    · rw [hwaiting]
      rfl
    · split
      · rfl
      · have hnames : ∀ name ∈ subcommandNames, name.head? ≠ some dash := by decide
        have hne {name : String} (hname : Utf8.encode name ∈ subcommandNames) :
            argument ≠ Utf8.encode name := by
          rintro rfl
          exact hnames _ hname hdash
        rw [Invocation.Opened.ofName?, if_neg (not_or.mpr ⟨hne (by decide), hne (by decide)⟩),
          if_neg (hne (by decide)), if_neg (hne (by decide))]

/-- Whether an argument looks like no option. -/
def looksPlain : Bytes → Bool
  | first :: _ :: _ => first ≠ dash
  | _ => true

end Reading

/-- How an option that both scopes take may stand on the command line. -/
inductive GlobalOption where
  /-- One letter of a group of so many more. -/
  | letter (more : Nat)
  | word
  /-- The config file in one argument with the option. -/
  | joined (value : Bytes)
  /-- The config file in the argument after the option. -/
  | apart (value : Bytes) (plain : Reading.looksPlain value)
  deriving DecidableEq, Repr

namespace GlobalOption

def letterByte : UInt8 := 0x76

/-- A group of so many letters; none if there are no letters. -/
def group : Nat → List Bytes
  | 0 => []
  | more + 1 => [Reading.dash :: List.replicate (more + 1) letterByte]

def standing : GlobalOption → List Bytes
  | .letter more => group (more + 1)
  | .word => [Utf8.encode "--verbose"]
  | .joined value => [Utf8.encode "--config=" ++ value]
  | .apart value _ => [Utf8.encode "--config", value]

def left : GlobalOption → List Bytes
  | .letter more => group more
  | _ => []

/-- The option with arguments of its own. -/
def alone : GlobalOption → GlobalOption
  | .letter _ => .letter 0
  | option => option

def effect : GlobalOption → Effect
  | .letter _ | .word => .count
  | .joined value | .apart value _ => .give .config value

@[simp] theorem left_alone (option : GlobalOption) : option.alone.left = [] := by
  cases option <;> rfl

@[simp] theorem effect_alone (option : GlobalOption) : option.alone.effect = option.effect := by
  cases option <;> rfl

theorem splitText_replicate (count : Nat) :
    Reading.splitText (List.replicate count letterByte) =
      (List.replicate count Flag.verbose.short, []) := by
  induction count with
  | zero => rfl
  | succ count ih =>
      have hstep : Utf8.step? .start letterByte = some (some Flag.verbose.short, .start) := by
        decide
      rw [Reading.splitText] at ih
      rw [Reading.splitText, List.replicate_succ, Reading.splitTextFrom, hstep]
      dsimp only
      rw [ih, List.replicate_succ]

theorem ofLetters_replicate (scope : Scope) (count : Nat) :
    Act.ofLetters scope [] (List.replicate count Flag.verbose.short) =
      List.replicate count (.raise .verbose) := by
  have hvalue : ValueOption.ofShort? scope Flag.verbose.short = none := by
    cases scope <;> decide
  have hflag : Flag.ofShort? Flag.verbose.short = some .verbose := by decide
  induction count with
  | zero => rfl
  | succ count ih =>
      rw [List.replicate_succ, Act.ofLetters, hvalue, hflag]
      dsimp only
      rw [ih, List.replicate_succ]

theorem ofArgument_group (scope : Scope) (more : Nat) :
    Act.ofArgument scope (Reading.dash :: List.replicate (more + 1) letterByte) =
      List.replicate (more + 1) (.raise .verbose) := by
  have hdashes : ¬(Reading.dash = Reading.dash ∧ letterByte = Reading.dash) := by decide
  rw [List.replicate_succ, Act.ofArgument, if_neg hdashes, if_pos rfl, ← List.replicate_succ,
    splitText_replicate]
  exact ofLetters_replicate scope (more + 1)

theorem ofArgument_word (scope : Scope) :
    Act.ofArgument scope (Utf8.encode "--verbose") = [.raise .verbose] := by
  cases scope <;> decide

theorem ofArgument_joined (scope : Scope) (value : Bytes) :
    Act.ofArgument scope (Utf8.encode "--config=" ++ value) = [.give .config value] := by
  have hargument : Utf8.encode "--config=" ++ value = ValueOption.config.argument value := rfl
  have hoption : ValueOption.ofLong? scope (Utf8.encode ValueOption.config.long) =
      some .config := by
    cases scope <;> decide
  rw [hargument, ValueOption.argument_eq, Act.ofArgument, if_pos ⟨rfl, rfl⟩, if_neg (by simp),
    Act.ofLong, ValueOption.takeWhile_long, ValueOption.dropWhile_long, hoption]
  rfl

theorem ofArgument_config (scope : Scope) :
    Act.ofArgument scope (Utf8.encode "--config") = [.await .config] := by
  cases scope <;> decide

theorem ofArgument_plain (scope : Scope) {value : Bytes} (h : Reading.looksPlain value) :
    Act.ofArgument scope value = [.word value] := by
  match value with
  | [] | [_] => rfl
  | first :: second :: rest =>
      have hfirst : first ≠ Reading.dash := of_decide_eq_true h
      rw [Act.ofArgument, if_neg (fun hdashes => hfirst hdashes.1), if_neg hfirst]

variable {α : Type} {scope : Scope} {result : List Bytes → Reading → Option α}

/-- An argument that is one act on the options. -/
theorem readsOn_single (hresult : Reading.ReadsOn scope result) {argument : Bytes} {act : Act}
    {effect : Effect} (hdash : argument.head? = some Reading.dash)
    (hacts : Act.ofArgument scope argument = [act]) {reading : Reading}
    (hact : act.on reading = effect.onReading reading) (htrailing : reading.trailing = false)
    (rest : List Bytes) :
    result (argument :: rest) reading = (effect.onReading reading).bind (result rest) := by
  rw [hresult.cons _ _ _ (.inr hdash), Reading.after?_eq, if_neg (by rw [htrailing]; decide),
    hacts, Act.onAll_singleton, hact]

theorem raise_on {reading : Reading} (hpending : reading.pending = none) :
    (Act.raise .verbose).on reading = Effect.count.onReading reading := by
  rw [Act.on, Reading.settled?_of_pending hpending]
  rfl

theorem readsOn_group (hresult : Reading.ReadsOn scope result) (more : Nat) {reading : Reading}
    (hpending : reading.pending = none) (htrailing : reading.trailing = false)
    (rest : List Bytes) :
    result (group (more + 1) ++ rest) reading =
      (Effect.count.onReading reading).bind (result (group more ++ rest)) := by
  have hread {more : Nat} {reading : Reading} (htrailing : reading.trailing = false) :
      result (group (more + 1) ++ rest) reading =
        (Act.onAll (List.replicate (more + 1) (.raise .verbose)) reading).bind (result rest) := by
    rw [group, List.singleton_append, hresult.cons _ _ _ (.inr rfl), Reading.after?_eq,
      if_neg (by rw [htrailing]; decide), ofArgument_group]
  rw [hread htrailing, List.replicate_succ, Act.onAll_cons, raise_on hpending, Option.bind_assoc]
  refine Option.bind_congr fun after hafter => ?_
  rw [← (Effect.eq_of_onReading hafter).2] at htrailing
  cases more with
  | zero => rfl
  | succ more => exact (hread htrailing).symm

theorem readsOn_apart (hresult : Reading.ReadsOn scope result) {value : Bytes}
    (hplain : Reading.looksPlain value) {reading : Reading} (hpending : reading.pending = none)
    (htrailing : reading.trailing = false) (rest : List Bytes) :
    result (Utf8.encode "--config" :: value :: rest) reading =
      ((Effect.give .config value).onReading reading).bind (result rest) := by
  have htrailing' : ¬reading.trailing := by rw [htrailing]; decide
  have hawait : reading.after? scope (Utf8.encode "--config") =
      some { reading with pending := some (.config, none) } := by
    rw [Reading.after?_eq, if_neg htrailing', ofArgument_config, Act.onAll_singleton, Act.on,
      Reading.settled?_of_pending hpending]
    rfl
  have hvalue : Reading.after? scope value { reading with pending := some (.config, none) } =
      some { reading with pending := some (.config, some value) } := by
    rw [Reading.after?_eq, if_neg htrailing', ofArgument_plain scope hplain, Act.onAll_singleton]
    rfl
  have hsettle : Reading.current? { reading with pending := some (.config, some value) } =
      (Effect.give .config value).onReading reading := by
    rw [Reading.current?_of_not_isWaiting rfl, Reading.settled?_eq]
    rw [Reading.settling, ← hpending]
  rw [hresult.cons _ _ _ (.inr (by decide)), hawait, Option.bind_some,
    hresult.cons _ _ _ (.inl rfl), hvalue, Option.bind_some, hresult.ignoresSettling, hsettle]

/-- Wherever the option stands, it comes to its effect. -/
theorem readsOn_standing (option : GlobalOption) (hresult : Reading.ReadsOn scope result)
    {reading : Reading} (hpending : reading.pending = none) (htrailing : reading.trailing = false)
    (rest : List Bytes) :
    result (option.standing ++ rest) reading =
      (option.effect.onReading reading).bind (result (option.left ++ rest)) := by
  cases option with
  | letter more => exact readsOn_group hresult more hpending htrailing rest
  | word =>
      exact readsOn_single hresult (by decide) (ofArgument_word scope) (raise_on hpending)
        htrailing rest
  | joined value =>
      have hgive : (Act.give .config value).on reading =
          (Effect.give .config value).onReading reading := by
        rw [Act.on, Reading.settled?_of_pending hpending, Option.bind_some]
      exact readsOn_single hresult rfl (ofArgument_joined scope value) hgive htrailing rest
  | apart value plain => exact readsOn_apart hresult plain hpending htrailing rest

/-- Whether the same option stands on both sides of a subcommand's name, given what else is
written there: a count that is not the only one, unless it is already as high as it gets, and
a config file beside exactly one other. -/
def Meets (option : GlobalOption) (outer inner : Options) : Prop :=
  match option.effect with
  | .count => (outer.verbosity ≠ 0 ∨ inner.verbosity ≠ 0) ∧ inner.verbosity ≠ Options.mostVerbose
  | .give .. => outer.config.isSome ≠ inner.config.isSome

end GlobalOption

open Invocation

namespace GlobalOption

theorem give_config_on (value : Bytes) (options : Options) :
    (Effect.give .config value).on options =
      if options.config.isSome ∨ value = [] then none
      else some { options with config := some ⟨value⟩ } := by
  have hhas : options.has .config = options.config.isSome := rfl
  rw [Effect.on, Reading.assign, hhas]
  by_cases hconfig : options.config.isSome
  · rw [if_pos hconfig, if_pos (Or.inl hconfig)]
    rfl
  · by_cases hvalue : value = [] <;>
      simp [hconfig, hvalue, Reading.interpret, ValueOption.kind, Reading.wrong, Except.toOption,
        Options.setPath]

theorem fills_countVerbose (environment : String → Option Bytes) (options : Options) :
    Reading.fills environment options.countVerbose = Reading.fills environment options := by
  funext option
  cases option <;> rfl

/-- A config file that is written takes the place of the one from the environment. -/
theorem all_fills_config {scope : Scope} (environment : String → Option Bytes) (options : Options)
    (path : Path) :
    (ValueOption.inScope scope).all (Reading.fills environment options) =
      ((ValueOption.inScope scope).all
          (Reading.fills environment { options with config := some path }) &&
        Reading.fills environment options .config) := by
  cases scope <;> simp [ValueOption.inScope, Reading.fills, Options.has, Bool.and_assoc]

/-- With no other config file, one before the name is completed as one after it. -/
theorem completed_config {scope : Scope} (hscope : scope ≠ .program)
    (environment : String → Option Bytes) {outer inner : Options} (houter : outer.config = none)
    (hinner : inner.config = none) (path : Path) :
    completed environment scope { outer with config := some path } inner =
      completed environment scope outer { inner with config := some path } := by
  have hfills : Reading.fills environment outer .config =
      Reading.fills environment inner .config := by
    simp [Reading.fills, Options.has, houter, hinner]
  have hgiven : Reading.fills environment { outer with config := some path } .config = true := rfl
  rw [completed_eq hscope, completed_eq hscope, all_fills_config environment inner path, hfills,
    hgiven, Bool.and_true, houter, hinner]
  rfl

/-- On which side of a name a count is completed shows exactly if it meets another. -/
theorem completed_count_ne_iff {scope : Scope} (hscope : scope ≠ .program)
    (environment : String → Option Bytes) (outer inner : Options) :
    completed environment scope outer.countVerbose inner ≠
        completed environment scope outer inner.countVerbose ↔
      ((completed environment scope outer.countVerbose inner).isSome ∨
        (completed environment scope outer inner.countVerbose).isSome) ∧
      ((outer.verbosity ≠ 0 ∨ inner.verbosity ≠ 0) ∧ inner.verbosity ≠ Options.mostVerbose) := by
  have hown : own environment inner.countVerbose = own environment inner := rfl
  simp only [completed_eq hscope, fills_countVerbose, hown]
  split
  · have hcounted : min (inner.verbosity + 1) 255 ≠ 0 := by omega
    simp only [Options.countVerbose, Options.mostVerbose, hcounted, if_false, ne_eq,
      Option.some.injEq, Invocation.mk.injEq, true_and, and_true, Option.isSome_some, or_self]
    split <;> omega
  · simp

/-- On which side of a name a global option is completed shows exactly if it meets another. -/
theorem completed_ne_iff {scope : Scope} (hscope : scope ≠ .program)
    (environment : String → Option Bytes) (option : GlobalOption) (outer inner : Options) :
    ((option.effect.on outer).bind fun outer => completed environment scope outer inner) ≠
        ((option.effect.on inner).bind fun inner => completed environment scope outer inner) ↔
      (((option.effect.on outer).bind fun outer =>
            completed environment scope outer inner).isSome ∨
        ((option.effect.on inner).bind fun inner =>
            completed environment scope outer inner).isSome) ∧
      option.Meets outer inner := by
  unfold Meets
  cases heffect : option.effect with
  | count => exact completed_count_ne_iff hscope environment outer inner
  | give given value =>
      have hgiven : given = .config := by
        cases option with
        | letter | word => contradiction
        | joined | apart => exact (Effect.give.inj heffect).1.symm
      subst hgiven
      rw [give_config_on, give_config_on]
      by_cases hvalue : value = []
      · simp [hvalue]
      · match houter : outer.config, hinner : inner.config with
        | none, none => simp [hvalue, completed_config hscope environment houter hinner]
        | none, some _ => simp [hvalue, Option.isSome_iff_ne_none]
        | some _, none =>
            rw [ne_comm]
            simp [hvalue, Option.isSome_iff_ne_none]
        | some _, some _ => simp

end GlobalOption

/-- A global option on a command line, somewhere before the name of a subcommand. -/
structure GlobalOption.Occurrence where
  option : GlobalOption
  before : List Bytes
  middle : List Bytes
  name : Bytes
  after : List Bytes
  scope : Scope
  opens : Opened.ofName? name = some (.scope scope)
  /-- Nothing before the option waits for it as a value, or ends the options. -/
  leadsUp_before : leadsUp before
  leadsUp_middle : leadsUp (before ++ (option.left ++ middle))

namespace GlobalOption.Occurrence

/-- The command line. -/
def arguments (occurrence : Occurrence) : List Bytes :=
  occurrence.before ++ (occurrence.option.standing ++
    (occurrence.middle ++ occurrence.name :: occurrence.after))

/-- The command line with the option moved to directly after the subcommand's name. -/
def moved (occurrence : Occurrence) : List Bytes :=
  occurrence.before ++ (occurrence.option.left ++ (occurrence.middle ++
    occurrence.name :: (occurrence.option.alone.standing ++ occurrence.after)))

/-- The command line without the option. -/
def removed (occurrence : Occurrence) : List Bytes :=
  occurrence.before ++ (occurrence.option.left ++
    (occurrence.middle ++ occurrence.name :: occurrence.after))

theorem bind_beside (effect : Effect) (outer : Options) (opened : Option (Opened × List Bytes)) :
    ((effect.on outer).bind fun outer => beside outer opened) =
      (beside outer opened).bind fun sides =>
        (effect.on sides.outer).map fun outer => { sides with outer := outer } := by
  match opened with
  | none => cases effect.on outer <;> rfl
  | some (.helpCommand, _) => cases effect.on outer <;> rfl
  | some (.scope scope, rest) =>
      dsimp only [beside]
      cases Reading.through scope rest {} with
      | none => cases effect.on outer <;> rfl
      | some inner =>
          dsimp only [Option.map_some, Option.bind_some]
          cases effect.on outer <;> rfl

/-- The option in its place has its effect on what stands before the subcommand's name. -/
theorem written?_arguments (occurrence : Occurrence) :
    written? occurrence.arguments = (written? occurrence.removed).bind fun sides =>
      (occurrence.option.effect.on sides.outer).map fun outer =>
        { sides with outer := outer } := by
  have hlead : lead occurrence.arguments {} =
      (lead occurrence.removed {}).bind fun found =>
        (occurrence.option.effect.onReading found.reading).map fun after =>
          { found with reading := after } := by
    rw [arguments, removed, lead_append_of_leadsUp occurrence.leadsUp_before,
      lead_append_of_leadsUp occurrence.leadsUp_before, Option.bind_assoc]
    refine Option.bind_congr fun found hfound => ?_
    obtain ⟨-, hpending, htrailing⟩ := of_leadsUp occurrence.leadsUp_before hfound
    rw [readsOn_standing occurrence.option Reading.readsOn_lead hpending htrailing]
    exact bind_lead _ _ _
  rw [written?, hlead, written?, Option.bind_assoc, Option.bind_assoc]
  refine Option.bind_congr fun found _ => ?_
  rw [← bind_beside, Effect.onReading, Option.map_map, Option.bind_map]
  rfl

/-- The option behind the subcommand's name has its effect on what stands there. -/
theorem written?_moved (occurrence : Occurrence) :
    written? occurrence.moved = (written? occurrence.removed).bind fun sides =>
      (occurrence.option.effect.on sides.inner).map fun inner =>
        { sides with inner := inner } := by
  have happend (rest : List Bytes) :
      written? (occurrence.before ++ (occurrence.option.left ++
          (occurrence.middle ++ occurrence.name :: rest))) =
        (lead (occurrence.before ++ (occurrence.option.left ++ occurrence.middle)) {}).bind
          fun found => (Reading.through occurrence.scope rest {}).map fun inner =>
            ⟨occurrence.scope, found.reading.options, inner.options⟩ := by
    rw [← written?_append occurrence.leadsUp_middle occurrence.opens]
    simp only [List.append_assoc]
  have hthrough : Reading.through occurrence.scope
        (occurrence.option.alone.standing ++ occurrence.after) {} =
      (Reading.through occurrence.scope occurrence.after {}).bind
        occurrence.option.effect.onReading := by
    rw [readsOn_standing occurrence.option.alone (Reading.readsOn_through _) rfl rfl, left_alone,
      effect_alone, List.nil_append]
    exact Reading.commutes_through _ _ _ _
  rw [moved, removed, happend, happend, hthrough, Option.bind_assoc]
  refine Option.bind_congr fun found _ => ?_
  cases Reading.through occurrence.scope occurrence.after {} with
  | none => rfl
  | some inner =>
      cases heffect : occurrence.option.effect.on inner.options <;>
        simp [Effect.onReading, heffect]

/-- Moving a global option to the other side of a subcommand's name changes the outcome
exactly if one of the two command lines is accepted, and the option meets the same option
there or leaves it behind. -/
theorem outcome_ne_iff (occurrence : Occurrence) (environment : String → Option Bytes) :
    (parse environment occurrence.arguments).toOption ≠
        (parse environment occurrence.moved).toOption ↔
      ((parse environment occurrence.arguments).toOption.isSome ∨
        (parse environment occurrence.moved).toOption.isSome) ∧
      ∃ scope outer inner, Written occurrence.removed scope outer inner ∧
        occurrence.option.Meets outer inner := by
  simp only [written_iff]
  rw [toOption_parse, toOption_parse, written?_arguments, written?_moved]
  cases hwritten : written? occurrence.removed with
  | none => simp
  | some found =>
      obtain ⟨scope, outer, inner⟩ := found
      have hscope : scope ≠ .program := (written_iff.mpr hwritten).scope_ne_program
      simp only [Option.bind_some, Option.bind_map]
      refine (completed_ne_iff hscope environment occurrence.option outer inner).trans
        (and_congr_right fun _ => ⟨fun hmeets => ⟨scope, outer, inner, rfl, hmeets⟩, ?_⟩)
      rintro ⟨_, _, _, heq, hmeets⟩
      obtain ⟨rfl, rfl, rfl⟩ := Sides.mk.inj (Option.some.inj heq)
      exact hmeets

end GlobalOption.Occurrence

namespace GlobalOptionsWitness

open GlobalOption

/-- The first `-v` of `-v run -v`. -/
def counted : Occurrence where
  option := .letter 0
  before := []
  middle := []
  name := Utf8.encode "run"
  after := [Utf8.encode "-v"]
  scope := .run
  opens := by decide
  leadsUp_before := by decide
  leadsUp_middle := by decide

/-- The two counts are not added up over the name: `-v run -v` counts one, `run -v -v` two. -/
theorem counts_apart :
    ¬∀ (occurrence : Occurrence) (environment : String → Option Bytes),
      (parse environment occurrence.arguments).toOption =
        (parse environment occurrence.moved).toOption := by
  intro h
  have hsame := congrArg (Option.map Invocation.verbosity) (h counted fun _ => none)
  revert hsame
  decide

end GlobalOptionsWitness

end FolderScript
