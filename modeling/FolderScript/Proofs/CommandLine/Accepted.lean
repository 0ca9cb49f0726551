/-
When a command line is accepted, and what it comes to.  What is written in the
two scopes is read on its own, and only then filled from the environment and put
together; so the environment lies below everything that is written.
-/
import FolderScript.Proofs.CommandLine.Given

namespace FolderScript

namespace Options

/-- The path of bytes; none if there are none. -/
def givenPath? (value : Bytes) : Option Path := if value = [] then none else some ⟨value⟩

def ofVariables (environment : String → Option Bytes) : Options where
  runner := {
    interpreter := (environment "SCRIPTRUN_INTERPRETER").bind Utf8.decode?
    scriptPath := (environment "SCRIPTRUN_SCRIPT").bind Utf8.decode?
    workingDirectory := (environment "SCRIPTRUN_WORKDIR").bind givenPath?
    timeout := ((environment "SCRIPTRUN_TIMEOUT").bind Utf8.decode?).bind fun text =>
      (readSeconds text).toOption }
  config := (environment "SCRIPTRUN_CONFIG").bind givenPath?

theorem get?_ofVariables (environment : String → Option Bytes) (option : ValueOption) :
    (ofVariables environment).get? option = Reading.fallback? environment option := by
  have hpath (value : Option Bytes) :
      (value.bind givenPath?).map Given.path =
        value.bind fun value => if value = [] then none else some (.path ⟨value⟩) := by
    cases value with
    | none => rfl
    | some value => by_cases hvalue : value = [] <;> simp [givenPath?, hvalue]
  cases option with
  | project | input | output => rfl
  | interpreter | script => exact Option.map_bind
  | workdir | config => exact hpath _
  | timeout =>
      simp only [get?, ofVariables, Option.bind_assoc, Option.map_bind]
      refine congrArg _ (funext fun value => ?_)
      rw [Function.comp_apply, Option.map_bind]
      rfl

/-- Options that agree entry by entry with some over others have the layer of
the one over that of the other. -/
theorem runner_eq_onTopOf {options upper lower : Options}
    (h : ∀ option ∈ [ValueOption.interpreter, .script, .workdir, .timeout],
      options.get? option = (upper.get? option).or (lower.get? option)) :
    options.runner = upper.runner.onTopOf lower.runner := by
  have hmap {α : Type} {kind : α → Given} (hkind : Function.Injective kind)
      {value first second : Option α}
      (hvalue : value.map kind = (first.map kind).or (second.map kind)) :
      value = first.or second := by
    rw [← Option.map_or] at hvalue
    exact Option.map_injective hkind hvalue
  have hinterpreter := hmap (fun _ _ => Given.text.inj) (h .interpreter (by decide))
  have hscript := hmap (fun _ _ => Given.text.inj) (h .script (by decide))
  have hworkdir := hmap (fun _ _ => Given.path.inj) (h .workdir (by decide))
  have htimeout := hmap (fun _ _ => Given.seconds.inj) (h .timeout (by decide))
  cases hrunner : options.runner
  simp_all [Layer.onTopOf]

theorem config_eq_or {options upper lower : Options}
    (h : options.get? .config = (upper.get? .config).or (lower.get? .config)) :
    options.config = upper.config.or lower.config := by
  simp only [get?, ← Option.map_or] at h
  exact Option.map_injective (fun _ _ => Given.path.inj) h

end Options

namespace Reading

/-- Filling puts what is written on top of what the variables give the runner. -/
theorem runner_fromEnvironment {environment : String → Option Bytes} {scope : Scope}
    {written filled : Options} (hscope : scope ≠ .program)
    (h : fromEnvironment environment scope written = .ok filled) :
    filled.runner = written.runner.onTopOf (Options.ofVariables environment).runner := by
  apply Options.runner_eq_onTopOf
  intro option hoption
  have hmem : option ∈ ValueOption.inScope scope := by
    cases scope with
    | program => contradiction
    | run => revert hoption; cases option <;> decide
    | config => revert hoption; cases option <;> decide
  rw [fromEnvironment_eq_ok h hmem, Options.get?_ofVariables]

theorem config_fromEnvironment {environment : String → Option Bytes} {scope : Scope}
    {written filled : Options} (h : fromEnvironment environment scope written = .ok filled) :
    filled.config = written.config.or (Options.ofVariables environment).config := by
  have hmem : ValueOption.config ∈ ValueOption.inScope scope := by cases scope <;> decide
  apply Options.config_eq_or
  rw [fromEnvironment_eq_ok h hmem, Options.get?_ofVariables]

end Reading

namespace Invocation

theorem scope_ne_program_of_ofName? {name : Bytes} {scope : Scope}
    (h : Opened.ofName? name = some (.scope scope)) : scope ≠ .program := by
  rintro rfl
  unfold Opened.ofName? at h
  split at h
  · simp at h
  · split at h
    · simp at h
    · split at h <;> simp at h

theorem scope_ne_program_of_readProgram {reading outer : Reading} {arguments rest : List Bytes}
    {scope : Scope}
    (h : readProgram reading arguments = .ok (outer, some (.scope scope, rest))) :
    scope ≠ .program := by
  induction arguments generalizing reading with
  | nil => simp [readProgram] at h
  | cons argument arguments ih =>
      rw [readProgram] at h
      split at h
      · rename_i opened hopened
        simp only [Except.ok.injEq, Prod.mk.injEq, Option.some.injEq] at h
        obtain ⟨-, rfl, -⟩ := h
        split at hopened
        · contradiction
        · exact scope_ne_program_of_ofName? hopened
      · obtain ⟨next, -, hrest⟩ := bind_eq_ok_iff.mp h
        exact ih hrest

/-- What is written before and after the name of a subcommand. -/
def Written (arguments : List Bytes) (scope : Scope) (outer inner : Options) : Prop :=
  ∃ reading rest outerReading innerReading,
    readProgram {} arguments = .ok (reading, some (.scope scope, rest)) ∧
    reading.settle = .ok outerReading ∧ outerReading.options = outer ∧
    Reading.readAll scope rest = .ok innerReading ∧ innerReading.options = inner

theorem Written.scope_ne_program {arguments : List Bytes} {scope : Scope}
    {outer inner : Options} (h : Written arguments scope outer inner) : scope ≠ .program := by
  obtain ⟨_, _, _, _, hread, _⟩ := h
  exact scope_ne_program_of_readProgram hread

/-- A command line is accepted if both scopes can be read and filled from the
environment. -/
theorem parse_eq_ok_iff {environment : String → Option Bytes} {arguments : List Bytes}
    {invocation : Invocation} :
    parse environment arguments = .ok invocation ↔
      ∃ scope outer inner outerFilled filled, Written arguments scope outer inner ∧
        Reading.fromEnvironment environment .program outer = .ok outerFilled ∧
        Reading.fromEnvironment environment scope inner = .ok filled ∧
        invocation = combine scope inner filled outer outerFilled := by
  constructor
  · intro h
    obtain ⟨⟨reading, opened⟩, hread, hrest⟩ := bind_eq_ok_iff.mp h
    match opened with
    | none =>
        obtain ⟨_, _, hrest⟩ := bind_eq_ok_iff.mp hrest
        obtain ⟨_, _, hrest⟩ := bind_eq_ok_iff.mp hrest
        split at hrest <;> contradiction
    | some (.helpCommand, rest) => contradiction
    | some (.scope scope, rest) =>
        obtain ⟨inner, hinner, hrest⟩ := bind_eq_ok_iff.mp hrest
        obtain ⟨filled, hfilled, hrest⟩ := bind_eq_ok_iff.mp hrest
        obtain ⟨outer, houter, hrest⟩ := bind_eq_ok_iff.mp hrest
        obtain ⟨outerFilled, houterFilled, hrest⟩ := bind_eq_ok_iff.mp hrest
        exact ⟨scope, outer.options, inner.options, outerFilled, filled,
          ⟨reading, rest, outer, inner, hread, houter, rfl, hinner, rfl⟩,
          houterFilled, hfilled, (Except.ok.inj hrest).symm⟩
  · rintro ⟨scope, _, _, outerFilled, filled,
      ⟨reading, rest, outer, inner, hread, houter, rfl, hinner, rfl⟩,
      houterFilled, hfilled, rfl⟩
    refine bind_eq_ok_iff.mpr ⟨_, hread, ?_⟩
    refine bind_eq_ok_iff.mpr ⟨inner, hinner, ?_⟩
    refine bind_eq_ok_iff.mpr ⟨filled, hfilled, ?_⟩
    refine bind_eq_ok_iff.mpr ⟨outer, houter, ?_⟩
    exact bind_eq_ok_iff.mpr ⟨outerFilled, houterFilled, rfl⟩

/-- The settings that the command line itself brings. -/
def overrides (invocation : Invocation) : Layer :=
  match invocation.command with
  | .run arguments => arguments.overrides
  | .config overrides => overrides

theorem overrides_combine {scope : Scope} (written filled outer outerFilled : Options) :
    (combine scope written filled outer outerFilled).overrides = filled.runner := by
  cases scope <;> rfl

theorem config_combine (scope : Scope) (written filled outer outerFilled : Options) :
    (combine scope written filled outer outerFilled).config =
      (written.config.or outer.config).or (filled.config.or outerFilled.config) := by
  unfold combine
  cases written.config <;> cases outer.config <;> rfl

/-- A config file that was written goes before one from the environment, and one after the
subcommand's name before one in front of it. -/
theorem config_combine_fromEnvironment {environment : String → Option Bytes} {scope : Scope}
    {outer inner outerFilled filled : Options}
    (houter : Reading.fromEnvironment environment .program outer = .ok outerFilled)
    (hinner : Reading.fromEnvironment environment scope inner = .ok filled) :
    (combine scope inner filled outer outerFilled).config =
      (inner.config.or outer.config).or (Options.ofVariables environment).config := by
  rw [config_combine, Reading.config_fromEnvironment hinner,
    Reading.config_fromEnvironment houter]
  cases inner.config <;> cases outer.config <;>
    cases (Options.ofVariables environment).config <;> rfl

/-- The environment fills in what is not written: an accepted command line is
also accepted without the environment, and comes to the same over the variables. -/
theorem parse_eq_ok {environment : String → Option Bytes} {arguments : List Bytes}
    {invocation : Invocation} (h : parse environment arguments = .ok invocation) :
    ∃ written, parse (fun _ => none) arguments = .ok written ∧
      invocation.overrides =
        written.overrides.onTopOf (Options.ofVariables environment).runner ∧
      invocation.config = written.config.or (Options.ofVariables environment).config := by
  obtain ⟨scope, outer, inner, outerFilled, filled, hwritten, houter, hinner, rfl⟩ :=
    parse_eq_ok_iff.mp h
  refine ⟨combine scope inner inner outer outer,
    parse_eq_ok_iff.mpr ⟨scope, outer, inner, outer, inner, hwritten,
      Reading.fromEnvironment_none .program outer, Reading.fromEnvironment_none scope inner, rfl⟩,
    ?_, ?_⟩
  · rw [overrides_combine, overrides_combine]
    exact Reading.runner_fromEnvironment hwritten.scope_ne_program hinner
  · rw [config_combine_fromEnvironment houter hinner, config_combine, Option.or_self]

end Invocation

end FolderScript
