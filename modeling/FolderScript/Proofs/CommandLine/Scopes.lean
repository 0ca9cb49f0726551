/-
The two scopes of a command line.  What stands before the name of a subcommand and what
stands after it are read argument by argument, each on its own; only at the end the two
are filled from the environment and put together.
-/
import FolderScript.Proofs.CommandLine.Accepted
import FolderScript.Proofs.CommandLine.Order

namespace FolderScript

namespace Reading

theorem IgnoresSettling.map {α β : Type} {result : Reading → Option α}
    (hresult : IgnoresSettling result) (change : α → β) :
    IgnoresSettling fun reading => (result reading).map change := by
  intro reading
  dsimp only
  rw [hresult reading, Option.map_bind]
  rfl

/-- What has been read after all arguments of a scope. -/
def through (scope : Scope) (arguments : List Bytes) (reading : Reading) : Option Reading :=
  (arguments.foldlM (readArgument scope) reading).toOption.bind settled?

@[simp] theorem through_cons (scope : Scope) (argument : Bytes) (rest : List Bytes) :
    through scope (argument :: rest) =
      fun reading => (reading.after? scope argument).bind (through scope rest) := by
  funext reading
  rw [through, List.foldlM_cons, toOption_bind, Option.bind_assoc]
  rfl

theorem toOption_readAll (scope : Scope) (arguments : List Bytes) :
    (readAll scope arguments).toOption = through scope arguments {} :=
  toOption_bind _ _

theorem commutes_through (effect : Effect) (scope : Scope) (arguments : List Bytes) :
    effect.Commutes (through scope arguments) := by
  induction arguments with
  | nil => exact commutes_settled? effect
  | cons argument rest ih =>
      rw [through_cons]
      exact (commutes_after? effect scope argument).bind ih

theorem ignoresSettling_through (scope : Scope) (arguments : List Bytes) :
    IgnoresSettling (through scope arguments) := by
  induction arguments with
  | nil => exact ignoresSettling_settled?
  | cons argument rest ih =>
      rw [through_cons]
      exact ignoresSettling_after? scope argument ih

theorem pending_of_through {scope : Scope} {arguments : List Bytes} {reading last : Reading}
    (h : through scope arguments reading = some last) : last.pending = none := by
  obtain ⟨after, -, hsettled⟩ := Option.bind_eq_some_iff.mp h
  exact (pending_of_settled? hsettled).1

end Reading

namespace Invocation

def opened? (reading : Reading) (argument : Bytes) : Option Opened :=
  if reading.isWaiting || reading.trailing then none else Opened.ofName? argument

theorem opened?_current {reading current : Reading} (h : reading.current? = some current)
    (argument : Bytes) : opened? current argument = opened? reading argument := by
  obtain ⟨hwaiting, htrailing⟩ := Reading.flags_of_current? h
  rw [opened?, hwaiting, htrailing, opened?]

/-- What stands before a subcommand's name, what the name opens, and the arguments after it. -/
structure Lead where
  reading : Reading
  opened : Option (Opened × List Bytes)

/-- Reads up to a subcommand's name, and settles the value that has come last. -/
def lead (arguments : List Bytes) (reading : Reading) : Option Lead :=
  (readProgram reading arguments).toOption.bind fun (reading, opened) =>
    reading.current?.map fun current => ⟨current, opened⟩

theorem lead_nil (reading : Reading) :
    lead [] reading = reading.current?.map fun current => ⟨current, none⟩ := rfl

theorem lead_cons (argument : Bytes) (rest : List Bytes) (reading : Reading) :
    lead (argument :: rest) reading =
      match opened? reading argument with
      | some opened => reading.current?.map fun current => ⟨current, some (opened, rest)⟩
      | none => (reading.after? .program argument).bind (lead rest) := by
  rw [lead, readProgram, ← opened?]
  cases opened? reading argument with
  | some opened => rfl
  | none =>
      dsimp only
      rw [toOption_bind, Option.bind_assoc]
      rfl

theorem lead_cons_of_opened? {reading : Reading} {argument : Bytes}
    (h : opened? reading argument = none) (rest : List Bytes) :
    lead (argument :: rest) reading = (reading.after? .program argument).bind (lead rest) := by
  rw [lead_cons, h]

theorem ignoresSettling_lead (arguments : List Bytes) :
    Reading.IgnoresSettling (lead arguments) := by
  induction arguments with
  | nil => exact Reading.ignoresSettling_current?.map _
  | cons argument rest ih =>
      intro reading
      have hcongr : reading.current?.bind (lead (argument :: rest)) =
          reading.current?.bind fun current =>
            match opened? reading argument with
            | some opened => current.current?.map fun current => ⟨current, some (opened, rest)⟩
            | none => (current.after? .program argument).bind (lead rest) :=
        Option.bind_congr fun current hcurrent => by
          rw [lead_cons, opened?_current hcurrent]
      rw [hcongr, lead_cons]
      cases opened? reading argument with
      | some opened => exact Reading.ignoresSettling_current?.map _ reading
      | none => exact Reading.ignoresSettling_after? .program argument ih reading

/-- An effect on what stands before a subcommand's name comes to the same at its start as
at its end. -/
theorem bind_lead (effect : Effect) (arguments : List Bytes) (reading : Reading) :
    (effect.onReading reading).bind (lead arguments) =
      (lead arguments reading).bind fun found =>
        (effect.onReading found.reading).map fun after => { found with reading := after } := by
  have hcurrent (reading : Reading) (opened : Option (Opened × List Bytes)) :
      ((effect.onReading reading).bind fun after =>
          after.current?.map fun current => (⟨current, opened⟩ : Lead)) =
        (reading.current?.map fun current => (⟨current, opened⟩ : Lead)).bind fun found =>
          (effect.onReading found.reading).map fun after => { found with reading := after } := by
    rw [Option.bind_map]
    exact Option.map_bind.symm.trans
      ((congrArg _ (Reading.commutes_current? effect reading)).trans Option.map_bind)
  induction arguments generalizing reading with
  | nil => exact hcurrent reading none
  | cons argument rest ih =>
      have hcongr : (effect.onReading reading).bind (lead (argument :: rest)) =
          (effect.onReading reading).bind fun after =>
            match opened? reading argument with
            | some opened => after.current?.map fun current => ⟨current, some (opened, rest)⟩
            | none => (after.after? .program argument).bind (lead rest) :=
        Option.bind_congr fun after hafter => by
          obtain ⟨hpending, htrailing⟩ := Effect.eq_of_onReading hafter
          rw [lead_cons, opened?, Reading.isWaiting, hpending, htrailing]
          rfl
      rw [hcongr, lead_cons]
      cases opened? reading argument with
      | some opened => exact hcurrent reading (some (opened, rest))
      | none =>
          dsimp only
          rw [← Option.bind_assoc, Reading.commutes_after?, Option.bind_assoc, Option.bind_assoc]
          exact congrArg _ (funext ih)

/-- What is read up to a name stands before everything that follows. -/
theorem lead_append {front : List Bytes} {start : Reading}
    (h : ∀ found ∈ lead front start, found.opened = none) (rest : List Bytes) :
    lead (front ++ rest) start = (lead front start).bind fun found => lead rest found.reading := by
  induction front generalizing start with
  | nil =>
      rw [lead_nil, Option.bind_map]
      exact ignoresSettling_lead rest start
  | cons argument front ih =>
      rw [List.cons_append, lead_cons]
      rw [lead_cons] at h ⊢
      cases hopened : opened? start argument with
      | some opened =>
          rw [hopened] at h
          dsimp only at h ⊢
          cases hcurrent : start.current? with
          | none => rfl
          | some current =>
              have hfound := h ⟨current, some (opened, front)⟩ (by rw [hcurrent]; rfl)
              contradiction
      | none =>
          rw [hopened] at h
          dsimp only at h ⊢
          rw [Option.bind_assoc]
          refine Option.bind_congr fun after hafter => ih fun found hfound => ?_
          exact h found (Option.mem_bind_iff.mpr ⟨after, hafter, hfound⟩)

/-- Whether a subcommand's name after these arguments is read as one, unless the arguments
themselves stop the reading. -/
def leadsUp (front : List Bytes) : Bool :=
  (lead front {}).all fun found =>
    found.opened.isNone && !found.reading.isWaiting && !found.reading.trailing

theorem pending_of_lead {arguments : List Bytes} {start : Reading} {found : Lead}
    (h : lead arguments start = some found) (hwaiting : found.reading.isWaiting = false) :
    found.reading.pending = none := by
  obtain ⟨⟨last, _⟩, -, hlast⟩ := Option.bind_eq_some_iff.mp h
  obtain ⟨current, hcurrent, rfl⟩ := Option.map_eq_some_iff.mp hlast
  rw [(Reading.flags_of_current? hcurrent).1] at hwaiting
  rw [Reading.current?_of_not_isWaiting hwaiting] at hcurrent
  exact (Reading.pending_of_settled? hcurrent).1

theorem of_leadsUp {front : List Bytes} {found : Lead} (h : leadsUp front)
    (hlead : lead front {} = some found) :
    found.opened = none ∧ found.reading.pending = none ∧ found.reading.trailing = false := by
  rw [leadsUp, hlead, Option.all_some] at h
  simp only [Bool.and_eq_true, Bool.not_eq_true', Option.isNone_iff_eq_none] at h
  obtain ⟨⟨hopened, hwaiting⟩, htrailing⟩ := h
  exact ⟨hopened, pending_of_lead hlead hwaiting, htrailing⟩

theorem lead_append_of_leadsUp {front : List Bytes} (h : leadsUp front) (rest : List Bytes) :
    lead (front ++ rest) {} = (lead front {}).bind fun found => lead rest found.reading :=
  lead_append (fun _ hfound => (of_leadsUp h hfound).1) rest

theorem not_isWaiting_of_readProgram {start reading : Reading} {arguments rest : List Bytes}
    {opened : Opened} (h : readProgram start arguments = .ok (reading, some (opened, rest))) :
    reading.isWaiting = false := by
  induction arguments generalizing start with
  | nil => simp [readProgram] at h
  | cons argument arguments ih =>
      rw [readProgram, ← opened?] at h
      cases hopened : opened? start argument with
      | some found =>
          simp only [hopened, Except.ok.injEq, Prod.mk.injEq] at h
          obtain ⟨rfl, -⟩ := h
          cases hwaiting : start.isWaiting with
          | false => rfl
          | true => simp [opened?, hwaiting] at hopened
      | none =>
          rw [hopened] at h
          obtain ⟨next, -, hrest⟩ := bind_eq_ok_iff.mp h
          exact ih hrest

/-- What is written on a command line: the subcommand, and the options on both sides of its
name. -/
structure Sides where
  scope : Scope
  outer : Options
  inner : Options

/-- What stands in front of a subcommand's name together with what is read after it; none if
no such name has come, or if what stands after it cannot be read. -/
def beside (outer : Options) : Option (Opened × List Bytes) → Option Sides
  | some (.scope scope, rest) =>
      (Reading.through scope rest {}).map fun inner => ⟨scope, outer, inner.options⟩
  | _ => none

/-- What is written before and after the name of a subcommand; none if it cannot be read. -/
def written? (arguments : List Bytes) : Option Sides :=
  (lead arguments {}).bind fun found => beside found.reading.options found.opened

theorem written_iff {arguments : List Bytes} {scope : Scope} {outer inner : Options} :
    Written arguments scope outer inner ↔ written? arguments = some ⟨scope, outer, inner⟩ := by
  constructor
  · rintro ⟨reading, rest, outerReading, innerReading, hread, hsettle, rfl, hinner, rfl⟩
    have hcurrent : reading.current? = some outerReading := by
      rw [Reading.current?_of_not_isWaiting (not_isWaiting_of_readProgram hread)]
      exact toOption_eq_some_iff.mpr hsettle
    have hlead : lead arguments {} = some ⟨outerReading, some (.scope scope, rest)⟩ := by
      rw [lead, hread]
      exact congrArg (Option.map _) hcurrent
    rw [written?, hlead, Option.bind_some]
    dsimp only [beside]
    rw [← Reading.toOption_readAll, hinner]
    rfl
  · intro h
    obtain ⟨⟨outerReading, opened⟩, hlead, hopened⟩ := Option.bind_eq_some_iff.mp h
    match opened with
    | none => contradiction
    | some (.helpCommand, rest) => contradiction
    | some (.scope found, rest) =>
        obtain ⟨innerReading, hinner, heq⟩ := Option.map_eq_some_iff.mp hopened
        obtain ⟨rfl, rfl, rfl⟩ := Sides.mk.inj heq
        obtain ⟨⟨reading, _⟩, hread, hlast⟩ := Option.bind_eq_some_iff.mp hlead
        obtain ⟨current, hcurrent, heq⟩ := Option.map_eq_some_iff.mp hlast
        obtain ⟨rfl, rfl⟩ := Lead.mk.inj heq
        rw [toOption_eq_some_iff] at hread
        rw [Reading.current?_of_not_isWaiting (not_isWaiting_of_readProgram hread)] at hcurrent
        rw [← Reading.toOption_readAll] at hinner
        exact ⟨reading, rest, current, innerReading, hread, toOption_eq_some_iff.mp hcurrent, rfl,
          toOption_eq_some_iff.mp hinner, rfl⟩

/-- What stands before a name that is read as a subcommand's, and what stands after it. -/
theorem written?_append {front : List Bytes} (hfront : leadsUp front) {name : Bytes}
    {scope : Scope} (hname : Opened.ofName? name = some (.scope scope)) (rest : List Bytes) :
    written? (front ++ name :: rest) = (lead front {}).bind fun found =>
      (Reading.through scope rest {}).map fun inner =>
        ⟨scope, found.reading.options, inner.options⟩ := by
  rw [written?, lead_append_of_leadsUp hfront, Option.bind_assoc]
  refine Option.bind_congr fun found hlead => ?_
  obtain ⟨-, hpending, htrailing⟩ := of_leadsUp hfront hlead
  have hopened : opened? found.reading name = some (.scope scope) := by
    rw [opened?, Reading.isWaiting, hpending, htrailing]
    exact hname
  rw [lead_cons, hopened, Reading.current?_of_pending hpending]
  rfl

theorem scope_of_written?_append {front : List Bytes} (hfront : leadsUp front) {name : Bytes}
    {scope : Scope} (hname : Opened.ofName? name = some (.scope scope)) {rest : List Bytes}
    {sides : Sides} (h : written? (front ++ name :: rest) = some sides) :
    sides.scope = scope := by
  rw [written?_append hfront hname] at h
  obtain ⟨_, -, hinner⟩ := Option.bind_eq_some_iff.mp h
  obtain ⟨_, -, rfl⟩ := Option.map_eq_some_iff.mp hinner
  rfl

/-- What options before and after a subcommand's name come to; none if the environment
cannot fill them. -/
def completed (environment : String → Option Bytes) (scope : Scope) (outer inner : Options) :
    Option Invocation :=
  (Reading.fromEnvironment environment scope inner).toOption.bind fun filled =>
    (Reading.fromEnvironment environment .program outer).toOption.map fun outerFilled =>
      combine scope inner filled outer outerFilled

theorem completed_eq_some_iff {environment : String → Option Bytes} {scope : Scope}
    {outer inner : Options} {invocation : Invocation} :
    completed environment scope outer inner = some invocation ↔
      ∃ outerFilled filled, Reading.fromEnvironment environment .program outer = .ok outerFilled ∧
        Reading.fromEnvironment environment scope inner = .ok filled ∧
        invocation = combine scope inner filled outer outerFilled := by
  rw [completed, Option.bind_eq_some_iff]
  constructor
  · rintro ⟨filled, hfilled, h⟩
    obtain ⟨outerFilled, houterFilled, rfl⟩ := Option.map_eq_some_iff.mp h
    exact ⟨outerFilled, filled, toOption_eq_some_iff.mp houterFilled,
      toOption_eq_some_iff.mp hfilled, rfl⟩
  · rintro ⟨outerFilled, filled, houterFilled, hfilled, rfl⟩
    exact ⟨filled, toOption_eq_some_iff.mpr hfilled,
      Option.map_eq_some_iff.mpr ⟨outerFilled, toOption_eq_some_iff.mpr houterFilled, rfl⟩⟩

/-- Reading a command line is reading what is written, and completing it. -/
theorem toOption_parse (environment : String → Option Bytes) (arguments : List Bytes) :
    (parse environment arguments).toOption = (written? arguments).bind fun sides =>
      completed environment sides.scope sides.outer sides.inner := by
  ext invocation
  rw [toOption_eq_some_iff, parse_eq_ok_iff, Option.bind_eq_some_iff]
  constructor
  · rintro ⟨scope, outer, inner, outerFilled, filled, hwritten, houterFilled, hfilled, rfl⟩
    exact ⟨⟨scope, outer, inner⟩, written_iff.mp hwritten,
      completed_eq_some_iff.mpr ⟨outerFilled, filled, houterFilled, hfilled, rfl⟩⟩
  · rintro ⟨⟨scope, outer, inner⟩, hwritten, h⟩
    obtain ⟨outerFilled, filled, houterFilled, hfilled, rfl⟩ := completed_eq_some_iff.mp h
    exact ⟨scope, outer, inner, outerFilled, filled, written_iff.mpr hwritten, houterFilled,
      hfilled, rfl⟩

end Invocation

namespace Reading

/-- Whether what an option can be filled with, if it is not given, can be read. -/
def fills (environment : String → Option Bytes) (options : Options) (option : ValueOption) :
    Bool :=
  options.has option ||
    (option.environmentName?.bind environment).all fun value =>
      (Given.ofBytes? option value).isSome

theorem exists_fill_iff {environment : String → Option Bytes} {written : Options}
    {option : ValueOption} (options : Options) :
    (∃ filled, fill environment written options option = .ok filled) ↔
      fills environment written option := by
  unfold fill fills
  cases hhas : written.has option with
  | true => simp
  | false =>
      cases hvalue : option.environmentName?.bind environment with
      | none => simp
      | some value =>
          simp only [Bool.false_eq_true, if_false, Bool.false_or, Option.all_some,
            Option.isSome_iff_exists]
          constructor
          · rintro ⟨filled, hfilled⟩
            obtain ⟨given, hgiven, -⟩ := interpret_eq_ok hfilled
            exact ⟨given, hgiven⟩
          · rintro ⟨given, hgiven⟩
            exact exists_interpret hgiven options

theorem exists_foldlM_fill_iff {environment : String → Option Bytes} {written options : Options}
    {todo : List ValueOption} :
    (∃ filled, todo.foldlM (fill environment written) options = .ok filled) ↔
      todo.all (fills environment written) := by
  induction todo generalizing options with
  | nil => exact iff_of_true ⟨options, rfl⟩ rfl
  | cons option rest ih =>
      rw [List.all_cons, Bool.and_eq_true, ← exists_fill_iff options]
      constructor
      · rintro ⟨filled, hfilled⟩
        rw [List.foldlM_cons, bind_eq_ok_iff] at hfilled
        obtain ⟨next, hnext, hrest⟩ := hfilled
        exact ⟨⟨next, hnext⟩, ih.mp ⟨filled, hrest⟩⟩
      · rintro ⟨⟨next, hnext⟩, hrest⟩
        obtain ⟨filled, hfilled⟩ := ih.mpr hrest
        exact ⟨filled, by rw [List.foldlM_cons, hnext]; exact hfilled⟩

/-- The options of a scope can be filled if each of them can. -/
theorem exists_fromEnvironment_iff {environment : String → Option Bytes} {scope : Scope}
    {options : Options} :
    (∃ filled, fromEnvironment environment scope options = .ok filled) ↔
      (ValueOption.inScope scope).all (fills environment options) :=
  exists_foldlM_fill_iff

end Reading

namespace Invocation

/-- The options of a subcommand that its scope alone takes, with what the environment gives
the runner below what is written. -/
def own (environment : String → Option Bytes) (written : Options) : Options where
  project := written.project
  input := written.input
  output := written.output
  runner := written.runner.onTopOf (Options.ofVariables environment).runner

/-- Filling changes only what the runner is told. -/
theorem subcommand_fromEnvironment {environment : String → Option Bytes} {scope : Scope}
    {written filled : Options} (hscope : scope ≠ .program)
    (h : Reading.fromEnvironment environment scope written = .ok filled) :
    subcommand scope filled = subcommand scope (own environment written) := by
  have hfolder (option : ValueOption) (hname : option.environmentName? = none) :
      filled.get? option = written.get? option := by
    rw [Reading.fromEnvironment_eq] at h
    rw [Reading.foldlM_fill_eq_ok h option]
    simp [Reading.fallback?, hname]
  have hproject : filled.project = written.project :=
    Option.map_injective (fun _ _ => Given.path.inj) (hfolder .project rfl)
  have hinput : filled.input = written.input :=
    Option.map_injective (fun _ _ => Given.text.inj) (hfolder .input rfl)
  have houtput : filled.output = written.output :=
    Option.map_injective (fun _ _ => Given.text.inj) (hfolder .output rfl)
  cases scope with
  | program => contradiction
  | run =>
      simp only [subcommand, own, hproject, hinput, houtput,
        Reading.runner_fromEnvironment hscope h]
  | config => exact congrArg Subcommand.config (Reading.runner_fromEnvironment hscope h)

/-- What is written comes to an invocation if the environment can fill it, and the scope of
the subcommand goes first in everything that both scopes take. -/
theorem completed_eq {scope : Scope} (hscope : scope ≠ .program)
    (environment : String → Option Bytes) (outer inner : Options) :
    completed environment scope outer inner =
      if (ValueOption.inScope scope).all (Reading.fills environment inner) &&
          Reading.fills environment outer .config then
        some {
          command := subcommand scope (own environment inner)
          verbosity := if inner.verbosity = 0 then outer.verbosity else inner.verbosity
          config := (inner.config.or outer.config).or (Options.ofVariables environment).config }
      else none := by
  have houter : Reading.fills environment outer .config =
      (ValueOption.inScope .program).all (Reading.fills environment outer) :=
    (Bool.and_true _).symm
  rw [houter]
  split
  · rename_i hfills
    rw [Bool.and_eq_true, ← Reading.exists_fromEnvironment_iff,
      ← Reading.exists_fromEnvironment_iff] at hfills
    obtain ⟨⟨filled, hfilled⟩, outerFilled, houterFilled⟩ := hfills
    refine completed_eq_some_iff.mpr ⟨outerFilled, filled, houterFilled, hfilled, ?_⟩
    rw [← config_combine_fromEnvironment houterFilled hfilled,
      ← subcommand_fromEnvironment hscope hfilled]
    rfl
  · rename_i hfills
    rw [Option.eq_none_iff_forall_ne_some]
    intro invocation hsome
    obtain ⟨outerFilled, filled, houterFilled, hfilled, -⟩ := completed_eq_some_iff.mp hsome
    exact hfills (Bool.and_eq_true_iff.mpr ⟨Reading.exists_fromEnvironment_iff.mp ⟨_, hfilled⟩,
      Reading.exists_fromEnvironment_iff.mp ⟨_, houterFilled⟩⟩)

end Invocation

end FolderScript
