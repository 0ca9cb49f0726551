/-
The options for folders are what `run` takes and `config` does not.  Where none of them is
given the two read the same, argument by argument; where one is given, `config` stops.
-/
import FolderScript.Proofs.CommandLine.Scopes

namespace FolderScript

def ValueOption.isFolder : ValueOption → Bool
  | .project | .input | .output => true
  | _ => false

/-- A long name is that of a folder in `run` and of nothing in `config`, or it is the same
in both. -/
theorem ofLong?_run (name : Bytes) :
    (∃ option, ValueOption.ofLong? .run name = some option ∧ option.isFolder ∧
      ValueOption.ofLong? .config name = none ∧ Flag.ofLong? name = none) ∨
    (ValueOption.ofLong? .run name = ValueOption.ofLong? .config name ∧
      ∀ option, ValueOption.ofLong? .config name = some option → option.isFolder = false) := by
  by_cases hname : name ∈ ["project", "input", "output"].map Utf8.encode
  · left
    simp only [List.map_cons, List.map_nil, List.mem_cons, List.not_mem_nil, or_false] at hname
    rcases hname with rfl | rfl | rfl
    · exact ⟨.project, by decide⟩
    · exact ⟨.input, by decide⟩
    · exact ⟨.output, by decide⟩
  · right
    simp only [List.map_cons, List.map_nil, List.mem_cons, List.not_mem_nil, or_false,
      not_or] at hname
    obtain ⟨hproject, hinput, houtput⟩ := hname
    refine ⟨?_, fun option hoption => ?_⟩
    · simp only [ValueOption.ofLong?, ValueOption.inScope, ValueOption.long]
      rw [List.find?_cons_of_neg (by simpa using Ne.symm hproject),
        List.find?_cons_of_neg (by simpa using Ne.symm hinput),
        List.find?_cons_of_neg (by simpa using Ne.symm houtput)]
    · have hmem : option ∈ ValueOption.inScope .config := List.mem_of_find?_eq_some hoption
      revert hmem
      cases option <;> decide

/-- A letter is that of a folder in `run` and of nothing in `config`, or it is the same in
both. -/
theorem ofShort?_run (letter : Char) :
    (∃ option, ValueOption.ofShort? .run letter = some option ∧ option.isFolder ∧
      ValueOption.ofShort? .config letter = none ∧ Flag.ofShort? letter = none) ∨
    (ValueOption.ofShort? .run letter = ValueOption.ofShort? .config letter ∧
      ∀ option, ValueOption.ofShort? .config letter = some option → option.isFolder = false) := by
  by_cases hletter : letter ∈ ['p', 'i', 'o']
  · left
    simp only [List.mem_cons, List.not_mem_nil, or_false] at hletter
    rcases hletter with rfl | rfl | rfl
    · exact ⟨.project, by decide⟩
    · exact ⟨.input, by decide⟩
    · exact ⟨.output, by decide⟩
  · right
    simp only [List.mem_cons, List.not_mem_nil, or_false, not_or] at hletter
    obtain ⟨hproject, hinput, houtput⟩ := hletter
    refine ⟨?_, fun option hoption => ?_⟩
    · simp only [ValueOption.ofShort?, ValueOption.inScope]
      rw [List.find?_cons_of_neg (by simpa [ValueOption.short?] using Ne.symm hproject),
        List.find?_cons_of_neg (by simpa [ValueOption.short?] using Ne.symm hinput),
        List.find?_cons_of_neg (by simpa [ValueOption.short?] using Ne.symm houtput)]
    · have hmem : option ∈ ValueOption.inScope .config := List.mem_of_find?_eq_some hoption
      revert hmem
      cases option <;> decide

namespace Act

def isFolder : Act → Bool
  | .give option _ | .await option => option.isFolder
  | _ => false

/-- What an act is where folders cannot be given. -/
def barred (act : Act) : Act := if act.isFolder then .stop else act

theorem ofLong_config (body : Bytes) : ofLong .config body = (ofLong .run body).barred := by
  unfold ofLong
  dsimp only
  rcases ofLong?_run (body.takeWhile (· ≠ Reading.equalsSign)) with
    ⟨option, hrun, hfolder, hconfig, hflag⟩ | ⟨hrun, hkept⟩
  · rw [hrun, hconfig, hflag]
    cases (body.dropWhile (· ≠ Reading.equalsSign)).tail? <;>
      exact (if_pos (by exact hfolder)).symm
  · rw [hrun]
    cases hoption : ValueOption.ofLong? .config (body.takeWhile (· ≠ Reading.equalsSign)) with
    | none =>
        cases Flag.ofLong? (body.takeWhile (· ≠ Reading.equalsSign)) <;>
          cases (body.dropWhile (· ≠ Reading.equalsSign)).tail? <;> rfl
    | some option =>
        have hnot : ¬option.isFolder := by rw [hkept option hoption]; decide
        cases (body.dropWhile (· ≠ Reading.equalsSign)).tail? <;>
          exact (if_neg (by exact hnot)).symm

theorem ofLetters_config (broken : Bytes) (letters : List Char) :
    ofLetters .config broken letters = (ofLetters .run broken letters).map barred := by
  induction letters with
  | nil =>
      unfold ofLetters
      split <;> rfl
  | cons letter rest ih =>
      unfold ofLetters
      rcases ofShort?_run letter with ⟨option, hrun, hfolder, hconfig, hflag⟩ | ⟨hrun, hkept⟩
      · rw [hrun, hconfig, hflag]
        dsimp only
        cases Utf8.encode (String.ofList rest) ++ broken <;>
          simp [barred, isFolder, hfolder]
      · rw [hrun]
        cases hoption : ValueOption.ofShort? .config letter with
        | none =>
            cases Flag.ofShort? letter with
            | none => rfl
            | some flag => exact congrArg (List.cons (Act.raise flag)) ih
        | some option =>
            dsimp only
            cases Utf8.encode (String.ofList rest) ++ broken <;>
              simp [barred, isFolder, hkept option hoption]

/-- In `config` an argument comes to what it comes to in `run`, but for folders. -/
theorem ofArgument_config (argument : Bytes) :
    ofArgument .config argument = (ofArgument .run argument).map barred := by
  match argument with
  | [] | [_] => rfl
  | first :: second :: rest =>
      simp only [ofArgument]
      split
      · split
        · rfl
        · exact congrArg (fun act => [act]) (ofLong_config rest)
      · split
        · exact ofLetters_config _ _
        · rfl

end Act

namespace Reading

/-- No folder has been given, and none is waited for. -/
structure LacksFolders (reading : Reading) : Prop where
  given : ∀ option : ValueOption, option.isFolder → reading.options.get? option = none
  pending : ∀ option value, reading.pending = some (option, value) → option.isFolder = false

theorem lacksFolders_start : LacksFolders {} where
  given option _ := by cases option <;> rfl
  pending _ _ h := by contradiction

theorem lacksFolders_give {option : ValueOption} {value : Bytes} {reading after : Reading}
    (h : (Effect.give option value).onReading reading = some after) :
    after.LacksFolders ↔ reading.LacksFolders ∧ option.isFolder = false := by
  obtain ⟨options, hgive, rfl⟩ := Option.map_eq_some_iff.mp h
  obtain ⟨hget, -, given, -, hall⟩ := Effect.give_on_eq_some_iff.mp hgive
  constructor
  · intro hlacks
    have hoption : option.isFolder = false := by
      cases hfolder : option.isFolder with
      | false => rfl
      | true =>
          have hnone := hlacks.given option hfolder
          rw [hall, if_pos rfl] at hnone
          contradiction
    refine ⟨⟨fun other hother => ?_, hlacks.pending⟩, hoption⟩
    have hne : other ≠ option := by
      rintro rfl
      rw [hother] at hoption
      contradiction
    have hnone := hlacks.given other hother
    rwa [hall, if_neg hne] at hnone
  · rintro ⟨hlacks, hoption⟩
    refine ⟨fun other hother => ?_, hlacks.pending⟩
    have hne : other ≠ option := by
      rintro rfl
      rw [hother] at hoption
      contradiction
    rw [hall, if_neg hne, hlacks.given other hother]

theorem lacksFolders_count {reading after : Reading}
    (h : Effect.count.onReading reading = some after) :
    after.LacksFolders ↔ reading.LacksFolders := by
  obtain ⟨options, hcount, rfl⟩ := Option.map_eq_some_iff.mp h
  obtain rfl := Option.some.inj hcount
  exact ⟨fun hlacks => ⟨fun option hoption =>
      (Options.get?_countVerbose _ _).symm.trans (hlacks.given option hoption), hlacks.pending⟩,
    fun hlacks => ⟨fun option hoption =>
      (Options.get?_countVerbose _ _).trans (hlacks.given option hoption), hlacks.pending⟩⟩

/-- Waiting for the value of an option that is not for a folder. -/
theorem lacksFolders_awaiting {reading : Reading} (hpending : reading.pending = none)
    (option : ValueOption) (value : Option Bytes) :
    LacksFolders { reading with pending := some (option, value) } ↔
      reading.LacksFolders ∧ option.isFolder = false := by
  constructor
  · intro hlacks
    refine ⟨⟨hlacks.given, fun other value hother => ?_⟩, hlacks.pending option value rfl⟩
    rw [hpending] at hother
    contradiction
  · rintro ⟨hlacks, hoption⟩
    refine ⟨hlacks.given, fun other value hother => ?_⟩
    obtain ⟨rfl, -⟩ := Prod.mk.inj (Option.some.inj hother)
    exact hoption

theorem lacksFolders_settled? {reading settled : Reading} (h : reading.settled? = some settled) :
    settled.LacksFolders ↔ reading.LacksFolders := by
  rw [settled?_eq] at h
  match hpending : reading.pending with
  | none =>
      rw [hpending] at h
      obtain rfl := Option.some.inj h
      rfl
  | some (option, none) =>
      rw [hpending] at h
      contradiction
  | some (option, some value) =>
      rw [hpending] at h
      have hawaiting : reading.LacksFolders ↔
          LacksFolders { reading with pending := none } ∧ option.isFolder = false := by
        rw [← lacksFolders_awaiting rfl option (some value), ← hpending]
      rw [lacksFolders_give h, hawaiting]

end Reading

namespace Act

/-- An act leaves folders lacking if it is about none. -/
theorem lacksFolders_on {act : Act} {reading after : Reading} (h : act.on reading = some after) :
    after.LacksFolders ↔ reading.LacksFolders ∧ act.isFolder = false := by
  cases act with
  | give option value =>
      obtain ⟨settled, hsettled, hgive⟩ := Option.bind_eq_some_iff.mp h
      rw [Reading.lacksFolders_give hgive, Reading.lacksFolders_settled? hsettled, isFolder]
  | await option =>
      obtain ⟨settled, hsettled, hawait⟩ := Option.bind_eq_some_iff.mp h
      obtain rfl := Option.some.inj hawait
      rw [Reading.lacksFolders_awaiting (Reading.pending_of_settled? hsettled).1,
        Reading.lacksFolders_settled? hsettled, isFolder]
  | raise flag =>
      obtain ⟨settled, hsettled, hflagged⟩ := Option.bind_eq_some_iff.mp h
      cases flag with
      | verbose =>
          rw [Reading.lacksFolders_count hflagged, Reading.lacksFolders_settled? hsettled]
          exact (and_iff_left rfl).symm
      | help | version => contradiction
  | close =>
      obtain rfl := Option.some.inj h
      exact ⟨fun hlacks => ⟨⟨hlacks.given, hlacks.pending⟩, rfl⟩,
        fun hlacks => ⟨hlacks.1.given, hlacks.1.pending⟩⟩
  | word argument =>
      match reading with
      | ⟨options, some (option, none), trailing⟩ =>
          obtain rfl := Option.some.inj h
          refine ⟨fun hlacks => ⟨⟨hlacks.given, fun other value hother => ?_⟩, rfl⟩,
            fun hlacks => ⟨hlacks.1.given, fun other value hother => ?_⟩⟩
          · obtain ⟨rfl, -⟩ := Prod.mk.inj (Option.some.inj hother)
            exact hlacks.pending option (some argument) rfl
          · obtain ⟨rfl, -⟩ := Prod.mk.inj (Option.some.inj hother)
            exact hlacks.1.pending option none rfl
      | ⟨_, none, _⟩ => contradiction
      | ⟨_, some (_, some _), _⟩ => contradiction
  | stop => contradiction

theorem lacksFolders_of_onAll {acts : List Act} {reading after : Reading}
    (h : onAll acts reading = some after) (hlacks : after.LacksFolders) :
    reading.LacksFolders := by
  induction acts generalizing reading with
  | nil =>
      obtain rfl := Option.some.inj h
      exact hlacks
  | cons act acts ih =>
      rw [onAll_cons] at h
      obtain ⟨next, hnext, hrest⟩ := Option.bind_eq_some_iff.mp h
      exact ((lacksFolders_on hnext).mp (ih hrest)).1

/-- Barred acts come to what the acts come to if no folder is given by them. -/
theorem onAll_barred {acts : List Act} {reading after : Reading} (hlacks : reading.LacksFolders) :
    onAll (acts.map barred) reading = some after ↔
      onAll acts reading = some after ∧ after.LacksFolders := by
  induction acts generalizing reading with
  | nil =>
      refine ⟨fun h => ⟨h, ?_⟩, And.left⟩
      obtain rfl := Option.some.inj h
      exact hlacks
  | cons act acts ih =>
      rw [List.map_cons, onAll_cons, onAll_cons, Option.bind_eq_some_iff,
        Option.bind_eq_some_iff]
      cases hfolder : act.isFolder with
      | true =>
          have hbarred : act.barred = .stop := if_pos hfolder
          constructor
          · rintro ⟨next, hnext, -⟩
            rw [hbarred] at hnext
            contradiction
          · rintro ⟨⟨next, hnext, hrest⟩, hafter⟩
            have hnot := ((lacksFolders_on hnext).mp (lacksFolders_of_onAll hrest hafter)).2
            rw [hfolder] at hnot
            contradiction
      | false =>
          have hbarred : act.barred = act := if_neg (by rw [hfolder]; decide)
          rw [hbarred]
          have hih {next : Reading} (hnext : act.on reading = some next) :=
            ih ((lacksFolders_on hnext).mpr ⟨hlacks, hfolder⟩)
          constructor
          · rintro ⟨next, hnext, hrest⟩
            obtain ⟨hrest, hafter⟩ := (hih hnext).mp hrest
            exact ⟨⟨next, hnext, hrest⟩, hafter⟩
          · rintro ⟨⟨next, hnext, hrest⟩, hafter⟩
            exact ⟨next, hnext, (hih hnext).mpr ⟨hrest, hafter⟩⟩

end Act

namespace Reading

theorem after?_config {argument : Bytes} {reading after : Reading}
    (hlacks : reading.LacksFolders) :
    reading.after? .config argument = some after ↔
      reading.after? .run argument = some after ∧ after.LacksFolders := by
  rw [after?_eq, after?_eq]
  split
  · simp
  · rw [Act.ofArgument_config, Act.onAll_barred hlacks]

theorem lacksFolders_of_through {arguments : List Bytes} {reading last : Reading}
    (h : through .run arguments reading = some last) (hlacks : last.LacksFolders) :
    reading.LacksFolders := by
  induction arguments generalizing reading with
  | nil => exact (lacksFolders_settled? h).mp hlacks
  | cons argument rest ih =>
      rw [through_cons] at h
      obtain ⟨after, hafter, hrest⟩ := Option.bind_eq_some_iff.mp h
      rw [after?_eq] at hafter
      split at hafter
      · contradiction
      · exact Act.lacksFolders_of_onAll hafter (ih hrest)

/-- `config` reads what `run` reads as long as no folder is given. -/
theorem through_config {arguments : List Bytes} {reading last : Reading}
    (hlacks : reading.LacksFolders) :
    through .config arguments reading = some last ↔
      through .run arguments reading = some last ∧ last.LacksFolders := by
  induction arguments generalizing reading with
  | nil =>
      refine ⟨fun h => ⟨h, (lacksFolders_settled? h).mpr hlacks⟩, And.left⟩
  | cons argument rest ih =>
      rw [through_cons, through_cons]
      dsimp only
      rw [Option.bind_eq_some_iff, Option.bind_eq_some_iff]
      constructor
      · rintro ⟨after, hafter, hrest⟩
        obtain ⟨hafter, hafterLacks⟩ := (after?_config hlacks).mp hafter
        obtain ⟨hrest, hlast⟩ := (ih hafterLacks).mp hrest
        exact ⟨⟨after, hafter, hrest⟩, hlast⟩
      · rintro ⟨⟨after, hafter, hrest⟩, hlast⟩
        have hafterLacks := lacksFolders_of_through hrest hlast
        exact ⟨after, (after?_config hlacks).mpr ⟨hafter, hafterLacks⟩,
          (ih hafterLacks).mpr ⟨hrest, hlast⟩⟩

end Reading

namespace Invocation

/-- No option for a folder is given. -/
def NamesNoFolder (options : Options) : Prop :=
  options.project = none ∧ options.input = none ∧ options.output = none

theorem lacksFolders_iff {reading : Reading} (hpending : reading.pending = none) :
    reading.LacksFolders ↔ NamesNoFolder reading.options := by
  constructor
  · intro hlacks
    exact ⟨Option.map_eq_none_iff.mp (hlacks.given .project rfl),
      Option.map_eq_none_iff.mp (hlacks.given .input rfl),
      Option.map_eq_none_iff.mp (hlacks.given .output rfl)⟩
  · rintro ⟨hproject, hinput, houtput⟩
    refine ⟨fun option hoption => ?_, fun option value hoption => ?_⟩
    · cases option with
      | project => exact Option.map_eq_none_iff.mpr hproject
      | input => exact Option.map_eq_none_iff.mpr hinput
      | output => exact Option.map_eq_none_iff.mpr houtput
      | _ => contradiction
    · rw [hpending] at hoption
      contradiction

section

variable {front : List Bytes} {runName configName : Bytes} (hfront : leadsUp front)
  (hrun : Opened.ofName? runName = some (.scope .run))
  (hconfig : Opened.ofName? configName = some (.scope .config))

include hfront hrun hconfig

/-- What is written for `config` is what is written for `run` without a folder. -/
theorem written?_config {flags : List Bytes} {outer inner : Options} :
    written? (front ++ configName :: flags) = some ⟨.config, outer, inner⟩ ↔
      written? (front ++ runName :: flags) = some ⟨.run, outer, inner⟩ ∧
        NamesNoFolder inner := by
  rw [written?_append hfront hconfig, written?_append hfront hrun, Option.bind_eq_some_iff,
    Option.bind_eq_some_iff]
  have hthrough {last : Reading} : Reading.through .config flags {} = some last ↔
      Reading.through .run flags {} = some last ∧ last.LacksFolders :=
    Reading.through_config Reading.lacksFolders_start
  constructor
  · rintro ⟨found, hfound, h⟩
    obtain ⟨last, hlast, heq⟩ := Option.map_eq_some_iff.mp h
    obtain ⟨-, rfl, rfl⟩ := Sides.mk.inj heq
    obtain ⟨hlast, hlacks⟩ := hthrough.mp hlast
    exact ⟨⟨found, hfound, Option.map_eq_some_iff.mpr ⟨last, hlast, rfl⟩⟩,
      (lacksFolders_iff (Reading.pending_of_through hlast)).mp hlacks⟩
  · rintro ⟨⟨found, hfound, h⟩, hnone⟩
    obtain ⟨last, hlast, heq⟩ := Option.map_eq_some_iff.mp h
    obtain ⟨-, rfl, rfl⟩ := Sides.mk.inj heq
    have hlacks := (lacksFolders_iff (Reading.pending_of_through hlast)).mpr hnone
    exact ⟨found, hfound, Option.map_eq_some_iff.mpr ⟨last, hthrough.mpr ⟨hlast, hlacks⟩, rfl⟩⟩

end

/-- No option for a folder is filled from the environment. -/
theorem all_fills_run (environment : String → Option Bytes) (options : Options) :
    (ValueOption.inScope .run).all (Reading.fills environment options) =
      (ValueOption.inScope .config).all (Reading.fills environment options) := by
  simp [ValueOption.inScope, Reading.fills, ValueOption.environmentName?]

/-- Without a folder, `config` is completed as `run` is. -/
theorem completed_config_iff {environment : String → Option Bytes} {outer inner : Options}
    {overrides : Layer} {verbosity : Nat} {config : Option Path} :
    completed environment .run outer inner = some ⟨.run { overrides := overrides }, verbosity, config⟩ ↔
      completed environment .config outer inner = some ⟨.config overrides, verbosity, config⟩ ∧
        NamesNoFolder inner := by
  rw [completed_eq (by decide), completed_eq (by decide), all_fills_run]
  split
  · simp only [subcommand, own, Option.some.injEq, Invocation.mk.injEq, Subcommand.run.injEq,
      Subcommand.config.injEq, RunArguments.mk.injEq, NamesNoFolder]
    constructor
    · rintro ⟨⟨hproject, hinput, houtput, hrunner⟩, hrest⟩
      exact ⟨⟨hrunner, hrest⟩, hproject, hinput, houtput⟩
    · rintro ⟨⟨hrunner, hrest⟩, hproject, hinput, houtput⟩
      exact ⟨⟨hproject, hinput, houtput, hrunner⟩, hrest⟩
  · simp

/-- A command line is accepted for `config` just if it is accepted for `run` without a folder,
and with the same settings, verbosity and config file. -/
theorem parse_config_iff {front : List Bytes} {runName configName : Bytes}
    (hfront : leadsUp front) (hrun : Opened.ofName? runName = some (.scope .run))
    (hconfig : Opened.ofName? configName = some (.scope .config))
    {environment : String → Option Bytes} {flags : List Bytes} {overrides : Layer}
    {verbosity : Nat} {config : Option Path} :
    parse environment (front ++ configName :: flags) =
        .ok ⟨.config overrides, verbosity, config⟩ ↔
      parse environment (front ++ runName :: flags) =
        .ok ⟨.run { overrides := overrides }, verbosity, config⟩ := by
  rw [← toOption_eq_some_iff, ← toOption_eq_some_iff, toOption_parse, toOption_parse,
    Option.bind_eq_some_iff, Option.bind_eq_some_iff]
  constructor
  · rintro ⟨⟨scope, outer, inner⟩, hwritten, hcompleted⟩
    obtain rfl := scope_of_written?_append hfront hconfig hwritten
    obtain ⟨hwritten, hnone⟩ := (written?_config hfront hrun hconfig).mp hwritten
    exact ⟨⟨.run, outer, inner⟩, hwritten, completed_config_iff.mpr ⟨hcompleted, hnone⟩⟩
  · rintro ⟨⟨scope, outer, inner⟩, hwritten, hcompleted⟩
    obtain rfl := scope_of_written?_append hfront hrun hwritten
    obtain ⟨hcompleted, hnone⟩ := completed_config_iff.mp hcompleted
    exact ⟨⟨.config, outer, inner⟩,
      (written?_config hfront hrun hconfig).mpr ⟨hwritten, hnone⟩, hcompleted⟩

end Invocation

end FolderScript
