/-
What a passed limit tells about the child.  A run is timed out if a stream is
still held when the limit passes, whoever holds it; so a child that has ended in
time is taken for one that has not, just if something that it has started outlives
it and holds one of its streams.
-/
import FolderScript.Proofs.Process.Supervision

namespace FolderScript

namespace Life

/-- No read fails, and the end can be collected. -/
structure IsQuiet (life : Life) : Prop where
  reads : life.readFaults = []
  wait : life.waitFault = none

/-- The child has ended by a limit, and a stream of it is still held. -/
structure IsOutlived (life : Life) (limit : Duration) : Prop where
  ended : ∃ ending, life.EndsBy (some limit) ending
  held : ∃ side, ¬ life.IsClosedBy (some limit) side

theorem IsQuiet.not_meets {life : Life} (h : life.IsQuiet) (deadline : Option Duration)
    (error : IoError) : ¬ life.Meets deadline error := by
  rintro ⟨time, side, hfault, -⟩
  rw [h.reads] at hfault
  exact List.not_mem_nil hfault

/-- A child that ends in time and is not outlived is done in time. -/
theorem isDoneBy_of_not_isOutlived {life : Life} {limit : Duration} {ending : Ending}
    (h : ¬ life.IsOutlived limit) (hended : life.EndsBy (some limit) ending) :
    life.IsDoneBy (some limit) ending := by
  refine ⟨fun side => ?_, hended⟩
  by_contra hheld
  exact h ⟨⟨ending, hended⟩, side, hheld⟩

end Life

namespace Command

/-- A result that tells the truth about the end of the child: a child whose run is
timed out has not ended by the limit, and one that has is reported with its code. -/
structure TellsEnd (life : Life) (limit : Duration)
    (result : Option (Except Failure Captured)) : Prop where
  expired : ∀ seconds, result = some (.error (.timedOut seconds)) →
    ∀ ending, ¬ life.EndsBy (some limit) ending
  reported : ∀ ending, life.EndsBy (some limit) ending →
    ∃ output, result = some (.ok ⟨ending.code, output⟩)

theorem Supervision.result_of_isDoneBy {life : Life} {limit : Option Duration}
    {supervised : Supervised} {ending : Ending} (h : Supervision life limit supervised)
    (hquiet : life.IsQuiet) (hdone : life.IsDoneBy limit ending) :
    ∃ output, supervised.result = some (.ok ⟨ending.code, output⟩) := by
  cases h with
  | unreadable fault => exact absurd fault (hquiet.not_meets limit _)
  | uncollected _ _ fault =>
      rw [hquiet.wait] at fault
      contradiction
  | @completed found output _ _ done =>
      obtain rfl := hdone.ended.unique done.ended
      exact ⟨output, rfl⟩
  | expired _ undone => exact absurd hdone (undone ending)
  | endless _ undone => exact absurd hdone (undone ending)

theorem Supervision.result_of_undone {life : Life} {limit : Duration}
    {supervised : Supervised} (h : Supervision life (some limit) supervised)
    (hquiet : life.IsQuiet) (hundone : ∀ ending, ¬ life.IsDoneBy (some limit) ending) :
    supervised.result = some (.error (.timedOut limit.seconds)) := by
  cases h with
  | unreadable fault => exact absurd fault (hquiet.not_meets _ _)
  | uncollected _ done => exact absurd done (hundone _)
  | completed _ done => exact absurd done (hundone _)
  | expired _ _ limited =>
      obtain rfl := Option.some.inj limited
      rfl
  | endless _ _ unlimited => contradiction

theorem Supervision.result_of_isOutlived {life : Life} {limit : Duration}
    {supervised : Supervised} (h : Supervision life (some limit) supervised)
    (hquiet : life.IsQuiet) (houtlived : life.IsOutlived limit) :
    supervised.result = some (.error (.timedOut limit.seconds)) := by
  apply h.result_of_undone hquiet
  intro ending hdone
  obtain ⟨side, hheld⟩ := houtlived.held
  exact hheld (hdone.closed side)

end Command

/-- The result of a run on which nothing fails tells the truth about the end of the
child unless something outlives the child; then the run of a child that has ended is
timed out. -/
theorem tellsEnd_iff_not_isOutlived {launch : Launcher} {command : Command} {fate : Fate}
    (hlaunch : launch command = .ok fate) (hquiet : (fate {}).IsQuiet) (schedule : Schedule)
    (limit : Duration) :
    (Command.TellsEnd (fate {}) limit
        (command.supervise launch schedule (some limit)).value.result ↔
      ¬ (fate {}).IsOutlived limit) ∧
    ((fate {}).IsOutlived limit →
      (command.supervise launch schedule (some limit)).value.result =
        some (.error (.timedOut limit.seconds))) := by
  have hsupervision := Command.supervision_supervise hlaunch schedule (some limit)
  refine ⟨⟨fun htells houtlived => ?_, fun hnot => ⟨?_, ?_⟩⟩,
    hsupervision.result_of_isOutlived hquiet⟩
  · obtain ⟨ending, hended⟩ := houtlived.ended
    exact htells.expired _ (hsupervision.result_of_isOutlived hquiet houtlived) ending hended
  · intro seconds htimedOut ending hended
    have hdone := Life.isDoneBy_of_not_isOutlived hnot hended
    obtain ⟨output, hresult⟩ := hsupervision.result_of_isDoneBy hquiet hdone
    simp [htimedOut] at hresult
  · intro ending hended
    exact hsupervision.result_of_isDoneBy hquiet (Life.isDoneBy_of_not_isOutlived hnot hended)

namespace LimitWitness

/-- A child that ends with code 3 after a millisecond. -/
def child : Holder where
  outUntil := some (Duration.ofMilliseconds 1)
  errUntil := some (Duration.ofMilliseconds 1)

/-- What the child has started: it holds both streams for five seconds. -/
def descendant : Holder where
  outUntil := some (Duration.ofSeconds 5)
  errUntil := some (Duration.ofSeconds 5)

def life (others : List Holder) : Life where
  child := child
  ending := some (Duration.ofMilliseconds 1, .exited 3)
  others := others

def command : Command where
  program := "sh"
  arguments := ["-c", "sleep 5 & exit 3"]
  directory := Path.ofText "/"

/-- A machine on which every command leads the life. -/
def launcher (others : List Holder) : Launcher := fun _ => .ok fun _ => life others

theorem launcher_command (others : List Holder) :
    launcher others command = .ok fun _ => life others := rfl

theorem endsBy_life (others : List Holder) :
    (life others).EndsBy (some (Duration.ofSeconds 1)) (.exited 3) :=
  ⟨Duration.ofMilliseconds 1, rfl, by decide⟩

theorem isQuiet_life (others : List Holder) : (life others).IsQuiet := ⟨rfl, rfl⟩

theorem isOutlived_life : (life [descendant]).IsOutlived (Duration.ofSeconds 1) := by
  refine ⟨⟨.exited 3, endsBy_life _⟩, .out, ?_⟩
  rintro ⟨time, hclose, htime⟩
  have hfive : (life [descendant]).closesAt .out = some (Duration.ofSeconds 5) := by decide
  obtain rfl := Option.some.inj (hfive.symm.trans hclose)
  exact absurd htime (by decide)

theorem not_isOutlived_life : ¬ (life []).IsOutlived (Duration.ofSeconds 1) := by
  rintro ⟨-, side, hheld⟩
  refine hheld ⟨Duration.ofMilliseconds 1, ?_, by decide⟩
  cases side <;> decide

/-- A child on its own is reported, and one with a descendant is not. -/
theorem tellsEnd_alone_and_outlived :
    (∀ schedule, Command.TellsEnd (life []) (Duration.ofSeconds 1)
      (command.supervise (launcher []) schedule (some (Duration.ofSeconds 1))).value.result) ∧
    ∀ schedule, (command.supervise (launcher [descendant]) schedule
        (some (Duration.ofSeconds 1))).value.result = some (.error (.timedOut 1)) :=
  ⟨fun schedule => (tellsEnd_iff_not_isOutlived (launcher_command []) (isQuiet_life [])
      schedule _).1.mpr not_isOutlived_life,
    fun schedule => (tellsEnd_iff_not_isOutlived (launcher_command [descendant])
      (isQuiet_life [descendant]) schedule _).2 isOutlived_life⟩

/-- A child that has ended after a millisecond is timed out after a second. -/
theorem ended_child_timed_out :
    ¬ ∀ (launch : Launcher) (schedule : Schedule) (command : Command) (fate : Fate)
        (limit : Duration),
      launch command = .ok fate → (fate {}).IsQuiet →
        Command.TellsEnd (fate {}) limit
          (command.supervise launch schedule (some limit)).value.result := by
  intro htells
  have hlaunch := launcher_command [descendant]
  have hquiet := isQuiet_life [descendant]
  have hsupervision :=
    Command.supervision_supervise hlaunch .inOrder (some (Duration.ofSeconds 1))
  have hresult := hsupervision.result_of_isOutlived hquiet isOutlived_life
  have htold :=
    htells (launcher [descendant]) .inOrder command _ (Duration.ofSeconds 1) hlaunch hquiet
  exact htold.expired _ hresult (.exited 3) (endsBy_life [descendant])

end LimitWitness

end FolderScript
