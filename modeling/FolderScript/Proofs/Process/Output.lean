/-
What draining a child comes to.  Whatever the schedule, a read that fails before the end of
its stream makes the result a failure, and without one the streams are read to their ends
as far as these come in time; then all hangs on the end of the child.  So nothing is
captured but the lines of both streams, those of each in their order.
-/
import FolderScript.Process.Child
import FolderScript.Proofs.Process.Drained

namespace FolderScript

/-- All of both streams can be read in time, no read fails before, and this is what they
make. -/
structure Life.Merges (life : Life) (deadline : Option Duration) (output : String) : Prop where
  read : ∀ error, ¬ life.Meets deadline error
  closed : ∀ side, life.IsClosedBy deadline side
  lines : ∃ merged, Interleaving (lines (life.written .out)) (lines (life.written .err)) merged ∧
    output = String.join (merged.map (· ++ "\n"))

namespace Child

/-- The end of the child can be collected in time, and it is this one. -/
def Yields (child : Child) (deadline : Option Duration) (ending : Ending) : Prop :=
  match child.reaped with
  | some collected => collected = ending
  | none => child.life.EndsBy deadline ending ∧ child.life.waitFault = none

theorem value_settle (child : Child) (deadline : Option Duration) (drained : Drain) :
    (child.settle deadline drained).value =
      match drained.failure with
      | some error => (some (.error (.readOutput error)), child)
      | none =>
          if drained.finished then
            ({ child with now := child.readUntil }.conclude deadline drained.output).value
          else (none, { child with now := deadline.getD child.now }) := by
  rw [settle, Logged.value_bind]
  cases drained.failure with
  | some error => rfl
  | none => cases drained.finished <;> rfl

theorem value_conclude (child : Child) (deadline : Option Duration) (output : String) :
    (child.conclude deadline output).value =
      match child.wait deadline with
      | none => (none, child)
      | some (.error error, child) => (some (.error (.wait error)), child)
      | some (.ok ending, child) => (some (.ok ⟨ending.code, output⟩), child) := by
  unfold conclude
  cases child.wait deadline with
  | none => rfl
  | some found =>
      obtain ⟨result, after⟩ := found
      cases result <;> rfl

/-- What waiting for a child comes to that ends in time. -/
theorem wait_of_ended {child : Child} {deadline : Option Duration} {time : Duration}
    {ending : Ending} (hreaped : child.reaped = none)
    (hending : child.life.ending = some (time, ending))
    (htime : Life.inTime deadline (max child.now time) = true) :
    child.wait deadline =
      match child.life.waitFault with
      | some error => some (.error error, { child with now := max child.now time })
      | none => some (.ok ending,
          { child with now := max child.now time, reaped := some ending }) := by
  cases hfault : child.life.waitFault with
  | some error => simp only [wait, hreaped, hending, htime, hfault, if_true]
  | none => simp only [wait, hreaped, hending, htime, hfault, if_true]

theorem wait_of_late {child : Child} {deadline : Option Duration}
    (hreaped : child.reaped = none)
    (hlate : ∀ time ending, child.life.ending = some (time, ending) →
      Life.inTime deadline (max child.now time) = false) :
    child.wait deadline = none := by
  simp only [wait, hreaped]
  cases hending : child.life.ending with
  | none => rfl
  | some found =>
      obtain ⟨time, ending⟩ := found
      simp [hlate time ending hending]

theorem exists_wait_of_yields {child : Child} {deadline : Option Duration} {ending : Ending}
    (h : child.Yields deadline ending) (hnow : Life.inTime deadline child.now = true) :
    ∃ after, child.wait deadline = some (.ok ending, after) := by
  unfold Yields at h
  cases hreaped : child.reaped with
  | some collected =>
      simp only [hreaped] at h
      exact ⟨child, by simp only [wait, hreaped, h]⟩
  | none =>
      simp only [hreaped] at h
      obtain ⟨⟨time, hending, htime⟩, hfault⟩ := h
      rw [wait_of_ended hreaped hending ((Life.inTime_max_iff _ _).mpr ⟨hnow, htime⟩), hfault]
      exact ⟨_, rfl⟩

/-- The streams of a child have been read in time if they end in time. -/
theorem inTime_readUntil {child : Child} {deadline : Option Duration}
    (hnow : Life.inTime deadline child.now = true)
    (hclosed : ∀ side, child.life.IsClosedBy deadline side) :
    Life.inTime deadline child.readUntil = true := by
  obtain ⟨out, hout, houtTime⟩ := hclosed .out
  obtain ⟨err, herr, herrTime⟩ := hclosed .err
  rw [readUntil, hout, herr, Life.inTime_max_iff, Option.getD_some, Option.getD_some,
    Life.inTime_max_iff]
  exact ⟨hnow, houtTime, herrTime⟩

theorem le_readUntil {child : Child} {side : Side} {time : Duration}
    (h : child.life.closesAt side = some time) : time ≤ child.readUntil := by
  have hmax : time ≤ max ((child.life.closesAt .out).getD 0) ((child.life.closesAt .err).getD 0) := by
    cases side with
    | out => exact h ▸ Nat.le_max_left _ _
    | err => exact h ▸ Nat.le_max_right _ _
  exact Nat.le_trans hmax (Nat.le_max_right _ _)

section Drain

variable {child : Child} {deadline : Option Duration} (schedule : Schedule)
  (hout : child.has .out = true) (herr : child.has .err = true)

include hout herr

theorem value_drain :
    (child.drain schedule deadline).value =
      (child.reading.settle deadline (child.life.drained schedule deadline)).value := by
  simp [drain, hout, herr]

theorem exists_failsFirst_of_meets {error : IoError} (h : child.life.Meets deadline error) :
    ∃ side cause, child.life.FailsFirst deadline side cause ∧
      (child.drain schedule deadline).value =
        (some (.error (.readOutput cause)), child.reading) := by
  rw [value_drain schedule hout herr, value_settle]
  cases hfailure : (child.life.drained schedule deadline).failure with
  | none => exact absurd h (Life.failure_drained_eq_none_iff.mp hfailure error)
  | some cause =>
      obtain ⟨side, hfirst⟩ := Life.exists_failsFirst_of_drained hfailure
      exact ⟨side, cause, hfirst, rfl⟩

/-- Once both streams are at their end, all hangs on the end of the child. -/
theorem exists_merges_of_closed (hread : ∀ error, ¬ child.life.Meets deadline error)
    (hclosed : ∀ side, child.life.IsClosedBy deadline side) :
    ∃ output, child.life.Merges deadline output ∧
      (child.drain schedule deadline).value =
        ({ child.reading with now := child.readUntil }.conclude deadline output).value := by
  have hfailure : (child.life.drained schedule deadline).failure = none :=
    Life.failure_drained_eq_none_iff.mpr hread
  have hlines := Life.interleaving_drained hfailure hclosed
  refine ⟨_, ⟨hread, hclosed, _, hlines, rfl⟩, ?_⟩
  rw [value_drain schedule hout herr, value_settle, hfailure]
  dsimp only
  rw [if_pos ((Life.finished_drained_iff hfailure).mpr hclosed)]
  rfl

theorem value_drain_of_open (hread : ∀ error, ¬ child.life.Meets deadline error)
    (hopen : ¬ ∀ side, child.life.IsClosedBy deadline side) :
    (child.drain schedule deadline).value =
      (none, { child.reading with now := deadline.getD child.now }) := by
  have hfailure : (child.life.drained schedule deadline).failure = none :=
    Life.failure_drained_eq_none_iff.mpr hread
  rw [value_drain schedule hout herr, value_settle, hfailure]
  dsimp only
  rw [if_neg ((Life.finished_drained_iff hfailure).not.mpr hopen)]
  rfl

end Drain

/-- Whatever the schedule, a child both of whose streams can be read is drained as its life
has it.  A read that fails before the end of its stream makes the result a failure, for the
first such read of one of the streams; without one, and once both streams have ended, the
result is the code of the child, if that can be collected.  And what is captured has all
lines of both streams, those of each in their order, and nothing else. -/
theorem drain_merges {child : Child} (hout : child.has .out = true)
    (herr : child.has .err = true) (schedule : Schedule) (deadline : Option Duration) :
    (∀ error, child.life.Meets deadline error →
      ∃ side cause, child.life.FailsFirst deadline side cause ∧
        (child.drain schedule deadline).value.1 = some (.error (.readOutput cause))) ∧
    (∀ ending, (∀ error, ¬ child.life.Meets deadline error) →
      (∀ side, child.life.IsClosedBy deadline side) → child.Yields deadline ending →
      Life.inTime deadline child.now = true →
        ∃ output, (child.drain schedule deadline).value.1 =
          some (.ok ⟨ending.code, output⟩)) ∧
    ∀ captured, (child.drain schedule deadline).value.1 = some (.ok captured) →
      child.life.Merges deadline captured.output := by
  refine ⟨fun error hmeets => ?_, fun ending hread hclosed hyields hnow => ?_,
    fun captured hcaptured => ?_⟩
  · obtain ⟨side, cause, hfirst, hvalue⟩ := exists_failsFirst_of_meets schedule hout herr hmeets
    exact ⟨side, cause, hfirst, by rw [hvalue]⟩
  · obtain ⟨output, -, hvalue⟩ := exists_merges_of_closed schedule hout herr hread hclosed
    have hyieldsThen : Yields { child.reading with now := child.readUntil } deadline ending :=
      hyields
    obtain ⟨after, hwait⟩ := exists_wait_of_yields hyieldsThen (inTime_readUntil hnow hclosed)
    rw [hvalue, value_conclude, hwait]
    exact ⟨output, rfl⟩
  · by_cases hread : ∀ error, ¬ child.life.Meets deadline error
    · by_cases hclosed : ∀ side, child.life.IsClosedBy deadline side
      · obtain ⟨output, hmerges, hvalue⟩ :=
          exists_merges_of_closed schedule hout herr hread hclosed
        rw [hvalue, value_conclude] at hcaptured
        split at hcaptured
        · contradiction
        · exact nomatch Option.some.inj hcaptured
        · obtain rfl := Except.ok.inj (Option.some.inj hcaptured)
          exact hmerges
      · rw [value_drain_of_open schedule hout herr hread hclosed] at hcaptured
        contradiction
    · simp only [not_forall, not_not] at hread
      obtain ⟨error, hmeets⟩ := hread
      obtain ⟨side, cause, -, hvalue⟩ := exists_failsFirst_of_meets schedule hout herr hmeets
      rw [hvalue] at hcaptured
      exact nomatch Option.some.inj hcaptured

end Child

namespace OutputWitness

/-- A child that writes two lines to one stream, with the first line end cut in two, and one
line to the other in between; it ends with code 3. -/
def life (faults : List (Duration × Side × IoError)) : Life where
  child :=
    { writes := [(1, .out, [0x61, 0x0D]), (2, .err, [0x65, 0x0A]), (3, .out, [0x0A, 0x62])]
      outUntil := some 5
      errUntil := some 5 }
  ending := some (5, .exited 3)
  readFaults := faults

def child (faults : List (Duration × Side × IoError)) : Child := .started fun _ => life faults

theorem timeline_life : (life []).timeline =
    [(1, .written .out [0x61, 0x0D]), (2, .written .err [0x65, 0x0A]),
      (3, .written .out [0x0A, 0x62]), (5, .closed .out), (5, .closed .err)] := by
  rw [Life.timeline]
  exact List.mergeSort_of_pairwise (by decide)

theorem lines_written : lines ((life []).written .out) = ["a", "b"] ∧
    lines ((life []).written .err) = ["e"] := by
  rw [Life.written, Life.written, timeline_life]
  decide +kernel

theorem isClosedBy_life (side : Side) : (life []).IsClosedBy none side :=
  ⟨5, by cases side <;> decide, rfl⟩

theorem not_meets_life (error : IoError) : ¬ (life []).Meets none error := by
  rintro ⟨time, side, hfault, -⟩
  exact List.not_mem_nil hfault

theorem meets_life : (life [(4, .err, .os 5)]).Meets none (.os 5) :=
  ⟨4, .err, List.mem_singleton_self _, rfl, fun close hclose => by
    obtain rfl : (5 : Nat) = close := Option.some.inj hclose
    decide⟩

/-- Whatever the schedule, both streams are captured with the code; and a read that fails
before the end leaves nothing of them. -/
theorem drain_merges_crossed :
    (∀ schedule, ∃ merged, Interleaving ["a", "b"] ["e"] merged ∧
      ((child []).drain schedule none).value.1 =
        some (.ok ⟨3, String.join (merged.map (· ++ "\n"))⟩)) ∧
    ∀ schedule, ((child [(4, .err, .os 5)]).drain schedule none).value.1 =
      some (.error (.readOutput (.os 5))) := by
  refine ⟨fun schedule => ?_, fun schedule => ?_⟩
  · obtain ⟨-, hends, hmerges⟩ := @Child.drain_merges (child []) rfl rfl schedule none
    obtain ⟨output, hresult⟩ :=
      hends (.exited 3) not_meets_life isClosedBy_life ⟨⟨5, rfl, rfl⟩, rfl⟩ rfl
    obtain ⟨merged, hmerged, rfl⟩ := (hmerges _ hresult).lines
    refine ⟨merged, ?_, hresult⟩
    rw [← lines_written.1, ← lines_written.2]
    exact hmerged
  · obtain ⟨hfails, -, -⟩ :=
      @Child.drain_merges (child [(4, .err, .os 5)]) rfl rfl schedule none
    obtain ⟨side, cause, ⟨time, hfault, -⟩, hfailed⟩ := hfails _ meets_life
    have hsame : (time, side, cause) = (4, .err, .os 5) := List.mem_singleton.mp hfault
    obtain ⟨-, -, rfl⟩ := hsame
    exact hfailed

end OutputWitness

end FolderScript
