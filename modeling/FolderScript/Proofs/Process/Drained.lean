/-
Draining the streams of a life, whatever the schedule.  The source of a side brings what is
written to the side, up to its end or to its first read that fails; a side that has neither
finds nothing for longer than it is polled.  So a drain fails just if a read fails before
the end of its stream, and without such a read a side is closed by then just if its stream
has ended.
-/
import FolderScript.Process.Schedule
import FolderScript.Proofs.Process.Timeline
import FolderScript.Proofs.Stream.Merge
import Mathlib.Tactic.Choose

namespace FolderScript

namespace Happening

theorem writtenTo_closed (side : Side) (rest : List Happening) :
    writtenTo side (.closed side :: rest) = [] := by
  simp [writtenTo]

theorem writtenTo_cons {side : Side} {happening : Happening} (h : happening ≠ .closed side)
    (rest : List Happening) :
    writtenTo side (happening :: rest) = happening.bytesFor side ++ writtenTo side rest := by
  simp [writtenTo, h]

/-- A side has ended, or a read of it has failed. -/
def Settles (side : Side) (happenings : List Happening) : Prop :=
  .closed side ∈ happenings ∨ faultOn side happenings ≠ none

end Happening

theorem Source.Brings.replicate_notReady {bytes : Bytes} {fault : Option IoError}
    {source : Source} (h : source.Brings bytes fault) (count : Nat) :
    Source.Brings bytes fault (List.replicate count .notReady ++ source) := by
  induction count with
  | zero => exact h
  | succ count ih => exact .waits ih

namespace Schedule

variable (side : Side) (idle : Nat → Nat) (happenings : List Happening)

/-- The source of a side brings what is written to it before its end, unless one of its
reads fails. -/
theorem brings_source (more number : Nat) :
    ∃ bytes, Source.Brings bytes (Happening.faultOn side happenings)
        (source side more idle number happenings) ∧
      (Happening.faultOn side happenings = none →
        bytes = Happening.writtenTo side happenings) := by
  induction happenings generalizing number with
  | nil =>
      refine ⟨[], ?_, fun _ => rfl⟩
      have hwaits := Source.Brings.done.replicate_notReady more
      rw [List.append_nil] at hwaits
      exact hwaits
  | cons happening rest ih =>
      cases happening with
      | written other data =>
          have hopen : Happening.written other data ≠ .closed side := by simp
          rw [source, Happening.faultOn, Happening.writtenTo_cons hopen, Happening.bytesFor]
          split
          · obtain ⟨bytes, hbrings, hbytes⟩ := ih (number + 1)
            exact ⟨data ++ bytes, .gives data (hbrings.replicate_notReady _),
              fun hnone => by rw [hbytes hnone]⟩
          · exact ih number
      | closed other =>
          rw [source, Happening.faultOn]
          by_cases hside : other = side
          · subst hside
            rw [if_pos rfl, if_pos rfl, Happening.writtenTo_closed]
            exact ⟨[], .ended .done, fun _ => rfl⟩
          · have hopen : Happening.closed other ≠ .closed side := by simpa using hside
            rw [if_neg hside, if_neg hside, Happening.writtenTo_cons hopen]
            exact ih number
      | readFails other error =>
          have hopen : Happening.readFails other error ≠ .closed side := by simp
          rw [source, Happening.faultOn, Happening.writtenTo_cons hopen]
          by_cases hside : other = side
          · rw [if_pos hside, if_pos hside]
            exact ⟨[], .breaks error [], fun hnone => by contradiction⟩
          · rw [if_neg hside, if_neg hside]
            exact ih number

variable {side happenings}

/-- A side that settles is not looked at any more than that. -/
theorem source_of_settles (h : Happening.Settles side happenings) (more number : Nat) :
    source side more idle number happenings = source side 0 idle number happenings := by
  induction happenings generalizing number with
  | nil => simp [Happening.Settles, Happening.faultOn] at h
  | cons happening rest ih =>
      cases happening with
      | written other data =>
          have hrest : Happening.Settles side rest := by
            simpa [Happening.Settles, Happening.faultOn] using h
          rw [source, source, ih hrest, ih hrest]
      | closed other =>
          rw [source, source]
          split
          · rfl
          · rename_i hside
            have hrest : Happening.Settles side rest := by
              simpa [Happening.Settles, Happening.faultOn, hside, Ne.symm hside] using h
            exact ih hrest number
      | readFails other error =>
          rw [source, source]
          split
          · rfl
          · rename_i hside
            have hrest : Happening.Settles side rest := by
              simpa [Happening.Settles, Happening.faultOn, hside] using h
            exact ih hrest number

/-- A side that does not settle finds nothing for so many more looks. -/
theorem waits_source (h : ¬ Happening.Settles side happenings) (more number : Nat) :
    (source side more idle number happenings).Waits more := by
  induction happenings generalizing number with
  | nil => exact ⟨by simp [source, List.mem_replicate], by simp [source]⟩
  | cons happening rest ih =>
      cases happening with
      | written other data =>
          have hrest : ¬ Happening.Settles side rest := by
            simpa [Happening.Settles, Happening.faultOn] using h
          rw [source]
          split
          · have hwaits := ih hrest (number + 1)
            refine ⟨by simp [List.mem_replicate, hwaits.endless], ?_⟩
            rw [List.count_cons_of_ne (by simp), List.count_append]
            exact Nat.le_trans hwaits.often (Nat.le_add_left _ _)
          · exact ih hrest number
      | closed other =>
          have hside : other ≠ side := by
            rintro rfl
            exact h (.inl List.mem_cons_self)
          have hrest : ¬ Happening.Settles side rest := by
            simpa [Happening.Settles, Happening.faultOn, hside, Ne.symm hside] using h
          rw [source, if_neg hside]
          exact ih hrest number
      | readFails other error =>
          have hside : other ≠ side := by
            rintro rfl
            exact h (.inr (by simp [Happening.faultOn]))
          have hrest : ¬ Happening.Settles side rest := by
            simpa [Happening.Settles, Happening.faultOn, hside] using h
          rw [source, if_neg hside]
          exact ih hrest number

variable (schedule : Schedule) (happenings)

theorem reader_start (side : Side) :
    (schedule.start happenings).reader side =
      ⟨schedule.sourceOf happenings (schedule.polls happenings).length side, []⟩ := by
  cases side <;> rfl

theorem isOpen_start (side : Side) : (schedule.start happenings).isOpen side = true := by
  cases side <;> rfl

/-- Each side is polled more often than there is work on it, if it settles. -/
theorem work_lt_count_polls (side : Side) :
    (schedule.sourceOf happenings 0 side).work < (schedule.polls happenings).count side := by
  have hmost : (schedule.enough happenings side).count side =
      (schedule.sourceOf happenings 0 side).work + 1 := by
    simp [enough]
  simp only [polls, List.count_append]
  cases side <;> omega

variable {schedule happenings}

/-- A side that settles is at its end, or the drain has failed. -/
theorem isOpen_outcome_of_settles (h : Happening.Settles side happenings) :
    (schedule.outcome happenings).isOpen side = false := by
  rw [← Bool.not_eq_true]
  intro hopen
  obtain ⟨-, hwork⟩ := Drain.work_run_le hopen
  have hmost := schedule.work_lt_count_polls happenings side
  have hsource : schedule.sourceOf happenings (schedule.polls happenings).length side =
      schedule.sourceOf happenings 0 side :=
    source_of_settles (schedule.idle side) h _ 0
  rw [reader_start, hsource] at hwork
  simp only [LineReader.work, List.length_nil, Nat.zero_min, Nat.add_zero] at hwork
  omega

/-- A side that does not settle stays open, or the drain has failed. -/
theorem isOpen_outcome_of_not_settles (h : ¬ Happening.Settles side happenings)
    (hfailure : (schedule.outcome happenings).failure = none) :
    (schedule.outcome happenings).isOpen side = true := by
  have hstart : (schedule.start happenings).Outlasts side (schedule.polls happenings).length := by
    refine .inr ⟨schedule.isOpen_start happenings side, ?_⟩
    rw [reader_start]
    exact waits_source (schedule.idle side) h _ 0
  exact (hstart.run.resolve_left fun hne => hne hfailure).1

/-- While nothing fails, the lines of an outcome interleave what the two sides have given. -/
theorem exists_keeps_outcome (schedule : Schedule) (happenings : List Happening) :
    ∃ bytes : Side → Bytes,
      (schedule.outcome happenings).Keeps (fun side => lines (bytes side))
        (fun side => Happening.faultOn side happenings) ∧
      ∀ side, Happening.faultOn side happenings = none →
        bytes side = Happening.writtenTo side happenings := by
  choose bytes hbytes using fun side => brings_source side (schedule.idle side) happenings
    (schedule.polls happenings).length 0
  exact ⟨bytes, (Drain.keeps_start (hbytes .out).1 (hbytes .err).1).run _,
    fun side => (hbytes side).2⟩

/-- A drain fails only with the first failed read of a side. -/
theorem exists_faultOn_of_failure {error : IoError}
    (h : (schedule.outcome happenings).failure = some error) :
    ∃ side, Happening.faultOn side happenings = some error := by
  obtain ⟨bytes, hkeeps, -⟩ := exists_keeps_outcome schedule happenings
  simpa only [Drain.Keeps, h] using hkeeps

theorem failure_outcome_eq_none_iff :
    (schedule.outcome happenings).failure = none ↔
      ∀ side, Happening.faultOn side happenings = none := by
  constructor
  · intro hfailure side
    obtain ⟨bytes, hkeeps, -⟩ := exists_keeps_outcome schedule happenings
    simp only [Drain.Keeps, hfailure] at hkeeps
    obtain ⟨given, left, -, hsides⟩ := hkeeps
    by_contra hfault
    have hclosed : (schedule.outcome happenings).isOpen side = false :=
      isOpen_outcome_of_settles (.inr hfault)
    have hside := (hsides side).2
    rw [hclosed] at hside
    exact hfault hside.2
  · intro hnone
    cases hfailure : (schedule.outcome happenings).failure with
    | none => rfl
    | some error =>
        obtain ⟨side, hfault⟩ := exists_faultOn_of_failure hfailure
        rw [hnone side] at hfault
        contradiction

/-- Without a failed read a side is closed just if it has ended. -/
theorem isOpen_outcome_eq_false_iff
    (h : (schedule.outcome happenings).failure = none) (side : Side) :
    (schedule.outcome happenings).isOpen side = false ↔ .closed side ∈ happenings := by
  constructor
  · intro hclosed
    by_contra hopen
    have hsettles : ¬ Happening.Settles side happenings :=
      not_or.mpr ⟨hopen, fun hfault => hfault (failure_outcome_eq_none_iff.mp h side)⟩
    rw [isOpen_outcome_of_not_settles hsettles h] at hclosed
    contradiction
  · exact fun hclosed => isOpen_outcome_of_settles (.inl hclosed)

end Schedule

namespace Life

variable {life : Life} {schedule : Schedule} {deadline : Option Duration}

/-- A drain fails with the first failed read of a side, in time and before the stream
ends. -/
theorem exists_failsFirst_of_drained {error : IoError}
    (h : (life.drained schedule deadline).failure = some error) :
    ∃ side, life.FailsFirst deadline side error := by
  obtain ⟨side, hfault⟩ := Schedule.exists_faultOn_of_failure h
  exact ⟨side, failsFirst_of_faultOn hfault⟩

theorem failure_drained_eq_none_iff :
    (life.drained schedule deadline).failure = none ↔
      ∀ error, ¬ life.Meets deadline error :=
  Schedule.failure_outcome_eq_none_iff.trans faultOn_eq_none_iff

/-- Without a failed read, a drain is finished by a deadline just if both streams
have ended by then. -/
theorem finished_drained_iff (h : (life.drained schedule deadline).failure = none) :
    (life.drained schedule deadline).finished = true ↔
      ∀ side, life.IsClosedBy deadline side := by
  have hclosed (side : Side) : (life.drained schedule deadline).isOpen side = false ↔
      life.IsClosedBy deadline side :=
    (Schedule.isOpen_outcome_eq_false_iff h side).trans closed_mem_happenings_iff
  have hfinished : (life.drained schedule deadline).finished = true ↔
      (life.drained schedule deadline).isOpen .out = false ∧
        (life.drained schedule deadline).isOpen .err = false := by
    simp [Drain.finished, Drain.isOpen, h]
  rw [hfinished, hclosed, hclosed]
  exact ⟨fun hboth side => by cases side <;> simp [hboth], fun hall => ⟨hall .out, hall .err⟩⟩

/-- A finished drain has the lines of all that was written to both streams. -/
theorem interleaving_drained (hfailure : (life.drained schedule deadline).failure = none)
    (hclosed : ∀ side, life.IsClosedBy deadline side) :
    Interleaving (lines (life.written .out)) (lines (life.written .err))
      (life.drained schedule deadline).lines.toList := by
  obtain ⟨bytes, hkeeps, hbytes⟩ :=
    Schedule.exists_keeps_outcome schedule (life.happenings deadline)
  have hover : (life.drained schedule deadline).IsOver := fun side =>
    (Schedule.isOpen_outcome_eq_false_iff hfailure side).mpr
      (closed_mem_happenings_iff.mpr (hclosed side))
  have hwritten (side : Side) : bytes side = life.written side := by
    rw [hbytes side (Schedule.failure_outcome_eq_none_iff.mp hfailure side),
      writtenTo_happenings (hclosed side)]
  rcases hkeeps.of_isOver hover with ⟨error, side, hsome, -⟩ | ⟨-, -, hlines⟩
  · exact absurd (hsome.symm.trans hfailure) (Option.some_ne_none error)
  · rw [hwritten, hwritten] at hlines
    exact hlines

end Life

end FolderScript
