/-
The life of a child under supervision.  A run has five ways out: a read fails,
the end of the child cannot be collected, the end is collected after both streams
have been read to theirs, the limit passes, or, without a limit, nothing of this
ever comes.  What the supervisor leaves behind is said once for each of them.
-/
import FolderScript.Process.Run
import FolderScript.Proofs.Process.Output

namespace FolderScript

namespace Child

/-- A child whose run is complete: both streams have ended by now, the end of the
child has been collected, and the output has all the lines of both streams. -/
structure Completed (child : Child) (life : Life) (limit : Option Duration)
    (captured : Captured) : Prop where
  closed : ∀ side, ∃ time, life.closesAt side = some time ∧ time ≤ child.now
  ended : ∃ time ending, life.ending = some (time, ending) ∧ time ≤ child.now ∧
    child.reaped = some ending ∧ captured.exitCode = ending.code
  output : ∃ merged, Interleaving (lines (life.written .out)) (lines (life.written .err)) merged ∧
    captured.output = String.join (merged.map (· ++ "\n"))
  inTime : Life.inTime limit child.now = true
  spared : child.killed = false

theorem killed_signalKill {child : Child} (h : child.reaped = none) :
    child.signalKill.killed = true := by
  simp [signalKill, h]

theorem killed_drop {child : Child} (hreaped : child.reaped = none)
    (hset : child.killsOnDrop = true) : child.drop.killed = true := by
  rw [drop, if_pos hset, killed_signalKill hreaped]

theorem drop_of_reaped {child : Child} {ending : Ending} (h : child.reaped = some ending) :
    child.drop = child := by
  simp [drop, signalKill, h]

/-- Letting go of a child that has been killed changes neither that nor what has been
collected. -/
theorem drop_of_killed {child : Child} (h : child.killed = true) :
    child.drop.killed = true ∧ child.drop.reaped = child.reaped := by
  unfold drop signalKill
  split
  · split
    · exact ⟨h, rfl⟩
    · exact ⟨rfl, rfl⟩
  · exact ⟨h, rfl⟩

/-- Waiting does not take a kill back. -/
theorem killed_of_wait {child after : Child} {deadline : Option Duration}
    {result : Except IoError Ending} (h : child.wait deadline = some (result, after)) :
    after.killed = child.killed := by
  unfold wait at h
  split at h
  · obtain rfl := (Prod.mk.inj (Option.some.inj h)).2
    rfl
  · split at h
    · contradiction
    · dsimp only at h
      split at h
      · split at h <;> obtain rfl := (Prod.mk.inj (Option.some.inj h)).2 <;> rfl
      · contradiction

theorem killed_kill {child : Child} (h : child.reaped = none) :
    child.kill.2.killed = true := by
  have hsignaled := killed_signalKill h
  unfold kill
  split
  · exact hsignaled
  · split
    · exact (killed_of_wait ‹_›).trans hsignaled
    · exact (killed_of_wait ‹_›).trans hsignaled
    · exact hsignaled

/-- A life that is cut off has an end, unless the kill cannot be carried out. -/
theorem exists_ending_killedAt {life : Life} (h : life.killFault = none) (time : Duration) :
    (∃ ended ending, (life.killedAt time).ending = some (ended, ending)) ∧
      (life.killedAt time).waitFault = life.waitFault := by
  unfold Life.killedAt
  rw [h]
  cases hending : life.ending with
  | none => exact ⟨⟨_, _, rfl⟩, rfl⟩
  | some found =>
      dsimp only
      split
      · exact ⟨⟨_, _, hending⟩, rfl⟩
      · exact ⟨⟨_, _, rfl⟩, rfl⟩

/-- A kill collects the end of the child, if nothing goes wrong with that. -/
theorem isSome_reaped_kill {child : Child} (hkill : child.life.killFault = none)
    (hwait : child.life.waitFault = none) : child.kill.2.reaped.isSome = true := by
  cases hreaped : child.reaped with
  | some ending => simp [kill, signalKill, wait, hreaped, hkill]
  | none =>
      obtain ⟨⟨ended, ending, hending⟩, hfault⟩ := exists_ending_killedAt hkill child.now
      have hsignaled : child.signalKill =
          { child with life := child.life.killedAt child.now, killed := true } := by
        simp [signalKill, hreaped]
      have hcollected : child.signalKill.wait none =
          some (.ok ending, { child.signalKill with
            now := max child.now ended
            reaped := some ending }) := by
        rw [hsignaled, @wait_of_ended { child with
          life := child.life.killedAt child.now
          killed := true } none ended ending hreaped hending rfl, hfault, hwait]
      rw [kill, hkill]
      simp [hcollected]

theorem started_conclude (child : Child) (deadline : Option Duration) (output : String) :
    (child.conclude deadline output).started = [] := by
  unfold conclude
  cases child.wait deadline with
  | none => rfl
  | some found =>
      obtain ⟨result, after⟩ := found
      cases result <;> rfl

/-- Draining a child starts nothing. -/
theorem started_drain (child : Child) (schedule : Schedule) (deadline : Option Duration) :
    (child.drain schedule deadline).started = [] := by
  have hlines (lines : List String) : (lines.forM fun line =>
      Logged.emit .trace .process ("output: " ++ line)).started = [] := by
    induction lines with
    | nil => rfl
    | cons line rest ih => simpa [List.forM_cons] using ih
  unfold drain
  split
  · rfl
  · split
    · rfl
    · rw [settle, Logged.started_bind, hlines]
      split
      · rfl
      · split
        · exact started_conclude _ _ _
        · rfl

end Child

namespace Command

/-- What a supervised run comes to if the child leads a life. -/
inductive Supervision (life : Life) (limit : Option Duration) : Supervised → Prop
  /-- A read fails. -/
  | unreadable {error : IoError} {child : Child} (fault : life.Meets limit error)
      (killed : child.killed = true) :
      Supervision life limit ⟨some (.error (.readOutput error)), some child⟩
  /-- All is done, but the end cannot be collected. -/
  | uncollected {error : IoError} {ending : Ending} {child : Child}
      (read : ∀ error, ¬ life.Meets limit error) (done : life.IsDoneBy limit ending)
      (fault : life.waitFault = some error) (killed : child.killed = true) :
      Supervision life limit ⟨some (.error (.wait error)), some child⟩
  /-- All is done. -/
  | completed {ending : Ending} {output : String} {child : Child}
      (read : ∀ error, ¬ life.Meets limit error) (done : life.IsDoneBy limit ending)
      (collected : life.waitFault = none)
      (whole : child.Completed life limit ⟨ending.code, output⟩) :
      Supervision life limit ⟨some (.ok ⟨ending.code, output⟩), some child⟩
  /-- The limit passes. -/
  | expired {deadline : Duration} {child : Child}
      (read : ∀ error, ¬ life.Meets limit error)
      (undone : ∀ ending, ¬ life.IsDoneBy limit ending)
      (limited : limit = some deadline) (killed : child.killed = true)
      (collected : life.killFault = none → life.waitFault = none →
        child.reaped.isSome = true) :
      Supervision life limit ⟨some (.error (.timedOut deadline.seconds)), some child⟩
  /-- It goes on for ever. -/
  | endless {child : Child} (read : ∀ error, ¬ life.Meets limit error)
      (undone : ∀ ending, ¬ life.IsDoneBy limit ending) (unlimited : limit = none) :
      Supervision life limit ⟨none, some child⟩

theorem started_spawn (launch : Launcher) (command : Command) :
    (command.spawn launch).started = [command] := by
  simp only [spawn, Logged.started_bind, Logged.started_emit, start, List.nil_append]
  cases launch command <;> rfl

theorem started_expire (command : Command) (limit : Duration) (child : Child) :
    (command.expire limit child).started = [] := by
  unfold expire
  cases child.kill with
  | mk fault after => cases fault <;> rfl

/-- A run has one command started, whatever comes of it. -/
theorem started_supervise (launch : Launcher) (schedule : Schedule) (command : Command)
    (limit : Option Duration) :
    (command.supervise launch schedule limit).started = [command] := by
  rw [supervise, Logged.started_bind, started_spawn]
  cases (command.spawn launch).value with
  | error failure => rfl
  | ok child =>
      rw [Logged.started_bind, Child.started_drain]
      obtain ⟨result, after⟩ := (child.drain schedule limit).value
      cases result with
      | some result => rfl
      | none =>
          cases limit with
          | some deadline => exact congrArg ([command] ++ ·) (started_expire command deadline after)
          | none => rfl

theorem value_supervise_of_error {launch : Launcher} {command : Command} {cause : IoError}
    (h : launch command = .error cause) (schedule : Schedule) (limit : Option Duration) :
    (command.supervise launch schedule limit).value =
      ⟨some (.error (.launch command.program cause)), none⟩ := by
  have hspawn : (command.spawn launch).value =
      .error (.launch command.program cause) := by
    rw [spawn, Logged.value_bind, Logged.value_bind, start, h]
    rfl
  rw [supervise, Logged.value_bind, hspawn]
  rfl

/-- What is left to do with a child that has been read and, if it is done, waited for. -/
def wound (limit : Option Duration) :
    Option (Except Failure Captured) × Child → Supervised
  | (some result, child) => ⟨some result, some child.drop⟩
  | (none, child) =>
      match limit with
      | some deadline => ⟨some (.error (.timedOut deadline.seconds)), some child.kill.2.drop⟩
      | none => ⟨none, some child⟩

theorem value_expire (command : Command) (limit : Duration) (child : Child) :
    (command.expire limit child).value =
      ⟨some (.error (.timedOut limit.seconds)), some child.kill.2.drop⟩ := by
  unfold expire
  cases child.kill with
  | mk fault after => cases fault <;> rfl

theorem value_supervise_of_ok {launch : Launcher} {command : Command} {fate : Fate}
    (h : launch command = .ok fate) (schedule : Schedule) (limit : Option Duration) :
    (command.supervise launch schedule limit).value =
      wound limit ((Child.started fate).drain schedule limit).value := by
  have hspawn : (command.spawn launch).value = .ok (.started fate) := by
    rw [spawn, Logged.value_bind, Logged.value_bind, start, h]
    rfl
  rw [supervise, Logged.value_bind, hspawn]
  simp only [Logged.value_bind]
  generalize ((Child.started fate).drain schedule limit).value = drained
  obtain ⟨result, child⟩ := drained
  cases result with
  | some result => rfl
  | none =>
      cases limit with
      | some deadline => exact value_expire command deadline child
      | none => rfl

/-- A run that is not done in time is cut off, or goes on for ever. -/
theorem supervision_wound_none {life : Life} {limit : Option Duration} {child : Child}
    (hlife : child.life = life) (hreaped : child.reaped = none)
    (hread : ∀ error, ¬ life.Meets limit error)
    (hundone : ∀ ending, ¬ life.IsDoneBy limit ending) :
    Supervision life limit (wound limit (none, child)) := by
  cases limit with
  | some deadline =>
      obtain ⟨hkilled, hcollected⟩ := Child.drop_of_killed (Child.killed_kill hreaped)
      refine .expired hread hundone rfl hkilled fun hkill hwait => ?_
      rw [hcollected]
      exact Child.isSome_reaped_kill (hlife ▸ hkill) (hlife ▸ hwait)
  | none => exact .endless hread hundone rfl

/-- Once both streams are at their end, all hangs on the end of the child. -/
theorem supervision_conclude {limit : Option Duration} {child : Child} {output : String}
    (hreaped : child.reaped = none) (hspared : child.killed = false)
    (hset : child.killsOnDrop = true) (hmerges : child.life.Merges limit output)
    (hnow : Life.inTime limit child.now = true)
    (huntil : ∀ side time, child.life.closesAt side = some time → time ≤ child.now) :
    Supervision child.life limit (wound limit (child.conclude limit output).value) := by
  rw [Child.value_conclude]
  by_cases hended : ∃ ending, child.life.EndsBy limit ending
  · obtain ⟨ending, time, hending, htime⟩ := hended
    have hdone : child.life.IsDoneBy limit ending := ⟨hmerges.closed, time, hending, htime⟩
    have hboth := (Life.inTime_max_iff child.now time).mpr ⟨hnow, htime⟩
    rw [Child.wait_of_ended hreaped hending hboth]
    cases hfault : child.life.waitFault with
    | some error =>
        exact .uncollected hmerges.read hdone hfault (Child.killed_drop hreaped hset)
    | none =>
        refine .completed hmerges.read hdone hfault ?_
        rw [Child.drop_of_reaped rfl]
        exact {
          closed := fun side => by
            obtain ⟨close, hclose, -⟩ := hmerges.closed side
            exact ⟨close, hclose, Nat.le_trans (huntil side close hclose) (Nat.le_max_left _ _)⟩
          ended := ⟨time, ending, hending, Nat.le_max_right _ _, rfl, rfl⟩
          output := hmerges.lines
          inTime := hboth
          spared := hspared }
  · have hlate : ∀ time ending, child.life.ending = some (time, ending) →
        Life.inTime limit (max child.now time) = false := by
      intro time ending hending
      rw [← Bool.not_eq_true, Life.inTime_max_iff]
      exact fun hboth => hended ⟨ending, time, hending, hboth.2⟩
    rw [Child.wait_of_late hreaped hlate]
    exact supervision_wound_none rfl hreaped hmerges.read
      fun ending hdone => hended ⟨ending, hdone.ended⟩

/-- A supervised run comes to one of its five ends, as the life of the child has it. -/
theorem supervision_supervise {launch : Launcher} {command : Command} {fate : Fate}
    (h : launch command = .ok fate) (schedule : Schedule) (limit : Option Duration) :
    Supervision (fate {}) limit (command.supervise launch schedule limit).value := by
  have hout : (Child.started fate).has .out = true := rfl
  have herr : (Child.started fate).has .err = true := rfl
  rw [value_supervise_of_ok h]
  by_cases hread : ∀ error, ¬ (fate {}).Meets limit error
  · by_cases hclosed : ∀ side, (fate {}).IsClosedBy limit side
    · obtain ⟨output, hmerges, hvalue⟩ :=
        Child.exists_merges_of_closed schedule hout herr hread hclosed
      have hnow : Life.inTime limit (Child.started fate).now = true := by
        obtain ⟨time, -, htime⟩ := hclosed .out
        exact Life.inTime_of_le (Nat.zero_le time) htime
      rw [hvalue]
      exact @supervision_conclude limit
        { (Child.started fate).reading with now := (Child.started fate).readUntil } output
        rfl rfl rfl hmerges (Child.inTime_readUntil hnow hclosed)
        fun side time hclose => Child.le_readUntil hclose
    · rw [Child.value_drain_of_open schedule hout herr hread hclosed]
      exact supervision_wound_none rfl rfl hread fun ending hdone => hclosed hdone.closed
  · simp only [not_forall, not_not] at hread
    obtain ⟨error, hmeets⟩ := hread
    obtain ⟨side, cause, hfirst, hvalue⟩ :=
      Child.exists_failsFirst_of_meets schedule hout herr hmeets
    rw [hvalue]
    exact .unreadable hfirst.meets (Child.killed_drop rfl rfl)

/-- What a run of a command comes to on a machine: the failure to start it, or an end of a
supervised run of the child that the machine starts for it. -/
inductive Ran (launch : Launcher) (command : Command) (limit : Option Duration) :
    Option (Except Failure Captured) → Prop
  | refused {cause : IoError} (launched : launch command = .error cause) :
      Ran launch command limit (some (.error (.launch command.program cause)))
  | supervised {fate : Fate} {supervised : Supervised} (launched : launch command = .ok fate)
      (ends : Supervision (fate {}) limit supervised) :
      Ran launch command limit supervised.result

theorem ran_supervise (launch : Launcher) (schedule : Schedule) (command : Command)
    (limit : Option Duration) :
    Ran launch command limit (command.supervise launch schedule limit).value.result := by
  cases hlaunch : launch command with
  | error cause =>
      rw [value_supervise_of_error hlaunch]
      exact .refused hlaunch
  | ok fate => exact .supervised hlaunch (supervision_supervise hlaunch schedule limit)

end Command

/-- A failed start leaves no child.  A run that captures output has read both
streams to their end and collected the child's, and the output is complete; on every
other way out the child has been killed, and if it was for the limit its end has been
collected too, unless that goes wrong. -/
theorem supervise_lifecycle (launch : Launcher) (schedule : Schedule) (command : Command)
    (limit : Option Duration) :
    match launch command with
    | .error cause => (command.supervise launch schedule limit).value =
        ⟨some (.error (.launch command.program cause)), none⟩
    | .ok fate => ∃ child, (command.supervise launch schedule limit).value.child = some child ∧
        match (command.supervise launch schedule limit).value.result with
        | some (.ok captured) => child.Completed (fate {}) limit captured
        | some (.error failure) => child.killed = true ∧
            ((∃ error, failure = .readOutput error ∧ (fate {}).Meets limit error) ∨
              (∃ error, failure = .wait error ∧ (fate {}).waitFault = some error) ∨
              ∃ deadline, failure = .timedOut deadline.seconds ∧ limit = some deadline ∧
                ((fate {}).killFault = none → (fate {}).waitFault = none →
                  child.reaped.isSome = true))
        | none => limit = none ∧ ∀ ending, ¬ (fate {}).IsDoneBy none ending := by
  cases hlaunch : launch command with
  | error cause => exact Command.value_supervise_of_error hlaunch schedule limit
  | ok fate =>
      have hsupervision := Command.supervision_supervise hlaunch schedule limit
      generalize (command.supervise launch schedule limit).value = supervised at hsupervision ⊢
      cases hsupervision with
      | unreadable fault killed => exact ⟨_, rfl, killed, .inl ⟨_, rfl, fault⟩⟩
      | uncollected _ _ fault killed => exact ⟨_, rfl, killed, .inr (.inl ⟨_, rfl, fault⟩)⟩
      | completed _ _ _ whole => exact ⟨_, rfl, whole⟩
      | expired _ _ limited killed collected =>
          exact ⟨_, rfl, killed, .inr (.inr ⟨_, rfl, limited, collected⟩)⟩
      | endless _ undone unlimited => exact ⟨_, rfl, unlimited, unlimited ▸ undone⟩

end FolderScript
