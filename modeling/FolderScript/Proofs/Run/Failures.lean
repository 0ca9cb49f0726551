/-
What a run of the script comes to.  The result of the process is passed on as it is, whatever
the exit code; and a run fails for what the system reports on the way, or for the limit that is
set, and for nothing else: there is always a program to start, and a child that has just been
started has both of its streams.
-/
import FolderScript.Proofs.Process.Limit
import FolderScript.Proofs.Run.Performed

namespace FolderScript

namespace Command

/-- Only the limit, once it has passed, gives a result that reading has not given. -/
theorem result_wound (limit : Option Duration)
    (drained : Option (Except Failure Captured) × Child) :
    (wound limit drained).result =
      match limit with
      | none => drained.1
      | some deadline => some (drained.1.getD (.error (.timedOut deadline.seconds))) := by
  obtain ⟨result, child⟩ := drained
  cases limit <;> cases result <;> rfl

/-- Once a child is started, its streams are read and its end is collected; only the limit can
cut that short. -/
theorem result_supervise_of_ok {launch : Launcher} {command : Command} {fate : Fate}
    (h : launch command = .ok fate) (schedule : Schedule) (limit : Option Duration) :
    (command.supervise launch schedule limit).value.result =
      match limit with
      | none => ((Child.started fate).drain schedule none).value.1
      | some deadline => some (((Child.started fate).drain schedule (some deadline)).value.1.getD
          (.error (.timedOut deadline.seconds))) := by
  rw [value_supervise_of_ok h, result_wound]
  cases limit <;> rfl

end Command

namespace Settings

/-- What a run of the script can fail for. -/
inductive RunFails (settings : Settings) (launch : Launcher) (request : Request) :
    Failure → Prop
  /-- The interpreter is not started. -/
  | unstarted {cause : IoError} (refused : launch (settings.command request) = .error cause) :
      RunFails settings launch request (.launch settings.interpreter cause)
  /-- A read fails. -/
  | unread {fate : Fate} {error : IoError}
      (started : launch (settings.command request) = .ok fate)
      (fault : (fate {}).Meets settings.limit error) :
      RunFails settings launch request (.readOutput error)
  /-- All is done, but the end cannot be collected. -/
  | uncollected {fate : Fate} {error : IoError} {ending : Ending}
      (started : launch (settings.command request) = .ok fate)
      (done : (fate {}).IsDoneBy settings.limit ending)
      (fault : (fate {}).waitFault = some error) :
      RunFails settings launch request (.wait error)
  /-- The limit that is set passes before all is done. -/
  | expired {fate : Fate} {seconds : UInt64}
      (started : launch (settings.command request) = .ok fate)
      (limited : settings.timeout = some seconds)
      (undone : ∀ ending, ¬ (fate {}).IsDoneBy settings.limit ending) :
      RunFails settings launch request (.timedOut seconds.toNat)

variable {settings : Settings} {launch : Launcher} {schedule : Schedule} {request : Request}

/-- A limit is a number of seconds that is set, and keeps it. -/
theorem limit_eq_some_iff {deadline : Duration} :
    settings.limit = some deadline ↔
      ∃ seconds, settings.timeout = some seconds ∧
        deadline = Duration.ofSeconds seconds.toNat := by
  rw [limit, Option.map_eq_some_iff]
  simp only [eq_comm]

theorem runFails_of_result {failure : Failure}
    (h : ((settings.command request).supervise launch schedule settings.limit).value.result =
      some (.error failure)) : settings.RunFails launch request failure := by
  cases hlaunch : launch (settings.command request) with
  | error cause =>
      rw [Command.value_supervise_of_error hlaunch] at h
      obtain rfl := Except.error.inj (Option.some.inj h)
      exact .unstarted hlaunch
  | ok fate =>
      have hsupervision := Command.supervision_supervise hlaunch schedule settings.limit
      generalize ((settings.command request).supervise launch schedule settings.limit).value =
        supervised at hsupervision h
      cases hsupervision with
      | unreadable fault =>
          obtain rfl := Except.error.inj (Option.some.inj h)
          exact .unread hlaunch fault
      | uncollected _ done fault =>
          obtain rfl := Except.error.inj (Option.some.inj h)
          exact .uncollected hlaunch done fault
      | completed => exact nomatch Option.some.inj h
      | expired _ undone limited =>
          obtain rfl := Except.error.inj (Option.some.inj h)
          obtain ⟨seconds, htimeout, rfl⟩ := limit_eq_some_iff.mp limited
          rw [Duration.seconds_ofSeconds]
          exact .expired hlaunch htimeout undone
      | endless => exact nomatch h

theorem result_execute_of_ok {fate : Fate} (h : launch (settings.command request) = .ok fate) :
    Course.result (settings.execute launch schedule request) =
      match settings.timeout with
      | none => ((Child.started fate).drain schedule none).value.1
      | some seconds =>
          some (((Child.started fate).drain schedule
            (some (Duration.ofSeconds seconds.toNat))).value.1.getD
              (.error (.timedOut seconds.toNat))) := by
  rw [result_execute, Command.result_supervise_of_ok h, limit]
  cases settings.timeout with
  | none => rfl
  | some seconds =>
      simp only [Option.map_some]
      rw [Duration.seconds_ofSeconds]

/-- The result of a run is that of the process, unchanged.  It is a failure only if the
interpreter is not started, a read fails, the end cannot be collected, or the limit passes that
is set; a failed start names the interpreter, and a limit that has passed is told in the seconds
that are set.  Without a limit what reading the child comes to is passed on as it is, and with
one too, unless it takes too long; and a child that is done in time and does not fail is
reported with its code, whatever code that is. -/
theorem execute_fails_only (settings : Settings) (launch : Launcher) (schedule : Schedule)
    (request : Request) :
    Course.result (settings.execute launch schedule request) =
        Course.result ((settings.command request).run launch schedule settings.limit) ∧
      (∀ failure, Course.result (settings.execute launch schedule request) = some (.error failure) →
        settings.RunFails launch request failure) ∧
      (match launch (settings.command request) with
        | .error cause => Course.result (settings.execute launch schedule request) =
            some (.error (.launch settings.interpreter cause))
        | .ok fate => Course.result (settings.execute launch schedule request) =
            match settings.timeout with
            | none => ((Child.started fate).drain schedule none).value.1
            | some seconds =>
                some (((Child.started fate).drain schedule
                  (some (Duration.ofSeconds seconds.toNat))).value.1.getD
                    (.error (.timedOut seconds.toNat)))) ∧
      ∀ fate ending, launch (settings.command request) = .ok fate → (fate {}).IsQuiet →
        (fate {}).IsDoneBy settings.limit ending →
          ∃ output, Course.result (settings.execute launch schedule request) =
            some (.ok ⟨ending.code, output⟩) := by
  refine ⟨result_execute launch schedule settings request, fun failure hfailure => ?_, ?_,
    fun fate ending hlaunch hquiet hdone => ?_⟩
  · rw [result_execute] at hfailure
    exact runFails_of_result hfailure
  · cases hlaunch : launch (settings.command request) with
    | error cause =>
        dsimp only
        rw [result_execute, Command.value_supervise_of_error hlaunch]
        rfl
    | ok fate => exact result_execute_of_ok hlaunch
  · rw [result_execute]
    exact (Command.supervision_supervise hlaunch schedule settings.limit).result_of_isDoneBy hquiet hdone

end Settings

namespace FailuresWitness

open LimitWitness (launcher life isQuiet_life)

/-- The longest limit that can be set. -/
def settings : Settings where
  interpreter := "sh"
  scriptPath := "a.sh"
  workingDirectory := Path.ofText "/"
  timeout := some 18446744073709551615

def request : Request := ⟨"/in", "/out"⟩

/-- Something that holds both streams for ever. -/
def endless : Holder := {}

theorem isDoneBy_life : (life []).IsDoneBy settings.limit (.exited 3) := by
  refine ⟨fun side => ⟨Duration.ofMilliseconds 1, ?_, by decide⟩,
    Duration.ofMilliseconds 1, rfl, by decide⟩
  cases side <;> decide

theorem not_isDoneBy_life (ending : Ending) :
    ¬ (life [endless]).IsDoneBy settings.limit ending := by
  intro hdone
  obtain ⟨time, hclose, -⟩ := hdone.closed .out
  have hnever : (life [endless]).closesAt .out = none := by decide
  rw [hnever] at hclose
  contradiction

theorem result_execute_endless (schedule : Schedule) :
    Course.result (settings.execute (launcher [endless]) schedule request) =
      some (.error (.timedOut 18446744073709551615)) := by
  have hsupervision := Command.supervision_supervise
    (rfl : launcher [endless] (settings.command request) = .ok fun _ => life [endless])
    schedule settings.limit
  rw [Settings.result_execute]
  exact hsupervision.result_of_undone (isQuiet_life _) not_isDoneBy_life

/-- A script that ends with code 3 is reported, and one whose streams are held for ever fails
for the limit, however long that is. -/
theorem execute_fails_only_for_limit :
    (∀ schedule, ∃ output, Course.result (settings.execute (launcher []) schedule request) =
      some (.ok ⟨3, output⟩)) ∧
    (∀ schedule, Course.result (settings.execute (launcher [endless]) schedule request) =
      some (.error (.timedOut 18446744073709551615))) ∧
    settings.RunFails (launcher [endless]) request (.timedOut 18446744073709551615) ∧
    ∀ schedule, Course.result (settings.execute (fun _ => .error .notFound) schedule request) =
      some (.error (.launch "sh" .notFound)) := by
  refine ⟨fun schedule => ?_, result_execute_endless, ?_, fun schedule => ?_⟩
  · exact (Settings.execute_fails_only settings (launcher []) schedule request).2.2.2 _
      (.exited 3) rfl (isQuiet_life []) isDoneBy_life
  · exact (Settings.execute_fails_only settings (launcher [endless]) .inOrder request).2.1 _
      (result_execute_endless .inOrder)
  · exact (Settings.execute_fails_only settings (fun _ => .error .notFound) schedule
      request).2.2.1

end FailuresWitness

end FolderScript
