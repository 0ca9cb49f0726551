/-
Processes that run the same course: they end at the same time and hold their streams
as long, and what fails is the same; what they write, and with which code they end,
may differ.  A supervised run of the one comes to a result just if that of the other
does, and to a failure just if that of the other does.  For one and the same process the
order in which its streams are read matters for the order of the lines alone.
-/
import FolderScript.Proofs.Process.Supervision

namespace FolderScript

namespace Life

/-- Two lives that differ at most in what is written, and in the way the child ends. -/
structure SameCourse (first second : Life) : Prop where
  ending : first.ending.map Prod.fst = second.ending.map Prod.fst
  closesAt : ∀ side, first.closesAt side = second.closesAt side
  readFaults : first.readFaults = second.readFaults
  waitFault : first.waitFault = second.waitFault

variable {first second : Life}

theorem SameCourse.symm (h : first.SameCourse second) : second.SameCourse first where
  ending := h.ending.symm
  closesAt side := (h.closesAt side).symm
  readFaults := h.readFaults.symm
  waitFault := h.waitFault.symm

theorem SameCourse.meets (h : first.SameCourse second) {deadline : Option Duration}
    {error : IoError} (hmeets : first.Meets deadline error) : second.Meets deadline error := by
  obtain ⟨time, side, hfault, htime, hclose⟩ := hmeets
  refine ⟨time, side, h.readFaults ▸ hfault, htime, fun close hsecond => ?_⟩
  exact hclose close ((h.closesAt side).trans hsecond)

end Life

/-- Two machines on which every command is answered by the same error, or by processes
that run the same course. -/
def Launcher.SameCourse (first second : Launcher) : Prop :=
  ∀ command, match first command, second command with
    | .error cause, .error other => cause = other
    | .ok fate, .ok other => (fate {}).SameCourse (other {})
    | _, _ => False

namespace Command

end Command

/-- What is captured of a life: its code, and the lines of both streams. -/
theorem Command.Supervision.of_captured {life : Life} {limit : Option Duration}
    {supervised : Supervised} {captured : Captured} (h : Supervision life limit supervised)
    (hresult : supervised.result = some (.ok captured)) :
    ∃ ending merged, life.EndsBy limit ending ∧
      Interleaving (lines (life.written .out)) (lines (life.written .err)) merged ∧
      captured = ⟨ending.code, String.join (merged.map (· ++ "\n"))⟩ := by
  cases h with
  | unreadable => exact nomatch Option.some.inj hresult
  | uncollected => exact nomatch Option.some.inj hresult
  | @completed ending output child _ done _ whole =>
      obtain ⟨merged, hmerged, houtput⟩ := whole.output
      obtain rfl := Except.ok.inj (Option.some.inj hresult)
      exact ⟨ending, merged, done.ended, hmerged, congrArg (Captured.mk ending.code) houtput⟩
  | expired => exact nomatch Option.some.inj hresult
  | endless => exact nomatch hresult

theorem Life.SameCourse.refl (life : Life) : life.SameCourse life where
  ending := rfl
  closesAt _ := rfl
  readFaults := rfl
  waitFault := rfl

theorem Launcher.SameCourse.refl (launch : Launcher) : launch.SameCourse launch := by
  intro command
  cases launch command with
  | error cause => rfl
  | ok fate => exact Life.SameCourse.refl _

end FolderScript
