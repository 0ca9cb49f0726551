/-
How many polls a drain makes.  A poll of an open side either does some of its reader's work
or closes the side, so that the polls come to an end whichever sides they go to; and a poll
that comes to something brings one line, or closes one side, or is the failed read that ends
it all.  So without a failed read, just as many come to something as there are lines on the
two sides, and one more for the end of each.
-/
import FolderScript.Proofs.Stream.Merge

namespace FolderScript

theorem Interleaving.length_eq {α : Type} {xs ys zs : List α} (h : Interleaving xs ys zs) :
    zs.length = xs.length + ys.length := by
  induction h with
  | nil => rfl
  | left x _ ih =>
      simp only [List.length_cons]
      omega
  | right y _ ih =>
      simp only [List.length_cons]
      omega

namespace Drain

/-- A poll that a drain has made. -/
structure Polled where
  side : Side
  result : Poll
  deriving DecidableEq, Repr

/-- The polls that a drain makes along a schedule: a choice of a side that is not open comes
to none. -/
def polled (drain : Drain) : List Side → List Polled
  | [] => []
  | side :: rest =>
      if drain.isOpen side then
        ⟨side, (drain.reader side).poll.1⟩ :: (drain.step side).polled rest
      else drain.polled rest

/-- Whether a poll has come to something. -/
def Polled.isDone (poll : Polled) : Bool := poll.result ≠ .pending

theorem polled_cons_of_isOpen {drain : Drain} {side : Side} (h : drain.isOpen side = true)
    (rest : List Side) :
    drain.polled (side :: rest) =
      ⟨side, (drain.reader side).poll.1⟩ :: (drain.step side).polled rest := by
  rw [polled, if_pos h]

theorem polled_cons_of_not_isOpen {drain : Drain} {side : Side} (h : drain.isOpen side = false)
    (rest : List Side) : drain.polled (side :: rest) = drain.polled rest := by
  rw [polled, h]
  rfl

theorem completed_accept (drain : Drain) (side : Side) (result : Poll) :
    (drain.accept side result).completed =
      drain.completed + if (⟨side, result⟩ : Polled).isDone then 1 else 0 := by
  cases result <;> rfl

theorem completed_setReader (drain : Drain) (side : Side) (reader : LineReader) :
    (drain.setReader side reader).completed = drain.completed := by
  cases side <;> rfl

theorem completed_step_of_isOpen {drain : Drain} {side : Side} (h : drain.isOpen side = true) :
    (drain.step side).completed = drain.completed +
      if (⟨side, (drain.reader side).poll.1⟩ : Polled).isDone then 1 else 0 := by
  rw [step_of_isOpen h, completed_accept, completed_setReader]

/-- What a drain counts is its polls that come to something. -/
theorem completed_run (drain : Drain) (schedule : List Side) :
    (drain.run schedule).completed =
      drain.completed + (drain.polled schedule).countP Polled.isDone := by
  induction schedule generalizing drain with
  | nil => rfl
  | cons side rest ih =>
      have hrun : drain.run (side :: rest) = (drain.step side).run rest := rfl
      rw [hrun, ih]
      by_cases hopen : drain.isOpen side = true
      · rw [completed_step_of_isOpen hopen, polled_cons_of_isOpen hopen, List.countP_cons]
        omega
      · rw [Bool.not_eq_true] at hopen
        rw [step_of_not_isOpen hopen, polled_cons_of_not_isOpen hopen]

/-- A side that is open after a step has been open before. -/
theorem isOpen_of_step {drain : Drain} {side other : Side}
    (h : (drain.step side).isOpen other = true) : drain.isOpen other = true :=
  (work_step_le h).1

/-- A side that is not open is not polled. -/
theorem side_ne_of_mem_polled {drain : Drain} {side : Side} (h : drain.isOpen side = false)
    {schedule : List Side} {poll : Polled} (hpoll : poll ∈ drain.polled schedule) :
    poll.side ≠ side := by
  induction schedule generalizing drain with
  | nil => contradiction
  | cons first rest ih =>
      by_cases hopen : drain.isOpen first = true
      · rw [polled_cons_of_isOpen hopen, List.mem_cons] at hpoll
        rcases hpoll with rfl | hpoll
        · rintro rfl
          rw [hopen] at h
          contradiction
        · apply ih _ hpoll
          cases hstep : (drain.step first).isOpen side with
          | false => rfl
          | true =>
              rw [isOpen_of_step hstep] at h
              contradiction
      · rw [Bool.not_eq_true] at hopen
        rw [polled_cons_of_not_isOpen hopen] at hpoll
        exact ih h hpoll

theorem isOpen_step_of_ended {drain : Drain} {side : Side} (hopen : drain.isOpen side = true)
    (hended : (drain.reader side).poll.1 = .ended) : (drain.step side).isOpen side = false := by
  rw [step_of_isOpen hopen, hended, isOpen_accept_ended]
  simp

/-- A side that has said that it is at its end is never polled again. -/
theorem pairwise_polled (drain : Drain) (schedule : List Side) :
    (drain.polled schedule).Pairwise fun earlier later =>
      earlier.result = .ended → later.side ≠ earlier.side := by
  induction schedule generalizing drain with
  | nil => exact .nil
  | cons side rest ih =>
      by_cases hopen : drain.isOpen side = true
      · rw [polled_cons_of_isOpen hopen, List.pairwise_cons]
        refine ⟨?_, ih _⟩
        intro later hlater hended
        exact side_ne_of_mem_polled (isOpen_step_of_ended hopen hended) hlater
      · rw [Bool.not_eq_true] at hopen
        rw [polled_cons_of_not_isOpen hopen]
        exact ih drain

/-- How many polls a side can still be good for: one for each piece of its reader's work, and
the one that finds its end. -/
def workOn (drain : Drain) (side : Side) : Nat :=
  if drain.isOpen side then (drain.reader side).work + 1 else 0

theorem workOn_step_le (drain : Drain) (side other : Side) :
    (drain.step side).workOn other ≤ drain.workOn other := by
  unfold workOn
  by_cases hafter : (drain.step side).isOpen other = true
  · obtain ⟨hbefore, hwork⟩ := work_step_le hafter
    rw [if_pos hafter, if_pos hbefore]
    omega
  · rw [if_neg hafter]
    exact Nat.zero_le _

theorem workOn_step_lt {drain : Drain} {side : Side} (hopen : drain.isOpen side = true) :
    (drain.step side).workOn side < drain.workOn side := by
  unfold workOn
  rw [if_pos hopen]
  by_cases hafter : (drain.step side).isOpen side = true
  · obtain ⟨-, hwork⟩ := work_step_le hafter
    rw [List.count_singleton_self] at hwork
    rw [if_pos hafter]
    omega
  · rw [if_neg hafter]
    exact Nat.succ_pos _

/-- The work on the two sides bounds the polls of every schedule. -/
theorem length_polled_le (drain : Drain) (schedule : List Side) :
    (drain.polled schedule).length ≤ drain.workOn .out + drain.workOn .err := by
  induction schedule generalizing drain with
  | nil => exact Nat.zero_le _
  | cons side rest ih =>
      by_cases hopen : drain.isOpen side = true
      · have hrest := ih (drain.step side)
        have hside := workOn_step_lt hopen
        have hout := workOn_step_le drain side .out
        have herr := workOn_step_le drain side .err
        rw [polled_cons_of_isOpen hopen, List.length_cons]
        cases side <;> omega
      · rw [Bool.not_eq_true] at hopen
        rw [polled_cons_of_not_isOpen hopen]
        exact ih drain

/-- A drain is over once each side has been chosen more often than its reader has work. -/
theorem isOver_run {drain : Drain} {schedule : List Side}
    (h : ∀ side, (drain.reader side).work < schedule.count side) : (drain.run schedule).IsOver := by
  intro side
  cases hopen : (drain.run schedule).isOpen side with
  | false => rfl
  | true =>
      obtain ⟨-, hwork⟩ := work_run_le hopen
      have hcount := h side
      omega

/-- An open side that is polled often enough comes to something. -/
theorem exists_completed_run {drain : Drain} {side : Side} (hopen : drain.isOpen side = true) :
    ∃ count, (drain.run (List.replicate count side)).completed = drain.completed + 1 := by
  -- along the pending polls, on the work that is left to the reader
  induction hwork : (drain.reader side).work using Nat.strong_induction_on generalizing drain with
  | h work ih =>
      by_cases hpending : (drain.reader side).poll.1 = .pending
      · have hstep : drain.step side = drain.setReader side (drain.reader side).poll.2 := by
          rw [step_of_isOpen hopen, hpending, accept]
        have hstillOpen : (drain.step side).isOpen side = true := by
          rw [hstep, isOpen_setReader, hopen]
        have hless : ((drain.step side).reader side).work < work := by
          rw [hstep, reader_setReader, if_pos rfl, ← hwork]
          apply LineReader.work_poll_lt
          rw [hpending]
          exact Poll.noConfusion
        obtain ⟨count, hcount⟩ := ih _ hless hstillOpen rfl
        refine ⟨count + 1, ?_⟩
        rw [hstep, completed_setReader, ← hstep] at hcount
        exact hcount
      · refine ⟨1, ?_⟩
        have hdone : (⟨side, (drain.reader side).poll.1⟩ : Polled).isDone = true :=
          decide_eq_true hpending
        have hrun : drain.run (List.replicate 1 side) = drain.step side := rfl
        rw [hrun, completed_step_of_isOpen hopen, if_pos hdone]

/-- The side whose turn it is, while the drain has neither failed nor been finished. -/
theorem exists_isOpen {drain : Drain} (hfailure : drain.failure = none)
    (hfinished : drain.finished = false) : ∃ side, drain.isOpen side = true := by
  by_cases hout : drain.outOpen = true
  · exact ⟨.out, by simp [isOpen, hfailure, hout]⟩
  · refine ⟨.err, ?_⟩
    simp only [finished, hfailure, Bool.not_eq_true] at hfinished hout
    simpa [isOpen, hfailure, hout] using hfinished

/-- What has been come to so far: the lines, the sides that are closed, and the failure. -/
def tally (drain : Drain) : Nat :=
  drain.lines.size + (!drain.outOpen).toNat + (!drain.errOpen).toNat + drain.failure.isSome.toNat

theorem tally_setReader (drain : Drain) (side : Side) (reader : LineReader) :
    (drain.setReader side reader).tally = drain.tally := by
  cases side <;> rfl

theorem tally_accept {drain : Drain} {side : Side} (hopen : drain.isOpen side = true)
    (result : Poll) :
    (drain.accept side result).tally =
      drain.tally + if (⟨side, result⟩ : Polled).isDone then 1 else 0 := by
  have hfailure := failure_of_isOpen hopen
  cases result with
  | pending => rfl
  | line text =>
      simp only [tally, accept, Array.size_push, Polled.isDone]
      simp
      omega
  | ended =>
      cases side with
      | out =>
          have hout : drain.outOpen = true := by simpa [isOpen, hfailure] using hopen
          simp [tally, accept, close, hout, Polled.isDone]
          omega
      | err =>
          have herr : drain.errOpen = true := by simpa [isOpen, hfailure] using hopen
          simp [tally, accept, close, herr, Polled.isDone]
          omega
  | failed error => simp [tally, accept, hfailure, Polled.isDone]

/-- Every poll that comes to something adds one to the tally. -/
theorem completed_eq_tally_step {drain : Drain} (h : drain.completed = drain.tally)
    (side : Side) : (drain.step side).completed = (drain.step side).tally := by
  by_cases hopen : drain.isOpen side = true
  · have hother : (drain.setReader side (drain.reader side).poll.2).isOpen side = true := by
      rw [isOpen_setReader, hopen]
    rw [completed_step_of_isOpen hopen, step_of_isOpen hopen, tally_accept hother, tally_setReader,
      h]
  · rw [Bool.not_eq_true] at hopen
    rw [step_of_not_isOpen hopen, h]

variable {texts : Side → List String} {faults : Side → Option IoError}

/-- The lines so far are no more than there are on the two sides. -/
theorem Keeps.size_le {drain : Drain} (h : drain.Keeps texts faults)
    (hfailure : drain.failure = none) :
    drain.lines.size ≤ (texts .out).length + (texts .err).length := by
  simp only [Keeps, hfailure] at h
  obtain ⟨given, left, hlines, hsides⟩ := h
  have hsize := hlines.length_eq
  rw [Array.length_toList] at hsize
  have hout := congrArg List.length (hsides .out).1
  have herr := congrArg List.length (hsides .err).1
  rw [List.length_append] at hout herr
  omega

/-- A drain in which nothing has been lost, and every poll that has come to something is
accounted for; there are no more of them than lines, and one more on each side. -/
structure Accounts (texts : Side → List String) (faults : Side → Option IoError)
    (drain : Drain) : Prop where
  keeps : drain.Keeps texts faults
  tallied : drain.completed = drain.tally
  bounded : drain.completed ≤ (texts .out).length + (texts .err).length + 2

theorem Accounts.step {drain : Drain} (h : drain.Accounts texts faults) (side : Side) :
    (drain.step side).Accounts texts faults := by
  have htallied := completed_eq_tally_step h.tallied side
  refine ⟨h.keeps.step side, htallied, ?_⟩
  by_cases hopen : drain.isOpen side = true
  · have hsize := h.keeps.size_le (failure_of_isOpen hopen)
    cases hfailure : (drain.step side).failure with
    | none =>
        have hafter := (h.keeps.step side).size_le hfailure
        have hout := Bool.toNat_le (!(drain.step side).outOpen)
        have herr := Bool.toNat_le (!(drain.step side).errOpen)
        rw [htallied, tally, hfailure, Option.isSome_none, Bool.toNat_false]
        omega
    | some error =>
        -- the side that fails has not been closed, so that its end is not in the tally
        have hclosed : (!drain.outOpen).toNat + (!drain.errOpen).toNat ≤ 1 := by
          have hout := Bool.toNat_le (!drain.outOpen)
          have herr := Bool.toNat_le (!drain.errOpen)
          cases side <;> simp_all [isOpen]
        have hdone := completed_step_of_isOpen hopen
        have hless : (drain.step side).completed ≤ drain.completed + 1 := by
          rw [hdone]
          split <;> omega
        have htally := h.tallied
        rw [tally, failure_of_isOpen hopen, Option.isSome_none, Bool.toNat_false] at htally
        omega
  · rw [Bool.not_eq_true] at hopen
    rw [step_of_not_isOpen hopen]
    exact h.bounded

theorem Accounts.run {drain : Drain} (h : drain.Accounts texts faults) (schedule : List Side) :
    (drain.run schedule).Accounts texts faults := by
  induction schedule generalizing drain with
  | nil => exact h
  | cons side rest ih => exact ih (h.step side)

/-- Without a read that fails, a drain is over just when all lines and both ends have come. -/
theorem Accounts.isOver_iff {drain : Drain} (h : drain.Accounts texts faults)
    (hfaults : ∀ side, faults side = none) :
    drain.IsOver ↔ drain.completed = (texts .out).length + (texts .err).length + 2 := by
  have hfailure : drain.failure = none := by
    cases hfailure : drain.failure with
    | none => rfl
    | some error =>
        have hkeeps := h.keeps
        simp only [Keeps, hfailure, hfaults] at hkeeps
        obtain ⟨_, hfault⟩ := hkeeps
        contradiction
  have htally := h.tallied
  rw [tally, hfailure, Option.isSome_none, Bool.toNat_false] at htally
  constructor
  · intro hover
    obtain ⟨error, _, hsome, -⟩ | ⟨-, -, hlines⟩ := h.keeps.of_isOver hover
    · rw [hfailure] at hsome
      contradiction
    · have hsize := hlines.length_eq
      rw [Array.length_toList] at hsize
      have hout : drain.outOpen = false := by simpa [isOpen, hfailure] using hover .out
      have herr : drain.errOpen = false := by simpa [isOpen, hfailure] using hover .err
      rw [hout, herr, Bool.not_false, Bool.toNat_true] at htally
      omega
  · intro hcompleted
    have hsize := h.keeps.size_le hfailure
    have hout := Bool.toNat_le (!drain.outOpen)
    have herr := Bool.toNat_le (!drain.errOpen)
    have hboth : (!drain.outOpen).toNat = 1 ∧ (!drain.errOpen).toNat = 1 := by omega
    simp only [Bool.toNat_eq_one, Bool.not_eq_true'] at hboth
    intro side
    cases side <;> simp [isOpen, hboth]

theorem workOn_start (out err : Source) :
    (start out err).workOn .out + (start out err).workOn .err = out.work + err.work + 2 := by
  have hout : (start out err).workOn .out = out.work + 1 := rfl
  have herr : (start out err).workOn .err = err.work + 1 := rfl
  rw [hout, herr]
  omega

theorem countP_polled_start (out err : Source) (schedule : List Side) :
    ((start out err).polled schedule).countP Polled.isDone =
      ((start out err).run schedule).completed := by
  rw [completed_run]
  exact (Nat.zero_add _).symm

end Drain

/-- Along every schedule a drain makes only so many polls, and along one that chooses each side
more often than there is work on it the drain comes to its end.  Of the polls no more come to
something than there are lines on the two sides, and one more for the end of each; if no read
fails, the drain is over when it is just as many.  As long as there is something to be read
a side is open, and an open side comes to something if it is polled on; and a side at its
end is never polled again. -/
theorem polled_accounted {out err : Source} {outBytes errBytes : Bytes}
    {outFault errFault : Option IoError} (hout : out.Brings outBytes outFault)
    (herr : err.Brings errBytes errFault) (schedule : List Side) :
    let drain := (Drain.start out err).run schedule
    let polled := (Drain.start out err).polled schedule
    let most := (lines outBytes).length + (lines errBytes).length + 2
    polled.length ≤ out.work + err.work + 2 ∧
    (out.work < schedule.count .out → err.work < schedule.count .err → drain.IsOver) ∧
    polled.countP Drain.Polled.isDone = drain.completed ∧
    drain.completed ≤ most ∧
    (outFault = none → errFault = none → (drain.IsOver ↔ drain.completed = most)) ∧
    (drain.failure = none → drain.finished = false → ∃ side, drain.isOpen side = true) ∧
    (∀ side, drain.isOpen side = true →
      ∃ count, (drain.run (List.replicate count side)).completed = drain.completed + 1) ∧
    polled.Pairwise fun earlier later => earlier.result = .ended → later.side ≠ earlier.side := by
  intro drain polled most
  have hstart : (Drain.start out err).Accounts
      (fun side => lines (Side.rec outBytes errBytes side))
      (fun side => Side.rec outFault errFault side) :=
    ⟨Drain.keeps_start hout herr, rfl, Nat.zero_le _⟩
  have haccounts := hstart.run schedule
  refine ⟨?_, ?_, Drain.countP_polled_start out err schedule, haccounts.bounded, ?_,
    Drain.exists_isOpen, fun side => Drain.exists_completed_run, Drain.pairwise_polled _ _⟩
  · rw [← Drain.workOn_start]
    exact Drain.length_polled_le _ _
  · intro houtWork herrWork
    apply Drain.isOver_run
    intro side
    cases side with
    | out => exact houtWork
    | err => exact herrWork
  · intro houtFault herrFault
    apply haccounts.isOver_iff
    intro side
    cases side with
    | out => exact houtFault
    | err => exact herrFault

namespace ProgressWitness

/-- Two lines, with the first line end cut in two. -/
def out : Source := [.data [0x61, 0x0D], .notReady, .data [0x0A, 0x62]]

def err : Source := [.notReady, .data [0x65, 0x0A], .endOfInput]

/-- A line, and then a read that fails. -/
def broken : Source := [.data [0x65, 0x0A], .fails (.os 5), .data [0x66]]

theorem out_brings : out.Brings [0x61, 0x0D, 0x0A, 0x62] none :=
  .gives [0x61, 0x0D] (.waits (.gives [0x0A, 0x62] .done))

theorem err_brings : err.Brings [0x65, 0x0A] none :=
  .waits (.gives [0x65, 0x0A] (.ended .done))

theorem broken_brings : broken.Brings [0x65, 0x0A] (some (.os 5)) :=
  .gives [0x65, 0x0A] (.breaks (.os 5) [.data [0x66]])

def schedule : List Side := [.err, .out, .err, .out, .out, .err, .out, .err]

/-- Two lines on one side and one on the other take five polls that come to something; with
a read that fails in place of the end of the other side it may be no more. -/
theorem polled_accounted_crossed :
    ((Drain.start out err).run schedule).completed = 5 ∧
    ((Drain.start out broken).run schedule).completed ≤ 5 := by
  have hover : ((Drain.start out err).run schedule).IsOver := by decide +kernel
  obtain ⟨-, -, -, -, hcompleted, -⟩ := polled_accounted out_brings err_brings schedule
  obtain ⟨-, -, -, hmost, -⟩ := polled_accounted out_brings broken_brings schedule
  have houtLines : (lines [0x61, 0x0D, 0x0A, 0x62]).length = 2 := by decide +kernel
  have herrLines : (lines [0x65, 0x0A]).length = 1 := by decide +kernel
  rw [houtLines, herrLines] at hcompleted hmost
  exact ⟨(hcompleted rfl rfl).mp hover, hmost⟩

end ProgressWitness

end FolderScript
