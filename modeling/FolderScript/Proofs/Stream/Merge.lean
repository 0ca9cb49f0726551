/-
Draining two streams, in whatever pieces their bytes come and whichever side is
polled when; a poll that finds its side not ready is dropped, and the next may go
to either side.  While nothing fails, the lines read so far interleave what the two
sides have given, and every open side still owes the rest; a failed read is the
first one of its side.  The work of the readers bounds the polls, so that every
schedule that does not neglect a side comes to an end; and a side whose source still
finds nothing often enough stays open.
-/
import FolderScript.Stream.Drain
import FolderScript.Proofs.Stream.Poll

namespace FolderScript

/-- The third list has the elements of the first two, those of each in their
order. -/
inductive Interleaving {α : Type} : List α → List α → List α → Prop
  | nil : Interleaving [] [] []
  | left (x : α) {xs ys zs : List α} :
      Interleaving xs ys zs → Interleaving (x :: xs) ys (x :: zs)
  | right (y : α) {xs ys zs : List α} :
      Interleaving xs ys zs → Interleaving xs (y :: ys) (y :: zs)

theorem Interleaving.concat_left {α : Type} {xs ys zs : List α} (x : α)
    (h : Interleaving xs ys zs) : Interleaving (xs ++ [x]) ys (zs ++ [x]) := by
  induction h with
  | nil => exact .left x .nil
  | left head _ ih => exact .left head ih
  | right head _ ih => exact .right head ih

theorem Interleaving.concat_right {α : Type} {xs ys zs : List α} (y : α)
    (h : Interleaving xs ys zs) : Interleaving xs (ys ++ [y]) (zs ++ [y]) := by
  induction h with
  | nil => exact .right y .nil
  | left head _ ih => exact .left head ih
  | right head _ ih => exact .right head ih

theorem Interleaving.eq_of_nil_right {α : Type} {xs zs : List α}
    (h : Interleaving xs [] zs) : zs = xs := by
  induction xs generalizing zs with
  | nil => cases h; rfl
  | cons x xs ih => cases h with
    | left _ hrest => rw [ih hrest]

/-- A source that brings bytes in pieces, with moments at which it is not ready,
and then is at its end for ever or has a read that fails. -/
inductive Source.Brings : Bytes → Option IoError → Source → Prop
  | done : Brings [] none []
  | ended {source : Source} :
      Brings [] none source → Brings [] none (.endOfInput :: source)
  | waits {bytes : Bytes} {fault : Option IoError} {source : Source} :
      Brings bytes fault source → Brings bytes fault (.notReady :: source)
  | gives (piece : Bytes) {bytes : Bytes} {fault : Option IoError} {source : Source} :
      Brings bytes fault source → Brings (piece ++ bytes) fault (.data piece :: source)
  | breaks (error : IoError) (source : Source) :
      Brings [] (some error) (.fails error :: source)

namespace LineReader

/-- The lines that a reader still has to give, and the read that fails after
them, if one does. -/
def Owes (reader : LineReader) (texts : List String) (fault : Option IoError) : Prop :=
  newline ∉ reader.held ∧
    ∃ bytes, Source.Brings bytes fault reader.source ∧ lines (reader.held ++ bytes) = texts

/-- What is said at the end of input takes off all that is owed. -/
theorem owes_atEnd {held : Bytes} {source : Source} (hheld : newline ∉ held)
    (hbrings : Source.Brings [] none source) :
    match atEnd held with
    | .line text => ∃ more, lines held = text :: more ∧ Owes ⟨source, []⟩ more none
    | .ended => lines held = []
    | _ => False := by
  rw [lines_of_not_mem hheld, atEnd]
  by_cases hempty : held = []
  · simp [hempty]
  · simp only [hempty, if_false]
    exact ⟨[], rfl, by simp, [], hbrings, rfl⟩

/-- What a poll takes off what is owed. -/
theorem Owes.poll {reader : LineReader} {texts : List String} {fault : Option IoError}
    (h : reader.Owes texts fault) :
    match reader.poll.1 with
    | .pending => reader.poll.2.Owes texts fault
    | .line text => ∃ more, texts = text :: more ∧ reader.poll.2.Owes more fault
    | .ended => texts = [] ∧ fault = none
    | .failed error => fault = some error := by
  obtain ⟨hheld, bytes, hbrings, rfl⟩ := h
  induction reader using pollInduction generalizing bytes with
  | nil held =>
      cases hbrings
      have hend := owes_atEnd hheld .done
      rw [poll_nil, List.append_nil]
      split at hend <;> simp_all
  | notReady rest held =>
      cases hbrings with
      | waits hrest => exact ⟨hheld, bytes, hrest, rfl⟩
  | endOfInput rest held =>
      cases hbrings with
      | ended hrest =>
          have hend := owes_atEnd hheld hrest
          rw [poll_endOfInput, List.append_nil]
          split at hend <;> simp_all
  | fails error rest held =>
      cases hbrings
      rfl
  | line line more rest held hline =>
      cases hbrings with
      | @gives _ later _ _ hrest =>
          have hfront : newline ∉ held ++ line := by simp_all
          have hcut : held ++ (line ++ newline :: more ++ later) =
              (held ++ line) ++ newline :: (more ++ later) := by simp
          rw [poll_line more rest held hline, hcut, lines_append_newline _ hfront]
          exact ⟨_, rfl, by simp, more ++ later, .gives more hrest, rfl⟩
  | piece piece rest held hpiece ih =>
      cases hbrings with
      | @gives _ later _ _ hrest =>
          have hfront : newline ∉ held ++ piece := by simp_all
          rw [poll_piece rest held hpiece, ← List.append_assoc]
          exact ih hfront later hrest

end LineReader

namespace Drain

@[simp] theorem reader_setReader (drain : Drain) (side other : Side) (reader : LineReader) :
    (drain.setReader side reader).reader other =
      if other = side then reader else drain.reader other := by
  cases side <;> cases other <;> rfl

@[simp] theorem isOpen_setReader (drain : Drain) (side other : Side) (reader : LineReader) :
    (drain.setReader side reader).isOpen other = drain.isOpen other := by
  cases side <;> cases other <;> rfl

@[simp] theorem failure_setReader (drain : Drain) (side : Side) (reader : LineReader) :
    (drain.setReader side reader).failure = drain.failure := by
  cases side <;> rfl

@[simp] theorem lines_setReader (drain : Drain) (side : Side) (reader : LineReader) :
    (drain.setReader side reader).lines = drain.lines := by
  cases side <;> rfl

@[simp] theorem reader_accept (drain : Drain) (side other : Side) (result : Poll) :
    (drain.accept side result).reader other = drain.reader other := by
  cases result <;> cases side <;> cases other <;> rfl

@[simp] theorem isOpen_accept_line (drain : Drain) (side other : Side) (text : String) :
    (drain.accept side (.line text)).isOpen other = drain.isOpen other := by
  cases other <;> rfl

@[simp] theorem isOpen_accept_ended (drain : Drain) (side other : Side) :
    (drain.accept side .ended).isOpen other =
      (drain.isOpen other && decide (other ≠ side)) := by
  cases side <;> cases other <;> simp [accept, close, isOpen]

@[simp] theorem failure_accept_line (drain : Drain) (side : Side) (text : String) :
    (drain.accept side (.line text)).failure = drain.failure := rfl

@[simp] theorem failure_accept_ended (drain : Drain) (side : Side) :
    (drain.accept side .ended).failure = drain.failure := by
  cases side <;> rfl

@[simp] theorem lines_accept_line (drain : Drain) (side : Side) (text : String) :
    (drain.accept side (.line text)).lines = drain.lines.push text := rfl

@[simp] theorem lines_accept_ended (drain : Drain) (side : Side) :
    (drain.accept side .ended).lines = drain.lines := by
  cases side <;> rfl

theorem failure_of_isOpen {drain : Drain} {side : Side} (h : drain.isOpen side = true) :
    drain.failure = none := by
  simp only [isOpen, Bool.and_eq_true, Option.isNone_iff_eq_none] at h
  exact h.1

/-- A side that is open gets one poll, and its result is taken in. -/
theorem step_of_isOpen {drain : Drain} {side : Side} (h : drain.isOpen side = true) :
    drain.step side = (drain.setReader side (drain.reader side).poll.2).accept side
      (drain.reader side).poll.1 := by
  rw [step, if_pos h]

theorem step_of_not_isOpen {drain : Drain} {side : Side} (h : drain.isOpen side = false) :
    drain.step side = drain := by
  rw [step, h]
  rfl

/-- Nothing is lost or out of order so far: what each side has given, the lines
interleave, and what it has not, its reader still owes. -/
def Keeps (texts : Side → List String) (faults : Side → Option IoError) (drain : Drain) :
    Prop :=
  match drain.failure with
  | some error => ∃ side, faults side = some error
  | none => ∃ given left : Side → List String,
      Interleaving (given .out) (given .err) drain.lines.toList ∧
      ∀ side, texts side = given side ++ left side ∧
        if drain.isOpen side = true then (drain.reader side).Owes (left side) (faults side)
        else left side = [] ∧ faults side = none

variable {texts : Side → List String} {faults : Side → Option IoError}

/-- One more line from a side. -/
theorem interleaving_update {given : Side → List String} {all : List String} (side : Side)
    (text : String) (h : Interleaving (given .out) (given .err) all) :
    Interleaving (Function.update given side (given side ++ [text]) .out)
      (Function.update given side (given side ++ [text]) .err) (all ++ [text]) := by
  cases side with
  | out => simpa using h.concat_left text
  | err => simpa using h.concat_right text

theorem Keeps.step {drain : Drain} (h : drain.Keeps texts faults) (side : Side) :
    (drain.step side).Keeps texts faults := by
  by_cases hopen : drain.isOpen side = true
  · have hfailure := failure_of_isOpen hopen
    rw [step_of_isOpen hopen]
    simp only [Keeps, hfailure] at h
    obtain ⟨given, left, hlines, hsides⟩ := h
    obtain ⟨hsplit, howes⟩ := hsides side
    rw [if_pos hopen] at howes
    have hpoll := howes.poll
    cases hresult : (drain.reader side).poll.1 with
    | pending =>
        rw [hresult] at hpoll
        simp only [Keeps, accept, failure_setReader, hfailure]
        refine ⟨given, left, by simpa using hlines, fun other => ?_⟩
        by_cases hother : other = side
        · subst hother
          simp [hopen, hsplit, hpoll]
        · simpa [hother] using hsides other
    | line text =>
        rw [hresult] at hpoll
        obtain ⟨more, hleft, hmore⟩ := hpoll
        simp only [Keeps, failure_accept_line, failure_setReader, hfailure]
        refine ⟨Function.update given side (given side ++ [text]),
          Function.update left side more, ?_, fun other => ?_⟩
        · simpa using interleaving_update side text hlines
        · by_cases hother : other = side
          · subst hother
            simp [hopen, hsplit, hleft, hmore]
          · simpa [hother] using hsides other
    | ended =>
        rw [hresult] at hpoll
        obtain ⟨hleft, hfault⟩ := hpoll
        simp only [Keeps, failure_accept_ended, failure_setReader, hfailure]
        refine ⟨given, left, by simpa using hlines, fun other => ?_⟩
        by_cases hother : other = side
        · subst hother
          simp [hsplit, hleft, hfault]
        · simpa [hother] using hsides other
    | failed error =>
        rw [hresult] at hpoll
        exact ⟨side, hpoll⟩
  · rw [step_of_not_isOpen (by simpa using hopen)]
    exact h

theorem Keeps.run {drain : Drain} (h : drain.Keeps texts faults) (schedule : List Side) :
    (drain.run schedule).Keeps texts faults := by
  induction schedule generalizing drain with
  | nil => exact h
  | cons side rest ih => exact ih (h.step side)

/-- A drain of two sources, each known by the bytes that it brings. -/
theorem keeps_start {out err : Source} {bytes : Side → Bytes} {faults : Side → Option IoError}
    (hout : out.Brings (bytes .out) (faults .out)) (herr : err.Brings (bytes .err) (faults .err)) :
    (start out err).Keeps (fun side => FolderScript.lines (bytes side)) faults := by
  refine ⟨fun _ => [], _, .nil, fun side => ⟨rfl, ?_⟩⟩
  cases side with
  | out => exact ⟨by simp [start, reader], bytes .out, hout, rfl⟩
  | err => exact ⟨by simp [start, reader], bytes .err, herr, rfl⟩

/-- No side is to be polled any more. -/
def IsOver (drain : Drain) : Prop := ∀ side, drain.isOpen side = false

instance (drain : Drain) : Decidable drain.IsOver :=
  decidable_of_iff (drain.isOpen .out = false ∧ drain.isOpen .err = false)
    ⟨fun h side => by cases side <;> simp [h], fun h => ⟨h .out, h .err⟩⟩

/-- What a drain that is over has come to. -/
theorem Keeps.of_isOver {drain : Drain} (h : drain.Keeps texts faults) (hover : drain.IsOver) :
    (∃ error side, drain.failure = some error ∧ faults side = some error) ∨
      (drain.failure = none ∧ (∀ side, faults side = none) ∧
        Interleaving (texts .out) (texts .err) drain.lines.toList) := by
  cases hfailure : drain.failure with
  | some error =>
      simp only [Keeps, hfailure] at h
      obtain ⟨side, hside⟩ := h
      exact .inl ⟨error, side, rfl, hside⟩
  | none =>
      simp only [Keeps, hfailure] at h
      obtain ⟨given, left, hlines, hsides⟩ := h
      have hall (side : Side) : texts side = given side ∧ faults side = none := by
        obtain ⟨hsplit, hclosed⟩ := hsides side
        rw [if_neg (by simp [hover side])] at hclosed
        simp [hsplit, hclosed]
      refine .inr ⟨rfl, fun side => (hall side).2, ?_⟩
      rw [(hall .out).1, (hall .err).1]
      exact hlines

theorem isOpen_of_accept {drain : Drain} {side other : Side} {result : Poll}
    (h : (drain.accept side result).isOpen other = true) :
    drain.isOpen other = true ∧ (other = side → result ≠ .ended) := by
  cases result with
  | pending => exact ⟨h, by simp⟩
  | line text => exact ⟨by simpa using h, by simp⟩
  | ended =>
      simp only [isOpen_accept_ended, Bool.and_eq_true, decide_eq_true_eq] at h
      exact ⟨h.1, fun heq => absurd heq h.2⟩
  | failed error => simp [accept, isOpen] at h

/-- Every poll of an open side does some of its reader's work, and leaves that of
the other side. -/
theorem work_step_le {drain : Drain} {side other : Side}
    (h : (drain.step side).isOpen other = true) :
    drain.isOpen other = true ∧
      ((drain.step side).reader other).work + [side].count other ≤
        (drain.reader other).work := by
  by_cases hopen : drain.isOpen side = true
  · rw [step_of_isOpen hopen] at h ⊢
    obtain ⟨hother, hresult⟩ := isOpen_of_accept h
    rw [isOpen_setReader] at hother
    refine ⟨hother, ?_⟩
    by_cases heq : other = side
    · subst heq
      have hwork := LineReader.work_poll_lt (hresult rfl)
      simp only [reader_accept, reader_setReader, if_true, List.count_singleton_self]
      omega
    · have hcount : [side].count other = 0 := by simp [Ne.symm heq]
      simp [heq, hcount]
  · have hclosed : drain.isOpen side = false := by simpa using hopen
    rw [step_of_not_isOpen hclosed] at h ⊢
    have hne : side ≠ other := fun heq => hopen (heq ▸ h)
    have hcount : [side].count other = 0 := by simp [hne]
    exact ⟨h, by omega⟩

theorem work_run_le {drain : Drain} {schedule : List Side} {side : Side}
    (h : (drain.run schedule).isOpen side = true) :
    drain.isOpen side = true ∧
      ((drain.run schedule).reader side).work + schedule.count side ≤
        (drain.reader side).work := by
  induction schedule generalizing drain with
  | nil => exact ⟨h, Nat.le_refl _⟩
  | cons first rest ih =>
      obtain ⟨hstep, hrest⟩ := ih h
      obtain ⟨hopen, hfirst⟩ := work_step_le hstep
      refine ⟨hopen, ?_⟩
      have hcount : (first :: rest).count side = [first].count side + rest.count side := by
        rw [← List.count_append, List.singleton_append]
      simp only [run, List.foldl_cons] at hrest ⊢
      omega

theorem run_append (drain : Drain) (first second : List Side) :
    drain.run (first ++ second) = (drain.run first).run second :=
  List.foldl_append

theorem run_cons (drain : Drain) (side : Side) (rest : List Side) :
    drain.run (side :: rest) = (drain.step side).run rest := rfl

end Drain

/-- A source that finds nothing at least so often, and is not at its end before. -/
structure Source.Waits (source : Source) (count : Nat) : Prop where
  endless : .endOfInput ∉ source
  often : count ≤ source.count .notReady

theorem Source.Waits.of_le {source : Source} {count fewer : Nat} (h : source.Waits count)
    (hle : fewer ≤ count) : source.Waits fewer :=
  ⟨h.endless, Nat.le_trans hle h.often⟩

/-- A poll takes at most one of the looks that find nothing. -/
theorem LineReader.waits_poll {reader : LineReader} {count : Nat}
    (h : reader.source.Waits (count + 1)) :
    reader.poll.1 ≠ .ended ∧ reader.poll.2.source.Waits count := by
  obtain ⟨hendless, hoften⟩ := h
  induction reader using pollInduction with
  | nil held => simp at hoften
  | notReady rest held =>
      simp only [List.count_cons_self, Nat.add_le_add_iff_right] at hoften
      exact ⟨by simp, by simpa using hendless, hoften⟩
  | endOfInput rest held => simp at hendless
  | fails error rest held =>
      rw [List.count_cons_of_ne (by simp)] at hoften
      exact ⟨by simp, by simpa using hendless, Nat.le_of_succ_le hoften⟩
  | line line more rest held hline =>
      rw [List.count_cons_of_ne (by simp)] at hoften
      rw [poll_line more rest held hline]
      refine ⟨by simp, by simpa using hendless, ?_⟩
      rw [List.count_cons_of_ne (by simp)]
      exact Nat.le_of_succ_le hoften
  | piece piece rest held hpiece ih =>
      rw [List.count_cons_of_ne (by simp)] at hoften
      rw [poll_piece rest held hpiece]
      exact ih (by simpa using hendless) hoften

namespace Drain

/-- A side that no so many polls can bring to its end. -/
def Outlasts (drain : Drain) (side : Side) (count : Nat) : Prop :=
  drain.failure ≠ none ∨
    drain.isOpen side = true ∧ (drain.reader side).source.Waits count

theorem Outlasts.step {drain : Drain} {side : Side} {count : Nat}
    (h : drain.Outlasts side (count + 1)) (polled : Side) :
    (drain.step polled).Outlasts side count := by
  by_cases hpolled : drain.isOpen polled = true
  · have hfailure := failure_of_isOpen hpolled
    obtain ⟨hopen, hwaits⟩ := h.resolve_left fun hne => hne hfailure
    have hpoll (heq : side = polled) :
        (drain.reader polled).poll.1 ≠ .ended ∧
          (drain.reader polled).poll.2.source.Waits count :=
      LineReader.waits_poll (heq ▸ hwaits)
    have hreader : ((drain.step polled).reader side).source.Waits count := by
      rw [step_of_isOpen hpolled, reader_accept, reader_setReader]
      split
      · exact (hpoll ‹_›).2
      · exact hwaits.of_le (Nat.le_succ count)
    rw [step_of_isOpen hpolled] at hreader ⊢
    cases hresult : (drain.reader polled).poll.1 with
    | pending =>
        rw [hresult] at hreader
        exact .inr ⟨(isOpen_setReader drain polled side _).trans hopen, hreader⟩
    | line text =>
        rw [hresult] at hreader
        refine .inr ⟨?_, hreader⟩
        rw [isOpen_accept_line, isOpen_setReader]
        exact hopen
    | ended =>
        rw [hresult] at hreader
        refine .inr ⟨?_, hreader⟩
        have hne : side ≠ polled := fun heq => (hpoll heq).1 hresult
        simpa [hopen] using hne
    | failed error => exact .inl (by simp [accept])
  · rw [step_of_not_isOpen (by simpa using hpolled)]
    exact h.imp_right fun hboth => ⟨hboth.1, hboth.2.of_le (Nat.le_succ count)⟩

theorem Outlasts.run {drain : Drain} {side : Side} {schedule : List Side}
    (h : drain.Outlasts side schedule.length) : (drain.run schedule).Outlasts side 0 := by
  induction schedule generalizing drain with
  | nil => exact h
  | cons polled rest ih => exact ih (h.step polled)

end Drain

end FolderScript
