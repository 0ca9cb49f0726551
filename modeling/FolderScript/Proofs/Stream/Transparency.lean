/-
Neither the cutting of a stream into pieces, nor a source that is not ready, nor
a read that fails and is tried again changes what a reader answers.  The answers
depend on the bytes between the ends of input alone: `told` is all of them in
order, every poll gives the next one or reports an interruption, and from this
the results of any number of polls are read off.
-/
import FolderScript.Proofs.Stream.Poll
import Mathlib.Data.Stream.Init

namespace FolderScript

def Poll.isAnswer : Poll → Bool
  | .line _ | .ended => true
  | .pending | .failed _ => false

@[simp] theorem Poll.isAnswer_atEnd (held : Bytes) : (atEnd held).isAnswer = true := by
  unfold atEnd
  split <;> rfl

namespace Source

def interruptions : Source → List Poll
  | [] => []
  | .notReady :: rest => .pending :: interruptions rest
  | .fails error :: rest => .failed error :: interruptions rest
  | .data _ :: rest | .endOfInput :: rest => interruptions rest

/-- The bytes up to the first end of input, and between that and each next. -/
def segments : Source → List Bytes
  | [] => [[]]
  | .data bytes :: rest => (segments rest).modifyHead (bytes ++ ·)
  | .endOfInput :: rest => [] :: segments rest
  | .notReady :: rest | .fails _ :: rest => segments rest

/-- Puts a piece of data in front of a source, as one with data that leads. -/
def prepend (bytes : Bytes) : Source → Source
  | .data more :: rest => .data (bytes ++ more) :: rest
  | source => .data bytes :: source

/-- The source without interruptions, its neighbouring data joined. -/
def settled : Source → Source
  | [] => []
  | .data bytes :: rest => prepend bytes (settled rest)
  | .endOfInput :: rest => .endOfInput :: settled rest
  | .notReady :: rest | .fails _ :: rest => settled rest

theorem segments_prepend (bytes : Bytes) (source : Source) :
    (prepend bytes source).segments = source.segments.modifyHead (bytes ++ ·) := by
  cases source with
  | nil => rfl
  | cons event rest =>
      cases event with
      | data more =>
          simp only [prepend, segments, List.modifyHead_modifyHead]
          congr 1
          funext segment
          simp
      | endOfInput | notReady | fails error => rfl

theorem segments_settled (source : Source) : source.settled.segments = source.segments := by
  induction source with
  | nil => rfl
  | cons event rest ih =>
      cases event with
      | data bytes => rw [settled, segments_prepend, ih, segments]
      | endOfInput => simp only [settled, segments, ih]
      | notReady | fails error => exact ih

theorem interruptions_prepend (bytes : Bytes) (source : Source) :
    (prepend bytes source).interruptions = source.interruptions := by
  cases source with
  | nil => rfl
  | cons event rest => cases event <;> rfl

theorem interruptions_settled (source : Source) : source.settled.interruptions = [] := by
  induction source with
  | nil => rfl
  | cons event rest ih =>
      cases event with
      | data bytes => rw [settled, interruptions_prepend, ih]
      | endOfInput | notReady | fails error => exact ih

end Source

/-- What is answered to bytes that an end of input follows: their lines, and the
end itself unless it is what finishes the last line. -/
def toldBefore (segment : Bytes) : List Poll :=
  (lines segment).map .line ++
    if segment = [] ∨ segment.getLast? = some newline then [.ended] else []

/-- Everything that is answered to the bytes between the ends of input. -/
def told : List Bytes → Stream' Poll
  | [] => Stream'.const .ended
  | segment :: rest => toldBefore segment ++ₛ told rest

theorem toldBefore_of_not_mem {held : Bytes} (h : newline ∉ held) :
    toldBefore held = [atEnd held] := by
  rw [toldBefore, lines_of_not_mem h, atEnd]
  by_cases hheld : held = []
  · simp [hheld]
  · have hlast : held.getLast? ≠ some newline :=
      fun heq => h (List.mem_of_getLast? heq)
    simp [hheld, hlast]

theorem toldBefore_append_newline {line : Bytes} (more : Bytes) (h : newline ∉ line) :
    toldBefore (line ++ newline :: more) = .line (lineText line) :: toldBefore more := by
  have hends : (line ++ newline :: more = [] ∨
      (line ++ newline :: more).getLast? = some newline) ↔
      (more = [] ∨ more.getLast? = some newline) := by
    cases more <;> simp [List.getLast?_append, List.getLast?_cons_cons]
  rw [toldBefore, lines_append_newline more h, toldBefore]
  simp only [hends, List.map_cons, List.cons_append]

theorem told_cons (segment : Bytes) (rest : List Bytes) :
    told (segment :: rest) = toldBefore segment ++ₛ told rest := rfl

/-- At the end for ever: one more end of input makes no difference. -/
theorem told_nil_segment : told [[]] = Stream'.const .ended :=
  (Stream'.const_eq Poll.ended).symm

theorem Source.segments_eq_cons (source : Source) :
    ∃ first rest, source.segments = first :: rest := by
  induction source with
  | nil => exact ⟨[], [], rfl⟩
  | cons event rest ih =>
      obtain ⟨first, later, hrest⟩ := ih
      cases event with
      | data bytes => exact ⟨bytes ++ first, later, by simp [segments, hrest]⟩
      | endOfInput => exact ⟨[], first :: later, by simp [segments, hrest]⟩
      | notReady | fails error => exact ⟨first, later, hrest⟩

namespace LineReader

/-- Everything that a reader is still to answer. -/
def told (reader : LineReader) : Stream' Poll :=
  FolderScript.told (reader.source.segments.modifyHead (reader.held ++ ·))

theorem told_fresh (source : Source) : told ⟨source, []⟩ = FolderScript.told source.segments := by
  obtain ⟨first, later, hsource⟩ := source.segments_eq_cons
  simp [told, hsource]

/-- A poll gives the next answer, or it leaves what is to be answered as it is. -/
theorem told_poll {reader : LineReader} (h : newline ∉ reader.held) :
    newline ∉ reader.poll.2.held ∧
      reader.told = [reader.poll.1].filter Poll.isAnswer ++ₛ reader.poll.2.told := by
  induction reader using pollInduction with
  | nil held =>
      refine ⟨by simp, ?_⟩
      rw [poll_nil, told_fresh, Source.segments, told_nil_segment]
      simp only [told, Source.segments, List.modifyHead_cons, List.append_nil, told_cons,
        toldBefore_of_not_mem h]
      simp [FolderScript.told]
  | notReady rest held => exact ⟨h, rfl⟩
  | endOfInput rest held =>
      refine ⟨by simp, ?_⟩
      rw [poll_endOfInput, told_fresh]
      simp only [told, Source.segments, List.modifyHead_cons, List.append_nil, told_cons,
        toldBefore_of_not_mem h]
      simp
  | fails error rest held => exact ⟨h, rfl⟩
  | line line more rest held hline =>
      obtain ⟨first, later, hrest⟩ := Source.segments_eq_cons rest
      have hfront : newline ∉ held ++ line := by simp_all
      rw [poll_line more rest held hline, told_fresh]
      refine ⟨by simp, ?_⟩
      simp only [told, Source.segments, hrest, List.modifyHead_cons, told_cons]
      have hcut : held ++ (line ++ newline :: more ++ first) =
          (held ++ line) ++ newline :: (more ++ first) := by simp
      rw [hcut, toldBefore_append_newline _ hfront]
      rfl
  | piece bytes rest held hbytes ih =>
      have hfront : newline ∉ held ++ bytes := by simp_all
      have hsame : told ⟨.data bytes :: rest, held⟩ = told ⟨rest, held ++ bytes⟩ := by
        obtain ⟨first, later, hrest⟩ := Source.segments_eq_cons rest
        simp [told, Source.segments, hrest]
      rw [poll_piece rest held hbytes, hsame]
      exact ih hfront

/-- A poll reports the next interruption, or it leaves those in store as they are. -/
theorem interruptions_poll (reader : LineReader) :
    Source.interruptions reader.source =
      [reader.poll.1].filter (fun poll => !poll.isAnswer) ++
        Source.interruptions reader.poll.2.source := by
  induction reader using pollInduction with
  | nil held => simp [Source.interruptions]
  | notReady rest held => rfl
  | endOfInput rest held => simp [Source.interruptions]
  | fails error rest held => rfl
  | line line more rest held h => rw [poll_line more rest held h]; rfl
  | piece bytes rest held h ih => rw [poll_piece rest held h]; exact ih

/-- The reader after a number of polls. -/
def after (reader : LineReader) : Nat → LineReader
  | 0 => reader
  | count + 1 => reader.poll.2.after count

theorem polls_add (reader : LineReader) (first second : Nat) :
    reader.polls (first + second) =
      reader.polls first ++ (reader.after first).polls second := by
  induction first generalizing reader with
  | zero => simp [polls, after]
  | succ count ih =>
      rw [Nat.succ_add_eq_add_succ, Nat.add_succ]
      simp only [polls, after, List.cons_append]
      rw [ih reader.poll.2]

theorem length_polls (reader : LineReader) (count : Nat) :
    (reader.polls count).length = count := by
  induction count generalizing reader with
  | zero => rfl
  | succ count ih => simp [polls, ih]

theorem work_after_le (reader : LineReader) (count : Nat) :
    (reader.after count).work ≤ reader.work - count := by
  induction count generalizing reader with
  | zero => exact Nat.le_refl _
  | succ count ih =>
      have hfirst := reader.work_poll_le
      have hrest := ih reader.poll.2
      simp only [after]
      omega

/-- Once its work is done, a reader is at its end. -/
theorem after_work (reader : LineReader) : reader.after reader.work = ⟨[], []⟩ := by
  apply eq_ended_of_work
  have hle := reader.work_after_le reader.work
  omega

theorem polls_ended (count : Nat) :
    (⟨[], []⟩ : LineReader).polls count = List.replicate count .ended := by
  induction count with
  | zero => rfl
  | succ count ih =>
      rw [polls, List.replicate_succ, poll_nil, ih]
      rfl

/-- The answers of a run of polls are the first of those that are due. -/
theorem told_polls {reader : LineReader} (h : newline ∉ reader.held) (count : Nat) :
    reader.told =
      (reader.polls count).filter Poll.isAnswer ++ₛ (reader.after count).told := by
  induction count generalizing reader with
  | zero => rfl
  | succ count ih =>
      obtain ⟨hheld, hpoll⟩ := told_poll h
      rw [hpoll, ih hheld, ← Stream'.append_append_stream, polls, after]
      rw [← List.filter_append, List.singleton_append]

theorem filter_isAnswer_polls {reader : LineReader} (h : newline ∉ reader.held)
    (count : Nat) :
    (reader.polls count).filter Poll.isAnswer =
      reader.told.take ((reader.polls count).countP Poll.isAnswer) := by
  rw [told_polls h count, List.countP_eq_length_filter]
  simp [Stream'.take_append_of_le_length]

/-- The interruptions in a run of polls are the first of those in store. -/
theorem interruptions_polls (reader : LineReader) (count : Nat) :
    Source.interruptions reader.source =
      (reader.polls count).filter (fun poll => !poll.isAnswer) ++
        Source.interruptions (reader.after count).source := by
  induction count generalizing reader with
  | zero => rfl
  | succ count ih =>
      rw [interruptions_poll, ih reader.poll.2, ← List.append_assoc, polls, after]
      rw [← List.filter_append, List.singleton_append]

/-- Without interruptions every poll is the next answer. -/
theorem polls_eq_take_told {reader : LineReader} (h : newline ∉ reader.held)
    (hquiet : Source.interruptions reader.source = []) (count : Nat) :
    reader.polls count = reader.told.take count := by
  have hnone := reader.interruptions_polls count
  rw [hquiet, eq_comm, List.append_eq_nil_iff, List.filter_eq_nil_iff] at hnone
  have hall : ∀ poll ∈ reader.polls count, poll.isAnswer = true := by
    intro poll hpoll
    simpa using hnone.1 poll hpoll
  have hanswers := filter_isAnswer_polls h count
  rw [List.filter_eq_self.mpr hall, List.countP_eq_length.mpr hall, length_polls] at hanswers
  exact hanswers

end LineReader

def Source.polls (source : Source) (count : Nat) : List Poll :=
  (⟨source, []⟩ : LineReader).polls count

/-- The answers to the polls of a source are those of the source without its
interruptions and with its data joined.  Each interruption is reported once, in
order, and then the end for ever.  So the answers are the same for two sources
with the same bytes between the ends of input. -/
theorem polls_transparent (source : Source) :
    (∀ count, (source.polls count).filter Poll.isAnswer =
      source.settled.polls ((source.polls count).countP Poll.isAnswer)) ∧
    (∃ last, (source.polls last).filter (fun poll => !poll.isAnswer) = source.interruptions ∧
      ∀ count, source.polls (last + count) =
        source.polls last ++ List.replicate count .ended) ∧
    (∀ other : Source, other.segments = source.segments → ∀ first second,
      (other.polls first).countP Poll.isAnswer = (source.polls second).countP Poll.isAnswer →
      (other.polls first).filter Poll.isAnswer =
        (source.polls second).filter Poll.isAnswer) := by
  refine ⟨?_, ?_, ?_⟩
  · intro count
    have hdue (number : Nat) : source.settled.polls number =
        (LineReader.told ⟨source.settled, []⟩).take number :=
      LineReader.polls_eq_take_told (by simp) source.interruptions_settled number
    rw [hdue, Source.polls, LineReader.filter_isAnswer_polls (by simp),
      LineReader.told_fresh, LineReader.told_fresh, Source.segments_settled]
  · let reader : LineReader := ⟨source, []⟩
    have hlast : reader.after reader.work = ⟨[], []⟩ := reader.after_work
    refine ⟨reader.work, ?_, ?_⟩
    · have hsplit := reader.interruptions_polls reader.work
      rw [hlast, Source.interruptions, List.append_nil] at hsplit
      exact hsplit.symm
    · intro count
      rw [Source.polls, LineReader.polls_add, hlast, LineReader.polls_ended]
      rfl
  · intro other hsegments first second hcount
    rw [Source.polls, Source.polls] at hcount
    rw [Source.polls, Source.polls, LineReader.filter_isAnswer_polls (by simp),
      LineReader.filter_isAnswer_polls (by simp), hcount, LineReader.told_fresh,
      LineReader.told_fresh, hsegments]

namespace TransparencyWitness

/-- Two lines, one piece. -/
def whole : Source := [.data [0x61, 0x0D, 0x0A, 0xC3, 0xA9], .endOfInput]

/-- The same bytes, cut inside the line end and inside a character. -/
def cut : Source :=
  [.data [0x61, 0x0D], .notReady, .data [0x0A, 0xC3], .fails (.os 5), .data [0xA9],
    .endOfInput]

theorem polls_transparent_cut :
    cut.segments = whole.segments ∧
      (cut.polls 5).countP Poll.isAnswer = (whole.polls 3).countP Poll.isAnswer ∧
      (cut.polls 5).filter Poll.isAnswer = (whole.polls 3).filter Poll.isAnswer :=
  have hsegments : cut.segments = whole.segments := by decide
  have hcount : (cut.polls 5).countP Poll.isAnswer =
      (whole.polls 3).countP Poll.isAnswer := by decide +kernel
  ⟨hsegments, hcount, (polls_transparent whole).2.2 cut hsegments 5 3 hcount⟩

end TransparencyWitness

end FolderScript
