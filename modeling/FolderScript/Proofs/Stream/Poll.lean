/-
What one poll for a line can do.  A poll takes in pieces without a line end
until it meets something that gives a result; the equations say what that
result is, and the induction principle follows the pieces.  From them: how the
lines of a stream are cut, and how much work every poll does.
-/
import FolderScript.Stream.LineReader
import Mathlib.Data.List.TakeWhile

namespace FolderScript

theorem cutLine?_eq_none {bytes : Bytes} (h : newline ∉ bytes) : cutLine? bytes = none := by
  have hdrop : bytes.dropWhile (· ≠ newline) = [] := by
    rw [List.dropWhile_eq_nil_iff]
    intro byte hbyte
    have hne : byte ≠ newline := fun heq => h (heq ▸ hbyte)
    simpa using hne
  rw [cutLine?, hdrop]

theorem cutLine?_append {line : Bytes} (more : Bytes) (h : newline ∉ line) :
    cutLine? (line ++ newline :: more) = some (line, more) := by
  have hpass : ∀ byte ∈ line, (byte ≠ newline : Bool) = true := by
    intro byte hbyte
    have hne : byte ≠ newline := fun heq => h (heq ▸ hbyte)
    simpa using hne
  have hdrop : (line ++ newline :: more).dropWhile (· ≠ newline) = newline :: more := by
    rw [List.dropWhile_append_of_pos hpass]
    simp
  have htake : (line ++ newline :: more).takeWhile (· ≠ newline) = line := by
    rw [List.takeWhile_append_of_pos hpass]
    simp
  rw [cutLine?, hdrop, htake]

namespace LineReader

@[simp] theorem poll_nil (held : Bytes) :
    poll ⟨[], held⟩ = (atEnd held, ⟨[], []⟩) := rfl

@[simp] theorem poll_notReady (rest : Source) (held : Bytes) :
    poll ⟨.notReady :: rest, held⟩ = (.pending, ⟨rest, held⟩) := rfl

@[simp] theorem poll_endOfInput (rest : Source) (held : Bytes) :
    poll ⟨.endOfInput :: rest, held⟩ = (atEnd held, ⟨rest, []⟩) := rfl

@[simp] theorem poll_fails (error : IoError) (rest : Source) (held : Bytes) :
    poll ⟨.fails error :: rest, held⟩ = (.failed error, ⟨rest, held⟩) := rfl

theorem poll_line {line : Bytes} (more : Bytes) (rest : Source) (held : Bytes)
    (h : newline ∉ line) :
    poll ⟨.data (line ++ newline :: more) :: rest, held⟩ =
      (.line (lineText (held ++ line)), ⟨.data more :: rest, []⟩) := by
  simp only [poll, pollLine, cutLine?_append more h]

theorem poll_piece {bytes : Bytes} (rest : Source) (held : Bytes) (h : newline ∉ bytes) :
    poll ⟨.data bytes :: rest, held⟩ = poll ⟨rest, held ++ bytes⟩ := by
  simp only [poll, pollLine, cutLine?_eq_none h]

/-- Induction along one poll: over the pieces without a line end that it takes
in, up to what gives its result. -/
@[elab_as_elim] theorem pollInduction {motive : LineReader → Prop}
    (nil : ∀ held, motive ⟨[], held⟩)
    (notReady : ∀ rest held, motive ⟨.notReady :: rest, held⟩)
    (endOfInput : ∀ rest held, motive ⟨.endOfInput :: rest, held⟩)
    (fails : ∀ error rest held, motive ⟨.fails error :: rest, held⟩)
    (line : ∀ line more rest held, newline ∉ line →
      motive ⟨.data (line ++ newline :: more) :: rest, held⟩)
    (piece : ∀ bytes rest held, newline ∉ bytes →
      motive ⟨rest, held ++ bytes⟩ → motive ⟨.data bytes :: rest, held⟩)
    (reader : LineReader) : motive reader := by
  obtain ⟨source, held⟩ := reader
  induction source generalizing held with
  | nil => exact nil held
  | cons event rest ih =>
      cases event with
      | notReady => exact notReady rest held
      | endOfInput => exact endOfInput rest held
      | fails error => exact fails error rest held
      | data bytes =>
          by_cases hmem : newline ∈ bytes
          · obtain ⟨front, more, rfl, hfront⟩ := List.eq_append_cons_of_mem hmem
            exact line front more rest held hfront
          · exact piece bytes rest held hmem (ih (held ++ bytes))

end LineReader

theorem linesFrom_append (held : Bytes) {front : Bytes} (rest : Bytes) (h : newline ∉ front) :
    linesFrom held (front ++ rest) = linesFrom (held ++ front) rest := by
  induction front generalizing held with
  | nil => simp
  | cons byte front ih =>
      simp only [List.mem_cons, not_or] at h
      have hbyte : byte ≠ newline := fun heq => h.1 heq.symm
      simp only [List.cons_append, linesFrom, if_neg hbyte]
      rw [ih (held ++ [byte]) h.2]
      simp

/-- A stream that starts with a finished line. -/
theorem lines_append_newline {line : Bytes} (more : Bytes) (h : newline ∉ line) :
    lines (line ++ newline :: more) = lineText line :: lines more := by
  rw [lines, linesFrom_append [] _ h]
  simp [linesFrom, lines]

/-- A stream that is no more than the front of a line. -/
theorem lines_of_not_mem {held : Bytes} (h : newline ∉ held) :
    lines held = if held = [] then [] else [Utf8.lossy held] := by
  have hall := linesFrom_append [] [] h
  simp only [List.append_nil, List.nil_append] at hall
  rw [lines, hall, linesFrom]

namespace LineReader

/-- How many polls can come to something before a reader is at its end. -/
def work (reader : LineReader) : Nat :=
  Source.work reader.source + min reader.held.length 1

/-- Every poll does some of the work. -/
theorem work_poll_le (reader : LineReader) : reader.poll.2.work ≤ reader.work - 1 := by
  induction reader using pollInduction with
  | nil held => simp [work, Source.work]
  | notReady rest held =>
      simp only [poll_notReady, work, Source.work, SourceEvent.work]
      omega
  | endOfInput rest held =>
      simp only [poll_endOfInput, work, Source.work, SourceEvent.work, List.length_nil]
      omega
  | fails error rest held =>
      simp only [poll_fails, work, Source.work, SourceEvent.work]
      omega
  | line line more rest held h =>
      simp only [poll_line more rest held h, work, Source.work, SourceEvent.work,
        List.length_append, List.length_cons, List.length_nil]
      omega
  | piece bytes rest held h ih =>
      rw [poll_piece rest held h]
      refine Nat.le_trans ih ?_
      simp only [work, Source.work, SourceEvent.work, List.length_append]
      omega

/-- A reader with no work left is at its end for ever. -/
theorem eq_ended_of_work {reader : LineReader} (h : reader.work = 0) :
    reader = ⟨[], []⟩ := by
  obtain ⟨source, held⟩ := reader
  cases source with
  | nil =>
      cases held with
      | nil => rfl
      | cons byte rest => simp [work, Source.work] at h
  | cons event rest => cases event <;> simp [work, Source.work, SourceEvent.work] at h

theorem work_poll_lt {reader : LineReader} (h : reader.poll.1 ≠ .ended) :
    reader.poll.2.work < reader.work := by
  have hle := reader.work_poll_le
  have hpos : reader.work ≠ 0 := by
    intro hzero
    rw [eq_ended_of_work hzero] at h
    exact h rfl
  omega

end LineReader

end FolderScript
