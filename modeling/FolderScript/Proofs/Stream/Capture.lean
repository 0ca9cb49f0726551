/-
What is captured of one stream: the lines that its polls give until it ends, each with
its end.  However the bytes come, this is the text of all of them with plain line ends.
-/
import FolderScript.Proofs.Stream.Merge
import FolderScript.Proofs.Stream.Transparency
import FolderScript.Proofs.Text.LineEnds

namespace FolderScript

def Poll.line? : Poll → Option String
  | .line text => some text
  | .pending | .ended | .failed _ => none

/-- The text that results of polls put together, taken in one by one: each line with its
end. -/
def captured (results : List Poll) : String :=
  (results.foldl (fun drain result => drain.accept .out result) (Drain.start [] [])).output

theorem toList_lines_foldl_accept (drain : Drain) (results : List Poll) :
    (results.foldl (fun drain result => drain.accept .out result) drain).lines.toList =
      drain.lines.toList ++ results.filterMap Poll.line? := by
  induction results generalizing drain with
  | nil => simp
  | cons result rest ih =>
      rw [List.foldl_cons, ih]
      cases result with
      | line text => simp [Poll.line?]
      | pending | failed error => simp [Drain.accept, Poll.line?, List.filterMap_cons]
      | ended => simp [Poll.line?, List.filterMap_cons]

theorem captured_eq (results : List Poll) :
    captured results = String.join ((results.filterMap Poll.line?).map (· ++ "\n")) := by
  rw [captured, Drain.output, toList_lines_foldl_accept]
  rfl

namespace LineReader

/-- One poll more in front of a run up to the end of a reader. -/
theorem polls_of_poll {reader : LineReader} {last : Nat}
    (h : reader.poll.2.polls (last + 1) = reader.poll.2.polls last ++ [.ended]) :
    reader.polls (last + 1 + 1) = reader.polls (last + 1) ++ [.ended] := by
  rw [polls, h, polls]
  rfl

/-- A reader without a failing read comes to its end, and by then it has given all the
lines that it owed. -/
theorem Owes.polls {reader : LineReader} {texts : List String} (h : reader.Owes texts none) :
    ∃ last, reader.polls (last + 1) = reader.polls last ++ [.ended] ∧
      (∀ result ∈ reader.polls last, result = .pending ∨ ∃ text ∈ texts, result = .line text) ∧
      (reader.polls last).filterMap Poll.line? = texts := by
  induction hwork : reader.work using Nat.strong_induction_on generalizing reader texts with
  | _ work ih =>
      have hpoll := h.poll
      cases hresult : reader.poll.1 with
      | pending =>
          rw [hresult] at hpoll
          have hless : reader.poll.2.work < reader.work := work_poll_lt (by simp [hresult])
          obtain ⟨last, hend, hall, hlines⟩ := ih _ (hwork ▸ hless) hpoll rfl
          refine ⟨last + 1, polls_of_poll hend, ?_, ?_⟩
          · rw [LineReader.polls, hresult]
            exact List.forall_mem_cons.mpr ⟨.inl rfl, hall⟩
          · rw [LineReader.polls, hresult]
            exact hlines
      | line text =>
          rw [hresult] at hpoll
          obtain ⟨more, rfl, hmore⟩ := hpoll
          have hless : reader.poll.2.work < reader.work := work_poll_lt (by simp [hresult])
          obtain ⟨last, hend, hall, hlines⟩ := ih _ (hwork ▸ hless) hmore rfl
          refine ⟨last + 1, polls_of_poll hend, ?_, ?_⟩
          · rw [LineReader.polls, hresult]
            refine List.forall_mem_cons.mpr ⟨.inr ⟨text, List.mem_cons_self, rfl⟩, ?_⟩
            intro result hmem
            obtain hpending | ⟨other, hother, rfl⟩ := hall result hmem
            · exact .inl hpending
            · exact .inr ⟨other, List.mem_cons_of_mem text hother, rfl⟩
          · rw [LineReader.polls, hresult]
            exact congrArg (text :: ·) hlines
      | ended =>
          rw [hresult] at hpoll
          have hone : reader.polls 1 = [.ended] := congrArg (fun result => [result]) hresult
          exact ⟨0, hone, fun result hmem => absurd hmem List.not_mem_nil, hpoll.1.symm⟩
      | failed error =>
          rw [hresult] at hpoll
          contradiction

end LineReader

/-- No line of a stream has a line end in it. -/
theorem newline_notMem_of_mem_lines {bytes : Bytes} {text : String} (h : text ∈ lines bytes) :
    '\n' ∉ text.toList := by
  induction bytes using lineInduction with
  | last held hheld =>
      rw [lines_of_not_mem hheld] at h
      split at h
      · contradiction
      · obtain rfl := List.mem_singleton.mp h
        rw [toList_lossy]
        exact newline_notMem_lossyFrom hheld
  | line line more hline ih =>
      rw [lines_append_newline more hline] at h
      rcases List.mem_cons.mp h with rfl | h
      · exact newline_notMem_lineText hline
      · exact ih h

/-- A stream that brings its bytes in whatever pieces, and is not ready whenever, is polled
to its end; what has been captured by then is the text of all its bytes, decoded as a
whole, with plain line ends.  So well-formed bytes whose line ends are plain are captured
as they are, but for the end of the last line; and no line has a line end in it. -/
theorem captured_polls {source : Source} {bytes : Bytes} (h : source.Brings bytes none) :
    ∃ last, source.polls (last + 1) = source.polls last ++ [.ended] ∧
      (∀ result ∈ source.polls last,
        result = .pending ∨ ∃ text, result = .line text ∧ '\n' ∉ text.toList) ∧
      captured (source.polls last) = withPlainLineEnds (Utf8.lossy bytes) ∧
      ((Utf8.decode? bytes).isSome → ¬ [carriageReturn, newline] <:+: bytes →
        Utf8.encode (captured (source.polls last)) =
          if bytes = [] ∨ bytes.getLast? = some newline then bytes else bytes ++ [newline]) := by
  have howes : LineReader.Owes ⟨source, []⟩ (lines bytes) none := ⟨by simp, bytes, h, rfl⟩
  obtain ⟨last, hend, hall, hlines⟩ := howes.polls
  have hcaptured : captured (source.polls last) = withPlainLineEnds (Utf8.lossy bytes) := by
    rw [captured_eq, Source.polls, hlines, join_lines]
  refine ⟨last, hend, ?_, hcaptured, fun hvalid hplain => ?_⟩
  · intro result hresult
    obtain hpending | ⟨text, htext, rfl⟩ := hall result hresult
    · exact .inl hpending
    · exact .inr ⟨text, rfl, newline_notMem_of_mem_lines htext⟩
  · rw [hcaptured, encode_withPlainLineEnds hvalid hplain]

namespace CaptureWitness

/-- A character cut in two, a broken one before a line end, two carriage returns before
another, and one at the end. -/
def source : Source :=
  [.data [0xC3], .notReady, .data [0xA9, 0xE2, 0x82, 0x0D], .data [0x0A, 0x0D, 0x0D], .notReady,
    .notReady, .data [0x0A, 0x62, 0x0D]]

def bytes : Bytes := [0xC3, 0xA9, 0xE2, 0x82, 0x0D, 0x0A, 0x0D, 0x0D, 0x0A, 0x62, 0x0D]

theorem source_brings : source.Brings bytes none :=
  .gives [0xC3] (.waits (.gives [0xA9, 0xE2, 0x82, 0x0D] (.gives [0x0A, 0x0D, 0x0D]
    (.waits (.waits (.gives [0x0A, 0x62, 0x0D] .done))))))

/-- Well-formed bytes with plain line ends, the last of which is missing. -/
def plainSource : Source := [.data [0xC3], .notReady, .data [0xA9, 0x0A, 0x62]]

theorem plainSource_brings : plainSource.Brings [0xC3, 0xA9, 0x0A, 0x62] none :=
  .gives [0xC3] (.waits (.gives [0xA9, 0x0A, 0x62] .done))

theorem captured_polls_broken :
    (∃ last, captured (source.polls last) = withPlainLineEnds (Utf8.lossy bytes)) ∧
      withPlainLineEnds (Utf8.lossy bytes) = "é\uFFFD\n\r\nb\r\n" ∧
      ∃ last, Utf8.encode (captured (plainSource.polls last)) = [0xC3, 0xA9, 0x0A, 0x62, 0x0A] := by
  obtain ⟨last, -, -, hcaptured, -⟩ := captured_polls source_brings
  obtain ⟨lastPlain, -, -, -, hplain⟩ := captured_polls plainSource_brings
  refine ⟨⟨last, hcaptured⟩, by decide +kernel, lastPlain, ?_⟩
  rw [hplain (by decide +kernel) (by decide)]
  rfl

end CaptureWitness

end FolderScript
