/-
Reports are read back.  The exit code stands in front of the first line end of a report,
since no number has a line end in it, and all that follows the next line is the output.  So
whatever a script writes, be it another report, what it wrote and the code that it ended
with can be told from what is shown.
-/
import Mathlib.Data.List.Basic
import FolderScript.Proofs.Program.ExitStatus

namespace FolderScript

namespace Captured

/-- What stands in front of the exit code. -/
def codeLabel : String := "Process exited with code: "

/-- What stands between the exit code and the output. -/
def outputLabel : String := "\nProcess output:\n"

/-- The number that is written in decimal digits, with a sign in front or without. -/
def codeOf : List Char → Int
  | '-' :: digits => -(Nat.ofDigitChars 10 digits 0 : Int)
  | digits => Nat.ofDigitChars 10 digits 0

/-- Takes a report apart; none if it is no report. -/
def ofReport? (report : String) : Option Captured := do
  let rest ← report.toList.dropPrefix? codeLabel.toList
  let line := rest.takeWhile (· ≠ '\n')
  let output ← (rest.dropWhile (· ≠ '\n')).dropPrefix? outputLabel.toList
  if (toString (codeOf line)).toList = line then
    some ⟨codeOf line, String.ofList output⟩
  else none

theorem dropPrefix?_append (front rest : List Char) :
    (front ++ rest).dropPrefix? front = some rest :=
  List.dropPrefix?_eq_some_iff.mpr ⟨front, rfl, beq_self_eq_true front⟩

theorem lineEnd_notMem_repr (number : Nat) : '\n' ∉ number.repr.toList := by
  intro hmem
  rw [Nat.toList_repr] at hmem
  have hdigit := Nat.isDigit_of_mem_toDigits (by decide) (by decide) hmem
  contradiction

/-- A number is written on one line. -/
theorem lineEnd_notMem_toString (code : Int) : '\n' ∉ (toString code).toList := by
  rw [Int.toString_eq_repr, Int.repr_eq_if]
  by_cases hsign : 0 ≤ code
  · rw [if_pos hsign]
    exact lineEnd_notMem_repr code.toNat
  · rw [if_neg hsign, String.toList_append, List.mem_append, not_or]
    exact ⟨by decide, lineEnd_notMem_repr (-code).toNat⟩

theorem toList_report (captured : Captured) :
    captured.report.toList = codeLabel.toList ++
      ((toString captured.exitCode).toList ++ (outputLabel.toList ++ captured.output.toList)) := by
  have hreport : captured.report =
      codeLabel ++ toString captured.exitCode ++ outputLabel ++ captured.output := rfl
  rw [hreport]
  simp only [String.toList_append, List.append_assoc]

theorem codeOf_toString (code : Int) : codeOf (toString code).toList = code := by
  rw [Int.toString_eq_repr, Int.repr_eq_if]
  by_cases hsign : 0 ≤ code
  · rw [if_pos hsign, Nat.toList_repr, codeOf]
    · rw [Nat.ofDigitChars_ten_toDigits]
      exact Int.toNat_of_nonneg hsign
    · intro rest hrest
      -- no digit is a sign
      have hdigit := Nat.isDigit_of_mem_toDigits (b := 10) (by decide) (by decide)
        (hrest ▸ List.mem_cons_self)
      contradiction
  · have hcode (digits : List Char) : codeOf ("-".toList ++ digits) =
        -(Nat.ofDigitChars 10 digits 0 : Int) := rfl
    rw [if_neg hsign, String.toList_append, hcode, Nat.toList_repr, Nat.ofDigitChars_ten_toDigits]
    omega

/-- The first line of a report ends where the exit code does. -/
theorem span_report (captured : Captured) :
    let rest := (toString captured.exitCode).toList ++
      (outputLabel.toList ++ captured.output.toList)
    rest.takeWhile (· ≠ '\n') = (toString captured.exitCode).toList ∧
      rest.dropWhile (· ≠ '\n') = outputLabel.toList ++ captured.output.toList := by
  have hcode : ∀ char ∈ (toString captured.exitCode).toList, decide (char ≠ '\n') = true := by
    intro char hchar
    rw [decide_eq_true_iff]
    rintro rfl
    exact lineEnd_notMem_toString captured.exitCode hchar
  have htake (output : List Char) : (outputLabel.toList ++ output).takeWhile (· ≠ '\n') = [] := rfl
  have hdrop (output : List Char) : (outputLabel.toList ++ output).dropWhile (· ≠ '\n') =
      outputLabel.toList ++ output := rfl
  constructor
  · rw [List.takeWhile_append_of_pos hcode, htake, List.append_nil]
  · rw [List.dropWhile_append_of_pos hcode, hdrop]

theorem ofReport?_report (captured : Captured) : ofReport? captured.report = some captured := by
  obtain ⟨hline, houtput⟩ := span_report captured
  rw [ofReport?, toList_report, dropPrefix?_append]
  simp only [Option.bind_eq_bind, Option.bind_some]
  rw [hline, houtput, dropPrefix?_append, codeOf_toString]
  simp only [Option.bind_some, if_true, String.ofList_toList]

/-- What can be taken apart is a report, and just that of what it is taken apart into. -/
theorem ofReport?_eq_some_iff {report : String} {captured : Captured} :
    ofReport? report = some captured ↔ captured.report = report := by
  constructor
  · intro h
    simp only [ofReport?, Option.bind_eq_bind, Option.bind_eq_some_iff,
      List.dropPrefix?_eq_some_iff, beq_iff_eq] at h
    obtain ⟨rest, ⟨_, hreport, rfl⟩, output, ⟨_, hrest, rfl⟩, hcode⟩ := h
    by_cases hline : (toString (codeOf (rest.takeWhile (· ≠ '\n')))).toList =
        rest.takeWhile (· ≠ '\n')
    · rw [if_pos hline] at hcode
      obtain rfl := Option.some.inj hcode
      rw [← String.toList_inj, toList_report, hreport]
      dsimp only
      rw [hline, String.toList_ofList, ← hrest, List.takeWhile_append_dropWhile]
    · rw [if_neg hline] at hcode
      contradiction
  · rintro rfl
    exact ofReport?_report captured

end Captured

namespace Program

/-- The program has a script run to its end, and this is left of it. -/
def Captures (launch : Launcher) (schedule : Schedule) (host : Host) (arguments : List Bytes)
    (captured : Captured) : Prop :=
  ∃ invocation given settings directory request,
    Invocation.parse host.valueOf? arguments = .ok invocation ∧
    invocation.command = .run given ∧
    (Settings.load host invocation.config given.overrides).result = .ok settings ∧
    host.currentPath = .ok directory ∧
    given.request directory = .ok request ∧
    ((settings.command request).supervise launch schedule settings.limit).value.result =
      some (.ok captured)

/-- Standard output is the report, and one line end. -/
theorem output_of_captures {launch : Launcher} {schedule : Schedule} {host : Host}
    {arguments : List Bytes} {captured : Captured}
    (h : Captures launch schedule host arguments captured) (wording : Wording) :
    ∃ left, run wording launch schedule host arguments = some left ∧
      left.output = captured.report ++ "\n" := by
  obtain ⟨invocation, given, settings, directory, request, hparse, hasked, hload, hknown,
    husable, hended⟩ := h
  have hhandled := Invocation.handled_of_usable launch schedule hasked
    (Settings.loadHere_eq_ok_iff.mpr ⟨hload, hknown⟩) husable
  rw [hended] at hhandled
  obtain ⟨events, hrun⟩ := run_eq_map_handled hparse wording launch schedule
  rw [hhandled] at hrun
  exact ⟨_, hrun, rfl⟩

end Program

/-- Reports can be taken apart, so that no two outcomes of a script have the same; and what
has been captured of a script is what the program's standard output, less the line end at its
end, is taken apart into. -/
theorem report_tells_captured :
    Function.Injective Captured.report ∧
    (∀ report captured, Captured.ofReport? report = some captured ↔ captured.report = report) ∧
    ∀ (wording : Wording) (launch : Launcher) (schedule : Schedule) (host : Host)
        (arguments : List Bytes) (captured : Captured),
      Program.Captures launch schedule host arguments captured →
      ∃ left, Program.run wording launch schedule host arguments = some left ∧
        Captured.ofReport? (String.ofList left.output.toList.dropLast) = some captured := by
  refine ⟨?_, fun report captured => Captured.ofReport?_eq_some_iff, ?_⟩
  · intro first second hreport
    have hfirst := Captured.ofReport?_report first
    rw [hreport, Captured.ofReport?_report second] at hfirst
    exact (Option.some.inj hfirst).symm
  · intro wording launch schedule host arguments captured hcaptures
    obtain ⟨left, hrun, houtput⟩ := Program.output_of_captures hcaptures wording
    have hlast : left.output.toList.dropLast = captured.report.toList := by
      rw [houtput, String.toList_append]
      exact List.dropLast_concat
    refine ⟨left, hrun, ?_⟩
    rw [hlast, String.ofList_toList]
    exact Captured.ofReport?_report captured

namespace ReportWitness

open ExitStatusWitness

/-- What a script writes that pretends to have ended well. -/
def pretence : String := "Process exited with code: 0\nProcess output:\n"

theorem captures_pretence (schedule : Schedule) :
    Program.Captures (launcher pretence 3) schedule (host none) (arguments []) ⟨3, pretence⟩ := by
  have hlines : String.join ((lines (Utf8.encode pretence)).map (· ++ "\n")) = pretence := by
    decide +kernel
  refine ⟨invocation 0, given, settings, _, _, parse_arguments_plain, rfl, result_load_overrides,
    currentPath_host, request_given, ?_⟩
  rw [settings, Settings.limit, Option.map_none, result_supervise_launcher, hlines]
  rfl

/-- A report inside the output is not taken for the report. -/
theorem report_tells_captured_of_pretence :
    Program.Captures (launcher pretence 3) .inOrder (host none) (arguments []) ⟨3, pretence⟩ ∧
    ∀ wording, ∃ left,
      Program.run wording (launcher pretence 3) .inOrder (host none) (arguments []) =
        some left ∧
      Captured.ofReport? (String.ofList left.output.toList.dropLast) = some ⟨3, pretence⟩ :=
  ⟨captures_pretence .inOrder, fun wording =>
    report_tells_captured.2.2 wording _ .inOrder _ _ _ (captures_pretence .inOrder)⟩

end ReportWitness

end FolderScript
