/-
What stands on the line of a failure.  Its texts run from the outermost context to the cause,
and none of them should say again what the next one says.  The contexts keep to that; but a
failure with an error of the system behind it has that error in its own text, and once more as
the text that follows.
-/
import FolderScript.Proofs.Program.ExitStatus
import FolderScript.Proofs.Settings.Faults
import Mathlib.Data.List.Chain

namespace FolderScript

/-- No text ends with the one that follows it. -/
def SaysOnce (links : List String) : Prop :=
  links.IsChain fun link next => ¬ next.toList <:+ link.toList

instance : DecidablePred SaysOnce := fun links =>
  inferInstanceAs (Decidable (links.IsChain fun link next => ¬ next.toList <:+ link.toList))

/-- A line that ends with a text given twice in a row. -/
def EndsTwiceWith (line text : String) : Prop :=
  (text ++ ": " ++ text).toList <:+ line.toList

section Links

variable {context link next : String} {links : List String}

theorem saysOnce_singleton (link : String) : SaysOnce [link] := List.isChain_singleton link

theorem SaysOnce.cons (hlinks : SaysOnce (next :: links)) (h : ¬ next.toList <:+ link.toList) :
    SaysOnce (link :: next :: links) :=
  List.isChain_cons_cons.mpr ⟨h, hlinks⟩

theorem not_saysOnce_append (h : next.toList <:+ link.toList) (contexts : List String) :
    ¬ SaysOnce (contexts ++ [link, next]) := fun honce =>
  (List.isChain_cons_cons.mp (List.isChain_append.mp honce).2.1).1 h

theorem endsTwiceWith_intercalate (h : next.toList <:+ link.toList) (contexts : List String) :
    EndsTwiceWith (": ".intercalate (contexts ++ [link, next])) next := by
  induction contexts with
  | nil =>
      obtain ⟨front, hfront⟩ := h
      refine ⟨front, ?_⟩
      simp only [List.nil_append, String.intercalate_cons_cons, String.intercalate_singleton,
        String.toList_append, ← hfront, List.append_assoc]
  | cons context contexts ih =>
      refine List.IsSuffix.trans ih ?_
      rw [List.cons_append, String.intercalate_cons_of_ne_nil (by simp), String.toList_append]
      exact List.suffix_append _ _

/-- A text does not end with one that has a character which it lacks. -/
theorem not_isSuffix_of_mem (char : Char) (hnext : char ∈ next.toList)
    (hlink : char ∉ link.toList) : ¬ next.toList <:+ link.toList :=
  fun h => hlink (h.subset hnext)

theorem mem_toList_append {char : Char} (h : char ∈ link.toList) (rest : String) :
    char ∈ (link ++ rest).toList := by
  rw [String.toList_append]
  exact List.mem_append_left _ h

theorem isSuffix_toList_append (text rest : String) : rest.toList <:+ (text ++ rest).toList := by
  rw [String.toList_append]
  exact List.suffix_append _ _

end Links

namespace Failure

/-- The error of the system ends the text of a failure that has one. -/
theorem message_isSuffix {failure : Failure} {cause : IoError}
    (h : failure.source? = some cause) : cause.message.toList <:+ failure.message.toList := by
  cases failure with
  | launch program error => exact Option.some.inj h ▸ isSuffix_toList_append _ _
  | readOutput error => exact Option.some.inj h ▸ isSuffix_toList_append _ _
  | wait error => exact Option.some.inj h ▸ isSuffix_toList_append _ _
  | _ => contradiction

theorem links_of_source {failure : Failure} {cause : IoError}
    (h : failure.source? = some cause) : failure.links = [failure.message, cause.message] := by
  rw [links, h]
  rfl

theorem links_of_source_eq_none {failure : Failure} (h : failure.source? = none) :
    failure.links = [failure.message] := by
  rw [links, h]
  rfl

/-- A character that every failure has in its text, and the context of a run has not. -/
theorem mem_message (failure : Failure) : 'o' ∈ failure.message.toList := by
  cases failure with
  | missingFolder role => exact (isSuffix_toList_append _ " folder").subset (by decide)
  | launch program cause =>
      exact mem_toList_append (mem_toList_append (mem_toList_append (by decide) _) _) _
  | readOutput cause => exact mem_toList_append (by decide) _
  | wait cause => exact mem_toList_append (by decide) _
  | timedOut seconds => exact mem_toList_append (mem_toList_append (by decide) _) _
  | streamUnavailable stream => exact mem_toList_append (mem_toList_append (by decide) _) _
  | settings reason => exact mem_toList_append (by decide) _

end Failure

namespace Trouble

/-- What the program can fail with, one case for each place that it can come from. -/
inductive IsFinal : Trouble → Prop
  | unread (path : Path) (error : IoError) :
      IsFinal ⟨["Failed to load scriptrun configuration",
        "Failed to read configuration file: " ++ path.display], .io error⟩
  | unparsed (path : Path) (text : String) (fault : DocumentFault) :
      IsFinal ⟨["Failed to load scriptrun configuration",
        "Failed to parse TOML from file: " ++ path.display], .document text fault⟩
  | unplaced (number : Int) :
      IsFinal ⟨["Failed to load scriptrun configuration", "Failed to get current directory"],
        .io (.os number)⟩
  | homeless :
      IsFinal ⟨["Failed to load scriptrun configuration",
        "Failed to expand paths in configuration"], .failure Settings.homeUnknown⟩
  | invalid (settings : Settings) (rule : Settings.Rule) :
      IsFinal ⟨["Failed to load scriptrun configuration",
        "Configuration validation failed"], .failure (rule.failure settings)⟩
  | lost (number : Int) : IsFinal ⟨["Failed to get current directory"], .io (.os number)⟩
  | failed (failure : Failure) : IsFinal ⟨["Script run failed"], .failure failure⟩

/-- What tells its cause twice: a failure with an error of the system behind it, and a settings
file whose path happens to end with what is said of the file. -/
inductive TellsTwice (wording : Wording) : Trouble → Prop
  | failure {contexts : List String} {failure : Failure} {cause : IoError}
      (source : failure.source? = some cause) : TellsTwice wording ⟨contexts, .failure failure⟩
  | unread {context : String} {path : Path} {error : IoError}
      (ends : error.message.toList <:+
        ("Failed to read configuration file: " ++ path.display).toList) :
      TellsTwice wording
        ⟨[context, "Failed to read configuration file: " ++ path.display], .io error⟩
  | unparsed {context : String} {path : Path} {text : String} {fault : DocumentFault}
      (ends : (wording.ofDocument text fault).toList <:+
        ("Failed to parse TOML from file: " ++ path.display).toList) :
      TellsTwice wording
        ⟨[context, "Failed to parse TOML from file: " ++ path.display], .document text fault⟩

variable {wording : Wording} {trouble : Trouble}

theorem TellsTwice.exists_links (h : trouble.TellsTwice wording) :
    ∃ contexts link next, trouble.links wording = contexts ++ [link, next] ∧
      next.toList <:+ link.toList := by
  cases h with
  | failure source =>
      rw [links, Cause.links, Failure.links_of_source source]
      exact ⟨_, _, _, rfl, Failure.message_isSuffix source⟩
  | @unread context path error ends => exact ⟨[context], _, _, rfl, ends⟩
  | @unparsed context path text fault ends => exact ⟨[context], _, _, rfl, ends⟩

/-- An error with a number is said in other words than that the directory is not known. -/
theorem saysOnce_lost (number : Int) :
    SaysOnce ["Failed to get current directory", (IoError.os number).message] :=
  (saysOnce_singleton _).cons
    (not_isSuffix_of_mem ')' ((isSuffix_toList_append _ ")").subset (by decide)) (by decide))

/-- Each context has a character that the one around it lacks. -/
theorem IsFinal.saysOnce (h : trouble.IsFinal) (honce : ¬ trouble.TellsTwice wording) :
    SaysOnce (trouble.links wording) := by
  cases h with
  | unread path error =>
      exact ((saysOnce_singleton _).cons fun ends => honce (.unread ends)).cons
        (not_isSuffix_of_mem ':' (mem_toList_append (by decide) _) (by decide))
  | unparsed path text fault =>
      exact ((saysOnce_singleton _).cons fun ends => honce (.unparsed ends)).cons
        (not_isSuffix_of_mem ':' (mem_toList_append (by decide) _) (by decide))
  | unplaced number =>
      exact (saysOnce_lost number).cons (not_isSuffix_of_mem 'y' (by decide) (by decide))
  | lost number => exact saysOnce_lost number
  | homeless =>
      exact ((saysOnce_singleton _).cons
        (not_isSuffix_of_mem ':' (mem_toList_append (by decide) _) (by decide))).cons
        (not_isSuffix_of_mem 'x' (by decide) (by decide))
  | invalid settings rule =>
      obtain ⟨reason, hreason⟩ : ∃ reason, rule.failure settings = .settings reason := by
        cases rule <;> exact ⟨_, rfl⟩
      rw [hreason]
      exact ((saysOnce_singleton _).cons
        (not_isSuffix_of_mem ':' (mem_toList_append (by decide) _) (by decide))).cons
        (not_isSuffix_of_mem 'v' (by decide) (by decide))
  | failed failure =>
      cases hsource : failure.source? with
      | some cause => exact absurd (.failure hsource) honce
      | none =>
          rw [links, Cause.links, Failure.links_of_source_eq_none hsource]
          exact (saysOnce_singleton _).cons
            (not_isSuffix_of_mem 'o' failure.mem_message (by decide))

theorem IsFinal.saysOnce_iff (h : trouble.IsFinal) :
    SaysOnce (trouble.links wording) ↔ ¬ trouble.TellsTwice wording := by
  refine ⟨fun honce htwice => ?_, h.saysOnce⟩
  obtain ⟨contexts, link, next, hlinks, hends⟩ := htwice.exists_links
  exact not_saysOnce_append hends contexts (hlinks ▸ honce)

end Trouble

namespace Settings

variable {host : Host} {explicit : Option Path} {overrides : Layer} {trouble : Trouble}

theorem eq_of_expandDirectory {home : Option Path} {directory : Path} {failure : Failure}
    (h : expandDirectory home directory = .error failure) : failure = homeUnknown := by
  unfold expandDirectory at h
  split at h
  · cases home with
    | some home => contradiction
    | none => exact (Except.error.inj h).symm
  · contradiction

theorem exists_number_of_currentPath {error : IoError} (h : host.currentPath = .error error) :
    ∃ number, error = .os number := by
  unfold Host.currentPath at h
  split at h
  · exact ⟨2, (Except.error.inj h).symm⟩
  · cases hfault : host.directoryFault with
    | none =>
        rw [hfault] at h
        contradiction
    | some number =>
        rw [hfault] at h
        exact ⟨number, (Except.error.inj h).symm⟩

/-- Loading fails for a file, for want of the current directory or of a home directory, or for
a rule that is broken. -/
theorem isFinal_of_load (h : (load host explicit overrides).result = .error trouble) :
    (trouble.within "Failed to load scriptrun configuration").IsFinal := by
  cases hfiles : Layer.filesInOrder host explicit with
  | error reported =>
      rw [result_load_of_error hfiles] at h
      obtain rfl := Except.error.inj h
      rcases Layer.filesInOrder_eq_error_iff.mp hfiles with
        ⟨path, -, hfault⟩ | ⟨-, -, error, hunknown, rfl⟩
      · cases hfault with
        | unread => exact .unread ..
        | unparsed => exact .unparsed ..
      · obtain ⟨number, rfl⟩ := exists_number_of_currentPath hunknown
        exact .unplaced number
  | ok files =>
      rw [result_load, Layer.result_ofFiles, hfiles] at h
      change ((Settings.expand _ _).result.mapError _).bind _ = _ at h
      rw [result_expand] at h
      cases hdirectory : expandDirectory host.home?
          (overrides.onTopOf (Layer.stacked files)).resolve.workingDirectory with
      | error failure =>
          rw [hdirectory] at h
          obtain rfl := eq_of_expandDirectory hdirectory
          obtain rfl := Except.error.inj h
          exact .homeless
      | ok directory =>
          rw [hdirectory] at h
          change ((Settings.validate _ _).result.mapError _).bind _ = _ at h
          rw [result_validate] at h
          split at h
          · rename_i failure hviolation
            obtain ⟨rule, -, rfl⟩ := violation?_eq_some_iff.mp hviolation
            obtain rfl := Except.error.inj h
            exact .invalid _ rule
          · contradiction

end Settings

theorem Invocation.isFinal_of_handled {launch : Launcher} {schedule : Schedule} {host : Host}
    {invocation : Invocation} {trouble : Trouble}
    (h : invocation.handled launch schedule host = some (.error trouble)) : trouble.IsFinal := by
  have hcomes := comesTo_handled launch schedule host invocation
  rw [h] at hcomes
  cases hcomes with
  | unloaded load => exact Settings.isFinal_of_load load
  | lost _ unknown =>
      obtain ⟨number, rfl⟩ := Settings.exists_number_of_currentPath unknown
      exact .lost number
  | failed => exact .failed _

theorem Stop.exitCode_finished_ne_one (stop : Stop) (environment : String → Option Bytes) :
    (stop.finished environment).exitCode ≠ 1 := by
  cases stop with
  | usage | nothingGiven => exact (by decide : (2 : Nat) ≠ 1)
  | help | version => exact (by decide : (0 : Nat) ≠ 1)

namespace Program

variable {wording : Wording} {launch : Launcher} {schedule : Schedule} {host : Host}
  {arguments : List Bytes} {left : Finished}

/-- The program ends with code 1 for the trouble that its command came to, and for nothing
else. -/
theorem exists_trouble_of_run (hrun : run wording launch schedule host arguments = some left)
    (hfails : left.exitCode = 1) :
    ∃ invocation trouble, Invocation.parse host.valueOf? arguments = .ok invocation ∧
      invocation.handled launch schedule host = some (.error trouble) := by
  cases hparse : Invocation.parse host.valueOf? arguments with
  | error stop =>
      rw [run, hparse] at hrun
      obtain rfl := Option.some.inj hrun
      exact absurd hfails (stop.exitCode_finished_ne_one _)
  | ok invocation =>
      have hleaves := leaves_handled hparse wording launch schedule
      rw [hrun] at hleaves
      cases hhandled : invocation.handled launch schedule host with
      | none =>
          rw [hhandled] at hleaves
          contradiction
      | some result =>
          cases result with
          | ok output =>
              rw [hhandled] at hleaves
              obtain ⟨log, -, hleft⟩ := hleaves
              obtain rfl := Option.some.inj hleft
              contradiction
          | error trouble => exact ⟨invocation, trouble, rfl, hhandled⟩

/-- What a failing program prints after the log.  The texts on the line each say something of
their own, unless the script was not started, not read or not waited for, or the path of a
settings file ends with what is said of it; and then the line ends with the cause twice in a
row.  This hangs on the wording of the faults of a document, which may be any. -/
theorem failure_saysOnce_iff (hrun : run wording launch schedule host arguments = some left)
    (hfails : left.exitCode = 1) :
    ∃ invocation trouble log, Invocation.parse host.valueOf? arguments = .ok invocation ∧
      invocation.handled launch schedule host = some (.error trouble) ∧
      (invocation.logFilter host).Logs wording log ∧
      left = ⟨1, "", log ++ "Error: " ++ ": ".intercalate (trouble.links wording) ++ "\n"⟩ ∧
      ∀ other, (SaysOnce (trouble.links other) ↔ ¬ trouble.TellsTwice other) ∧
        (trouble.TellsTwice other →
          ∃ cause, (trouble.links other).getLast? = some cause ∧
            EndsTwiceWith (": ".intercalate (trouble.links other)) cause) := by
  obtain ⟨invocation, trouble, hparse, hhandled⟩ := exists_trouble_of_run hrun hfails
  have hleaves := leaves_handled hparse wording launch schedule
  rw [hrun, hhandled] at hleaves
  obtain ⟨log, hlogs, hleft⟩ := hleaves
  refine ⟨invocation, trouble, log, hparse, hhandled, hlogs, Option.some.inj hleft,
    fun other => ⟨(Invocation.isFinal_of_handled hhandled).saysOnce_iff, fun htwice => ?_⟩⟩
  obtain ⟨contexts, link, next, hlinks, hends⟩ := htwice.exists_links
  rw [hlinks]
  exact ⟨next, by simp, endsTwiceWith_intercalate hends contexts⟩

end Program

namespace LinksWitness

open ExitStatusWitness (host arguments invocation parse_arguments_plain)

def silent : Wording where
  ofDocument _ _ := ""
  lead _ _ := ""

/-- A machine without any interpreter. -/
def bare : Launcher := fun _ => .error .notFound

def trouble : Trouble := ⟨["Script run failed"], .failure (.launch "python" .notFound)⟩

theorem handled_bare (schedule : Schedule) :
    (invocation 0).handled bare schedule (host none) = some (.error trouble) := by
  have hasked : (invocation 0).command = .run ExitStatusWitness.given := rfl
  have hlaunch (command : Command) : bare command = .error .notFound := rfl
  rw [Invocation.handled_of_usable _ _ hasked (Settings.loadHere_eq_ok_iff.mpr
    ⟨ExitStatusWitness.result_load_overrides, ExitStatusWitness.currentPath_host⟩)
    ExitStatusWitness.request_given, Command.value_supervise_of_error (hlaunch _)]
  rfl

theorem run_bare (wording : Wording) (schedule : Schedule) :
    ∃ left, Program.run wording bare schedule (host none) (arguments []) = some left ∧
      left.exitCode = 1 := by
  have hleaves := Program.leaves_handled parse_arguments_plain wording bare schedule
  rw [handled_bare] at hleaves
  obtain ⟨log, -, hrun⟩ := hleaves
  exact ⟨_, hrun, rfl⟩

/-- A script that is not started for want of its interpreter: the line ends with the reason
twice in a row. -/
theorem failure_saysOnce_iff_bare :
    ∃ left log,
      Program.run silent bare .inOrder (host none) (arguments []) = some left ∧
      left.exitCode = 1 ∧
      left.complaints = log ++ ("Error: Script run failed: Failed to launch 'python': " ++
        "No such file or directory (os error 2): No such file or directory (os error 2)\n") ∧
      ∀ wording, ¬ SaysOnce (trouble.links wording) := by
  obtain ⟨left, hrun, hfails⟩ := run_bare silent .inOrder
  obtain ⟨other, reported, log, hparse, hhandled, -, hleft, hlinks⟩ :=
    Program.failure_saysOnce_iff hrun hfails
  obtain rfl := Except.ok.inj (hparse.symm.trans parse_arguments_plain)
  obtain rfl := Except.error.inj (Option.some.inj (hhandled.symm.trans (handled_bare .inOrder)))
  refine ⟨left, log, hrun, hfails, ?_, fun wording honce =>
    (hlinks wording).1.mp honce (.failure rfl)⟩
  rw [hleft]
  simp only [String.append_assoc]
  exact congrArg (log ++ ·) (by decide +kernel)

/-- The texts of a trouble do not always each say something of their own. -/
theorem cause_told_twice :
    ¬ ∀ (wording : Wording) (launch : Launcher) (schedule : Schedule) (host : Host)
      (arguments : List Bytes) (invocation : Invocation) (trouble : Trouble),
        Invocation.parse host.valueOf? arguments = .ok invocation →
        invocation.handled launch schedule host = some (.error trouble) →
        SaysOnce (trouble.links wording) := by
  intro h
  have honce : SaysOnce (trouble.links silent) :=
    h silent _ .inOrder _ _ _ _ parse_arguments_plain (handled_bare .inOrder)
  exact absurd honce (by decide +kernel)

end LinksWitness

end FolderScript
