/-
What the machine starts for a command, and what a run on it comes to.  A name stands for
the first place of the search path that something can be carried out at, and what is
carried out is always a program that is there, however many scripts lead to it.
-/
import FolderScript.Machine
import FolderScript.Proofs.Outcome
import FolderScript.Proofs.Process.Limit
import Mathlib.Data.List.Infix

namespace FolderScript

namespace Shell.Lookup

variable {files : FileSystem} {directory : Position} {name : Text} {arguments : List Text}

/-- The failures of one place that leave the others to be tried. -/
def isPassedOver (error : IoError) : Prop :=
  error = .permissionDenied ∨ error = .notFound ∨ error = .notDirectory

/-- What carries a path out is a program in the file system, and it is handed the arguments
of the command, after what the scripts on the way put in front. -/
theorem exists_program_of_resolve {depth : Nat} {path calledAs : Text} {found : Resolved}
    (h : resolve files directory depth path calledAs arguments = .ok found) :
    (∃ program position node, files.nodeAt false directory ⟨Text.toBytes program⟩ =
        .ok (position, node) ∧ node.entry = .program found.program) ∧
      arguments <:+ found.arguments := by
  induction depth generalizing path calledAs arguments with
  | zero => contradiction
  | succ depth ih =>
      rw [resolve] at h
      split at h
      · contradiction
      · next position node hnode =>
          split at h
          · next program hprogram =>
              obtain rfl := Except.ok.inj h
              exact ⟨⟨path, position, node, hnode, hprogram⟩, List.suffix_refl arguments⟩
          · contradiction
          · contradiction
          · contradiction
          · next data =>
              split at h
              · contradiction
              · split at h
                · contradiction
                · next interpreter given hinterpreter =>
                    split at h
                    · contradiction
                    · obtain ⟨hprogram, hsuffix⟩ := ih h
                      refine ⟨hprogram, List.IsSuffix.trans ?_ hsuffix⟩
                      exact ⟨given ++ [path], by simp⟩

/-- What is found at the first of some places that anything can be carried out at, the ones
before it being passed over. -/
inductive FindsFirst (files : FileSystem) (directory : Position) (name : Text)
    (arguments : List Text) (found : Resolved) : List Text → Prop
  | here {place : Text} {rest : List Text}
      (carried : resolve files directory 5 place name arguments = .ok found) :
      FindsFirst files directory name arguments found (place :: rest)
  | later {place : Text} {rest : List Text} {error : IoError}
      (failed : resolve files directory 5 place name arguments = .error error)
      (passed : isPassedOver error)
      (others : FindsFirst files directory name arguments found rest) :
      FindsFirst files directory name arguments found (place :: rest)

theorem attempt_of_passedOver {error : IoError} {place : Text}
    (hplace : resolve files directory 5 place name arguments = .error error)
    (hpassed : isPassedOver error) (denied : Bool) (last : IoError) (rest : List Text) :
    ∃ denied' last', attempt files directory name arguments denied last (place :: rest) =
      attempt files directory name arguments denied' last' rest := by
  rw [attempt, hplace]
  rcases hpassed with rfl | hmissing
  · exact ⟨true, .permissionDenied, rfl⟩
  · by_cases hdenied : error = .permissionDenied
    · exact ⟨true, error, by simp [hdenied]⟩
    · exact ⟨denied, error, by simp [hdenied, hmissing]⟩

theorem attempt_of_kept {error : IoError} {place : Text}
    (hplace : resolve files directory 5 place name arguments = .error error)
    (hkept : ¬ isPassedOver error) (denied : Bool) (last : IoError) (rest : List Text) :
    attempt files directory name arguments denied last (place :: rest) = .error error := by
  simp only [isPassedOver, not_or] at hkept
  simp [attempt, hplace, hkept]

/-- Trying places in turn finds what is at the first of them. -/
theorem attempt_eq_ok_iff {denied : Bool} {last : IoError} {places : List Text}
    {found : Resolved} :
    attempt files directory name arguments denied last places = .ok found ↔
      FindsFirst files directory name arguments found places := by
  induction places generalizing denied last with
  | nil =>
      constructor
      · intro h
        simp [attempt] at h
      · intro h
        cases h
  | cons place rest ih =>
      constructor
      · intro h
        cases hplace : resolve files directory 5 place name arguments with
        | ok here =>
            rw [attempt, hplace] at h
            obtain rfl := Except.ok.inj h
            exact .here hplace
        | error error =>
            by_cases hpassed : isPassedOver error
            · obtain ⟨denied', last', hrest⟩ :=
                attempt_of_passedOver hplace hpassed denied last rest
              exact .later hplace hpassed (ih.mp (hrest.symm.trans h))
            · rw [attempt_of_kept hplace hpassed] at h
              contradiction
      · intro h
        cases h with
        | here hplace => rw [attempt, hplace]
        | later hplace hpassed others =>
            obtain ⟨denied', last', hrest⟩ :=
              attempt_of_passedOver hplace hpassed denied last rest
            exact hrest.trans (ih.mpr others)

/-- The parts of a search path, as the signs between them have it. -/
def parts (search : Text) : List Text :=
  search.foldr
    (fun char (parts : List Text) =>
      match parts with
      | [] => [[char]]
      | part :: others => if char = ':' then [] :: part :: others else (char :: part) :: others)
    [[]]

theorem parts_cons {rest part : Text} {others : List Text} (h : parts rest = part :: others)
    (char : Char) :
    parts (char :: rest) =
      if char = ':' then [] :: part :: others else (char :: part) :: others := by
  rw [parts, List.foldr_cons, ← parts, h]

/-- The parts of a search path hold no sign, and make it up with signs between them. -/
theorem parts_spec (search : Text) :
    List.intercalate [':'] (parts search) = search ∧ ∀ part ∈ parts search, ':' ∉ part := by
  have hparts : ∃ part others, parts search = part :: others ∧
      List.intercalate [':'] (part :: others) = search ∧
      ∀ other ∈ part :: others, ':' ∉ other := by
    induction search with
    | nil => exact ⟨[], [], rfl, rfl, by simp⟩
    | cons char rest ih =>
        obtain ⟨part, others, hrest, hjoined, hclear⟩ := ih
        by_cases hsign : char = ':'
        · refine ⟨[], part :: others, by rw [parts_cons hrest, if_pos hsign], ?_, ?_⟩
          · rw [hsign, List.intercalate_cons_cons, hjoined]
            rfl
          · exact List.forall_mem_cons.mpr ⟨by simp, hclear⟩
        · refine ⟨char :: part, others, by rw [parts_cons hrest, if_neg hsign], ?_, ?_⟩
          · rw [← hjoined]
            cases others <;> simp [List.intercalate]
          · obtain ⟨hpart, hothers⟩ := List.forall_mem_cons.mp hclear
            exact List.forall_mem_cons.mpr ⟨by simp [hpart, Ne.symm hsign], hothers⟩
  obtain ⟨part, others, hsearch, hjoined, hclear⟩ := hparts
  rw [hsearch]
  exact ⟨hjoined, hclear⟩

theorem candidates_eq (search : Text) (hname : '/' ∉ name) :
    candidates (some search) name =
      (parts search).map fun part => if part = [] then name else part ++ '/' :: name := by
  rw [candidates, if_neg (by simpa using hname)]
  rfl

/-- A program is found by its name just at the first of its candidates. -/
theorem find_eq_ok_iff {search : Option Text} {found : Resolved} :
    find files directory search name arguments = .ok found ↔
      name ≠ [] ∧ FindsFirst files directory name arguments found (candidates search name) := by
  by_cases hname : name = []
  · simp [find, hname]
  · rw [find, if_neg hname, attempt_eq_ok_iff]
    exact (and_iff_right hname).symm

theorem FindsFirst.exists_place {found : Resolved} {places : List Text}
    (h : FindsFirst files directory name arguments found places) :
    ∃ place ∈ places, resolve files directory 5 place name arguments = .ok found := by
  induction h with
  | here carried => exact ⟨_, List.mem_cons_self, carried⟩
  | later _ _ _ ih =>
      obtain ⟨place, hplace, hcarried⟩ := ih
      exact ⟨place, List.mem_cons_of_mem _ hplace, hcarried⟩

end Shell.Lookup

namespace Machine

variable {host : Host} {command : Command} {fate : Fate}

theorem exists_of_launcher (h : launcher host command = .ok fate) :
    ∃ position found,
      host.files.locate host.directory command.directory = .ok (position, .directory) ∧
      Shell.Lookup.find host.files position ((host.valueOf? "PATH").map Shell.Text.ofBytes)
        (Shell.Text.ofString command.program) (command.arguments.map Shell.Text.ofString) =
          .ok found ∧
      ∀ readers,
        fate readers =
          Function.uncurry life (followed found (initial host position readers) portions) := by
  obtain ⟨outcome, houtcome, rfl⟩ := map_eq_ok_iff.mp h
  unfold perform at houtcome
  dsimp only at houtcome
  split at houtcome
  · contradiction
  · split at houtcome
    · contradiction
    · next position hposition =>
        split at houtcome
        · contradiction
        · next found hfound =>
            split at houtcome
            · contradiction
            · obtain rfl := Except.ok.inj houtcome
              exact ⟨position, found, hposition, hfound, fun readers => rfl⟩
    · contradiction

/-- No read of what the machine carries out fails, its end can be collected, and it can be
killed. -/
theorem isQuiet_of_launcher (h : launcher host command = .ok fate) (readers : Readers) :
    (fate readers).IsQuiet ∧ (fate readers).killFault = none := by
  obtain ⟨position, found, -, -, hlife⟩ := exists_of_launcher h
  rw [hlife readers]
  exact ⟨⟨rfl, rfl⟩, rfl⟩

/-- A command that is started leads the life of a program that is there, carried out in a
directory that is there and with the arguments of the command last. -/
theorem exists_program_of_launcher (h : launcher host command = .ok fate) :
    ∃ position found,
      host.files.locate host.directory command.directory = .ok (position, .directory) ∧
      (∃ place program node, host.files.nodeAt false position ⟨Shell.Text.toBytes place⟩ =
        .ok (program, node) ∧ node.entry = .program found.program) ∧
      command.arguments.map Shell.Text.ofString <:+ found.arguments ∧
      ∀ readers, fate readers =
        Function.uncurry life (followed found (initial host position readers) portions) := by
  obtain ⟨position, found, hposition, hfound, hlife⟩ := exists_of_launcher h
  obtain ⟨place, -, hcarried⟩ := (Shell.Lookup.find_eq_ok_iff.mp hfound).2.exists_place
  obtain ⟨hprogram, hsuffix⟩ := Shell.Lookup.exists_program_of_resolve hcarried
  exact ⟨position, found, hposition, hprogram, hsuffix, hlife⟩

/-- A run on the machine fails to start, captures the output of a child that is done in
time, or meets the limit. -/
theorem result_supervise_launcher (host : Host) (command : Command) (schedule : Schedule)
    (limit : Option Duration) :
    let result := (command.supervise (launcher host) schedule limit).value.result
    (∃ cause, launcher host command = .error cause ∧
      result = some (.error (.launch command.program cause))) ∨
    ∃ fate, launcher host command = .ok fate ∧
      ((∃ ending output, (fate {}).IsDoneBy limit ending ∧
        result = some (.ok ⟨ending.code, output⟩)) ∨
      ((∀ ending, ¬ (fate {}).IsDoneBy limit ending) ∧
        result = limit.map fun deadline => .error (.timedOut deadline.seconds))) := by
  dsimp only
  generalize hresult : (command.supervise (launcher host) schedule limit).value.result = result
  have hran := Command.ran_supervise (launcher host) schedule command limit
  rw [hresult] at hran
  cases hran with
  | refused launched => exact .inl ⟨_, launched, rfl⟩
  | @supervised fate supervised launched ends =>
      refine .inr ⟨fate, launched, ?_⟩
      have hquiet := (isQuiet_of_launcher launched {}).1
      by_cases hdone : ∃ ending, (fate {}).IsDoneBy limit ending
      · obtain ⟨ending, hending⟩ := hdone
        obtain ⟨output, houtput⟩ := ends.result_of_isDoneBy hquiet hending
        exact .inl ⟨ending, output, hending, houtput⟩
      · have hundone := not_exists.mp hdone
        refine .inr ⟨hundone, ?_⟩
        cases limit with
        | some deadline => exact ends.result_of_undone hquiet hundone
        | none =>
            cases ends with
            | unreadable fault => exact absurd fault (hquiet.not_meets _ _)
            | uncollected _ done | completed _ done => exact absurd done (hundone _)
            | expired _ _ limited => contradiction
            | endless => rfl

end Machine

end FolderScript
