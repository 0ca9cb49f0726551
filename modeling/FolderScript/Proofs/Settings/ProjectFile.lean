/-
The search for a project file goes up the chain of parents, by the path as it was
written.  It ends with the first directory that has the file, unless a version control
root was passed before; what lies above the directory it stops at, and what else there is
in those it visits, it never asks for.
-/
import FolderScript.Settings.Discovery
import Mathlib.Data.Nat.Find

namespace FolderScript

/-- Where so many steps to the parent lead. -/
def Path.ancestor? : Path → Nat → Option Path
  | path, 0 => some path
  | path, steps + 1 => path.parent?.bind fun parent => parent.ancestor? steps

theorem Path.getElem?_chain (path : Path) (steps : Nat) :
    path.chain[steps]? = path.ancestor? steps := by
  induction steps generalizing path with
  | zero => rw [chain]; rfl
  | succ steps ih =>
      rw [chain, ancestor?, List.getElem?_cons_succ]
      split
      · rename_i hparent
        rw [hparent]
        rfl
      · rename_i parent hparent
        rw [hparent, ih]
        rfl

/-- The way up ends, at the latest after as many steps as the path has bytes. -/
theorem Path.ancestor?_eq_none {path : Path} {steps : Nat} (h : path.bytes.length < steps) :
    path.ancestor? steps = none := by
  induction steps generalizing path with
  | zero => contradiction
  | succ steps ih =>
      rw [ancestor?]
      cases hparent : path.parent? with
      | none => rfl
      | some parent =>
          have hless := parent?_length_lt hparent
          exact ih (by omega)

/-- A relative path ends in the empty path, which is the directory it is read in. -/
example : (Path.ofText "a//b/").ancestor? 2 = some (Path.ofText "") ∧
    (Path.ofText "a//b/").ancestor? 3 = none := by decide +kernel

namespace Discovery

def hasFile (host : Host) (directory : Path) : Bool :=
  host.files.isFile host.directory (directory.join projectFileName)

/-- Whether a directory is a version control root. -/
def isMarked (host : Host) (directory : Path) : Bool :=
  host.files.isDirectory host.directory (directory.join rootMarker)

/-- Whether the search goes no further than a directory. -/
def stopsAt (host : Host) (directory : Path) : Bool :=
  hasFile host directory || isMarked host directory

theorem value_searchAlong_cons (host : Host) (path : Path) (rest : List Path) :
    (searchAlong host (path :: rest)).value =
      if hasFile host path then some (path.join projectFileName)
      else if isMarked host path then none
      else (searchAlong host rest).value := by
  rw [searchAlong]
  change (if hasFile host path then _ else if isMarked host path then _ else _ :
    Logged (Option Path)).value = _
  split
  · rfl
  · split <;> rfl

/-- The search looks for the first directory that stops it. -/
theorem value_searchAlong (host : Host) (paths : List Path) :
    (searchAlong host paths).value =
      (paths.find? (stopsAt host)).bind fun path =>
        if hasFile host path then some (path.join projectFileName) else none := by
  induction paths with
  | nil => rfl
  | cons path rest ih =>
      rw [value_searchAlong_cons, List.find?_cons]
      cases hfile : hasFile host path with
      | true => simp [stopsAt, hfile]
      | false =>
          cases hmark : isMarked host path with
          | true => simp [stopsAt, hfile, hmark]
          | false => simpa [stopsAt, hfile, hmark] using ih

/-- The search gets as far as a directory: none that it comes to before has the file or
is a root. -/
def IsVisited (host : Host) (start : Path) (steps : Nat) (directory : Path) : Prop :=
  start.ancestor? steps = some directory ∧
    ∀ fewer < steps, ∀ passed, start.ancestor? fewer = some passed →
      hasFile host passed = false ∧ isMarked host passed = false

/-- A directory on the way up that has the file, with no root before it. -/
def IsCandidate (host : Host) (start : Path) (steps : Nat) (directory : Path) : Prop :=
  start.ancestor? steps = some directory ∧ hasFile host directory = true ∧
    ∀ fewer < steps, ∀ passed, start.ancestor? fewer = some passed →
      isMarked host passed = false

variable {host other : Host} {start directory : Path} {steps : Nat}

/-- The way to a visited directory is visited. -/
theorem IsVisited.of_lt (h : IsVisited host start steps directory) {fewer : Nat} {passed : Path}
    (hfewer : fewer < steps) (hpassed : start.ancestor? fewer = some passed) :
    IsVisited host start fewer passed :=
  ⟨hpassed, fun least hleast => h.2 least (Nat.lt_trans hleast hfewer)⟩

theorem stopsAt_eq_false_iff :
    stopsAt host directory = false ↔
      hasFile host directory = false ∧ isMarked host directory = false := by
  rw [stopsAt, Bool.or_eq_false_iff]

/-- The directory that stops the search decides what it comes to. -/
theorem value_projectFile_of_isVisited (h : IsVisited host start steps directory)
    (hstops : stopsAt host directory = true) :
    (projectFile host start).value =
      if hasFile host directory then some (directory.join projectFileName) else none := by
  have hfirst : start.chain.find? (stopsAt host) = some directory := by
    obtain ⟨hdirectory, hbefore⟩ := h
    rw [← Path.getElem?_chain, List.getElem?_eq_some_iff] at hdirectory
    obtain ⟨hsteps, hget⟩ := hdirectory
    rw [List.find?_eq_some_iff_getElem]
    refine ⟨hstops, steps, hsteps, hget, fun fewer hfewer => ?_⟩
    have hlength : fewer < start.chain.length := Nat.lt_trans hfewer hsteps
    have hpassed := hbefore fewer hfewer start.chain[fewer]
      (by rw [← Path.getElem?_chain, List.getElem?_eq_getElem])
    rw [stopsAt_eq_false_iff.mpr hpassed]
    rfl
  rw [projectFile, value_searchAlong, hfirst]
  rfl

/-- A search that nothing stops comes to nothing. -/
theorem value_projectFile_of_not_stopsAt
    (h : ∀ steps directory, start.ancestor? steps = some directory →
      stopsAt host directory = false) :
    (projectFile host start).value = none := by
  have hnone : start.chain.find? (stopsAt host) = none := by
    rw [List.find?_eq_none]
    intro directory hmem
    obtain ⟨steps, hget⟩ := List.getElem?_of_mem hmem
    rw [Path.getElem?_chain] at hget
    simp [h steps directory hget]
  rw [projectFile, value_searchAlong, hnone]
  rfl

/-- Of the directories at some number of steps there is a first one. -/
theorem exists_first {p : Nat → Path → Prop} (h : ∃ steps directory, p steps directory) :
    ∃ steps directory, p steps directory ∧ ∀ fewer < steps, ∀ other, ¬ p fewer other := by
  classical
  obtain ⟨directory, hdirectory⟩ := Nat.find_spec h
  exact ⟨Nat.find h, directory, hdirectory, fun fewer hfewer other hother =>
    Nat.find_min h hfewer ⟨other, hother⟩⟩

/-- A directory stops the search, or nothing does. -/
theorem exists_stopsAt_or_none (host : Host) (start : Path) :
    (∃ steps directory, IsVisited host start steps directory ∧ stopsAt host directory = true) ∨
      ∀ steps directory, start.ancestor? steps = some directory →
        stopsAt host directory = false := by
  by_cases hany : ∃ steps directory, start.ancestor? steps = some directory ∧
      stopsAt host directory = true
  · left
    obtain ⟨steps, directory, ⟨hdirectory, hstops⟩, hfirst⟩ := exists_first hany
    refine ⟨steps, directory, ⟨hdirectory, fun fewer hfewer passed hpassed => ?_⟩, hstops⟩
    have hfree : stopsAt host passed ≠ true :=
      fun hstops => hfirst fewer hfewer passed ⟨hpassed, hstops⟩
    exact stopsAt_eq_false_iff.mp (Bool.eq_false_iff.mpr hfree)
  · right
    intro steps directory hdirectory
    exact Bool.eq_false_iff.mpr fun hstops => hany ⟨steps, directory, hdirectory, hstops⟩

theorem IsVisited.isCandidate (h : IsVisited host start steps directory)
    (hfile : hasFile host directory = true) : IsCandidate host start steps directory :=
  ⟨h.1, hfile, fun fewer hfewer passed hpassed => (h.2 fewer hfewer passed hpassed).2⟩

/-- The first candidate is visited. -/
theorem IsCandidate.isVisited (h : IsCandidate host start steps directory)
    (hfirst : ∀ fewer < steps, ∀ other, ¬ IsCandidate host start fewer other) :
    IsVisited host start steps directory := by
  obtain ⟨hdirectory, -, hmarks⟩ := h
  refine ⟨hdirectory, fun fewer hfewer passed hpassed => ⟨?_, hmarks fewer hfewer passed hpassed⟩⟩
  refine Bool.eq_false_iff.mpr fun hfile => hfirst fewer hfewer passed ⟨hpassed, hfile, ?_⟩
  exact fun least hleast => hmarks least (Nat.lt_trans hleast hfewer)

theorem value_projectFile_of_isCandidate (h : IsCandidate host start steps directory)
    (hfirst : ∀ fewer < steps, ∀ other, ¬ IsCandidate host start fewer other) :
    (projectFile host start).value = some (directory.join projectFileName) := by
  have hstops : stopsAt host directory = true := by rw [stopsAt, h.2.1, Bool.true_or]
  rw [value_projectFile_of_isVisited (h.isVisited hfirst) hstops, if_pos h.2.1]

/-- No candidate stands before a visited directory. -/
theorem IsVisited.not_isCandidate (h : IsVisited host start steps directory) :
    ∀ fewer < steps, ∀ passed, ¬ IsCandidate host start fewer passed := by
  intro fewer hfewer passed hpassed
  have hnot := (h.2 fewer hfewer passed hpassed.1).1
  rw [hpassed.2.1] at hnot
  contradiction

/-- What is found is the file of the first candidate. -/
theorem value_projectFile_eq_some_iff {file : Path} :
    (projectFile host start).value = some file ↔
      ∃ steps directory, IsCandidate host start steps directory ∧
        (∀ fewer < steps, ∀ other, ¬ IsCandidate host start fewer other) ∧
        file = directory.join projectFileName := by
  constructor
  · intro hvalue
    obtain ⟨steps, directory, hvisited, hstops⟩ | hfree := exists_stopsAt_or_none host start
    · rw [value_projectFile_of_isVisited hvisited hstops] at hvalue
      split at hvalue
      · rename_i hfile
        exact ⟨steps, directory, hvisited.isCandidate hfile, hvisited.not_isCandidate,
          (Option.some.inj hvalue).symm⟩
      · contradiction
    · rw [value_projectFile_of_not_stopsAt hfree] at hvalue
      contradiction
  · rintro ⟨steps, directory, hcandidate, hfirst, rfl⟩
    exact value_projectFile_of_isCandidate hcandidate hfirst

/-- Nothing is found if and only if there is no candidate. -/
theorem value_projectFile_eq_none_iff :
    (projectFile host start).value = none ↔
      ∀ steps directory, ¬ IsCandidate host start steps directory := by
  constructor
  · intro hvalue steps directory hcandidate
    obtain ⟨least, found, hfound, hfirst⟩ := exists_first ⟨steps, directory, hcandidate⟩
    rw [value_projectFile_of_isCandidate hfound hfirst] at hvalue
    contradiction
  · intro hnone
    refine Option.eq_none_iff_forall_ne_some.mpr fun file hvalue => ?_
    obtain ⟨steps, directory, hcandidate, -⟩ := value_projectFile_eq_some_iff.mp hvalue
    exact hnone steps directory hcandidate

/-- The two names in the visited directories are all that the search asks for. -/
theorem value_projectFile_congr
    (h : ∀ steps directory, IsVisited host start steps directory →
      hasFile other directory = hasFile host directory ∧
        isMarked other directory = isMarked host directory) :
    (projectFile other start).value = (projectFile host start).value := by
  have hsame : ∀ steps directory, IsVisited host start steps directory →
      stopsAt other directory = stopsAt host directory := by
    intro steps directory hvisited
    obtain ⟨hfile, hmark⟩ := h steps directory hvisited
    rw [stopsAt, stopsAt, hfile, hmark]
  obtain ⟨steps, directory, hvisited, hstops⟩ | hfree := exists_stopsAt_or_none host start
  · have hvisited' : IsVisited other start steps directory := by
      refine ⟨hvisited.1, fun fewer hfewer passed hpassed => ?_⟩
      obtain ⟨hfile, hmark⟩ := h fewer passed (hvisited.of_lt hfewer hpassed)
      rw [hfile, hmark]
      exact hvisited.2 fewer hfewer passed hpassed
    rw [value_projectFile_of_isVisited hvisited hstops,
      value_projectFile_of_isVisited hvisited' (by rw [hsame steps directory hvisited, hstops]),
      (h steps directory hvisited).1]
  · have hall : ∀ steps directory, start.ancestor? steps = some directory →
        IsVisited host start steps directory := fun steps directory hdirectory =>
      ⟨hdirectory, fun fewer _ passed hpassed =>
        stopsAt_eq_false_iff.mp (hfree fewer passed hpassed)⟩
    rw [value_projectFile_of_not_stopsAt hfree, value_projectFile_of_not_stopsAt]
    intro steps directory hdirectory
    rw [hsame steps directory (hall steps directory hdirectory), hfree steps directory hdirectory]

/-- The way up from any path ends, and what is found on it is the file of the first
directory that has one with no version control root passed before; nothing is found if and
only if there is no such directory.  So a file beside the root's mark is found, and none
above it is; and a host that has the same under the two names in each directory that is
visited gives the same, whatever else it has there or higher up. -/
theorem projectFile_nearest (host : Host) (start : Path) :
    (∃ bound, ∀ steps, bound ≤ steps → start.ancestor? steps = none) ∧
    (∀ file, (projectFile host start).value = some file ↔
      ∃ steps directory, IsCandidate host start steps directory ∧
        (∀ fewer < steps, ∀ other, ¬ IsCandidate host start fewer other) ∧
        file = directory.join projectFileName) ∧
    ((projectFile host start).value = none ↔
      ∀ steps directory, ¬ IsCandidate host start steps directory) ∧
    (∀ steps directory, IsVisited host start steps directory →
      isMarked host directory = true →
      (projectFile host start).value =
        if hasFile host directory then some (directory.join projectFileName) else none) ∧
    ∀ other : Host,
      (∀ steps directory, IsVisited host start steps directory →
        hasFile other directory = hasFile host directory ∧
          isMarked other directory = isMarked host directory) →
      (projectFile other start).value = (projectFile host start).value := by
  refine ⟨⟨start.bytes.length + 1, fun steps hsteps => Path.ancestor?_eq_none hsteps⟩,
    fun file => value_projectFile_eq_some_iff, value_projectFile_eq_none_iff,
    fun steps directory hvisited hmark => ?_, fun other => value_projectFile_congr⟩
  exact value_projectFile_of_isVisited hvisited (by rw [stopsAt, hmark, Bool.or_true])

end Discovery

end FolderScript
