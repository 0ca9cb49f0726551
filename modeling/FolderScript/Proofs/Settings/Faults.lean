/-
Why settings cannot be loaded.  The files come first, in the order in which they are read, and
then the rules, in the order in which they are checked; the first fault is reported.  A file
has to be in order whatever is set above it, but of the values that it sets only those count
that no higher source sets.
-/
import FolderScript.Proofs.Settings.Rules

namespace FolderScript

theorem findSome?_eq_some_iff_isFirstOf {α β : Type} {f : α → Option β} {list : List α} {y : β} :
    list.findSome? f = some y ↔
      ∃ x, IsFirstOf (fun x => ∃ y, f x = some y) list x ∧ f x = some y := by
  simp only [List.findSome?_eq_some_iff, IsFirstOf, not_exists, ← Option.eq_none_iff_forall_ne_some]
  constructor
  · rintro ⟨before, x, after, hlist, hx, hbefore⟩
    exact ⟨x, ⟨⟨y, hx⟩, before, after, hlist, hbefore⟩, hx⟩
  · rintro ⟨x, ⟨-, before, after, hlist, hbefore⟩, hx⟩
    exact ⟨before, x, after, hlist, hx, hbefore⟩

namespace Layer

/-- The project file, if there is one and the current directory is known. -/
def projectFile? (host : Host) : Option Path :=
  host.currentPath.toOption.bind fun directory => (Discovery.projectFile host directory).value

/-- The settings files that are read, in this order: the named one alone, or the file of the
user if its path exists and the project file if there is one. -/
def filesRead (host : Host) : Option Path → List Path
  | some path => [path]
  | none =>
      ((Discovery.userFile? host).filter (host.files.pathExists host.directory)).toList ++
        (projectFile? host).toList

/-- What is wrong with a file: its text cannot be had, or is not that of a layer. -/
inductive FileFault (host : Host) (path : Path) : Trouble → Prop
  | unread {error : IoError} : host.files.readText host.directory path = .error error →
      FileFault host path
        ⟨["Failed to read configuration file: " ++ path.display], .io error⟩
  | unparsed {text : String} {fault : DocumentFault} :
      host.files.readText host.directory path = .ok text → parse text = .error fault →
      FileFault host path
        ⟨["Failed to parse TOML from file: " ++ path.display], .document text fault⟩

/-- The project file cannot be looked for, since the current directory is not known. -/
def Unplaced (host : Host) (explicit : Option Path) (trouble : Trouble) : Prop :=
  explicit = none ∧ ∃ error, host.currentPath = .error error ∧
    trouble = ⟨["Failed to get current directory"], .io error⟩

variable {host : Host} {path : Path} {explicit : Option Path} {trouble : Trouble}

theorem result_ofFile (host : Host) (path : Path) :
    (ofFile host path).result =
      match host.files.readText host.directory path with
      | .error error =>
          .error ⟨["Failed to read configuration file: " ++ path.display], .io error⟩
      | .ok text =>
          (parse text).mapError fun fault =>
            ⟨["Failed to parse TOML from file: " ++ path.display], .document text fault⟩ := by
  simp only [ofFile, Attempt.result_bind, Attempt.result_within, Attempt.result_ofExcept]
  cases host.files.readText host.directory path with
  | error error => rfl
  | ok text =>
      change ((parse text).mapError _).mapError _ = (parse text).mapError _
      cases parse text <;> rfl

theorem result_ofFile_eq_error_iff :
    (ofFile host path).result = .error trouble ↔ FileFault host path trouble := by
  rw [result_ofFile]
  constructor
  · intro h
    split at h
    · rename_i error hread
      exact Except.error.inj h ▸ .unread hread
    · rename_i text hread
      cases hparse : parse text with
      | error fault =>
          rw [hparse] at h
          exact Except.error.inj h ▸ .unparsed hread hparse
      | ok layer =>
          rw [hparse] at h
          contradiction
  · rintro (hread | ⟨hread, hparse⟩)
    · rw [hread]
    · rw [hread]
      dsimp only
      rw [hparse]
      rfl

/-- What is wrong with a file, if anything is. -/
def fault? (host : Host) (path : Path) : Option Trouble :=
  match (ofFile host path).result with
  | .error trouble => some trouble
  | .ok _ => none

theorem fault?_eq_some_iff : fault? host path = some trouble ↔ FileFault host path trouble := by
  rw [← result_ofFile_eq_error_iff, fault?]
  cases (ofFile host path).result <;> simp

def ofFile? (host : Host) : Option Path → Except Trouble Layer
  | none => .ok empty
  | some path => (ofFile host path).result

theorem result_ofUser (host : Host) :
    (ofUser host).result =
      ofFile? host ((Discovery.userFile? host).filter (host.files.pathExists host.directory)) := by
  unfold ofUser
  cases Discovery.userFile? host with
  | none => rfl
  | some path =>
      dsimp only
      rw [Option.filter_some]
      split
      · exact Attempt.result_emit_bind ..
      · rfl

theorem result_ofProject (host : Host) :
    (ofProject host).result =
      match host.currentPath with
      | .error error => .error ⟨["Failed to get current directory"], .io error⟩
      | .ok _ => ofFile? host (projectFile? host) := by
  rw [ofProject, Attempt.result_bind, Attempt.result_ofExcept, Host.currentDirectory, projectFile?]
  cases host.currentPath with
  | error error => rfl
  | ok directory =>
      change (match (Discovery.projectFile host directory).value with
        | some path => _
        | none => _ : Attempt Layer).result =
          ofFile? host (Discovery.projectFile host directory).value
      cases (Discovery.projectFile host directory).value with
      | none => rfl
      | some path => exact Attempt.result_emit_bind ..

theorem ofFile?_eq_error_iff {file : Option Path} :
    ofFile? host file = .error trouble ↔ file.toList.findSome? (fault? host) = some trouble := by
  cases file with
  | none => simp [ofFile?]
  | some path => simp [ofFile?, result_ofFile_eq_error_iff, fault?_eq_some_iff]

theorem findSome?_fault?_of_ok {file : Option Path} {layer : Layer}
    (h : ofFile? host file = .ok layer) : file.toList.findSome? (fault? host) = none := by
  refine Option.eq_none_iff_forall_ne_some.mpr fun trouble htrouble => ?_
  rw [ofFile?_eq_error_iff.mpr htrouble] at h
  contradiction

/-- The files come first, and then the search for a project file. -/
theorem filesInOrder_eq_error_iff_findSome? :
    filesInOrder host explicit = .error trouble ↔
      (filesRead host explicit).findSome? (fault? host) = some trouble ∨
        (filesRead host explicit).findSome? (fault? host) = none ∧
          Unplaced host explicit trouble := by
  cases explicit with
  | some path =>
      have hnamed : ofFile? host (some path) = .error trouble ↔
          (filesRead host (some path)).findSome? (fault? host) = some trouble :=
        ofFile?_eq_error_iff
      rw [filesInOrder, map_eq_error_iff, ← hnamed]
      simp [Unplaced, ofFile?]
  | none =>
      rw [filesInOrder, result_ofUser, result_ofProject, filesRead, List.findSome?_append]
      cases huser : ofFile? host
          ((Discovery.userFile? host).filter (host.files.pathExists host.directory)) with
      | error found =>
          rw [ofFile?_eq_error_iff.mp huser]
          simp [bind, Except.bind]
      | ok user =>
          rw [findSome?_fault?_of_ok huser, Option.none_or, ← ofFile?_eq_error_iff]
          cases hknown : host.currentPath with
          | error error =>
              simp [projectFile?, hknown, Unplaced, ofFile?, bind, Except.bind, Except.toOption,
                eq_comm]
          | ok directory =>
              simp only [Unplaced, hknown, reduceCtorEq, false_and, exists_false, and_false,
                or_false]
              exact map_eq_error_iff

theorem findSome?_fault?_filesRead_eq_none_iff :
    (filesRead host explicit).findSome? (fault? host) = none ↔
      ∀ path ∈ filesRead host explicit, ∀ trouble, ¬ FileFault host path trouble := by
  rw [List.findSome?_eq_none_iff]
  refine forall₂_congr fun path _ => ?_
  rw [Option.eq_none_iff_forall_ne_some]
  exact forall_congr' fun trouble => not_congr fault?_eq_some_iff

/-- The files fail for the first of them that does, or else because the project file cannot be
looked for. -/
theorem filesInOrder_eq_error_iff :
    filesInOrder host explicit = .error trouble ↔
      (∃ path, IsFirstOf (fun path => ∃ trouble, FileFault host path trouble)
        (filesRead host explicit) path ∧ FileFault host path trouble) ∨
      (∀ path ∈ filesRead host explicit, ∀ trouble, ¬ FileFault host path trouble) ∧
        Unplaced host explicit trouble := by
  rw [filesInOrder_eq_error_iff_findSome?, findSome?_fault?_filesRead_eq_none_iff]
  simp only [findSome?_eq_some_iff_isFirstOf, fault?_eq_some_iff]

/-- If any of the files has a fault, that of the first one is reported. -/
theorem exists_filesInOrder_eq_error (hpath : path ∈ filesRead host explicit)
    (hfault : FileFault host path trouble) :
    ∃ first ∈ filesRead host explicit, ∃ reported, FileFault host first reported ∧
      filesInOrder host explicit = .error reported := by
  cases hreported : (filesRead host explicit).findSome? (fault? host) with
  | none => exact absurd hfault (findSome?_fault?_filesRead_eq_none_iff.mp hreported path hpath _)
  | some reported =>
      obtain ⟨first, ⟨-, before, after, hread, -⟩, hfirst⟩ :=
        findSome?_eq_some_iff_isFirstOf.mp hreported
      exact ⟨first, hread ▸ List.mem_append_right before List.mem_cons_self, reported,
        fault?_eq_some_iff.mp hfirst, filesInOrder_eq_error_iff_findSome?.mpr (.inl hreported)⟩

/-- A named file that is not there cannot be read. -/
theorem fileFault_of_absent (h : host.files.pathExists host.directory path = false) :
    ∃ error, FileFault host path
      ⟨["Failed to read configuration file: " ++ path.display], .io error⟩ := by
  unfold FileSystem.pathExists FileSystem.stat FileSystem.locate at h
  suffices hread : ∃ error, host.files.readText host.directory path = .error error by
    obtain ⟨error, hread⟩ := hread
    exact ⟨error, .unread hread⟩
  unfold FileSystem.readText FileSystem.read
  by_cases hzero : 0 ∈ path.bytes
  · exact ⟨_, by rw [if_pos hzero]⟩
  · rw [if_neg hzero] at h ⊢
    cases hnode : host.files.nodeAt false host.directory path with
    | error error => exact ⟨error, rfl⟩
    | ok found =>
        rw [hnode] at h
        contradiction

end Layer

namespace Settings

variable {host other : Host} {home : Path} {explicit : Option Path} {overrides : Layer}
  {files others : List Layer} {settings : Settings} {trouble : Trouble}

theorem Decided.unique {home : Option Path} {layers : List Layer} {other : Settings}
    (hsettings : Decided home layers settings) (hother : Decided home layers other) :
    settings = other := by
  have hunmoved := hsettings.unmoved hother
  cases settings
  cases other
  rw [Settings.mk.injEq]
  exact ⟨hunmoved.interpreter rfl, hunmoved.scriptPath rfl, hunmoved.workingDirectory rfl,
    hunmoved.timeout rfl⟩

theorem result_load_of_error (h : Layer.filesInOrder host explicit = .error trouble)
    (overrides : Layer) : (load host explicit overrides).result = .error trouble := by
  rw [result_load, Layer.result_ofFiles, h]
  rfl

/-- Where all files are in order and the home directory is known, the settings are those that
the sources decide, and only a broken rule stands against them. -/
theorem result_load_of_ok (hhome : host.home? = some home)
    (h : Layer.filesInOrder host explicit = .ok files) (overrides : Layer) :
    ∃ settings, Decided host.home? (overrides :: files) settings ∧
      (load host explicit overrides).result =
        match settings.violation? host with
        | some failure => .error ⟨["Configuration validation failed"], .failure failure⟩
        | none => .ok settings := by
  have hfiles : (Layer.ofFiles host explicit).result = .ok (Layer.stacked files) := by
    rw [Layer.result_ofFiles, h]
    rfl
  obtain ⟨settings, hexpand⟩ :
      ∃ settings, ((Layer.stacked (overrides :: files)).resolve.expand host.home?).result =
        .ok settings := by
    obtain ⟨directory, hdirectory⟩ := exists_expandDirectory home
      (Layer.stacked (overrides :: files)).resolve.workingDirectory
    rw [result_expand, hhome, hdirectory]
    exact ⟨_, rfl⟩
  refine ⟨settings, decided_of_expand hexpand, ?_⟩
  rw [Layer.stacked_cons] at hexpand
  rw [result_load, hfiles]
  change ((Settings.expand _ _).result.mapError _).bind _ = _
  rw [hexpand]
  change ((Settings.validate _ _).result.mapError _).bind _ = _
  rw [result_validate]
  cases settings.violation? host <;> rfl

/-- Why settings cannot be loaded. -/
inductive LoadFault (host : Host) (explicit : Option Path) (overrides : Layer) : Trouble → Prop
  /-- The first file that has a fault is to blame, whatever would come of the others. -/
  | file {path : Path} {trouble : Trouble} :
      IsFirstOf (fun path => ∃ trouble, Layer.FileFault host path trouble)
        (Layer.filesRead host explicit) path →
      Layer.FileFault host path trouble → LoadFault host explicit overrides trouble
  /-- The current directory is not known, so the project file cannot be looked for. -/
  | unplaced {trouble : Trouble} :
      (∀ path ∈ Layer.filesRead host explicit, ∀ trouble, ¬ Layer.FileFault host path trouble) →
      Layer.Unplaced host explicit trouble → LoadFault host explicit overrides trouble
  /-- All files are in order, and the first rule is to blame that the settings break to which
  the sources come. -/
  | rule {files : List Layer} {settings : Settings} {rule : Rule} :
      Layer.filesInOrder host explicit = .ok files →
      Decided host.home? (overrides :: files) settings →
      IsFirstOf (settings.Breaks host) Rule.inOrder rule →
      LoadFault host explicit overrides
        ⟨["Configuration validation failed"], .failure (rule.failure settings)⟩

theorem result_load_eq_error_iff (hhome : host.home? = some home) :
    (load host explicit overrides).result = .error trouble ↔
      LoadFault host explicit overrides trouble := by
  constructor
  · intro h
    cases hfiles : Layer.filesInOrder host explicit with
    | error reported =>
        rw [result_load_of_error hfiles, Except.error.injEq] at h
        subst h
        rcases Layer.filesInOrder_eq_error_iff.mp hfiles with
          ⟨path, hfirst, hfault⟩ | ⟨hnone, hunplaced⟩
        · exact .file hfirst hfault
        · exact .unplaced hnone hunplaced
    | ok files =>
        obtain ⟨settings, hdecided, hload⟩ := result_load_of_ok hhome hfiles overrides
        rw [hload] at h
        split at h
        · rename_i failure hviolation
          obtain ⟨rule, hfirst, rfl⟩ := violation?_eq_some_iff.mp hviolation
          exact Except.error.inj h ▸ .rule hfiles hdecided hfirst
        · contradiction
  · rintro (⟨hfirst, hfault⟩ | ⟨hnone, hunplaced⟩ | ⟨hfiles, hdecided, hfirst⟩)
    · exact result_load_of_error
        (Layer.filesInOrder_eq_error_iff.mpr (.inl ⟨_, hfirst, hfault⟩)) overrides
    · exact result_load_of_error
        (Layer.filesInOrder_eq_error_iff.mpr (.inr ⟨hnone, hunplaced⟩)) overrides
    · obtain ⟨settings, hsettings, hload⟩ := result_load_of_ok hhome hfiles overrides
      obtain rfl := hdecided.unique hsettings
      rw [hload, violation?_eq_some_iff.mpr ⟨_, hfirst, rfl⟩]

/-- For each field the first value that is set is the same: what a higher source hides need
not be. -/
structure AgreeOnTop (layers others : List Layer) : Prop where
  interpreter : layers.findSome? Layer.interpreter = others.findSome? Layer.interpreter
  scriptPath : layers.findSome? Layer.scriptPath = others.findSome? Layer.scriptPath
  workingDirectory :
    layers.findSome? Layer.workingDirectory = others.findSome? Layer.workingDirectory
  timeout : layers.findSome? Layer.timeout = others.findSome? Layer.timeout

theorem Decided.of_agreeOnTop {home : Option Path} {layers : List Layer}
    (hsettings : Decided home layers settings) (h : AgreeOnTop layers others) :
    Decided home others settings where
  interpreter := h.interpreter ▸ hsettings.interpreter
  scriptPath := h.scriptPath ▸ hsettings.scriptPath
  workingDirectory := h.workingDirectory ▸ hsettings.workingDirectory
  timeout := h.timeout ▸ hsettings.timeout

/-- Hosts whose files are in order and differ in hidden values only, and on which the working
directory that comes out is there or is not there alike. -/
structure DifferBelow (host other : Host) (explicit : Option Path) (overrides : Layer) :
    Prop where
  home : other.home? = host.home?
  files : ∃ files others, Layer.filesInOrder host explicit = .ok files ∧
    Layer.filesInOrder other explicit = .ok others ∧
    AgreeOnTop (overrides :: files) (overrides :: others)
  workingDirectory : ∀ files settings, Layer.filesInOrder host explicit = .ok files →
    Decided host.home? (overrides :: files) settings →
    other.files.pathExists other.directory settings.workingDirectory =
        host.files.pathExists host.directory settings.workingDirectory ∧
      other.files.isDirectory other.directory settings.workingDirectory =
        host.files.isDirectory host.directory settings.workingDirectory

theorem DifferBelow.result_load (h : DifferBelow host other explicit overrides)
    (hhome : host.home? = some home) :
    (load other explicit overrides).result = (load host explicit overrides).result := by
  obtain ⟨files, others, hfiles, hothers, hagree⟩ := h.files
  obtain ⟨settings, hsettings, hload⟩ := result_load_of_ok hhome hfiles overrides
  obtain ⟨found, hfound, hother⟩ := result_load_of_ok (h.home.trans hhome) hothers overrides
  rw [h.home] at hfound
  obtain rfl := (hsettings.of_agreeOnTop hagree).unique hfound
  obtain ⟨hexists, hdirectory⟩ := h.workingDirectory files settings hfiles hsettings
  rw [hload, hother, violation?_congr hexists hdirectory]

/-- When loading fails, and with which trouble: the first file that has a fault is reported,
and if none has one and the current directory is known, the first rule that is broken by what
the sources come to.  So a file with a fault is reported whatever the command line sets, a
named file that is not there is a fault, and a value that a higher source hides changes
nothing. -/
theorem load_fails_iff (hhome : host.home? = some home) (explicit : Option Path)
    (overrides : Layer) :
    (∀ trouble, (load host explicit overrides).result = .error trouble ↔
      LoadFault host explicit overrides trouble) ∧
    (∀ path ∈ Layer.filesRead host explicit, ∀ trouble, Layer.FileFault host path trouble →
      ∃ first ∈ Layer.filesRead host explicit, ∃ reported, Layer.FileFault host first reported ∧
        ∀ others, (load host explicit others).result = .error reported) ∧
    (∀ path, explicit = some path → host.files.pathExists host.directory path = false →
      ∃ error, ∀ others, (load host explicit others).result =
        .error ⟨["Failed to read configuration file: " ++ path.display], .io error⟩) ∧
    ∀ other, DifferBelow host other explicit overrides →
      (load other explicit overrides).result = (load host explicit overrides).result := by
  refine ⟨fun trouble => result_load_eq_error_iff hhome, ?_, ?_, fun other h =>
    h.result_load hhome⟩
  · intro path hpath trouble hfault
    obtain ⟨first, hfirst, reported, hreported, hfiles⟩ :=
      Layer.exists_filesInOrder_eq_error hpath hfault
    exact ⟨first, hfirst, reported, hreported, result_load_of_error hfiles⟩
  · rintro path rfl habsent
    obtain ⟨error, hfault⟩ := Layer.fileFault_of_absent habsent
    refine ⟨error, result_load_of_error ?_⟩
    rw [Layer.filesInOrder, Layer.result_ofFile_eq_error_iff.mpr hfault]
    rfl

end Settings

namespace FaultsWitness

open PrecedenceWitness (directory file)

/-- A host with a user file and a project file. -/
def host (user project : String) : Host where
  files := ⟨[directory ["home"], directory ["etc"], directory ["etc", "scriptrun"],
    file ["etc", "scriptrun", "config.toml"] user, file [".scriptrun.toml"] project]⟩
  environment := [("HOME", Utf8.encode "/home"), ("XDG_CONFIG_HOME", Utf8.encode "/etc")]
  directory := []

/-- A user file with a key that is not known. -/
def misspelt : String := "[runner]\nshell = 'sh'\n"

/-- Neither file is a settings file. -/
def broken : Host := host misspelt "[runner"

/-- The user file is there, and nobody may read it. -/
def locked : Host where
  files := ⟨[directory ["home"], directory ["etc"], directory ["etc", "scriptrun"],
    (["etc", "scriptrun", "config.toml"].map Utf8.encode,
      { entry := .file [], mode := 0o000 })]⟩
  environment := broken.environment
  directory := []

/-- The time limit of the user file would break a rule; the project file hides it. -/
def shadowed : Host := host "[runner]\ntimeout_secs = 0\n" "[runner]\ntimeout_secs = 7\n"

/-- The user file sets nothing. -/
def plain : Host := host "" "[runner]\ntimeout_secs = 7\n"

/-- Two rules are broken. -/
def overrides : Layer where
  scriptPath := some " "
  timeout := some 0

def userFile : Path := Path.ofText "/etc/scriptrun/config.toml"

def userTrouble : Trouble :=
  ⟨["Failed to parse TOML from file: /etc/scriptrun/config.toml"],
    .document misspelt (.misfit (.unknownField "shell"))⟩

def lockedTrouble : Trouble :=
  ⟨["Failed to read configuration file: /etc/scriptrun/config.toml"], .io .permissionDenied⟩

theorem fileFault_userFile : Layer.FileFault broken userFile userTrouble := by
  rw [← Layer.result_ofFile_eq_error_iff]
  decide +kernel

theorem fileFault_locked : Layer.FileFault locked userFile lockedTrouble := by
  rw [← Layer.result_ofFile_eq_error_iff]
  decide +kernel

theorem differBelow_shadowed : Settings.DifferBelow plain shadowed none {} where
  home := rfl
  files := ⟨[{ timeout := some 7 }, {}], [{ timeout := some 7 }, { timeout := some 0 }],
    by decide +kernel, by decide +kernel, rfl, rfl, rfl, rfl⟩
  workingDirectory files settings hfiles hsettings := by
    have hplain : Layer.filesInOrder plain none = .ok [{ timeout := some 7 }, {}] := by
      decide +kernel
    rw [hplain, Except.ok.injEq] at hfiles
    subst hfiles
    have hexpand : Settings.expandDirectory plain.home? Settings.builtIn.workingDirectory =
        .ok (Path.ofText "/home") := by decide +kernel
    rw [Except.ok.inj (hsettings.workingDirectory.trans hexpand)]
    decide +kernel

/-- Of two files with faults and two broken rules the user file is reported, as is one that may
not be read, and the blank script where the files are in order; the limit that is shadowed is
not reported. -/
theorem load_fails_iff_on_faulty_hosts :
    broken.home? = some (Path.ofText "/home") ∧
    (Settings.load broken none overrides).result = .error userTrouble ∧
    (Settings.load locked none overrides).result = .error lockedTrouble ∧
    (Settings.load plain none overrides).result =
      .error ⟨["Configuration validation failed"], .failure Settings.blankScript⟩ ∧
    (Settings.load shadowed none {}).result = (Settings.load plain none {}).result := by
  have hhome : ∀ user project, (host user project).home? = some (Path.ofText "/home") :=
    fun _ _ => rfl
  have hread : Layer.filesRead broken none = [userFile, Path.ofText "/.scriptrun.toml"] := by
    decide +kernel
  have hlocked : Layer.filesRead locked none = [userFile] := by
    decide +kernel
  have hfirst : IsFirstOf (fun path => ∃ trouble, Layer.FileFault broken path trouble)
      (Layer.filesRead broken none) userFile :=
    ⟨⟨_, fileFault_userFile⟩, [], _, hread, fun _ h => absurd h List.not_mem_nil⟩
  have hfiles : Layer.filesInOrder plain none = .ok [{ timeout := some 7 }, {}] := by
    decide +kernel
  obtain ⟨settings, hdecided, -⟩ := Settings.result_load_of_ok (hhome _ _) hfiles overrides
  have hscript : settings.scriptPath = " " := hdecided.scriptPath.trans (by decide +kernel)
  have hinterpreter : settings.interpreter = "python" := hdecided.interpreter
  have hrule : IsFirstOf (settings.Breaks plain) Settings.Rule.inOrder .scriptPath := by
    refine ⟨?_, [.interpreter], _, rfl, ?_⟩
    · have hblank : allBlank " " = true := by decide
      rw [Settings.Breaks, hscript]
      exact List.all_eq_true.mp hblank
    · intro earlier hearlier
      rw [List.mem_singleton.mp hearlier, Settings.Breaks, hinterpreter]
      exact fun h => absurd (h 'p' (by decide)) (by decide)
  exact ⟨hhome _ _,
    ((Settings.load_fails_iff (hhome _ _) none overrides).1 _).mpr
      (.file hfirst fileFault_userFile),
    ((Settings.load_fails_iff (rfl : locked.home? = _) none overrides).1 _).mpr
      (.file ⟨⟨_, fileFault_locked⟩, [], _, hlocked, fun _ h => absurd h List.not_mem_nil⟩
        fileFault_locked),
    ((Settings.load_fails_iff (hhome _ _) none overrides).1 _).mpr
      (.rule hfiles hdecided hrule),
    (Settings.load_fails_iff (hhome _ _) none {}).2.2.2 _ differBelow_shadowed⟩

end FaultsWitness

end FolderScript
