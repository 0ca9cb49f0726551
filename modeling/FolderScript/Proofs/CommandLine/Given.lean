/-
What has been given of the options, seen as a table.  Reading a value sets one
entry of the table, and filling from the environment sets exactly the entries
that are empty and have a variable.
-/
import FolderScript.CommandLine.Invocation
import FolderScript.Proofs.Outcome

namespace FolderScript

/-- A value that an option has been given. -/
inductive Given where
  | path (path : Path)
  | text (text : String)
  | seconds (seconds : UInt64)
  deriving DecidableEq, Repr

/-- What an option takes bytes for; none if it cannot take them. -/
def Given.ofBytes? (option : ValueOption) (value : Bytes) : Option Given :=
  match option.kind with
  | .path => if value = [] then none else some (.path ⟨value⟩)
  | .text => (Utf8.decode? value).map .text
  | .seconds => (Utf8.decode? value).bind fun text => (readSeconds text).toOption.map .seconds

namespace Options

/-- The table of what has been given. -/
def get? (options : Options) : ValueOption → Option Given
  | .project => options.project.map .path
  | .input => options.input.map .text
  | .output => options.output.map .text
  | .interpreter => options.runner.interpreter.map .text
  | .script => options.runner.scriptPath.map .text
  | .workdir => options.runner.workingDirectory.map .path
  | .timeout => options.runner.timeout.map .seconds
  | .config => options.config.map .path

theorem has_eq_isSome_get? (options : Options) (option : ValueOption) :
    options.has option = (options.get? option).isSome := by
  cases option <;> simp [has, get?]

theorem get?_setPath {option : ValueOption} (h : option.kind = .path) (options : Options)
    (path : Path) (other : ValueOption) :
    (options.setPath option path).get? other =
      if other = option then some (.path path) else options.get? other := by
  cases option <;> first | contradiction | cases other <;> rfl

theorem get?_setText {option : ValueOption} (h : option.kind = .text) (options : Options)
    (text : String) (other : ValueOption) :
    (options.setText option text).get? other =
      if other = option then some (.text text) else options.get? other := by
  cases option <;> first | contradiction | cases other <;> rfl

theorem get?_setSeconds {option : ValueOption} (h : option.kind = .seconds)
    (options : Options) (seconds : UInt64) (other : ValueOption) :
    (options.setSeconds seconds).get? other =
      if other = option then some (.seconds seconds) else options.get? other := by
  cases option <;> first | contradiction | cases other <;> rfl

end Options

namespace Reading

/-- Reading a value sets the entry of its option to what the bytes stand for. -/
theorem interpret_eq_ok {options filled : Options} {option : ValueOption} {value : Bytes}
    (h : interpret options option value = .ok filled) :
    ∃ given, Given.ofBytes? option value = some given ∧
      ∀ other, filled.get? other = if other = option then some given else options.get? other := by
  unfold interpret at h
  cases hkind : option.kind with
  | path =>
      simp only [hkind] at h
      by_cases hvalue : value = []
      · simp [hvalue, wrong] at h
      · rw [if_neg hvalue] at h
        obtain rfl := Except.ok.inj h
        exact ⟨.path ⟨value⟩, by simp [Given.ofBytes?, hkind, hvalue],
          Options.get?_setPath hkind options ⟨value⟩⟩
  | text =>
      simp only [hkind] at h
      cases htext : Utf8.decode? value with
      | none => simp [htext, wrong] at h
      | some text =>
          simp only [htext] at h
          obtain rfl := Except.ok.inj h
          exact ⟨.text text, by simp [Given.ofBytes?, hkind, htext],
            Options.get?_setText hkind options text⟩
  | seconds =>
      simp only [hkind] at h
      cases htext : Utf8.decode? value with
      | none => simp [htext, wrong] at h
      | some text =>
          simp only [htext] at h
          cases hseconds : readSeconds text with
          | error fault => simp [hseconds, wrong] at h
          | ok seconds =>
              simp only [hseconds] at h
              obtain rfl := Except.ok.inj h
              exact ⟨.seconds seconds,
                by simp [Given.ofBytes?, hkind, htext, hseconds, Except.toOption],
                Options.get?_setSeconds hkind options seconds⟩

/-- What an option's environment variable stands for; none if it is not set or
cannot be read. -/
def fallback? (environment : String → Option Bytes) (option : ValueOption) : Option Given :=
  (option.environmentName?.bind environment).bind (Given.ofBytes? option)

def fill (environment : String → Option Bytes) (written filled : Options)
    (option : ValueOption) : Except Stop Options :=
  if written.has option then .ok filled
  else
    match option.environmentName?.bind environment with
    | some value => interpret filled option value
    | none => .ok filled

theorem fromEnvironment_eq (environment : String → Option Bytes) (scope : Scope)
    (options : Options) :
    fromEnvironment environment scope options =
      (ValueOption.inScope scope).foldlM (fill environment options) options := rfl

theorem fill_eq_ok {environment : String → Option Bytes} {written options filled : Options}
    {option : ValueOption} (h : fill environment written options option = .ok filled)
    (other : ValueOption) :
    filled.get? other =
      if other = option ∧ written.get? option = none then
        (fallback? environment option).or (options.get? other)
      else options.get? other := by
  have hhas := written.has_eq_isSome_get? option
  unfold fill at h
  cases hwritten : written.get? option with
  | some given =>
      rw [hhas, hwritten] at h
      obtain rfl := Except.ok.inj h
      simp
  | none =>
      rw [hhas, hwritten] at h
      cases hvalue : option.environmentName?.bind environment with
      | none =>
          simp only [hvalue] at h
          obtain rfl := Except.ok.inj h
          simp [fallback?, hvalue]
      | some value =>
          simp only [hvalue] at h
          obtain ⟨given, hgiven, hall⟩ := interpret_eq_ok h
          simp [fallback?, hvalue, hgiven, hall other]

theorem foldlM_fill_eq_ok {environment : String → Option Bytes} {written : Options}
    {todo : List ValueOption} {options filled : Options}
    (h : todo.foldlM (fill environment written) options = .ok filled) (other : ValueOption) :
    filled.get? other =
      if other ∈ todo ∧ written.get? other = none then
        (fallback? environment other).or (options.get? other)
      else options.get? other := by
  induction todo generalizing options with
  | nil =>
      obtain rfl := Except.ok.inj h
      simp
  | cons option rest ih =>
      rw [List.foldlM_cons, bind_eq_ok_iff] at h
      obtain ⟨next, hfirst, hrest⟩ := h
      rw [ih hrest, fill_eq_ok hfirst other]
      by_cases heq : other = option
      · subst heq
        by_cases hnone : written.get? other = none <;> by_cases hmem : other ∈ rest <;>
          simp [hnone, hmem, ← Option.or_assoc]
      · simp [heq]

/-- After filling, an option of the scope has what was written, or else what its
variable stands for. -/
theorem fromEnvironment_eq_ok {environment : String → Option Bytes} {scope : Scope}
    {written filled : Options} (h : fromEnvironment environment scope written = .ok filled)
    {option : ValueOption} (hoption : option ∈ ValueOption.inScope scope) :
    filled.get? option = (written.get? option).or (fallback? environment option) := by
  rw [fromEnvironment_eq] at h
  rw [foldlM_fill_eq_ok h option]
  cases hwritten : written.get? option <;> simp [hoption]

/-- Where no variable of an option is set, nothing is filled. -/
theorem fromEnvironment_unset {environment : String → Option Bytes}
    (hunset : ∀ option : ValueOption, option.environmentName?.bind environment = none)
    (scope : Scope) (options : Options) :
    fromEnvironment environment scope options = .ok options := by
  have hfill (filled : Options) (option : ValueOption) :
      fill environment options filled option = .ok filled := by
    unfold fill
    rw [hunset]
    split <;> rfl
  rw [fromEnvironment_eq]
  induction ValueOption.inScope scope with
  | nil => rfl
  | cons option rest ih => rw [List.foldlM_cons, hfill]; exact ih

theorem fromEnvironment_none (scope : Scope) (options : Options) :
    fromEnvironment (fun _ => none) scope options = .ok options :=
  fromEnvironment_unset (fun option => by cases option <;> rfl) scope options

end Reading

end FolderScript
