/-
When a computation that may stop succeeds: two in a row, one with its value
changed, one with its error changed, and one of which only the success counts; and
what a row of many stops for.
-/

namespace FolderScript

/-- What it takes for two computations in a row to succeed. -/
theorem bind_eq_ok_iff {ε α β : Type} {first : Except ε α} {next : α → Except ε β} {last : β} :
    first >>= next = .ok last ↔ ∃ value, first = .ok value ∧ next value = .ok last := by
  cases first with
  | error error => exact ⟨fun h => by contradiction, fun ⟨_, h, _⟩ => by contradiction⟩
  | ok value => exact ⟨fun h => ⟨value, rfl, h⟩, fun ⟨_, h, hnext⟩ => Except.ok.inj h ▸ hnext⟩

theorem map_eq_ok_iff {ε α β : Type} {f : α → β} {result : Except ε α} {value : β} :
    result.map f = .ok value ↔ ∃ found, result = .ok found ∧ f found = value := by
  cases result with
  | error error => exact ⟨fun h => by contradiction, fun ⟨_, h, _⟩ => by contradiction⟩
  | ok found => exact ⟨fun h => ⟨found, rfl, Except.ok.inj h⟩,
      fun ⟨_, h, hf⟩ => Except.ok.inj h ▸ congrArg _ hf⟩

theorem map_eq_error_iff {ε α β : Type} {f : α → β} {result : Except ε α} {error : ε} :
    result.map f = .error error ↔ result = .error error := by
  cases result <;> simp [Except.map]

/-- A fold whose steps stop for what they meet, and not for what has come before, stops for
the first thing met that it would stop for. -/
theorem foldlM_eq_error_iff {ε σ α : Type} {step : σ → α → Except ε σ} {fault : α → Option ε}
    (h : ∀ state x error, step state x = .error error ↔ fault x = some error) {error : ε}
    (xs : List α) (state : σ) :
    xs.foldlM step state = .error error ↔ xs.findSome? fault = some error := by
  induction xs generalizing state with
  | nil => simp [pure, Except.pure]
  | cons x rest ih =>
      rw [List.foldlM_cons, List.findSome?_cons]
      cases hstep : step state x with
      | error found =>
          rw [(h state x found).mp hstep]
          simp [bind, Except.bind]
      | ok after =>
          have hnone : fault x = none := by
            cases hfault : fault x with
            | none => rfl
            | some found =>
                rw [(h state x found).mpr hfault] at hstep
                contradiction
          rw [hnone]
          exact ih after

/-- What stops for the first of a list of faults succeeds if there are none. -/
theorem exists_eq_ok_iff_nil {ε α : Type} {result : Except ε α} {faults : List ε}
    (h : ∀ error, result = .error error ↔ faults.head? = some error) :
    (∃ value, result = .ok value) ↔ faults = [] := by
  rw [← List.head?_eq_none_iff, Option.eq_none_iff_forall_ne_some]
  simp only [ne_eq, ← h]
  cases result <;> simp

theorem mapError_ok {ε ε' α : Type} (f : ε → ε') (value : α) :
    (Except.ok value : Except ε α).mapError f = .ok value := rfl

theorem mapError_error {ε ε' α : Type} (f : ε → ε') (error : ε) :
    (Except.error error : Except ε α).mapError f = .error (f error) := rfl

theorem mapError_eq_ok_iff {ε ε' α : Type} {f : ε → ε'} {result : Except ε α} {value : α} :
    result.mapError f = .ok value ↔ result = .ok value := by
  cases result with
  | error error => constructor <;> intro h <;> contradiction
  | ok found => exact ⟨fun h => congrArg _ (Except.ok.inj h), fun h => congrArg _ (Except.ok.inj h)⟩

theorem toOption_eq_some_iff {ε α : Type} {result : Except ε α} {value : α} :
    result.toOption = some value ↔ result = .ok value := by
  cases result <;> simp [Except.toOption]

theorem toOption_bind {ε α β : Type} (first : Except ε α) (next : α → Except ε β) :
    (first >>= next).toOption = first.toOption.bind fun value => (next value).toOption := by
  cases first <;> rfl

end FolderScript
