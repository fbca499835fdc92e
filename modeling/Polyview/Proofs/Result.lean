/-!
# Results in sequence

How a computation that may fail goes on after its first step.
-/

namespace Polyview

variable {α β ε : Type}

@[simp]
theorem pure_eq_ok (value : α) : (pure value : Except ε α) = .ok value :=
  rfl

@[simp]
theorem ok_bind (value : α) (next : α → Except ε β) : (Except.ok value >>= next) = next value :=
  rfl

@[simp]
theorem mapError_ok {δ : Type} (function : ε → δ) (value : α) :
    Except.mapError function (.ok value) = .ok value :=
  rfl

@[simp]
theorem mapError_error {δ : Type} (function : ε → δ) (problem : ε) :
    Except.mapError function (.error problem : Except ε α) = .error (function problem) :=
  rfl

theorem mapError_eq_ok {δ : Type} {function : ε → δ} {result : Except ε α} {value : α} :
    result.mapError function = .ok value ↔ result = .ok value := by
  cases result <;> simp

theorem mapError_eq_error {δ : Type} {function : ε → δ} {result : Except ε α} {fault : δ} :
    result.mapError function = .error fault ↔
      ∃ problem, result = .error problem ∧ function problem = fault := by
  cases result <;> simp

/-- A computation succeeds if its first step does and the next step goes on from there. -/
theorem bind_eq_ok {result : Except ε α} {next : α → Except ε β} {value : β} :
    result >>= next = .ok value ↔ ∃ first, result = .ok first ∧ next first = .ok value := by
  cases result with
  | error fault => simp [bind, Except.bind]
  | ok first => simp

theorem mapM_eq_ok {function : α → Except ε β} {image : α → β} {list : List α}
    (each : ∀ value ∈ list, function value = .ok (image value)) :
    list.mapM function = .ok (list.map image) := by
  induction list with
  | nil => rfl
  | cons first rest ih =>
      have later := ih (fun value member => each value (by simp [member]))
      simp [List.mapM_cons, each first (by simp), later]

end Polyview
