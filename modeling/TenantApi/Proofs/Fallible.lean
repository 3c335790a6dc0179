import Mathlib

/-!
Computations that may fail, taken apart: a sequence, or one computation for each item of a list,
succeeds exactly when each of its steps does, and a sequence fails with the first step that does.
-/

namespace TenantApi.Fallible

variable {ε φ α β : Type} {result : Except ε α}

theorem bind_ok {next : α → Except ε β} {final : β} :
    (result >>= next) = .ok final ↔ ∃ value, result = .ok value ∧ next value = .ok final := by
  cases result with
  | error fault => simp [bind, Except.bind]
  | ok value => simp [bind, Except.bind]

theorem bind_error {next : α → Except ε β} {fault : ε} :
    result.bind next = .error fault ↔
      result = .error fault ∨ ∃ value, result = .ok value ∧ next value = .error fault := by
  cases result with
  | error first => simp [Except.bind]
  | ok value => simp [Except.bind]

theorem bind_congr {first second : α → Except ε β}
    (same : ∀ value, result = .ok value → first value = second value) :
    (result >>= first) = (result >>= second) := by
  cases result with
  | error fault => rfl
  | ok value => exact same value rfl

theorem map_ok {change : α → β} {final : β} :
    result.map change = .ok final ↔ ∃ value, result = .ok value ∧ change value = final := by
  cases result with
  | error fault => simp [Except.map]
  | ok value => simp [Except.map]

theorem map_error {change : α → β} {fault : ε} :
    result.map change = .error fault ↔ result = .error fault := by
  cases result with
  | error first => simp [Except.map]
  | ok value => simp [Except.map]

theorem mapError_ok {change : ε → φ} {final : α} :
    result.mapError change = .ok final ↔ result = .ok final := by
  cases result with
  | error fault => simp [Except.mapError]
  | ok value => simp [Except.mapError]

theorem mapError_error {change : ε → φ} {fault : φ} :
    result.mapError change = .error fault ↔
      ∃ first, result = .error first ∧ change first = fault := by
  cases result with
  | error first => simp [Except.mapError]
  | ok value => simp [Except.mapError]

theorem toOption_some {value : α} : result.toOption = some value ↔ result = .ok value := by
  cases result <;> simp [Except.toOption]

/-- Fails, if at all, only in a way that is allowed. -/
def FailsOnly (allowed : ε → Prop) (result : Except ε α) : Prop :=
  ∀ fault, result = .error fault → allowed fault

theorem failsOnly_ok {allowed : ε → Prop} (value : α) : FailsOnly allowed (.ok value) := by
  intro fault failed
  contradiction

theorem failsOnly_error_iff {allowed : ε → Prop} {fault : ε} :
    FailsOnly (α := α) allowed (.error fault) ↔ allowed fault := by
  constructor
  · intro only
    exact only fault rfl
  · intro holds other failed
    cases failed
    exact holds

theorem failsOnly_error {allowed : ε → Prop} {fault : ε} (holds : allowed fault) :
    FailsOnly (α := α) allowed (.error fault) :=
  failsOnly_error_iff.mpr holds

theorem failsOnly_bind {allowed : ε → Prop} {next : α → Except ε β}
    (first : FailsOnly allowed result) (rest : ∀ value, FailsOnly allowed (next value)) :
    FailsOnly allowed (result >>= next) := by
  intro fault failed
  rcases bind_error.mp failed with early | ⟨value, _, late⟩
  · exact first fault early
  · exact rest value fault late

theorem mapM_some_iff {read : α → Option β} {items : List α} {values : List β} :
    items.mapM read = some values ↔
      List.Forall₂ (fun item value => read item = some value) items values := by
  induction items generalizing values with
  | nil => simp [eq_comm]
  | cons item rest ih =>
      simp only [List.mapM_cons, Option.pure_def, Option.bind_eq_bind, Option.bind_eq_some_iff,
        Option.some.injEq, List.forall₂_cons_left_iff]
      constructor
      · rintro ⟨value, first, others, tail, rfl⟩
        exact ⟨value, others, first, ih.mp tail, rfl⟩
      · rintro ⟨value, others, first, tail, rfl⟩
        exact ⟨value, first, others, ih.mpr tail, rfl⟩

end TenantApi.Fallible
