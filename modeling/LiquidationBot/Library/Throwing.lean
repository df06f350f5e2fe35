import Mathlib.Tactic.Common

/-!
# Computations that may throw

Sequencing returns a value exactly when both parts do. With these rules a proof
takes a computation apart without unfolding the monad.
-/

namespace LiquidationBot

namespace Throwing

variable {ε α β : Type}

theorem ok_bind (value : α) (rest : α → Except ε β) :
    ((Except.ok value : Except ε α) >>= rest) = rest value := rfl

theorem bind_eq_ok_iff (step : Except ε α) (rest : α → Except ε β) (result : β) :
    (step >>= rest) = .ok result ↔ ∃ value, step = .ok value ∧ rest value = .ok result := by
  cases step with
  | error reason => simp [bind, Except.bind]
  | ok value => simp [bind, Except.bind]

/-- One part of a long sequence after the other. -/
theorem exists_of_bind {step : Except ε α} {rest : α → Except ε β} {result : β}
    (returned : (step >>= rest) = .ok result) :
    ∃ value, step = .ok value ∧ rest value = .ok result :=
  (bind_eq_ok_iff step rest result).mp returned

theorem pure_eq_ok_iff (value result : α) :
    (pure value : Except ε α) = .ok result ↔ value = result := by
  simp [pure, Except.pure]

/-- A computation returns. -/
def Returns (step : Except ε α) : Prop := ∃ value, step = .ok value

@[simp] theorem returns_ok (value : α) : Returns (.ok value : Except ε α) := ⟨value, rfl⟩

@[simp] theorem returns_pure (value : α) : Returns (pure value : Except ε α) := ⟨value, rfl⟩

@[simp] theorem not_returns_error (error : ε) : ¬ Returns (.error error : Except ε α) := by
  rintro ⟨value, same⟩
  cases same

/-- A sequence returns when the first part does and the rest does from there. -/
theorem returns_bind_iff (step : Except ε α) (rest : α → Except ε β) :
    Returns (step >>= rest) ↔ ∃ value, step = .ok value ∧ Returns (rest value) := by
  simp only [Returns, bind_eq_ok_iff]
  constructor
  · rintro ⟨result, value, stepped, rested⟩
    exact ⟨value, stepped, result, rested⟩
  · rintro ⟨value, stepped, result, rested⟩
    exact ⟨result, value, stepped, rested⟩

end Throwing

end LiquidationBot
