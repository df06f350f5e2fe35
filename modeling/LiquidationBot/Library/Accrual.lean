import Mathlib.Algebra.Order.Field.Basic
import Mathlib.Tactic.FieldSimp
import Mathlib.Tactic.Linarith
import Mathlib.Tactic.Ring

/-!
# Lazily accrued balances

A balance that grows with an index can be kept as a raw amount and the index at
its last update: the balance now is the amount times the current index over the
stored one. Changing the index needs no work, but a deposit or a withdrawal on
the raw amount is right only in the cases stated here.
-/

namespace LiquidationBot.Accrual

variable {K : Type*} [Field K]

/-- The balance of a raw amount stored at an index. -/
def accrued (amount stored current : K) : K := amount * current / stored

theorem accrued_zero (stored current : K) : accrued 0 stored current = 0 := by
  simp [accrued]

/-- An amount stored at the current index is its own balance. -/
theorem accrued_current (amount : K) {current : K} (nonzero : current ≠ 0) :
    accrued amount current current = amount :=
  mul_div_cancel_right₀ amount nonzero

/-- Moving the index multiplies the balance by the ratio of the indices. -/
theorem accrued_reindex (amount stored : K) {current next : K} (nonzero : current ≠ 0) :
    accrued amount stored next = accrued amount stored current * (next / current) := by
  unfold accrued
  field_simp

/-- The balance is the raw amount exactly when there is none or the index has
not moved. -/
theorem accrued_eq_amount_iff {amount stored current : K} (nonzero : stored ≠ 0) :
    accrued amount stored current = amount ↔ amount = 0 ∨ stored = current := by
  unfold accrued
  rw [div_eq_iff nonzero]
  constructor
  · intro same
    have product : amount * (current - stored) = 0 := by
      rw [mul_sub, same, sub_self]
    rcases mul_eq_zero.mp product with empty | unmoved
    · exact Or.inl empty
    · exact Or.inr (sub_eq_zero.mp unmoved).symm
  · rintro (empty | unmoved)
    · rw [empty, zero_mul, zero_mul]
    · rw [unmoved]

/-- Adding to the raw amount and restamping it deposits exactly when there was
nothing to accrue. -/
theorem deposit_exact_iff {amount stored current deposit : K} (storedNonzero : stored ≠ 0)
    (currentNonzero : current ≠ 0) :
    accrued (amount + deposit) current current = accrued amount stored current + deposit ↔
      amount = 0 ∨ stored = current := by
  rw [accrued_current _ currentNonzero, add_left_inj, eq_comm]
  exact accrued_eq_amount_iff storedNonzero

/-- Two balances keep the ratio they have from a common base exactly when their
own bases are the same. -/
theorem accrued_ratio_iff {left right leftBase rightBase leftIndex rightIndex unit : K}
    (leftNonzero : left ≠ 0) (rightNonzero : right ≠ 0) (leftBaseNonzero : leftBase ≠ 0)
    (rightBaseNonzero : rightBase ≠ 0) (leftIndexNonzero : leftIndex ≠ 0)
    (rightIndexNonzero : rightIndex ≠ 0) (unitNonzero : unit ≠ 0) :
    accrued left leftBase leftIndex / accrued right rightBase rightIndex =
        accrued left unit leftIndex / accrued right unit rightIndex ↔ leftBase = rightBase := by
  have ratio : accrued left leftBase leftIndex / accrued right rightBase rightIndex =
      accrued left unit leftIndex / accrued right unit rightIndex * (rightBase / leftBase) := by
    unfold accrued
    field_simp
  have unitRatio : accrued left unit leftIndex / accrued right unit rightIndex ≠ 0 := by
    unfold accrued
    exact div_ne_zero (div_ne_zero (mul_ne_zero leftNonzero leftIndexNonzero) unitNonzero)
      (div_ne_zero (mul_ne_zero rightNonzero rightIndexNonzero) unitNonzero)
  rw [ratio, mul_eq_left₀ unitRatio, div_eq_one_iff_eq leftBaseNonzero, eq_comm]

variable [LinearOrder K] [IsStrictOrderedRing K]

/-- Subtracting less than the raw amount withdraws exactly when nothing is
withdrawn or the index has not moved. If the balance is below the withdrawal
the floor applies on one side only, so both conditions fail there too. -/
theorem withdraw_exact_iff {amount stored current withdrawal : K} (storedPositive : 0 < stored)
    (currentPositive : 0 < current) (partly : withdrawal < amount) :
    accrued (amount - withdrawal) stored current =
        max (accrued amount stored current - withdrawal) 0 ↔
      withdrawal = 0 ∨ stored = current := by
  have remaining : 0 < accrued (amount - withdrawal) stored current :=
    div_pos (mul_pos (sub_pos.mpr partly) currentPositive) storedPositive
  have split : accrued (amount - withdrawal) stored current =
      accrued amount stored current - accrued withdrawal stored current := by
    unfold accrued
    ring
  have unchanged : accrued withdrawal stored current = withdrawal ↔
      withdrawal = 0 ∨ stored = current := accrued_eq_amount_iff storedPositive.ne'
  constructor
  · intro same
    rcases max_choice (accrued amount stored current - withdrawal) 0 with above | floored
    · rw [above, split, sub_right_inj] at same
      exact unchanged.mp same
    · rw [floored] at same
      exact absurd same remaining.ne'
  · intro condition
    have same := unchanged.mpr condition
    rw [split, same] at remaining ⊢
    exact (max_eq_left remaining.le).symm

/-- Dropping the whole amount is right exactly when the balance is covered by
the withdrawal. -/
theorem clear_exact_iff {amount stored current withdrawal : K} (storedPositive : 0 < stored) :
    0 = max (accrued amount stored current - withdrawal) 0 ↔
      amount * current ≤ withdrawal * stored := by
  rw [eq_comm, max_eq_right_iff, sub_nonpos, accrued, div_le_iff₀ storedPositive]

end LiquidationBot.Accrual
