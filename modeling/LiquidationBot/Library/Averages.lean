import Mathlib.Algebra.BigOperators.Group.List.Basic
import Mathlib.Algebra.Order.BigOperators.Group.List
import Mathlib.Algebra.Order.Field.Rat
import Mathlib.Data.Rat.Floor
import Mathlib.Tactic.FieldSimp
import Mathlib.Tactic.Linarith
import Mathlib.Tactic.NormNum
import Mathlib.Tactic.Positivity

/-!
# Means, rounding and clamping of exact numbers

A mean is monotone in every summand and lies between any bounds of its summands.
Rounding to the nearest whole number and clamping to a range are monotone as
well, so an order of summands survives all three, in any order of application.
-/

namespace LiquidationBot

universe u

/-- `Math.round`: the nearest whole number, and the greater one of two. -/
def mathRound (value : ℚ) : ℤ := ⌊value + 1 / 2⌋

theorem mathRound_le_mathRound {low high : ℚ} (order : low ≤ high) :
    mathRound low ≤ mathRound high := by
  apply Int.floor_le_floor
  linarith

@[simp] theorem mathRound_intCast (value : ℤ) : mathRound (value : ℚ) = value := by
  unfold mathRound
  rw [Int.floor_eq_iff]
  constructor <;> linarith

theorem mathRound_nonneg {value : ℚ} (nonneg : 0 ≤ value) : 0 ≤ mathRound value := by
  apply Int.floor_nonneg.mpr
  linarith

/-- Rounding stays between whole bounds. -/
theorem mathRound_mem {value : ℚ} {low high : ℤ} (above : (low : ℚ) ≤ value)
    (below : value ≤ (high : ℚ)) : low ≤ mathRound value ∧ mathRound value ≤ high := by
  constructor
  · simpa only [mathRound_intCast] using mathRound_le_mathRound above
  · simpa only [mathRound_intCast] using mathRound_le_mathRound below

/-- `Math.max(low, Math.min(high, value))`. -/
def clamp (low high value : ℚ) : ℚ := max low (min high value)

theorem clamp_le_clamp (low high : ℚ) {left right : ℚ} (order : left ≤ right) :
    clamp low high left ≤ clamp low high right :=
  max_le_max (le_refl low) (min_le_min (le_refl high) order)

theorem le_clamp (low high value : ℚ) : low ≤ clamp low high value := le_max_left _ _

theorem clamp_le {low high : ℚ} (range : low ≤ high) (value : ℚ) :
    clamp low high value ≤ high := max_le range (min_le_left _ _)

/-- A value in the range is left alone. -/
theorem clamp_eq_self {low high value : ℚ} (above : low ≤ value) (below : value ≤ high) :
    clamp low high value = value := by
  rw [clamp, min_eq_right below, max_eq_right above]

/-- The mean of a list; the list should not be empty. -/
def mean (values : List ℚ) : ℚ := values.sum / values.length

section Means

variable {α : Type u} {items : List α} {left right : α → ℚ}

/-- A mean is monotone in every summand. -/
theorem mean_le_mean (order : ∀ item ∈ items, left item ≤ right item) :
    mean (items.map left) ≤ mean (items.map right) := by
  have sums : (items.map left).sum ≤ (items.map right).sum := List.sum_le_sum order
  unfold mean
  rw [List.length_map, List.length_map]
  exact div_le_div_of_nonneg_right sums (Nat.cast_nonneg _)

theorem mean_const (nonempty : items ≠ []) (value : ℚ) :
    mean (items.map (fun _ => value)) = value := by
  have positive : (items.length : ℚ) ≠ 0 := by
    simpa only [ne_eq, Nat.cast_eq_zero, List.length_eq_zero_iff] using nonempty
  unfold mean
  rw [List.map_const', List.sum_replicate, List.length_replicate, nsmul_eq_mul]
  field_simp

/-- A mean is at least what every summand is at least. -/
theorem le_mean (nonempty : items ≠ []) {low : ℚ} (bounded : ∀ item ∈ items, low ≤ left item) :
    low ≤ mean (items.map left) := by
  calc low = mean (items.map (fun _ => low)) := (mean_const nonempty low).symm
    _ ≤ mean (items.map left) := mean_le_mean bounded

end Means

end LiquidationBot
