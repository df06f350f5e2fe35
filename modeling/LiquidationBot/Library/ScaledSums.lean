import Mathlib.Algebra.BigOperators.Group.List.Basic
import Mathlib.Algebra.Order.BigOperators.Group.List
import Mathlib.Algebra.Order.Floor.Semiring
import Mathlib.Data.Rat.Floor
import Mathlib.Tactic.FieldSimp
import Mathlib.Tactic.Linarith
import Mathlib.Tactic.Ring

/-!
# Sums of values in different scales

Two sums are compared, each over items whose values stand in units of their own.
Adding the bare values compares the sums correctly only as far as the scales of
the two sides agree; how far they do not is one double sum over the pairs of an
item of one side and an item of the other.

A rounded quotient answers for another quotient exactly when the two numerators
differ by less than the slack of the division.
-/

namespace LiquidationBot.ScaledSums

variable {α β K : Type*} [Field K]

/-- The sum of the items' values, each in its own scale. -/
def scaledSum (value scale : α → K) (items : List α) : K :=
  (items.map (fun item => value item * scale item)).sum

/-- The sum of the bare values. -/
def plainSum (value : α → K) (items : List α) : K := (items.map value).sum

/-- What the scales of two sides differ by, weighted by the values of each pair. -/
def mismatch (left leftScale : α → K) (right rightScale : β → K) (items : List α)
    (others : List β) : K :=
  (items.map (fun item => (others.map (fun other =>
    left item * right other * (leftScale item - rightScale other))).sum)).sum

theorem scaledSum_cons (value scale : α → K) (item : α) (items : List α) :
    scaledSum value scale (item :: items) = value item * scale item + scaledSum value scale items :=
  List.sum_cons

theorem plainSum_cons (value : α → K) (item : α) (items : List α) :
    plainSum value (item :: items) = value item + plainSum value items := List.sum_cons

theorem mismatch_cons (left leftScale : α → K) (right rightScale : β → K) (item : α)
    (items : List α) (others : List β) :
    mismatch left leftScale right rightScale (item :: items) others =
      (others.map (fun other => left item * right other *
        (leftScale item - rightScale other))).sum +
        mismatch left leftScale right rightScale items others := List.sum_cons

/-- One item against the other side. -/
theorem sum_row (value scale : K) (right rightScale : β → K) (others : List β) :
    (others.map (fun other => value * right other * (scale - rightScale other))).sum =
      value * scale * plainSum right others - value * scaledSum right rightScale others := by
  induction others with
  | nil => simp [plainSum, scaledSum]
  | cons other rest inductionHypothesis =>
    rw [List.map_cons, List.sum_cons, inductionHypothesis, plainSum_cons, scaledSum_cons]
    ring

/-- The mismatch is the difference of the cross products. -/
theorem mismatch_eq (left leftScale : α → K) (right rightScale : β → K) (items : List α)
    (others : List β) :
    mismatch left leftScale right rightScale items others =
      scaledSum left leftScale items * plainSum right others -
        plainSum left items * scaledSum right rightScale others := by
  induction items with
  | nil => simp [mismatch, plainSum, scaledSum]
  | cons item rest inductionHypothesis =>
    rw [mismatch_cons, inductionHypothesis, sum_row, plainSum_cons, scaledSum_cons]
    ring

theorem scaledSum_pos [LinearOrder K] [IsStrictOrderedRing K] {value scale : α → K}
    {items : List α} (nonneg : ∀ item ∈ items, 0 ≤ value item)
    (scales : ∀ item ∈ items, 0 < scale item) (some : 0 < plainSum value items) :
    0 < scaledSum value scale items := by
  induction items with
  | nil => exact absurd some (by simp [plainSum])
  | cons item rest inductionHypothesis =>
    have here := nonneg item List.mem_cons_self
    have positive := scales item List.mem_cons_self
    have restNonneg : ∀ other ∈ rest, 0 ≤ value other := fun other listed =>
      nonneg other (List.mem_cons_of_mem _ listed)
    have restScales : ∀ other ∈ rest, 0 < scale other := fun other listed =>
      scales other (List.mem_cons_of_mem _ listed)
    have restSum : 0 ≤ scaledSum value scale rest := by
      apply List.sum_nonneg
      intro term member
      obtain ⟨other, listed, rfl⟩ := List.mem_map.mp member
      exact mul_nonneg (restNonneg other listed) (restScales other listed).le
    rw [scaledSum_cons]
    rcases here.eq_or_lt with empty | filled
    · rw [plainSum_cons, ← empty, zero_add] at some
      rw [← empty, zero_mul, zero_add]
      exact inductionHypothesis restNonneg restScales some
    · exact add_pos_of_pos_of_nonneg (mul_pos filled positive) restSum

/-- A rounded quotient is the rounding of another number exactly when that number,
times the divisor, stays within the division's slack. -/
theorem floor_eq_div_iff {number divisor : Nat} (positive : 0 < divisor) {exact : ℚ}
    (nonneg : 0 ≤ exact) :
    ⌊exact⌋₊ = number / divisor ↔
      -((number % divisor : Nat) : ℚ) ≤ exact * divisor - number ∧
        exact * divisor - number < divisor - (number % divisor : Nat) := by
  have divided : (divisor : ℚ) * (number / divisor : Nat) + (number % divisor : Nat) = number := by
    exact_mod_cast Nat.div_add_mod number divisor
  have divisorPos : (0 : ℚ) < divisor := by exact_mod_cast positive
  rw [Nat.floor_eq_iff nonneg]
  constructor
  · rintro ⟨lower, upper⟩
    have low := mul_le_mul_of_nonneg_right lower divisorPos.le
    have high := mul_lt_mul_of_pos_right upper divisorPos
    constructor
    · linarith
    · linarith
  · rintro ⟨lower, upper⟩
    constructor
    · refine le_of_mul_le_mul_right ?_ divisorPos
      linarith
    · refine lt_of_mul_lt_mul_right ?_ divisorPos.le
      linarith

end LiquidationBot.ScaledSums
