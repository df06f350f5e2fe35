import Mathlib.Algebra.BigOperators.Fin
import Mathlib.Algebra.BigOperators.Group.List.Basic
import Mathlib.Algebra.Order.BigOperators.Group.List
import Mathlib.Algebra.Order.Chebyshev
import Mathlib.Algebra.Order.Field.Basic
import Mathlib.Tactic.Linarith
import Mathlib.Tactic.LinearCombination
import Mathlib.Tactic.Ring

/-!
# Lines of least squares

A line fits points when its residuals balance, both by themselves and weighted by
the positions. Every other line then misses the points by as much and by a sum of
squares more, so a fitting line has the least squared residuals. Where the
positions are not all the same, exactly one line fits.
-/

namespace LiquidationBot.LeastSquares

universe u
variable {K : Type u} [Field K]

/-- What a line misses a point by. -/
def residual (intercept slope : K) (point : K × K) : K :=
  point.2 - (intercept + slope * point.1)

/-- The sum of the squared residuals of a line. -/
def squaredResiduals (points : List (K × K)) (intercept slope : K) : K :=
  (points.map (fun point => residual intercept slope point ^ 2)).sum

/-- The residuals of the line balance. -/
structure Fits (points : List (K × K)) (intercept slope : K) : Prop where
  balanced : (points.map (residual intercept slope)).sum = 0
  weighted : (points.map (fun point => point.1 * residual intercept slope point)).sum = 0

section Sums

variable (points : List (K × K)) (intercept slope : K)

theorem sum_residual :
    (points.map (residual intercept slope)).sum =
      (points.map Prod.snd).sum -
        (points.length * intercept + slope * (points.map Prod.fst).sum) := by
  induction points with
  | nil => simp
  | cons point points inductionHypothesis =>
    simp only [List.map_cons, List.sum_cons, List.length_cons, inductionHypothesis, residual]
    push_cast
    ring

theorem sum_weighted_residual :
    (points.map (fun point => point.1 * residual intercept slope point)).sum =
      (points.map (fun point => point.1 * point.2)).sum -
        (intercept * (points.map Prod.fst).sum +
          slope * (points.map (fun point => point.1 * point.1)).sum) := by
  induction points with
  | nil => simp
  | cons point points inductionHypothesis =>
    simp only [List.map_cons, List.sum_cons, inductionHypothesis]
    unfold residual
    ring

/-- Another line misses the points by what this one does, by the squared distance of
the lines, and by what the residuals of this one do not balance. -/
theorem squaredResiduals_other (otherIntercept otherSlope : K) :
    squaredResiduals points otherIntercept otherSlope =
      squaredResiduals points intercept slope +
        (points.map (fun point =>
          (intercept - otherIntercept + (slope - otherSlope) * point.1) ^ 2)).sum +
        2 * ((intercept - otherIntercept) * (points.map (residual intercept slope)).sum +
          (slope - otherSlope) *
            (points.map (fun point => point.1 * residual intercept slope point)).sum) := by
  unfold squaredResiduals
  induction points with
  | nil => simp
  | cons point points inductionHypothesis =>
    simp only [List.map_cons, List.sum_cons, inductionHypothesis]
    unfold residual
    ring

/-- How far the numbers lie apart: zero if they are all the same. -/
def spread (values : List K) : K :=
  values.length * (values.map (fun value => value * value)).sum - values.sum * values.sum

/-- By induction with any factor and shift in place of the length and the sum. -/
theorem sum_scaled_deviation (values : List K) (factor shift : K) :
    (values.map (fun value => (factor * value - shift) ^ 2)).sum =
      factor ^ 2 * (values.map (fun value => value * value)).sum -
        2 * factor * shift * values.sum + values.length * shift ^ 2 := by
  induction values with
  | nil => simp
  | cons value values inductionHypothesis =>
    simp only [List.map_cons, List.sum_cons, List.length_cons, inductionHypothesis]
    push_cast
    ring

theorem sum_deviation (values : List K) :
    (values.map (fun value => (values.length * value - values.sum) ^ 2)).sum =
      values.length * spread values := by
  rw [sum_scaled_deviation, spread]
  ring

end Sums

section Order

variable [LinearOrder K] [IsStrictOrderedRing K] {points : List (K × K)}
  {intercept slope : K} {values : List K}

theorem sum_squares_nonneg {α : Type u} (items : List α) (value : α → K) :
    0 ≤ (items.map (fun item => value item ^ 2)).sum := by
  apply List.sum_nonneg
  intro square member
  obtain ⟨item, _, rfl⟩ := List.mem_map.mp member
  exact sq_nonneg _

/-- A sum of squares vanishes only where every summand does. -/
theorem sum_squares_eq_zero {α : Type u} {items : List α} {value : α → K}
    (vanishes : (items.map (fun item => value item ^ 2)).sum = 0) :
    ∀ item ∈ items, value item = 0 := by
  induction items with
  | nil => simp
  | cons first items inductionHypothesis =>
    rw [List.map_cons, List.sum_cons] at vanishes
    have here : 0 ≤ value first ^ 2 := sq_nonneg _
    have later := sum_squares_nonneg items value
    rintro item (_ | ⟨_, member⟩)
    · exact pow_eq_zero_iff (two_ne_zero) |>.mp (by linarith)
    · exact inductionHypothesis (by linarith) item member

/-- The numbers are apart by nothing exactly if they are all the same. -/
theorem spread_eq_zero_iff : spread values = 0 ↔
    ∀ left ∈ values, ∀ right ∈ values, left = right := by
  constructor
  · intro none left leftMember right rightMember
    have deviations := sum_deviation values
    rw [none, mul_zero] at deviations
    have mean := sum_squares_eq_zero deviations
    have length : (values.length : K) ≠ 0 := by
      rw [Nat.cast_ne_zero]
      exact (List.length_pos_of_mem leftMember).ne'
    apply mul_left_cancel₀ length
    linear_combination mean left leftMember - mean right rightMember
  · intro same
    cases values with
    | nil => simp [spread]
    | cons first rest =>
      have repeated : first :: rest = List.replicate (rest.length + 1) first := by
        rw [List.eq_replicate_iff]
        exact ⟨rfl, fun value member => same value member first List.mem_cons_self⟩
      rw [repeated]
      simp only [spread, List.map_replicate, List.sum_replicate, List.length_replicate,
        nsmul_eq_mul]
      ring

/-- A line that fits has the least squared residuals. -/
theorem Fits.squaredResiduals_le (fits : Fits points intercept slope)
    (otherIntercept otherSlope : K) :
    squaredResiduals points intercept slope ≤
      squaredResiduals points otherIntercept otherSlope := by
  rw [squaredResiduals_other points intercept slope otherIntercept otherSlope, fits.balanced,
    fits.weighted]
  have apart := sum_squares_nonneg points
    (fun point => intercept - otherIntercept + (slope - otherSlope) * point.1)
  linarith

theorem squaredResiduals_nonneg (points : List (K × K)) (intercept slope : K) :
    0 ≤ squaredResiduals points intercept slope :=
  sum_squares_nonneg points (residual intercept slope)

end Order

section Solution

variable {points : List (K × K)} {intercept slope : K}

/-- The slope of the line that fits. -/
def slopeOf (points : List (K × K)) : K :=
  (points.length * (points.map (fun point => point.1 * point.2)).sum -
    (points.map Prod.fst).sum * (points.map Prod.snd).sum) / spread (points.map Prod.fst)

/-- The intercept of the line that fits. -/
def interceptOf (points : List (K × K)) : K :=
  ((points.map Prod.snd).sum - slopeOf points * (points.map Prod.fst).sum) / points.length

theorem spread_positions (points : List (K × K)) :
    spread (points.map Prod.fst) =
      points.length * (points.map (fun point => point.1 * point.1)).sum -
        (points.map Prod.fst).sum * (points.map Prod.fst).sum := by
  simp only [spread, List.length_map, List.map_map, Function.comp_def]

/-- A line through all points fits. -/
theorem fits_of_through (through : ∀ point ∈ points, residual intercept slope point = 0) :
    Fits points intercept slope where
  balanced := by
    apply List.sum_eq_zero
    intro missed member
    obtain ⟨point, inside, rfl⟩ := List.mem_map.mp member
    exact through point inside
  weighted := by
    apply List.sum_eq_zero
    intro weighted member
    obtain ⟨point, inside, rfl⟩ := List.mem_map.mp member
    rw [through point inside, mul_zero]

variable [CharZero K]

theorem length_ne_zero (apart : spread (points.map Prod.fst) ≠ 0) :
    (points.length : K) ≠ 0 := by
  rw [Nat.cast_ne_zero]
  intro empty
  rw [List.length_eq_zero_iff.mp empty] at apart
  simp [spread] at apart

/-- The solution of the two balances fits. -/
theorem fits_solution (apart : spread (points.map Prod.fst) ≠ 0) :
    Fits points (interceptOf points) (slopeOf points) := by
  have nonempty : (points.length : K) ≠ 0 := length_ne_zero apart
  have slope : slopeOf points * spread (points.map Prod.fst) =
      points.length * (points.map (fun point => point.1 * point.2)).sum -
        (points.map Prod.fst).sum * (points.map Prod.snd).sum := div_mul_cancel₀ _ apart
  have intercept : interceptOf points * points.length =
      (points.map Prod.snd).sum - slopeOf points * (points.map Prod.fst).sum :=
    div_mul_cancel₀ _ nonempty
  rw [spread_positions] at slope
  constructor
  · rw [sum_residual]
    linear_combination -intercept
  · rw [sum_weighted_residual]
    apply mul_left_cancel₀ nonempty
    linear_combination -slope - (points.map Prod.fst).sum * intercept

/-- No other line fits. -/
theorem Fits.eq_solution (fits : Fits points intercept slope)
    (apart : spread (points.map Prod.fst) ≠ 0) :
    intercept = interceptOf points ∧ slope = slopeOf points := by
  have nonempty : (points.length : K) ≠ 0 := length_ne_zero apart
  have balanced := fits.balanced
  have weighted := fits.weighted
  rw [sum_residual] at balanced
  rw [sum_weighted_residual] at weighted
  have same : slope = slopeOf points := by
    rw [slopeOf, eq_div_iff apart, spread_positions]
    linear_combination (points.map Prod.fst).sum * balanced - points.length * weighted
  refine ⟨?_, same⟩
  rw [interceptOf, eq_div_iff nonempty, ← same]
  linear_combination -balanced

end Solution

/-! ## Falling lines -/

section Falling

variable [LinearOrder K] [IsStrictOrderedRing K] {points : List (K × K)} {intercept slope : K}

/-- Points that never fall lean together, by Chebyshev's sum inequality. -/
theorem sums_le_of_monotone
    (rises : ∀ left ∈ points, ∀ right ∈ points, left.1 < right.1 → left.2 ≤ right.2) :
    (points.map Prod.fst).sum * (points.map Prod.snd).sum ≤
      points.length * (points.map (fun point => point.1 * point.2)).sum := by
  have together : Monovary (fun place : Fin points.length => points[place].2)
      (fun place => points[place].1) := fun first second before =>
    rises _ (List.getElem_mem _) _ (List.getElem_mem _) before
  have inequality := together.sum_mul_sum_le_card_mul_sum
  simp only [Fintype.card_fin, Fin.getElem_fin] at inequality
  rw [Fin.sum_univ_fun_getElem points Prod.snd, Fin.sum_univ_fun_getElem points Prod.fst,
    Fin.sum_univ_fun_getElem points (fun point => point.2 * point.1), mul_comm] at inequality
  simpa only [mul_comm] using inequality

theorem spread_pos (values : List K) (apart : spread values ≠ 0) : 0 < spread values := by
  have squares : 0 ≤ values.length * spread values := by
    rw [← sum_deviation]
    exact sum_squares_nonneg values _
  have nonempty : values ≠ [] := by
    rintro rfl
    simp [spread] at apart
  have counted : (0 : K) < values.length := by
    rw [Nat.cast_pos]
    exact List.length_pos_of_ne_nil nonempty
  exact lt_of_le_of_ne (nonneg_of_mul_nonneg_right squares counted) apart.symm

/-- A line that falls is drawn through points of which a later one is lower. -/
theorem Fits.exists_fall (fits : Fits points intercept slope)
    (apart : spread (points.map Prod.fst) ≠ 0) (falls : slope < 0) :
    ∃ left ∈ points, ∃ right ∈ points, left.1 < right.1 ∧ right.2 < left.2 := by
  by_contra rising
  push Not at rising
  have together := sums_le_of_monotone rising
  rw [(fits.eq_solution apart).2, slopeOf] at falls
  have upward := div_nonneg (sub_nonneg.mpr together) (spread_pos _ apart).le
  exact absurd falls (not_lt.mpr upward)

end Falling

end LiquidationBot.LeastSquares
