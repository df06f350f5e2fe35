import Mathlib.Algebra.Order.Group.Unbundled.Int
import Mathlib.Algebra.Order.Ring.Int
import Mathlib.Tactic.Linarith
import Mathlib.Tactic.Ring

/-!
# Differences of floors in another unit

Two amounts are taken into a unit that is worth `s / q` of theirs, and each is rounded
down. One of the two numbers is one. The difference of the floors reaches a target for
some pair of amounts exactly from a least difference of the amounts on, and how far the
two differences can be apart depends on the residues alone.
-/

namespace LiquidationBot.ScaledFloors

variable {q s : Int}

/-- A floor, taken back into the unit. -/
theorem floor_mul (amount : Int) : amount * q / s * s = amount * q - amount * q % s := by
  have whole := Int.ediv_mul_add_emod (amount * q) s
  linarith

/-- The largest amount that is worth less than one. -/
theorem residue_sub_one (unit : q = 1 ∨ s = 1) (positive : 0 < s) : (s - 1) * q % s = s - 1 := by
  rcases unit with rfl | rfl
  · rw [mul_one]
    exact Int.emod_eq_of_lt (by omega) (by omega)
  · simp

theorem floor_sub_one (unit : q = 1 ∨ s = 1) (positive : 0 < s) : (s - 1) * q / s = 0 := by
  rcases unit with rfl | rfl
  · rw [mul_one]
    exact Int.ediv_eq_zero_of_lt (by omega) (by omega)
  · simp

section Differences

variable (unit : q = 1 ∨ s = 1) (scale : 0 < q) (positive : 0 < s) {target : Int}
  (some : 1 ≤ target)

include unit scale positive some

/-- Floors that differ by the target come from amounts that differ by the margin, exactly if
one less than the margin is worth no more than one less than the target. -/
theorem gains_iff (margin : Int) :
    (∀ spent returned : Int, 0 ≤ spent → 0 ≤ returned →
      target ≤ returned * q / s - spent * q / s → margin ≤ returned - spent) ↔
      (margin - 1) * q ≤ (target - 1) * s := by
  constructor
  · intro gains
    by_contra more
    rw [not_le] at more
    have gained : 0 < (margin - 1) * q :=
      (mul_nonneg (by omega : (0 : Int) ≤ target - 1) positive.le).trans_lt more
    have least : 0 < margin - 1 := (pos_iff_pos_of_mul_pos gained).mpr scale
    have reached : target ≤ (s - 1 + (margin - 1)) * q / s := by
      rw [Int.le_ediv_iff_mul_le positive]
      have worth : s - 1 ≤ (s - 1) * q := le_mul_of_one_le_right (by omega) scale
      have split : (s - 1 + (margin - 1)) * q = (s - 1) * q + (margin - 1) * q := add_mul _ _ _
      have goal : target * s = (target - 1) * s + s := by ring
      omega
    have bound := gains (s - 1) (s - 1 + (margin - 1)) (by omega) (by omega)
      (by rw [floor_sub_one unit positive]; omega)
    omega
  · intro worth spent returned _ _ reached
    have down : returned * q / s * s ≤ returned * q := Int.ediv_mul_le _ positive.ne'
    have up : spent * q < (spent * q / s + 1) * s := Int.lt_ediv_add_one_mul_self _ positive
    have scaled := mul_le_mul_of_nonneg_right reached positive.le
    have more : (margin - 1) * q < (returned - spent) * q := by linarith
    have beyond := lt_of_mul_lt_mul_right more scale.le
    omega

/-- The floors of two amounts, less a part, and the amounts, less a whole, are apart by less
than two, exactly if the part and the whole are by no more than one. -/
theorem rounding_iff (part whole : Int) :
    (∀ spent returned : Int, 0 ≤ spent → 0 ≤ returned →
      target ≤ returned * q / s - spent * q / s →
        |(returned * q / s - spent * q / s - part) * s - (returned - spent - whole) * q| < 2 * s) ↔
      |whole * q - part * s| ≤ s := by
  have apart (spent returned : Int) :
      (returned * q / s - spent * q / s - part) * s - (returned - spent - whole) * q =
        spent * q % s - returned * q % s + (whole * q - part * s) := by
    have returnedFloor := floor_mul (q := q) (s := s) returned
    have spentFloor := floor_mul (q := q) (s := s) spent
    linarith
  simp only [apart, abs_lt, abs_le]
  have multiple : target * s * q = target * q * s := by ring
  have worth : target ≤ target * q := le_mul_of_one_le_right (by omega) scale
  have nonneg : 0 ≤ target * s := mul_nonneg (by omega) positive.le
  constructor
  · intro close
    constructor
    · have below := (close 0 (target * s + (s - 1)) le_rfl (by omega) ?_).1
      · rw [zero_mul, Int.zero_emod, add_mul, multiple, Int.mul_add_emod_self_right,
          residue_sub_one unit positive] at below
        omega
      · rw [zero_mul, Int.zero_ediv, add_mul, multiple, Int.mul_add_ediv_right _ _ positive.ne',
          floor_sub_one unit positive]
        omega
    · have above := (close (s - 1) (target * s) (by omega) nonneg ?_).2
      · rw [multiple, Int.mul_emod_left, residue_sub_one unit positive] at above
        omega
      · rw [multiple, Int.mul_ediv_cancel _ positive.ne', floor_sub_one unit positive]
        omega
  · rintro ⟨low, high⟩ spent returned _ _ _
    have spentLow := Int.emod_nonneg (spent * q) positive.ne'
    have spentHigh := Int.emod_lt_of_pos (spent * q) positive
    have returnedLow := Int.emod_nonneg (returned * q) positive.ne'
    have returnedHigh := Int.emod_lt_of_pos (returned * q) positive
    omega

end Differences

end LiquidationBot.ScaledFloors
