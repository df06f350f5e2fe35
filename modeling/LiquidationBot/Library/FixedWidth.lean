import Mathlib.Algebra.Order.Ring.Int
import Mathlib.Tactic.Linarith
import Mathlib.Tactic.Ring

/-!
# Signed integers of a fixed width

A signed type of `2 * half` values holds the integers from `-half` below `half`.
Any other integer wraps around to the one of the same residue in that range.

A division that truncates does not hide that its dividend wrapped: the two
dividends are a full turn apart, which is more than two divisors of the type. So
the quotient of the wrapped dividend, narrowed to a smaller type, is the true
quotient exactly when nothing wrapped on the way.
-/

namespace LiquidationBot.FixedWidth

/-- The type holds the value. -/
def Fits (half : Nat) (value : Int) : Prop := -(half : Int) ≤ value ∧ value < half

instance (half : Nat) (value : Int) : Decidable (Fits half value) :=
  inferInstanceAs (Decidable (_ ∧ _))

/-- The value of the type with the same residue. -/
def wrap (half : Nat) (value : Int) : Int := value.bmod (2 * half)

variable {half : Nat} {value other : Int}

theorem wrap_eq_iff (positive : 0 < half) :
    wrap half value = other ↔ Fits half other ∧ (2 * half : Int) ∣ other - value := by
  rw [wrap, Int.bmod_eq_iff (by omega), Fits]
  push_cast
  constructor
  · rintro ⟨low, high, turns⟩
    exact ⟨⟨by omega, by omega⟩, turns⟩
  · rintro ⟨⟨low, high⟩, turns⟩
    exact ⟨by omega, by omega, turns⟩

theorem fits_wrap (positive : 0 < half) (value : Int) : Fits half (wrap half value) :=
  ((wrap_eq_iff positive).mp rfl).1

theorem wrap_of_fits (positive : 0 < half) (fits : Fits half value) : wrap half value = value :=
  (wrap_eq_iff positive).mpr ⟨fits, by simp⟩

/-- What does not fit wraps by full turns. -/
theorem exists_turns (positive : 0 < half) (overflows : ¬ Fits half value) :
    ∃ turns : Int, turns ≠ 0 ∧ wrap half value = value + 2 * half * turns := by
  obtain ⟨fits, turns, moved⟩ := (@wrap_eq_iff half value _ positive).mp rfl
  refine ⟨turns, ?_, by linarith⟩
  rintro rfl
  rw [mul_zero, sub_eq_zero] at moved
  exact overflows (moved ▸ fits)

/-! ## Quotients -/

variable {divisor : Int}

/-- Dividends two divisors apart have different quotients. -/
theorem tdiv_lt_tdiv_of_apart {low high : Int} (positive : 0 < divisor)
    (apart : low + 2 * divisor ≤ high) : low.tdiv divisor < high.tdiv divisor := by
  have lowParts := Int.tdiv_mul_add_tmod low divisor
  have highParts := Int.tdiv_mul_add_tmod high divisor
  have lowRest : -divisor < low.tmod divisor := by
    have size := Int.natAbs_tmod low divisor
    have below := Nat.mod_lt low.natAbs (Int.natAbs_pos.mpr positive.ne')
    omega
  have highRest := Int.tmod_lt_of_pos high positive
  have ordered : low.tdiv divisor * divisor < high.tdiv divisor * divisor := by linarith
  exact lt_of_mul_lt_mul_right ordered positive.le

/-- The quotient shows whether the dividend wrapped. -/
theorem wrap_tdiv_eq_iff (positive : 0 < divisor) (bounded : divisor ≤ half) :
    (wrap half value).tdiv divisor = value.tdiv divisor ↔ Fits half value := by
  have some : 0 < half := by omega
  constructor
  · intro same
    by_contra overflows
    obtain ⟨turns, moved, wrapped⟩ := exists_turns some overflows
    rcases lt_or_gt_of_ne moved with back | forth
    · have apart : wrap half value + 2 * divisor ≤ value := by
        rw [wrapped]
        nlinarith
      exact absurd same (tdiv_lt_tdiv_of_apart positive apart).ne
    · have apart : value + 2 * divisor ≤ wrap half value := by
        rw [wrapped]
        nlinarith
      exact absurd same (tdiv_lt_tdiv_of_apart positive apart).ne'
  · intro fits
    rw [wrap_of_fits some fits]

theorem tdiv_lt_iff {bound : Int} (positive : 0 < divisor) (some : 0 < bound) :
    value.tdiv divisor < bound ↔ value < bound * divisor := by
  rcases le_or_gt 0 value with nonneg | negative
  · rw [Int.tdiv_eq_ediv_of_nonneg nonneg, Int.ediv_lt_iff_lt_mul positive]
  · have product : 0 < bound * divisor := mul_pos some positive
    have quotient : value.tdiv divisor ≤ 0 := by
      rw [← neg_neg value, Int.neg_tdiv, neg_nonpos]
      exact Int.tdiv_nonneg (neg_nonneg.mpr negative.le) positive.le
    exact ⟨fun _ => negative.trans product, fun _ => quotient.trans_lt some⟩

theorem lt_tdiv_iff {bound : Int} (positive : 0 < divisor) (some : 0 < bound) :
    -bound < value.tdiv divisor ↔ -(bound * divisor) < value := by
  have mirrored := @tdiv_lt_iff (-value) divisor bound positive some
  rw [Int.neg_tdiv] at mirrored
  rw [neg_lt, mirrored, neg_lt]

/-- A quotient vanishes where the dividend is smaller than the divisor. -/
theorem tdiv_eq_zero_iff (positive : 0 < divisor) : value.tdiv divisor = 0 ↔ |value| < divisor := by
  have below := @tdiv_lt_iff value divisor 1 positive one_pos
  have above := @lt_tdiv_iff value divisor 1 positive one_pos
  rw [one_mul] at below above
  rw [abs_lt, ← below, ← above]
  omega

/-- A quotient fits a narrower type if the divisor makes up for the difference. -/
theorem fits_tdiv {narrow : Nat} (positive : 0 < divisor) (fits : Fits half value)
    (enough : (half : Int) < narrow * divisor) : Fits narrow (value.tdiv divisor) := by
  have some : (0 : Int) < narrow := by
    by_contra none
    nlinarith [fits.1, fits.2]
  refine ⟨le_of_lt ((lt_tdiv_iff positive some).mpr ?_), (tdiv_lt_iff positive some).mpr ?_⟩
  · linarith [fits.1]
  · linarith [fits.2]

/-- What does not fit has a quotient that does only if the divisor is large. -/
theorem lt_mul_of_overflow {narrow : Nat} (some : 0 < narrow) (positive : 0 < divisor)
    (overflows : ¬ Fits half value) (above : -(narrow : Int) < value.tdiv divisor)
    (below : value.tdiv divisor < narrow) : (half : Int) < narrow * divisor := by
  have low := (lt_tdiv_iff positive (Int.natCast_pos.mpr some)).mp above
  have high := (tdiv_lt_iff positive (Int.natCast_pos.mpr some)).mp below
  rw [Fits, not_and_or, not_le, not_lt] at overflows
  rcases overflows with small | large
  · linarith
  · linarith

/-- A quotient of the wrapped dividend, wrapped into a narrower type, is the true one exactly
when the dividend fits the wide type and the quotient the narrow one. -/
theorem wrap_wrap_tdiv_eq_iff {narrow : Nat} (some : 0 < narrow) (positive : 0 < divisor)
    (bounded : divisor ≤ half) (above : -(narrow : Int) < value.tdiv divisor) :
    wrap narrow ((wrap half value).tdiv divisor) = value.tdiv divisor ↔
      Fits half value ∧ value.tdiv divisor < narrow := by
  have wide : 0 < half := by omega
  constructor
  · intro same
    have below : value.tdiv divisor < narrow := by
      rw [← same]
      exact (fits_wrap some _).2
    refine ⟨?_, below⟩
    by_contra overflows
    have enough := lt_mul_of_overflow some positive overflows above below
    rw [wrap_of_fits some (fits_tdiv positive (fits_wrap wide value) enough),
      wrap_tdiv_eq_iff positive bounded] at same
    exact overflows same
  · rintro ⟨fits, below⟩
    rw [wrap_of_fits wide fits, wrap_of_fits some ⟨above.le, below⟩]

end LiquidationBot.FixedWidth
