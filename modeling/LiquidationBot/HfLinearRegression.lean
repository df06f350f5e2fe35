import LiquidationBot.Library.LeastSquares
import Mathlib.Algebra.Order.Field.Rat

/-!
# The trend of a health factor

The poller of accounts near liquidation draws a line through its last samples of an
account's health factor and looks ten blocks ahead on it. The line is the one of
least squares, with times counted from the first sample. Numbers are exact here;
the source computes in floats.
-/

namespace LiquidationBot

open LeastSquares

/-- `HfRegressionSample`. -/
structure HfRegressionSample where
  atMs : ℚ
  healthFactor : ℚ
deriving DecidableEq

/-- `HfRegressionResult`. -/
structure HfRegressionResult where
  slopePerMs : ℚ
  rSquared : ℚ
  projectedHfAtMs : ℚ → ℚ

/-- The sums of the first loop. -/
structure HfSums where
  sumT : ℚ
  sumH : ℚ
  sumTT : ℚ
  sumTH : ℚ

/-- The body of the first loop. -/
def HfSums.add (t0 : ℚ) (sums : HfSums) (sample : HfRegressionSample) : HfSums :=
  let t := sample.atMs - t0
  { sumT := sums.sumT + t
    sumH := sums.sumH + sample.healthFactor
    sumTT := sums.sumTT + t * t
    sumTH := sums.sumTH + t * sample.healthFactor }

/-- The sums of the second loop. -/
structure HfSquares where
  ssTot : ℚ
  ssRes : ℚ

/-- The body of the second loop. -/
def HfSquares.add (t0 intercept slope meanH : ℚ) (squares : HfSquares)
    (sample : HfRegressionSample) : HfSquares :=
  let t := sample.atMs - t0
  let predicted := intercept + slope * t
  { ssTot := squares.ssTot + (sample.healthFactor - meanH) ^ 2
    ssRes := squares.ssRes + (sample.healthFactor - predicted) ^ 2 }

/-- `linearRegressionHf`. -/
def linearRegressionHf (samples : List HfRegressionSample) : Option HfRegressionResult :=
  match samples with
  | [] => none
  | [_] => none
  | first :: _ =>
      let n : ℚ := samples.length
      let t0 := first.atMs
      let sums := samples.foldl (HfSums.add t0) ⟨0, 0, 0, 0⟩
      let denom := n * sums.sumTT - sums.sumT * sums.sumT
      if denom = 0 then none
      else
        let slope := (n * sums.sumTH - sums.sumT * sums.sumH) / denom
        let intercept := (sums.sumH - slope * sums.sumT) / n
        let meanH := sums.sumH / n
        let squares := samples.foldl (HfSquares.add t0 intercept slope meanH) ⟨0, 0⟩
        let rSquared := if squares.ssTot = 0 then 1 else max 0 (1 - squares.ssRes / squares.ssTot)
        some ⟨slope, rSquared, fun targetMs => intercept + slope * (targetMs - t0)⟩

/-- `projectHfBlocksAhead`. -/
def projectHfBlocksAhead (regression : HfRegressionResult) (lastSample : HfRegressionSample)
    (blocksAhead : ℚ) (blockTimeMs : ℚ := 2000) : ℚ :=
  regression.projectedHfAtMs (lastSample.atMs + blocksAhead * blockTimeMs)

namespace HfRegressionSample

/-- The sample as a point, its time counted from a first one. -/
def point (t0 : ℚ) (sample : HfRegressionSample) : ℚ × ℚ :=
  (sample.atMs - t0, sample.healthFactor)

/-- The sample taken some time later. -/
def shift (offset : ℚ) (sample : HfRegressionSample) : HfRegressionSample :=
  { sample with atMs := sample.atMs + offset }

@[simp] theorem point_fst (t0 : ℚ) (sample : HfRegressionSample) :
    (sample.point t0).1 = sample.atMs - t0 := rfl

@[simp] theorem point_snd (t0 : ℚ) (sample : HfRegressionSample) :
    (sample.point t0).2 = sample.healthFactor := rfl

end HfRegressionSample

/-! ## The loops -/

variable {samples : List HfRegressionSample}

/-- The first loop adds up the points. -/
theorem foldl_hfSums (t0 : ℚ) (samples : List HfRegressionSample) (sums : HfSums) :
    samples.foldl (HfSums.add t0) sums =
      { sumT := sums.sumT + ((samples.map (HfRegressionSample.point t0)).map Prod.fst).sum
        sumH := sums.sumH + ((samples.map (HfRegressionSample.point t0)).map Prod.snd).sum
        sumTT := sums.sumTT +
          ((samples.map (HfRegressionSample.point t0)).map (fun point => point.1 * point.1)).sum
        sumTH := sums.sumTH +
          ((samples.map (HfRegressionSample.point t0)).map
            (fun point => point.1 * point.2)).sum } := by
  induction samples generalizing sums with
  | nil => simp
  | cons sample samples inductionHypothesis =>
    simp only [List.foldl_cons, inductionHypothesis, HfSums.add, List.map_cons, List.sum_cons,
      HfRegressionSample.point_fst, HfRegressionSample.point_snd, add_assoc]

/-- The second loop adds up the squares that the flat line through the mean misses,
and those that the drawn line misses. -/
theorem foldl_hfSquares (t0 intercept slope meanH : ℚ) (samples : List HfRegressionSample)
    (squares : HfSquares) :
    samples.foldl (HfSquares.add t0 intercept slope meanH) squares =
      { ssTot := squares.ssTot +
          squaredResiduals (samples.map (HfRegressionSample.point t0)) meanH 0
        ssRes := squares.ssRes +
          squaredResiduals (samples.map (HfRegressionSample.point t0)) intercept slope } := by
  induction samples generalizing squares with
  | nil => simp [squaredResiduals]
  | cons sample samples inductionHypothesis =>
    simp only [List.foldl_cons, inductionHypothesis, HfSquares.add, List.map_cons,
      squaredResiduals, List.sum_cons, LeastSquares.residual, HfRegressionSample.point_fst,
      HfRegressionSample.point_snd, zero_mul, add_zero, add_assoc]

/-- What the function computes, in the terms of the points. -/
theorem linearRegressionHf_cons (first second : HfRegressionSample)
    (rest : List HfRegressionSample) :
    linearRegressionHf (first :: second :: rest) =
      let points := (first :: second :: rest).map (HfRegressionSample.point first.atMs)
      let meanH := (points.map Prod.snd).sum / points.length
      let ssTot := squaredResiduals points meanH 0
      let ssRes := squaredResiduals points (interceptOf points) (slopeOf points)
      if spread (points.map Prod.fst) = 0 then none
      else some ⟨slopeOf points, if ssTot = 0 then 1 else max 0 (1 - ssRes / ssTot),
        fun targetMs => interceptOf points + slopeOf points * (targetMs - first.atMs)⟩ := by
  simp only [linearRegressionHf, foldl_hfSums, foldl_hfSquares, zero_add, spread_positions,
    interceptOf, slopeOf, List.length_map]

theorem spread_times_eq_zero_iff (t0 : ℚ) (samples : List HfRegressionSample) :
    spread ((samples.map (HfRegressionSample.point t0)).map Prod.fst) = 0 ↔
      ∀ left ∈ samples, ∀ right ∈ samples, left.atMs = right.atMs := by
  rw [spread_eq_zero_iff]
  simp only [List.map_map, List.mem_map, Function.comp_def, HfRegressionSample.point_fst,
    forall_exists_index, and_imp, forall_apply_eq_imp_iff₂, sub_left_inj]

/-- A result exists exactly if two times differ. -/
theorem linearRegressionHf_isSome_iff : (linearRegressionHf samples).isSome = true ↔
    ∃ left ∈ samples, ∃ right ∈ samples, left.atMs ≠ right.atMs := by
  match samples with
  | [] => simp [linearRegressionHf]
  | [_] => simp [linearRegressionHf]
  | first :: second :: rest =>
    have same := spread_times_eq_zero_iff first.atMs (first :: second :: rest)
    rw [linearRegressionHf_cons]
    dsimp only
    split
    next none =>
      have equal := same.mp none
      constructor
      · intro impossible
        cases impossible
      · rintro ⟨left, leftMember, right, rightMember, differ⟩
        exact absurd (equal left leftMember right rightMember) differ
    next apart =>
      rw [same] at apart
      push Not at apart
      exact ⟨fun _ => apart, fun _ => rfl⟩

/-- What a result is made of: the line that fits the points whose times are counted
from the first sample. -/
theorem of_linearRegressionHf {regression : HfRegressionResult}
    (drawn : linearRegressionHf samples = some regression) :
    ∃ t0 intercept, spread ((samples.map (HfRegressionSample.point t0)).map Prod.fst) ≠ 0 ∧
      Fits (samples.map (HfRegressionSample.point t0)) intercept regression.slopePerMs ∧
      (∀ targetMs, regression.projectedHfAtMs targetMs =
        intercept + regression.slopePerMs * (targetMs - t0)) ∧
      ∃ meanH, regression.rSquared =
        if squaredResiduals (samples.map (HfRegressionSample.point t0)) meanH 0 = 0 then 1
        else max 0 (1 - squaredResiduals (samples.map (HfRegressionSample.point t0)) intercept
          regression.slopePerMs /
            squaredResiduals (samples.map (HfRegressionSample.point t0)) meanH 0) := by
  match samples with
  | [] => cases drawn
  | [_] => cases drawn
  | first :: second :: rest =>
    rw [linearRegressionHf_cons] at drawn
    dsimp only at drawn
    split at drawn
    next => cases drawn
    next apart =>
      cases drawn
      exact ⟨first.atMs, _, apart, fits_solution apart, fun _ => rfl, _, rfl⟩

/-- Times counted from the first sample do not see a shift. -/
theorem linearRegressionHf_shift (offset : ℚ) (samples : List HfRegressionSample) :
    linearRegressionHf (samples.map (HfRegressionSample.shift offset)) =
      (linearRegressionHf samples).map (fun regression =>
        { regression with
          projectedHfAtMs := fun targetMs => regression.projectedHfAtMs (targetMs - offset) }) := by
  match samples with
  | [] => rfl
  | [_] => rfl
  | first :: second :: rest =>
    have points : (first.shift offset :: second.shift offset ::
          rest.map (HfRegressionSample.shift offset)).map
          (HfRegressionSample.point (first.shift offset).atMs) =
        (first :: second :: rest).map (HfRegressionSample.point first.atMs) := by
      rw [← List.map_cons, ← List.map_cons, List.map_map]
      apply List.map_congr_left
      intro sample _
      simp [HfRegressionSample.point, HfRegressionSample.shift]
    rw [List.map_cons, List.map_cons, linearRegressionHf_cons, linearRegressionHf_cons, points]
    dsimp only
    split
    next => rfl
    next =>
      rw [Option.map_some]
      congr 2
      funext targetMs
      simp only [HfRegressionSample.shift]
      ring

/-! ## The trend -/

/-- The squared distances of the samples from a line. -/
def squaredErrors (samples : List HfRegressionSample) (line : ℚ → ℚ) : ℚ :=
  (samples.map (fun sample => (sample.healthFactor - line sample.atMs) ^ 2)).sum

/-- A least-squares trend of samples: its projections are on a line with its slope, no
line is closer to the samples, and the line does not depend on where time begins and
goes through samples that are on a line. -/
structure LeastSquaresTrend (samples : List HfRegressionSample)
    (regression : HfRegressionResult) : Prop where
  line : ∃ intercept, ∀ targetMs,
    regression.projectedHfAtMs targetMs = intercept + regression.slopePerMs * targetMs
  closest : ∀ intercept slope, squaredErrors samples regression.projectedHfAtMs ≤
    squaredErrors samples (fun targetMs => intercept + slope * targetMs)
  rSquared_nonneg : 0 ≤ regression.rSquared
  rSquared_le_one : regression.rSquared ≤ 1
  shifted : ∀ offset, ∃ later,
    linearRegressionHf (samples.map (HfRegressionSample.shift offset)) = some later ∧
      later.slopePerMs = regression.slopePerMs ∧
      ∀ last ∈ samples.getLast?, ∀ blocksAhead blockTimeMs,
        projectHfBlocksAhead later (last.shift offset) blocksAhead blockTimeMs =
          projectHfBlocksAhead regression last blocksAhead blockTimeMs
  collinear : ∀ intercept slope,
    (∀ sample ∈ samples, sample.healthFactor = intercept + slope * sample.atMs) →
      ∀ last ∈ samples.getLast?, ∀ blocksAhead blockTimeMs,
        projectHfBlocksAhead regression last blocksAhead blockTimeMs =
          intercept + slope * (last.atMs + blocksAhead * blockTimeMs)

/-- The squared errors of a line in the terms of the points. -/
theorem squaredErrors_eq (t0 intercept slope : ℚ) (samples : List HfRegressionSample) :
    squaredErrors samples (fun targetMs => intercept + slope * (targetMs - t0)) =
      squaredResiduals (samples.map (HfRegressionSample.point t0)) intercept slope := by
  simp only [squaredErrors, squaredResiduals, LeastSquares.residual, List.map_map,
    Function.comp_def, HfRegressionSample.point_fst, HfRegressionSample.point_snd]

/-- One less a part of a non-negative whole, or one where the whole is nothing. -/
theorem rSquared_mem {ssTot ssRes : ℚ} (total : 0 ≤ ssTot) (rest : 0 ≤ ssRes) :
    0 ≤ (if ssTot = 0 then 1 else max 0 (1 - ssRes / ssTot)) ∧
      (if ssTot = 0 then 1 else max 0 (1 - ssRes / ssTot)) ≤ 1 := by
  split
  next => exact ⟨zero_le_one, le_refl 1⟩
  next =>
    have part : 0 ≤ ssRes / ssTot := div_nonneg rest total
    exact ⟨le_max_left _ _, max_le zero_le_one (by linarith)⟩

theorem leastSquaresTrend_of_some {regression : HfRegressionResult}
    (drawn : linearRegressionHf samples = some regression) :
    LeastSquaresTrend samples regression := by
  obtain ⟨t0, intercept, apart, fits, projects, meanH, rSquared⟩ := of_linearRegressionHf drawn
  have bounds := rSquared_mem
    (squaredResiduals_nonneg (samples.map (HfRegressionSample.point t0)) meanH 0)
    (squaredResiduals_nonneg (samples.map (HfRegressionSample.point t0)) intercept
      regression.slopePerMs)
  rw [← rSquared] at bounds
  refine ⟨⟨intercept - regression.slopePerMs * t0, ?_⟩, ?_, bounds.1, bounds.2, ?_, ?_⟩
  · intro targetMs
    rw [projects]
    ring
  · intro otherIntercept otherSlope
    have other : (fun targetMs => otherIntercept + otherSlope * targetMs) =
        fun targetMs => otherIntercept + otherSlope * t0 + otherSlope * (targetMs - t0) := by
      funext targetMs
      ring
    rw [other, funext projects, squaredErrors_eq, squaredErrors_eq]
    exact fits.squaredResiduals_le _ _
  · intro offset
    have later := linearRegressionHf_shift offset samples
    rw [drawn, Option.map_some] at later
    refine ⟨_, later, rfl, ?_⟩
    intro last _ blocksAhead blockTimeMs
    simp only [projectHfBlocksAhead, HfRegressionSample.shift]
    congr 1
    ring
  · intro lineIntercept lineSlope through last _ blocksAhead blockTimeMs
    have line : Fits (samples.map (HfRegressionSample.point t0))
        (lineIntercept + lineSlope * t0) lineSlope := by
      apply fits_of_through
      intro point member
      obtain ⟨sample, inside, rfl⟩ := List.mem_map.mp member
      rw [LeastSquares.residual, HfRegressionSample.point_fst, HfRegressionSample.point_snd,
        through sample inside]
      ring
    obtain ⟨sameIntercept, sameSlope⟩ := fits.eq_solution apart
    obtain ⟨lineIntercept', lineSlope'⟩ := line.eq_solution apart
    rw [projectHfBlocksAhead, projects, sameIntercept, sameSlope, ← lineIntercept', ← lineSlope']
    ring

/-- A trend is drawn exactly if two times differ, and it is one of least squares. -/
theorem linearRegressionHf_leastSquares (samples : List HfRegressionSample) :
    ((linearRegressionHf samples).isSome = true ↔
        ∃ left ∈ samples, ∃ right ∈ samples, left.atMs ≠ right.atMs) ∧
      ∀ regression, linearRegressionHf samples = some regression →
        LeastSquaresTrend samples regression :=
  ⟨linearRegressionHf_isSome_iff, fun _ => leastSquaresTrend_of_some⟩

/-- Three samples on a falling line. -/
def fallingSamples : List HfRegressionSample :=
  [⟨0, 12 / 10⟩, ⟨4000, 116 / 100⟩, ⟨8000, 112 / 100⟩]

theorem linearRegressionHf_leastSquares_falling : ∃ regression,
    linearRegressionHf fallingSamples = some regression ∧
      LeastSquaresTrend fallingSamples regression := by
  have differ : ∃ left ∈ fallingSamples, ∃ right ∈ fallingSamples, left.atMs ≠ right.atMs :=
    ⟨⟨0, 12 / 10⟩, by decide +kernel, ⟨4000, 116 / 100⟩, by decide +kernel, by decide +kernel⟩
  obtain ⟨regression, drawn⟩ := Option.isSome_iff_exists.mp
    ((linearRegressionHf_leastSquares fallingSamples).1.mpr differ)
  exact ⟨regression, drawn, (linearRegressionHf_leastSquares fallingSamples).2 regression drawn⟩

/-- They fall to one in six blocks more. -/
example : (linearRegressionHf fallingSamples).map (fun regression =>
    (regression.slopePerMs, regression.rSquared,
      projectHfBlocksAhead regression ⟨8000, 112 / 100⟩ 6)) = some (-1 / 100000, 1, 1) := by
  decide +kernel

end LiquidationBot
