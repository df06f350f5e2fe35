import LiquidationBot.LocalPositionModel

/-!
# The tier of a fresh health factor below one

Three guards of the policy can put an older value in the place of a recomputed
health factor. Below one the cap plays no part, and the guards come down to
three comparisons with the stored totals and the cached value. The tier is then
that of the older value; without a guard the position is liquidatable.
-/

namespace LiquidationBot

/-- Not infinite, and so far above the fresh value that they diverge by more
than half of it. -/
def FarAbove (value hf : Nat) : Prop := value < MAX_UINT256 ∧ BPS * hf ≤ 4999 * value

/-- Not zero, and so far below the fresh value that they diverge by more than
half of it. -/
def FarBelow (value hf : Nat) : Prop := 0 < value ∧ 15001 * value ≤ BPS * hf

instance (value hf : Nat) : Decidable (FarAbove value hf) :=
  inferInstanceAs (Decidable (_ ∧ _))

instance (value hf : Nat) : Decidable (FarBelow value hf) :=
  inferInstanceAs (Decidable (_ ∧ _))

/-- The cached value of a confirmed position, when it diverges. -/
def guardingCache (position : UserPosition) (hf : Nat) : Option Nat :=
  if position.confidence = .high ∧ position.lastTotalDebtBase ≠ none ∧
      position.lastTotalCollateralBase ≠ none ∧
      (0 < position.cachedHfWad ∧ FarAbove position.cachedHfWad hf ∨
        FarBelow position.cachedHfWad hf)
  then some position.cachedHfWad
  else none

/-- The value that a guard puts in the place of a fresh health factor below one:
the aggregate below 1.5, a diverging aggregate of a confirmed position, or its
diverging cached value. -/
def guardingValue (position : UserPosition) (hf : Nat) : Option Nat :=
  match aggregateHfWad position with
  | none => guardingCache position hf
  | some aggregate =>
      if aggregate < HF_DANGER_ZONE_MAX_WAD then some aggregate
      else if position.confidence = .high ∧ FarAbove aggregate hf then some aggregate
      else guardingCache position hf

/-- The second test of `isDangerZoneHf` adds nothing to the first. -/
theorem isDangerZoneHf_iff (hfWad : Nat) :
    isDangerZoneHf hfWad = true ↔ hfWad < HF_DANGER_ZONE_MAX_WAD := by
  have finite : HF_DANGER_ZONE_MAX_WAD < MAX_UINT256 := by decide
  have width : HF_DANGER_ZONE_MAX_WAD = WAD + WAD / 2 := by decide
  simp only [isDangerZoneHf]
  split
  · simp only [Bool.false_eq_true, false_iff]
    omega
  · split
    next below => simp [below]
    next above =>
      simp only [above, iff_false, decide_eq_true_eq]
      split <;> omega

/-- Divergence by more than half is a comparison without the rounding division. -/
theorem divergenceBps_gt_iff (baseline hf : Nat) :
    relativeDivergenceBps baseline hf > HF_DIVERGENCE_RATIO_BPS ↔
      0 < baseline ∧ baseline < MAX_UINT256 ∧
        (BPS * hf ≤ 4999 * baseline ∨ 15001 * baseline ≤ BPS * hf) := by
  simp only [relativeDivergenceBps, HF_DIVERGENCE_RATIO_BPS, BPS]
  split
  next trivial =>
    simp only [gt_iff_lt, Nat.not_lt_zero, false_iff]
    omega
  next proper =>
    have positive : 0 < baseline := by omega
    rw [gt_iff_lt, Nat.lt_iff_add_one_le, Nat.le_div_iff_mul_le positive]
    split <;> omega

/-- From a value below one, an infinite baseline is never far below. -/
theorem diverges_iff (baseline hf : Nat) (below : hf < WAD) :
    relativeDivergenceBps baseline hf > HF_DIVERGENCE_RATIO_BPS ↔
      0 < baseline ∧ FarAbove baseline hf ∨ FarBelow baseline hf := by
  have finite : WAD < MAX_UINT256 := by decide
  rw [divergenceBps_gt_iff, FarAbove, FarBelow, BPS]
  omega

theorem capPerReserveHf_of_lt (position : UserPosition) {hf : Nat} (below : hf < WAD) :
    capPerReserveHf hf position = hf := by
  have cap : WAD < HF_POLICY_CAP_WAD := by decide
  have zone : WAD < HF_DANGER_ZONE_MAX_WAD := by decide
  simp only [capPerReserveHf]
  rw [if_neg (by omega)]
  split
  · rfl
  · rw [if_neg (by omega)]

/-- Rejecting the overwrite keeps the guarding cached value. -/
theorem overwrite_eq (position : UserPosition) {hf : Nat} (below : hf < WAD) :
    (if shouldRejectPerReserveOverwrite position hf then position.cachedHfWad else hf) =
      (guardingCache position hf).getD hf := by
  simp only [shouldRejectPerReserveOverwrite, guardingCache, ← diverges_iff _ _ below]
  by_cases high : position.confidence = .high
  · by_cases totals : position.lastTotalDebtBase = none ∨ position.lastTotalCollateralBase = none
    · rcases totals with debt | collateral
      · simp [debt]
      · simp [collateral]
    · obtain ⟨debt, collateral⟩ := not_or.mp totals
      by_cases far : relativeDivergenceBps position.cachedHfWad hf > HF_DIVERGENCE_RATIO_BPS
      · simp [high, debt, collateral, far]
      · simp [high, far]
  · simp [high]

/-- A fresh health factor below one is stored unless a guard puts another value
in its place. -/
theorem resolveEffectiveHfWad_of_lt (position : UserPosition) {hf : Nat} (below : hf < WAD) :
    resolveEffectiveHfWad position hf = (guardingValue position hf).getD hf := by
  simp only [resolveEffectiveHfWad, guardingValue, capPerReserveHf_of_lt position below,
    overwrite_eq position below]
  cases aggregateHfWad position with
  | none => rfl
  | some aggregate =>
    simp only [isDangerZoneHf_iff, diverges_iff _ _ below]
    by_cases danger : aggregate < HF_DANGER_ZONE_MAX_WAD
    · simp [danger]
    · have large : WAD < aggregate := by
        have zone : WAD < HF_DANGER_ZONE_MAX_WAD := by decide
        omega
      have notBelow : ¬ FarBelow aggregate hf := by
        rintro ⟨_, far⟩
        simp only [BPS] at far
        omega
      have positive : 0 < aggregate := by omega
      by_cases far : position.confidence = .high ∧ FarAbove aggregate hf
      · simp [danger, far, positive]
      · simp only [danger, notBelow, positive, true_and, or_false, far, if_false]

namespace LocalPositionModel

/-- The tier of a stored position after a fresh health factor below one:
liquidatable, or the tier of the guarding value. -/
theorem tier_of_fresh_below_one (config : LocalPositionModelConfig) (model : LocalPositionModel)
    (key : Address) (position : UserPosition) (hf : Nat)
    (stored : model.positions.get? key = some position) (below : hf < WAD) :
    ∃ committed, (commitHfFromRecompute model key (.ok hf)).2 = some committed ∧
      classifyTier config committed.cachedHfWad =
        (guardingValue position hf).elim .liquidatable (classifyTier config) := by
  refine ⟨{ position with cachedHfWad := resolveEffectiveHfWad position hf }, ?_, ?_⟩
  · simp [commitHfFromRecompute, stored, resolveHfFromResult]
  · rw [resolveEffectiveHfWad_of_lt position below]
    cases guardingValue position hf with
    | none => simp [classifyTier, below]
    | some value => rfl

/-- A confirmed position whose totals give 1.2 and whose cached value agrees. -/
def oldSnapshot : UserPosition :=
  { newPosition ⟨1, 0⟩ 700000 with
    confidence := .high
    isFullySeeded := true
    cachedHfWad := 1200000000000000000
    lastTotalCollateralBase := some 150000000000
    lastTotalDebtBase := some 100000000000
    lastLiquidationThreshold := some 8000 }

/-- A model with that position only. -/
def oldSnapshotModel : LocalPositionModel :=
  { initial with positions := initial.positions.put oldSnapshot }

/-- The theorem at 0.6: the totals' 1.2 is below 1.5 and decides. -/
theorem tier_of_fresh_below_one_at :
    ∃ committed, (commitHfFromRecompute oldSnapshotModel ⟨1, 0⟩ (.ok 600000000000000000)).2 =
        some committed ∧
      classifyTier defaultConfig committed.cachedHfWad =
        (guardingValue oldSnapshot 600000000000000000).elim .liquidatable
          (classifyTier defaultConfig) :=
  tier_of_fresh_below_one defaultConfig oldSnapshotModel ⟨1, 0⟩ oldSnapshot 600000000000000000
    (by decide +kernel) (by decide)

/-- The fresh value is 0.6 and the position stays healthy. -/
theorem healthy_below_one :
    oldSnapshot.isFullySeeded = true ∧ 600000000000000000 < WAD ∧
      (commitHfFromRecompute oldSnapshotModel ⟨1, 0⟩ (.ok 600000000000000000)).2.map
        (fun committed => classifyTier defaultConfig committed.cachedHfWad) = some .healthy := by
  refine ⟨rfl, by decide, by decide +kernel⟩

end LocalPositionModel

end LiquidationBot
