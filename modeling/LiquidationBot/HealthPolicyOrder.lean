import LiquidationBot.HealthPolicyTiers
import LiquidationBot.PegSync
import Mathlib.Algebra.Order.BigOperators.Group.List
import Mathlib.Order.Monotone.Basic

/-!
# Where the policy keeps the order of health factors

A guard replaces values that diverge from an older one by more than half, below and
above. The lowest recomputed values are therefore replaced by the older one, which is
larger than what a value nearer to it would have stored. The policy keeps the order of
recomputed values only where no value of its range lies in between.

The range is that of the capped values. With dust for debt everything above 1.5 jumps
to the cap.
-/

namespace LiquidationBot

/-- A value diverges by more than half from a baseline that is neither zero nor
infinite. -/
def Far (baseline hf : Nat) : Prop :=
  0 < baseline ∧ baseline < MAX_UINT256 ∧
    (BPS * hf ≤ 4999 * baseline ∨ 15001 * baseline ≤ BPS * hf)

instance (baseline hf : Nat) : Decidable (Far baseline hf) := inferInstanceAs (Decidable (_ ∧ _))

theorem far_iff (baseline hf : Nat) :
    relativeDivergenceBps baseline hf > HF_DIVERGENCE_RATIO_BPS ↔ Far baseline hf :=
  divergenceBps_gt_iff baseline hf

/-- The largest value that the cap leaves as it is: with dust for debt, 1.5. -/
def policyTop (position : UserPosition) : Nat :=
  if position.lastTotalDebtBase.any
      (fun debtBase => decide (0 < debtBase ∧ debtBase < DUST_DEBT_BASE_THRESHOLD))
  then HF_DANGER_ZONE_MAX_WAD
  else HF_POLICY_CAP_WAD

/-- A value above the top goes to the cap. -/
def cappedAt (top hf : Nat) : Nat := if top < hf then HF_POLICY_CAP_WAD else hf

/-- The value that two guards let through; zero stands for a guard that is not there. -/
def guardedBy (aggregate cached hf : Nat) : Nat :=
  if Far aggregate hf then aggregate else if Far cached hf then cached else hf

/-- Nothing that the cap leaves lies below the cached value and near it. -/
def CacheClear (cached top : Nat) : Prop :=
  cached ≤ 1 ∨ MAX_UINT256 ≤ cached ∨
    BPS * top ≤ 4999 * cached ∧
      (cached ≤ HF_POLICY_CAP_WAD ∨ BPS * HF_POLICY_CAP_WAD ≤ 4999 * cached)

/-- Nothing that the cap leaves is stored below the aggregate: it is far from it, but
for the cap, which is then stored above it; or the cached value is above the whole
range, which ends near the aggregate. -/
def AggregateClear (aggregate cached top : Nat) : Prop :=
  BPS * top ≤ 4999 * aggregate ∧
      (Far aggregate HF_POLICY_CAP_WAD ∨
        Far cached HF_POLICY_CAP_WAD ∧ aggregate ≤ cached ∨
        ¬ Far cached HF_POLICY_CAP_WAD ∧ aggregate ≤ HF_POLICY_CAP_WAD) ∨
    top = HF_POLICY_CAP_WAD ∧ BPS * HF_POLICY_CAP_WAD < 15001 * aggregate ∧
      BPS * HF_POLICY_CAP_WAD ≤ 4999 * cached ∧ cached < MAX_UINT256

/-- The states of a position in which no guard puts a value above one that a larger
recomputed value would have stored. -/
def KeepsOrder (position : UserPosition) : Prop :=
  position.confidence = .high →
    match aggregateHfWad position with
    | none =>
      position.lastTotalDebtBase = none ∨ position.lastTotalCollateralBase = none ∨
        CacheClear position.cachedHfWad (policyTop position)
    | some aggregate =>
      aggregate < HF_DANGER_ZONE_MAX_WAD ∨
        MAX_UINT256 ≤ aggregate ∧ CacheClear position.cachedHfWad (policyTop position) ∨
        aggregate < MAX_UINT256 ∧
          AggregateClear aggregate position.cachedHfWad (policyTop position)

theorem capPerReserveHf_eq (position : UserPosition) (hf : Nat) :
    capPerReserveHf hf position = cappedAt (policyTop position) hf := by
  have order : HF_DANGER_ZONE_MAX_WAD < HF_POLICY_CAP_WAD := by decide
  unfold capPerReserveHf cappedAt policyTop
  cases position.lastTotalDebtBase with
  | none => simp only [Option.any_none, Bool.false_eq_true, if_false]
  | some debtBase =>
    simp only [Option.any_some, decide_eq_true_eq]
    by_cases dust : 0 < debtBase ∧ debtBase < DUST_DEBT_BASE_THRESHOLD
    · simp only [dust, and_self, if_true, true_and, gt_iff_lt]
      split
      next above => rw [if_pos (by omega)]
      next => rfl
    · have solid : ¬ (debtBase > 0 ∧ debtBase < DUST_DEBT_BASE_THRESHOLD ∧
          hf > HF_DANGER_ZONE_MAX_WAD) := fun all => dust ⟨all.1, all.2.1⟩
      rw [if_neg solid, if_neg dust]

theorem policyTop_cases (position : UserPosition) :
    policyTop position = HF_DANGER_ZONE_MAX_WAD ∨ policyTop position = HF_POLICY_CAP_WAD := by
  unfold policyTop
  split
  · exact Or.inl rfl
  · exact Or.inr rfl

theorem cappedAt_mono {top : Nat} (below : top ≤ HF_POLICY_CAP_WAD) : Monotone (cappedAt top) := by
  intro lower upper order
  unfold cappedAt
  split
  · rw [if_pos (by omega)]
  · split
    · omega
    · exact order

/-- The range of the cap. -/
theorem cappedAt_range (top hf : Nat) : cappedAt top hf ≤ top ∨ cappedAt top hf = HF_POLICY_CAP_WAD := by
  unfold cappedAt
  split
  · exact Or.inr rfl
  · exact Or.inl (not_lt.mp (by assumption))

theorem cappedAt_of_range {top hf : Nat} (range : hf ≤ top ∨ hf = HF_POLICY_CAP_WAD) :
    cappedAt top hf = hf := by
  unfold cappedAt
  split
  · omega
  · rfl

/-- The guards keep the order of the values that the cap leaves. -/
def GuardsKeepOrder (aggregate cached top : Nat) : Prop :=
  ∀ lower upper, (lower ≤ top ∨ lower = HF_POLICY_CAP_WAD) →
    (upper ≤ top ∨ upper = HF_POLICY_CAP_WAD) → lower ≤ upper →
    guardedBy aggregate cached lower ≤ guardedBy aggregate cached upper

/-- The guards keep the order of all values exactly when they do on the range of the cap. -/
theorem monotone_guardedBy_iff {aggregate cached top : Nat} (below : top ≤ HF_POLICY_CAP_WAD) :
    Monotone (fun hf => guardedBy aggregate cached (cappedAt top hf)) ↔
      GuardsKeepOrder aggregate cached top := by
  constructor
  · intro monotone lower upper inLower inUpper order
    have kept := monotone order
    dsimp only at kept
    rwa [cappedAt_of_range inLower, cappedAt_of_range inUpper] at kept
  · intro kept lower upper order
    exact kept _ _ (cappedAt_range top lower) (cappedAt_range top upper)
      (cappedAt_mono below order)

/-- The case without an aggregate that diverges. -/
theorem cacheClear_iff {aggregate cached top : Nat}
    (absent : aggregate = 0 ∨ MAX_UINT256 ≤ aggregate) :
    GuardsKeepOrder aggregate cached top ↔ CacheClear cached top := by
  have never : ∀ hf, ¬ Far aggregate hf := fun hf far => by
    obtain ⟨positive, finite, _⟩ := far
    omega
  simp only [GuardsKeepOrder, guardedBy, never, if_false, CacheClear]
  have cap : HF_POLICY_CAP_WAD = 1000000000000000000000 := by decide
  constructor
  · intro kept
    by_contra blocked
    obtain ⟨large, finite, near⟩ : 1 < cached ∧ cached < MAX_UINT256 ∧
        (4999 * cached < BPS * top ∨
          HF_POLICY_CAP_WAD < cached ∧ 4999 * cached < BPS * HF_POLICY_CAP_WAD) := by omega
    have zero : Far cached 0 := ⟨by omega, finite, Or.inl (by omega)⟩
    rcases near with near | ⟨above, near⟩
    · -- the greatest value of the range below the cached one
      have rejected := kept 0 (min (cached - 1) top) (by omega) (by omega) (by omega)
      have stored : ¬ Far cached (min (cached - 1) top) := by
        rintro ⟨_, _, far⟩
        simp only [BPS] at far near
        omega
      rw [if_pos zero, if_neg stored] at rejected
      omega
    · have rejected := kept 0 HF_POLICY_CAP_WAD (by omega) (by omega) (by omega)
      have stored : ¬ Far cached HF_POLICY_CAP_WAD := by
        rintro ⟨_, _, far⟩
        simp only [BPS] at far near
        omega
      rw [if_pos zero, if_neg stored] at rejected
      omega
  · intro clear lower upper inLower inUpper order
    simp only [BPS] at clear
    by_cases below : Far cached lower
    · by_cases above : Far cached upper
      · rw [if_pos below, if_pos above]
      · rw [if_pos below, if_neg above]
        simp only [Far, BPS] at below above
        omega
    · by_cases above : Far cached upper
      · rw [if_neg below, if_pos above]
        simp only [Far, BPS] at below above
        omega
      · rw [if_neg below, if_neg above]
        exact order

/-- What the guards let through below and at an aggregate: the aggregate where it is far,
then the cached value where that is. -/
theorem guardedBy_cases (aggregate cached hf : Nat) :
    Far aggregate hf ∧ guardedBy aggregate cached hf = aggregate ∨
      ¬ Far aggregate hf ∧ Far cached hf ∧ guardedBy aggregate cached hf = cached ∨
      ¬ Far aggregate hf ∧ ¬ Far cached hf ∧ guardedBy aggregate cached hf = hf := by
  unfold guardedBy
  by_cases first : Far aggregate hf
  · exact Or.inl ⟨first, if_pos first⟩
  · by_cases second : Far cached hf
    · exact Or.inr (Or.inl ⟨first, second, by rw [if_neg first, if_pos second]⟩)
    · exact Or.inr (Or.inr ⟨first, second, by rw [if_neg first, if_neg second]⟩)

/-- When the guards let through no less than the aggregate. -/
theorem le_guardedBy_iff (aggregate cached hf : Nat) :
    aggregate ≤ guardedBy aggregate cached hf ↔
      Far aggregate hf ∨ Far cached hf ∧ aggregate ≤ cached ∨
        ¬ Far cached hf ∧ aggregate ≤ hf := by
  rcases guardedBy_cases aggregate cached hf with
    ⟨first, value⟩ | ⟨notFirst, second, value⟩ | ⟨notFirst, notSecond, value⟩
  · simp only [first, value, le_refl, true_or]
  · simp only [notFirst, second, value, true_and, not_true, false_and, or_false, false_or]
  · simp only [notFirst, notSecond, value, false_and, not_false_eq_true, true_and, false_or]

/-- The lowest value is replaced by the aggregate, so nothing is stored below that. -/
theorem GuardsKeepOrder.least {aggregate cached top hf : Nat}
    (keeps : GuardsKeepOrder aggregate cached top) (positive : 0 < aggregate)
    (finite : aggregate < MAX_UINT256) (inRange : hf ≤ top ∨ hf = HF_POLICY_CAP_WAD) :
    aggregate ≤ guardedBy aggregate cached hf := by
  have lowest : guardedBy aggregate cached 0 = aggregate :=
    if_pos ⟨positive, finite, Or.inl (Nat.zero_le _)⟩
  calc aggregate = guardedBy aggregate cached 0 := lowest.symm
    _ ≤ guardedBy aggregate cached hf :=
      keeps 0 hf (Or.inl (Nat.zero_le _)) inRange (Nat.zero_le _)

section Aggregate

variable {aggregate cached top : Nat}

/-- Where the range ends near the aggregate, the cached value is above the whole range: the
greatest value below the aggregate has to be replaced by it. -/
theorem cached_above_of_near (tops : top = HF_DANGER_ZONE_MAX_WAD ∨ top = HF_POLICY_CAP_WAD)
    (safe : HF_DANGER_ZONE_MAX_WAD ≤ aggregate) (finite : aggregate < MAX_UINT256)
    (keeps : GuardsKeepOrder aggregate cached top) (near : 4999 * aggregate < BPS * top) :
    top = HF_POLICY_CAP_WAD ∧ BPS * HF_POLICY_CAP_WAD < 15001 * aggregate ∧
      BPS * HF_POLICY_CAP_WAD ≤ 4999 * cached ∧ cached < MAX_UINT256 := by
  have cap : HF_POLICY_CAP_WAD = 1000000000000000000000 := by decide
  have zone : HF_DANGER_ZONE_MAX_WAD = 1500000000000000000 := by decide
  simp only [BPS] at near ⊢
  have large : aggregate ≤ guardedBy aggregate cached (min (aggregate - 1) top) :=
    keeps.least (by omega) finite (by omega)
  have notFirst : ¬ Far aggregate (min (aggregate - 1) top) := by
    rintro ⟨_, _, far⟩
    simp only [BPS] at far
    omega
  have second : Far cached (min (aggregate - 1) top) ∧
      guardedBy aggregate cached (min (aggregate - 1) top) = cached := by
    rcases guardedBy_cases aggregate cached (min (aggregate - 1) top) with
      ⟨first, _⟩ | ⟨_, far, value⟩ | ⟨_, _, value⟩
    · exact absurd first notFirst
    · exact ⟨far, value⟩
    · omega
  have upward := keeps (min (aggregate - 1) top) HF_POLICY_CAP_WAD (by omega) (Or.inr rfl)
    (by omega)
  rw [second.2] at upward large
  have farBelow := second.1
  rcases guardedBy_cases aggregate cached HF_POLICY_CAP_WAD with
    ⟨first, value⟩ | ⟨first, far, value⟩ | ⟨first, far, value⟩
  · simp only [Far, BPS] at farBelow
    omega
  · simp only [Far, BPS] at farBelow first far
    omega
  · simp only [Far, BPS] at farBelow first far
    omega

/-- Where the range is far below the aggregate, every value of it is replaced by that. -/
theorem guardsKeepOrder_of_clear (below : top ≤ HF_POLICY_CAP_WAD) (positive : 0 < aggregate)
    (finite : aggregate < MAX_UINT256) (clear : BPS * top ≤ 4999 * aggregate)
    (atCap : aggregate ≤ guardedBy aggregate cached HF_POLICY_CAP_WAD) :
    GuardsKeepOrder aggregate cached top := by
  intro lower upper inLower inUpper order
  have replaced : ∀ hf, hf ≤ top → guardedBy aggregate cached hf = aggregate := by
    intro hf within
    refine if_pos ⟨positive, finite, Or.inl ?_⟩
    exact (Nat.mul_le_mul_left BPS within).trans clear
  rcases inLower with low | rfl
  · rw [replaced lower low]
    rcases inUpper with high | rfl
    · rw [replaced upper high]
    · exact atCap
  · have same : upper = HF_POLICY_CAP_WAD := by omega
    rw [same]

/-- Where the cached value is above the whole range, it replaces what the aggregate does
not, and that is what is near the aggregate. -/
theorem guardsKeepOrder_of_cached_above (below : top ≤ HF_POLICY_CAP_WAD)
    (near : BPS * HF_POLICY_CAP_WAD < 15001 * aggregate)
    (above : BPS * HF_POLICY_CAP_WAD ≤ 4999 * cached) (proper : cached < MAX_UINT256) :
    GuardsKeepOrder aggregate cached top := by
  intro lower upper inLower inUpper order
  have cap : HF_POLICY_CAP_WAD = 1000000000000000000000 := by decide
  have farBelow : ∀ hf, hf ≤ HF_POLICY_CAP_WAD → Far cached hf := by
    intro hf within
    refine ⟨by simp only [BPS] at above; omega, proper, Or.inl ?_⟩
    exact (Nat.mul_le_mul_left BPS within).trans above
  have first := guardedBy_cases aggregate cached lower
  have second := guardedBy_cases aggregate cached upper
  have lowerFar := farBelow lower (by omega)
  have upperFar := farBelow upper (by omega)
  simp only [lowerFar, upperFar, not_true, false_and, and_false, or_false, true_and]
    at first second
  rcases first with ⟨⟨positive, finite, _⟩, value⟩ | ⟨lowerNear, value⟩
  · rcases second with ⟨_, other⟩ | ⟨upperNear, other⟩
    · rw [value, other]
    · rw [value, other]
      simp only [Far, BPS] at upperNear above
      omega
  · rcases second with ⟨upperFar, other⟩ | ⟨_, other⟩
    · simp only [Far, BPS] at lowerNear upperFar near
      omega
    · rw [value, other]

/-- The case with an aggregate from 1.5 on. -/
theorem aggregateClear_iff (tops : top = HF_DANGER_ZONE_MAX_WAD ∨ top = HF_POLICY_CAP_WAD)
    (safe : HF_DANGER_ZONE_MAX_WAD ≤ aggregate) (finite : aggregate < MAX_UINT256) :
    GuardsKeepOrder aggregate cached top ↔ AggregateClear aggregate cached top := by
  have order : HF_DANGER_ZONE_MAX_WAD ≤ HF_POLICY_CAP_WAD := by decide
  have positive : 0 < aggregate := lt_of_lt_of_le (by decide) safe
  unfold AggregateClear
  rw [← le_guardedBy_iff]
  constructor
  · intro keeps
    by_cases clear : BPS * top ≤ 4999 * aggregate
    · exact Or.inl ⟨clear, keeps.least positive finite (Or.inr rfl)⟩
    · exact Or.inr (cached_above_of_near tops safe finite keeps (not_le.mp clear))
  · have below : top ≤ HF_POLICY_CAP_WAD := by omega
    rintro (⟨clear, atCap⟩ | ⟨_, near, above, proper⟩)
    · exact guardsKeepOrder_of_clear below positive finite clear atCap
    · exact guardsKeepOrder_of_cached_above below near above proper

end Aggregate

/-! ## The policy on a position -/

theorem shouldRejectPerReserveOverwrite_iff {position : UserPosition} (hf : Nat)
    (high : position.confidence = .high) :
    shouldRejectPerReserveOverwrite position hf = true ↔
      position.lastTotalDebtBase ≠ none ∧ position.lastTotalCollateralBase ≠ none ∧
        Far position.cachedHfWad hf := by
  unfold shouldRejectPerReserveOverwrite
  rw [if_neg (not_not_intro high)]
  split
  next absent =>
    constructor
    · intro impossible
      cases impossible
    · rintro ⟨debt, collateral, _⟩
      exact absurd absent (not_or.mpr ⟨debt, collateral⟩)
  next present =>
    obtain ⟨debt, collateral⟩ := not_or.mp present
    rw [decide_eq_true_eq, far_iff]
    exact ⟨fun far => ⟨debt, collateral, far⟩, fun all => all.2.2⟩

/-- Without confidence only an aggregate below 1.5 replaces a recomputed value. -/
theorem resolveEffectiveHfWad_low {position : UserPosition} (low : position.confidence ≠ .high)
    (hf : Nat) :
    resolveEffectiveHfWad position hf =
      if ∃ aggregate ∈ aggregateHfWad position, aggregate < HF_DANGER_ZONE_MAX_WAD
      then (aggregateHfWad position).getD 0
      else cappedAt (policyTop position) hf := by
  have kept : ∀ proposed, shouldRejectPerReserveOverwrite position proposed = false :=
    fun _ => if_pos low
  unfold resolveEffectiveHfWad
  simp only [kept, Bool.false_eq_true, if_false, capPerReserveHf_eq, low, false_and,
    isDangerZoneHf_iff]
  cases aggregateHfWad position with
  | none => simp
  | some aggregate => simp

/-- What a confirmed position stores. -/
theorem resolveEffectiveHfWad_high {position : UserPosition} (high : position.confidence = .high)
    (hf : Nat) :
    resolveEffectiveHfWad position hf =
      match aggregateHfWad position with
      | none =>
        if position.lastTotalDebtBase = none ∨ position.lastTotalCollateralBase = none
        then cappedAt (policyTop position) hf
        else guardedBy 0 position.cachedHfWad (cappedAt (policyTop position) hf)
      | some aggregate =>
        if aggregate < HF_DANGER_ZONE_MAX_WAD then aggregate
        else guardedBy aggregate position.cachedHfWad (cappedAt (policyTop position) hf) := by
  unfold resolveEffectiveHfWad
  simp only [capPerReserveHf_eq, isDangerZoneHf_iff, far_iff, high, true_and,
    shouldRejectPerReserveOverwrite_iff _ high]
  cases totals : aggregateHfWad position with
  | none =>
    dsimp only
    by_cases absent : position.lastTotalDebtBase = none ∨ position.lastTotalCollateralBase = none
    · rw [if_pos absent, if_neg]
      rintro ⟨debt, collateral, _⟩
      exact absurd absent (not_or.mpr ⟨debt, collateral⟩)
    · obtain ⟨debt, collateral⟩ := not_or.mp absent
      have never : ¬ Far 0 (cappedAt (policyTop position) hf) := fun far => absurd far.1 (by decide)
      simp only [debt, collateral, ne_eq, not_false_eq_true, true_and, or_self, if_false,
        guardedBy, never]
  | some aggregate =>
    dsimp only
    have present : position.lastTotalDebtBase ≠ none ∧ position.lastTotalCollateralBase ≠ none := by
      unfold aggregateHfWad at totals
      split at totals
      next collateral debt _ => simp [collateral, debt]
      next => cases totals
    by_cases danger : aggregate < HF_DANGER_ZONE_MAX_WAD
    · rw [if_pos danger, if_pos danger]
    · rw [if_neg danger, if_neg danger, guardedBy]
      simp only [present.1, present.2, ne_eq, not_false_eq_true, true_and]

/-- The policy keeps the order of recomputed health factors of a position exactly when its
state is one of those. -/
theorem monotone_resolveEffectiveHfWad_iff (position : UserPosition) :
    Monotone (resolveEffectiveHfWad position) ↔ KeepsOrder position := by
  have below : policyTop position ≤ HF_POLICY_CAP_WAD := by
    have order : HF_DANGER_ZONE_MAX_WAD ≤ HF_POLICY_CAP_WAD := by decide
    rcases policyTop_cases position with top | top <;> omega
  unfold KeepsOrder
  by_cases high : position.confidence = .high
  · have stored := resolveEffectiveHfWad_high high
    simp only [high, true_imp_iff]
    cases totals : aggregateHfWad position with
    | none =>
      simp only [totals] at stored
      dsimp only
      by_cases absent : position.lastTotalDebtBase = none ∨ position.lastTotalCollateralBase = none
      · simp only [if_pos absent] at stored
        rw [funext stored]
        refine iff_of_true (cappedAt_mono below) ?_
        rcases absent with debt | collateral
        · exact Or.inl debt
        · exact Or.inr (Or.inl collateral)
      · simp only [if_neg absent] at stored
        rw [funext stored, monotone_guardedBy_iff below, cacheClear_iff (Or.inl rfl)]
        obtain ⟨debt, collateral⟩ := not_or.mp absent
        simp only [debt, collateral, false_or]
    | some aggregate =>
      simp only [totals] at stored
      dsimp only
      by_cases danger : aggregate < HF_DANGER_ZONE_MAX_WAD
      · simp only [if_pos danger] at stored
        rw [funext stored]
        exact iff_of_true monotone_const (Or.inl danger)
      · simp only [if_neg danger] at stored
        rw [funext stored, monotone_guardedBy_iff below]
        by_cases finite : aggregate < MAX_UINT256
        · rw [aggregateClear_iff (policyTop_cases position) (by omega) finite]
          simp only [danger, finite, not_le.mpr finite, false_and, true_and, false_or]
        · rw [cacheClear_iff (Or.inr (by omega))]
          simp only [danger, finite, not_lt.mp finite, false_and, true_and, false_or, or_false]
  · refine iff_of_true ?_ (fun confirmed => absurd confirmed high)
    intro lower upper order
    rw [resolveEffectiveHfWad_low high, resolveEffectiveHfWad_low high]
    split
    · exact le_refl _
    · exact cappedAt_mono below order

/-! ## A price of collateral falls -/

/-- The tiers from the least safe one on. -/
def tierSafety : PositionTier → Nat
  | .liquidatable => 0
  | .urgent => 1
  | .watch => 2
  | .healthy => 3

namespace LocalPositionModel

theorem classifyTier_mono (config : LocalPositionModelConfig) :
    Monotone (fun hf => tierSafety (classifyTier config hf)) := by
  intro lower upper order
  unfold classifyTier
  dsimp only
  by_cases broken : lower < WAD
  · rw [if_pos broken]
    exact Nat.zero_le _
  · rw [if_neg broken, if_neg (by omega : ¬ upper < WAD)]
    by_cases urgent : upper ≤ config.urgentHfWad
    · rw [if_pos urgent, if_pos (by omega : lower ≤ config.urgentHfWad)]
    · rw [if_neg urgent]
      by_cases watched : upper ≤ config.watchHfWad
      · rw [if_pos watched, if_pos (by omega : lower ≤ config.watchHfWad)]
        split <;> decide
      · rw [if_neg watched]
        split
        · decide
        · split <;> decide

/-- What two valuations of a position differ in when prices of its collateral fall: the
borrowed assets keep theirs. -/
structure CollateralFell (config : LocalPositionModelConfig) (position : UserPosition)
    (nowSec : Int) (before after : LocalPositionModel) : Prop where
  reserves : after.reserveConfig = before.reserveConfig
  borrowed : ∀ entry ∈ position.debt.entries,
    resolveEffectiveAssetPriceWad18 entry.1 (pegHealthInput config after nowSec) =
      resolveEffectiveAssetPriceWad18 entry.1 (pegHealthInput config before nowSec)
  supplied : ∀ entry ∈ position.collateral.entries,
    ∀ lower ∈ resolveEffectiveAssetPriceWad18 entry.1 (pegHealthInput config after nowSec),
      ∃ price ∈ resolveEffectiveAssetPriceWad18 entry.1 (pegHealthInput config before nowSec),
        lower ≤ price

section Fall

variable {config : LocalPositionModelConfig} {position : UserPosition} {nowSec : Int}
  {before after : LocalPositionModel}

theorem totalDebt_of_fell (fell : CollateralFell config position nowSec before after) :
    totalDebt after.reserveConfig position (pegHealthInput config after nowSec) =
      totalDebt before.reserveConfig position (pegHealthInput config before nowSec) := by
  rw [totalDebt, totalDebt, fell.reserves]
  congr 1
  apply List.map_congr_left
  intro entry member
  rw [fell.borrowed entry member]

theorem weightedCollateral_of_fell (fell : CollateralFell config position nowSec before after) :
    weightedCollateral after.reserveConfig position (pegHealthInput config after nowSec) ≤
      weightedCollateral before.reserveConfig position (pegHealthInput config before nowSec) := by
  rw [weightedCollateral, weightedCollateral, fell.reserves]
  apply List.sum_le_sum
  intro entry member
  cases before.reserveConfig.get? entry.1 with
  | none => exact le_refl _
  | some reserve =>
    cases fallen : resolveEffectiveAssetPriceWad18 entry.1 (pegHealthInput config after nowSec) with
    | none => exact Nat.zero_le _
    | some lower =>
      obtain ⟨price, known, order⟩ := fell.supplied entry member lower fallen
      rw [Option.mem_def.mp known]
      dsimp only
      split
      · exact le_refl _
      · exact Nat.div_le_div_right
          (Nat.mul_le_mul_right _ (Nat.mul_le_mul_left _ order))

/-- Where both valuations have a value to store, the later is not above the earlier. -/
theorem resolved_of_fell (fell : CollateralFell config position nowSec before after)
    (order : KeepsOrder position) {stored storedAfter : Nat}
    (first : resolveHfFromResult position (valuePosition config before position nowSec) =
      some stored)
    (second : resolveHfFromResult position (valuePosition config after position nowSec) =
      some storedAfter) : storedAfter ≤ stored := by
  have monotone := (monotone_resolveEffectiveHfWad_iff position).mpr order
  unfold valuePosition at first second
  dsimp only at first second
  split at first
  · cases first
  · split at first
    · cases first
    · split at second
      · cases second
      · split at second
        · cases second
        · rw [totalDebt_of_fell fell] at second
          by_cases debtless : totalDebt before.reserveConfig position
              (pegHealthInput config before nowSec) = 0
          · rw [if_pos debtless] at first second
            exact Nat.le_of_eq (Option.some.inj (second.symm.trans first))
          · rw [if_neg debtless] at first second
            rw [← Option.some.inj first, ← Option.some.inj second]
            apply monotone
            exact Nat.div_le_div_right (Nat.mul_le_mul_right _ (weightedCollateral_of_fell fell))

theorem committed_eq {model : LocalPositionModel} {key : Address} {result : HfResult}
    {committed : UserPosition} (found : model.positions.get? key = some position)
    (stores : (commitHfFromRecompute model key result).2 = some committed) :
    resolveHfFromResult position result = some committed.cachedHfWad := by
  unfold commitHfFromRecompute at stores
  rw [found] at stores
  dsimp only at stores
  cases resolved : resolveHfFromResult position result with
  | none =>
    rw [resolved] at stores
    cases stores
  | some effective =>
    rw [resolved] at stores
    rw [← Option.some.inj stores]

/-- The policy keeps the order of recomputed health factors of a position exactly in the
states of `KeepsOrder`. There a fall of collateral prices raises neither the health factor
that a recomputation stores nor the tier. -/
theorem policy_keeps_order (config : LocalPositionModelConfig) (position : UserPosition) :
    ((∀ lower upper, lower ≤ upper →
        resolveEffectiveHfWad position lower ≤ resolveEffectiveHfWad position upper) ↔
      KeepsOrder position) ∧
    ∀ (key : Address) (nowSec : Int) (before after : LocalPositionModel)
      (stored storedAfter : UserPosition),
      let read := recomputeHf config before position nowSec
      let readAfter := recomputeHf config after position nowSec
      KeepsOrder position → read.1.positions.get? key = some position →
      readAfter.1.positions.get? key = some position →
      CollateralFell config position nowSec read.1 readAfter.1 →
      (commitHfFromRecompute read.1 key read.2).2 = some stored →
      (commitHfFromRecompute readAfter.1 key readAfter.2).2 = some storedAfter →
      storedAfter.cachedHfWad ≤ stored.cachedHfWad ∧
        tierSafety (classifyTier config storedAfter.cachedHfWad) ≤
          tierSafety (classifyTier config stored.cachedHfWad) := by
  constructor
  · exact monotone_resolveEffectiveHfWad_iff position
  · intro key nowSec before after stored storedAfter read readAfter order found foundAfter fell
      first second
    have resolved := committed_eq found first
    have resolvedAfter := committed_eq foundAfter second
    have valued : ∀ model, resolveHfFromResult position (recomputeHf config model position nowSec).2
        ≠ none → (recomputeHf config model position nowSec).2 =
          valuePosition config (recomputeHf config model position nowSec).1 position nowSec := by
      intro model stores
      by_cases bootstrapped : model.pricesBootstrapped = true
      · rw [recomputeHf_eq bootstrapped]
      · refine absurd ?_ stores
        simp [recomputeHf, recomputeHfWith, bootstrapped, resolveHfFromResult]
    rw [valued before (by rw [resolved]; simp)] at resolved
    rw [valued after (by rw [resolvedAfter]; simp)] at resolvedAfter
    have bounded := resolved_of_fell fell order resolved resolvedAfter
    exact ⟨bounded, classifyTier_mono config bounded⟩

end Fall

/-! ## A loan of dollars against ether -/

/-- Addresses of two tokens with 18 decimals. -/
def etherToken : Address := ⟨7, 0⟩

def dollarToken : Address := ⟨8, 0⟩

/-- An ether and 100 dollars of collateral, 1000 dollars of debt, known from events. -/
def unreadLoan : UserPosition :=
  { newPosition ⟨1, 0⟩ 700000 with
    collateral := (InsertionMap.empty.set etherToken WAD).set dollarToken (100 * WAD)
    debt := InsertionMap.empty.set dollarToken (1000 * WAD) }

/-- The same loan after a read with a health factor of 1.6. -/
def confirmedLoan : UserPosition :=
  { unreadLoan with
    confidence := .high
    isFullySeeded := true
    cachedHfWad := 1600000000000000000
    lastTotalCollateralBase := some 200000000000
    lastTotalDebtBase := some 100000000000
    lastLiquidationThreshold := some 8000 }

/-- A bootstrapped model with one position and two prices. -/
def loanModel (position : UserPosition) (etherPrice dollarPrice : Nat) : LocalPositionModel :=
  let reserves := (initial.registerReserve etherToken 8000).registerReserve dollarToken 8000
  let priced := (reserves.registerBootstrapPrice etherToken etherPrice
    ⟨(etherPrice / 10 ^ 10 : Nat), 8, 0, ⟨2, 0⟩, etherToken, some .aave⟩).registerBootstrapPrice
      dollarToken dollarPrice
      ⟨(dollarPrice / 10 ^ 10 : Nat), 8, 0, ⟨2, 0⟩, dollarToken, some .aave⟩
  { priced with positions := priced.positions.put position }.markPricesBootstrapped

/-- The health factor that a recomputation of the loan stores. -/
def storedHf (position : UserPosition) (etherPrice dollarPrice : Nat) : Option Nat :=
  let read := recomputeHf defaultConfig (loanModel position etherPrice dollarPrice) position 0
  (commitHfFromRecompute read.1 ⟨1, 0⟩ read.2).2.map UserPosition.cachedHfWad

theorem collateralFell_unread :
    CollateralFell defaultConfig unreadLoan 0
      (recomputeHf defaultConfig (loanModel unreadLoan (2000 * WAD) WAD) unreadLoan 0).1
      (recomputeHf defaultConfig (loanModel unreadLoan (1000 * WAD) WAD) unreadLoan 0).1 where
  reserves := by decide +kernel
  borrowed := by decide +kernel
  supplied := by decide +kernel

/-- Ether falls from 2000 dollars to 1000: a loan known from events goes from 1.68 to 0.88. -/
theorem policy_keeps_order_unread :
    KeepsOrder unreadLoan ∧ (880000000000000000 ≤ 1680000000000000000 ∧
      tierSafety (classifyTier defaultConfig 880000000000000000) ≤
        tierSafety (classifyTier defaultConfig 1680000000000000000)) := by
  have order : KeepsOrder unreadLoan := fun high => by cases high
  exact ⟨order, (policy_keeps_order defaultConfig unreadLoan).2 ⟨1, 0⟩ 0
    (loanModel unreadLoan (2000 * WAD) WAD) (loanModel unreadLoan (1000 * WAD) WAD)
    { unreadLoan with cachedHfWad := 1680000000000000000 }
    { unreadLoan with cachedHfWad := 880000000000000000 } order
    (by decide +kernel) (by decide +kernel) collateralFell_unread (by decide +kernel)
    (by decide +kernel)⟩

/-- With the loan confirmed at 1.6, a health factor of 0.64 is stored as 1.6 and one of 1.04
as it is: ether at 700 dollars leaves it healthy where ether at 1200 made it urgent. And the
dollar is collateral of the loan, but its fall raises the health factor. -/
theorem lowest_value_replaced :
    (640000000000000000 ≤ 1040000000000000000 ∧
      resolveEffectiveHfWad confirmedLoan 1040000000000000000 <
        resolveEffectiveHfWad confirmedLoan 640000000000000000) ∧
    (storedHf confirmedLoan (1200 * WAD) WAD = some 1040000000000000000 ∧
      classifyTier defaultConfig 1040000000000000000 = .urgent ∧
      storedHf confirmedLoan (700 * WAD) WAD = some 1600000000000000000 ∧
      classifyTier defaultConfig 1600000000000000000 = .healthy) ∧
    (storedHf unreadLoan (2000 * WAD) WAD = some 1680000000000000000 ∧
      storedHf unreadLoan (2000 * WAD) (WAD / 2) = some 3280000000000000000) := by
  decide +kernel

end LocalPositionModel

end LiquidationBot
