import LiquidationBot.HolderSettlement
import LiquidationBot.Library.ScaledSums

/-!
# The units of a health factor

The pool counts a balance in the smallest unit of its token and prices whole
tokens, so a balance is worth its amount times its price over ten to the token's
decimals. `ReserveConfig` holds no decimals, and `recomputeHf` adds amount times
price as it stands. The units of a collateral and a debt then cancel only where
their tokens have the same decimals.
-/

namespace LiquidationBot.LocalPositionModel

open ScaledSums

/-- An entry of a side: the asset and its raw amount. -/
abbrev SideEntry := Address × Nat

section Assigned

variable (config : LocalPositionModelConfig) (model : LocalPositionModel)
  (position : UserPosition) (nowSec : Int) (price threshold decimals : Address → Nat)

/-- The prices and thresholds are those a recomputation of the position finds:
each price present and fresh once the pegged price is refreshed, each reserve
known, and each amount stored at its reserve's current index. -/
structure Assigned : Prop where
  bootstrapped : model.pricesBootstrapped = true
  present : ∀ key ∈ heldKeys position, resolveEffectiveAssetPriceWad18 key
    (pegHealthInput config (refreshPegs config model nowSec) nowSec) = some (price key)
  fresh : ∀ key ∈ heldKeys position,
    feedIsStale (refreshPegs config model nowSec).feedStates nowSec key = false
  collateral : ∀ entry ∈ position.collateral.entries,
    (model.reserveConfig.get? entry.1).map (fun reserve =>
      (reserve.liquidationThresholdBps, some reserve.liquidityIndex)) =
        some (threshold entry.1, position.collateralIndexAtUpdate.get? entry.1)
  debt : ∀ entry ∈ position.debt.entries,
    (model.reserveConfig.get? entry.1).map (fun reserve => some reserve.variableBorrowIndex) =
      some (position.debtIndexAtUpdate.get? entry.1)

/-- A collateral's raw value, weighted by its liquidation threshold. -/
def weightedValue (entry : SideEntry) : Nat := entry.2 * price entry.1 * threshold entry.1

/-- A debt's raw value. -/
def borrowedValue (entry : SideEntry) : Nat := entry.2 * price entry.1

/-- What a raw value has to be multiplied with. -/
def unitOf (entry : SideEntry) : ℚ := 1 / 10 ^ decimals entry.1

/-- The health factor of the pool, in wads, before it is rounded. -/
def aaveHf : ℚ :=
  scaledSum (fun entry => (weightedValue price threshold entry : ℚ) / BPS) (unitOf decimals)
      position.collateral.entries /
    scaledSum (fun entry => (borrowedValue price entry : ℚ)) (unitOf decimals)
      position.debt.entries * WAD

/-- The debt's raw values, added. -/
def rawDebt : Nat := (position.debt.entries.map (borrowedValue price)).sum

/-- The collateral's weighted raw values, each rounded to whole units, added. -/
def rawCollateral : Nat :=
  (position.collateral.entries.map (fun entry => weightedValue price threshold entry / BPS)).sum

/-- What the rounding of each collateral drops. -/
def droppedCollateral : Nat :=
  (position.collateral.entries.map (fun entry => weightedValue price threshold entry % BPS)).sum

/-- The difference of the units over all pairs of a collateral and a debt. -/
def unitMismatch : ℚ :=
  mismatch (fun entry => (weightedValue price threshold entry : ℚ)) (unitOf decimals)
    (fun entry => (borrowedValue price entry : ℚ)) (unitOf decimals)
    position.collateral.entries position.debt.entries

/-- The debt in its own units. -/
def scaledDebt : ℚ :=
  scaledSum (fun entry => (borrowedValue price entry : ℚ)) (unitOf decimals) position.debt.entries

/-- The remainder of the last division. -/
def hfRemainder : Nat := (rawCollateral position price threshold * WAD) % rawDebt position price

/-- The differences of the units, and what the roundings drop, stay within the
slack of the last division. -/
def UnitsAgree : Prop :=
  -(hfRemainder position price threshold * (BPS * scaledDebt position price decimals)) ≤
      WAD * (unitMismatch position price threshold decimals +
        droppedCollateral position price threshold * scaledDebt position price decimals) ∧
    WAD * (unitMismatch position price threshold decimals +
        droppedCollateral position price threshold * scaledDebt position price decimals) <
      (rawDebt position price - hfRemainder position price threshold) *
        (BPS * scaledDebt position price decimals)

end Assigned

/-! ## The recomputed value -/

section Value

variable {config : LocalPositionModelConfig} {model : LocalPositionModel}
  {position : UserPosition} {nowSec : Int} {price threshold : Address → Nat}

theorem mem_heldKeys_of_collateral {entry : SideEntry}
    (member : entry ∈ position.collateral.entries) (filled : entry.2 ≠ 0) :
    entry.1 ∈ heldKeys position := by
  have found : position.collateral.get? entry.1 = some entry.2 :=
    (InsertionMap.mem_entries_iff position.collateral entry.1 entry.2).mp member
  rw [heldKeys, List.mem_filter]
  refine ⟨List.mem_append_left _ (List.mem_map_of_mem member), ?_⟩
  rw [found]
  simp [filled]

theorem mem_heldKeys_of_debt {entry : SideEntry} (member : entry ∈ position.debt.entries)
    (filled : entry.2 ≠ 0) : entry.1 ∈ heldKeys position := by
  have found : position.debt.get? entry.1 = some entry.2 :=
    (InsertionMap.mem_entries_iff position.debt entry.1 entry.2).mp member
  rw [heldKeys, List.mem_filter]
  constructor
  · rw [positionKeys]
    by_cases both : position.collateral.has entry.1 = true
    · exact List.mem_append_left _ ((InsertionMap.mem_keys_iff _ _).mpr both)
    · refine List.mem_append_right _ (List.mem_filter.mpr ⟨List.mem_map_of_mem member, ?_⟩)
      simpa using both
  · rw [found]
    simp [filled]

/-- An amount stored at the current index is its own balance. -/
theorem scaleAmount_current {indices : AssetMap} {key : Address} {index : Nat}
    (stored : indices.get? key = some index) (amount : Nat) :
    scaleAmount indices index key amount = amount := by
  rw [scaleAmount, stored]
  exact if_pos (Or.inr rfl)

theorem weightedCollateral_eq (assigned : Assigned config model position nowSec price threshold) :
    weightedCollateral (refreshPegs config model nowSec).reserveConfig position
      (pegHealthInput config (refreshPegs config model nowSec) nowSec) =
        rawCollateral position price threshold := by
  rw [weightedCollateral, rawCollateral, (sameLedger_refreshPegs config model nowSec).reserves]
  congr 1
  apply List.map_congr_left
  intro entry member
  have known := assigned.collateral entry member
  rw [Option.map_eq_some_iff] at known
  obtain ⟨reserve, found, figures⟩ := known
  obtain ⟨thresholdIs, indexIs⟩ := Prod.mk.inj figures
  by_cases empty : entry.2 = 0
  · rw [found, weightedValue, empty, Nat.zero_mul, Nat.zero_mul, Nat.zero_div]
    cases resolveEffectiveAssetPriceWad18 entry.1 _ <;> rfl
  · rw [found, assigned.present entry.1 (mem_heldKeys_of_collateral member empty)]
    dsimp only
    rw [if_neg empty, scaleCollateralAmount, scaleAmount_current indexIs.symm, thresholdIs]
    rfl

theorem totalDebt_eq (assigned : Assigned config model position nowSec price threshold) :
    totalDebt (refreshPegs config model nowSec).reserveConfig position
      (pegHealthInput config (refreshPegs config model nowSec) nowSec) = rawDebt position price := by
  rw [totalDebt, rawDebt, (sameLedger_refreshPegs config model nowSec).reserves]
  congr 1
  apply List.map_congr_left
  intro entry member
  have known := assigned.debt entry member
  rw [Option.map_eq_some_iff] at known
  obtain ⟨reserve, found, indexIs⟩ := known
  by_cases empty : entry.2 = 0
  · rw [found, borrowedValue, empty, Nat.zero_mul]
    cases resolveEffectiveAssetPriceWad18 entry.1 _ <;> rfl
  · rw [found, assigned.present entry.1 (mem_heldKeys_of_debt member empty)]
    dsimp only
    rw [if_neg empty, scaleDebtAmount, scaleAmount_current indexIs.symm]
    rfl

/-- What a recomputation answers at given prices and thresholds. -/
theorem recomputeHf_value (assigned : Assigned config model position nowSec price threshold)
    (owed : 0 < rawDebt position price) :
    (recomputeHf config model position nowSec).2 =
      .ok (rawCollateral position price threshold * WAD / rawDebt position price) := by
  have complete : collectMissingPriceAssets position
      (pegHealthInput config (refreshPegs config model nowSec) nowSec) = [] := by
    rw [collectMissingPriceAssets, List.filter_eq_nil_iff]
    intro key member
    rw [assigned.present key member]
    exact Bool.false_ne_true
  have current : collectStalePriceAssets position (refreshPegs config model nowSec).feedStates
      nowSec = [] := by
    rw [collectStalePriceAssets, List.filter_eq_nil_iff]
    intro key member
    rw [assigned.fresh key member]
    exact Bool.false_ne_true
  rw [recomputeHf_eq assigned.bootstrapped, valuePosition]
  dsimp only
  rw [complete, current, if_neg (not_not_intro rfl), if_neg (not_not_intro rfl),
    totalDebt_eq assigned, weightedCollateral_eq assigned, if_neg owed.ne']

/-- The rounded parts and the dropped ones make up the weighted values. -/
theorem plainSum_weighted :
    plainSum (fun entry => (weightedValue price threshold entry : ℚ)) position.collateral.entries =
      BPS * rawCollateral position price threshold +
        droppedCollateral position price threshold := by
  rw [plainSum, rawCollateral, droppedCollateral]
  induction position.collateral.entries with
  | nil => simp
  | cons entry rest inductionHypothesis =>
    have divided : (BPS : ℚ) * (weightedValue price threshold entry / BPS : Nat) +
        (weightedValue price threshold entry % BPS : Nat) = weightedValue price threshold entry := by
      exact_mod_cast Nat.div_add_mod (weightedValue price threshold entry) BPS
    simp only [List.map_cons, List.sum_cons, Nat.cast_add]
    rw [inductionHypothesis, ← divided]
    ring

theorem plainSum_debt :
    plainSum (fun entry => (borrowedValue price entry : ℚ)) position.debt.entries =
      rawDebt position price := by
  rw [plainSum, rawDebt]
  induction position.debt.entries with
  | nil => simp
  | cons entry rest inductionHypothesis =>
    simp only [List.map_cons, List.sum_cons, Nat.cast_add]
    rw [inductionHypothesis]

variable {decimals : Address → Nat}

theorem unitOf_pos (entry : SideEntry) : 0 < unitOf decimals entry := by
  rw [unitOf]
  positivity

theorem scaledDebt_pos (owed : 0 < rawDebt position price) :
    0 < scaledDebt position price decimals := by
  refine scaledSum_pos (fun entry _ => Nat.cast_nonneg _) (fun entry _ => unitOf_pos entry) ?_
  rw [plainSum_debt]
  exact_mod_cast owed

theorem aaveHf_eq : aaveHf position price threshold decimals =
    scaledSum (fun entry => (weightedValue price threshold entry : ℚ)) (unitOf decimals)
      position.collateral.entries / BPS / scaledDebt position price decimals * WAD := by
  have divided : ∀ entries : List SideEntry,
      scaledSum (fun entry => (weightedValue price threshold entry : ℚ) / BPS) (unitOf decimals)
        entries =
      scaledSum (fun entry => (weightedValue price threshold entry : ℚ)) (unitOf decimals)
        entries / BPS := by
    intro entries
    induction entries with
    | nil => simp [scaledSum]
    | cons entry rest inductionHypothesis =>
      rw [scaledSum_cons, inductionHypothesis, scaledSum_cons]
      ring
  rw [aaveHf, divided, scaledDebt]

theorem aaveHf_nonneg : 0 ≤ aaveHf position price threshold decimals := by
  have side : ∀ (value : SideEntry → ℚ) (entries : List SideEntry), (∀ entry, 0 ≤ value entry) →
      0 ≤ scaledSum value (unitOf decimals) entries := by
    intro value entries nonneg
    apply List.sum_nonneg
    intro term member
    obtain ⟨entry, -, rfl⟩ := List.mem_map.mp member
    exact mul_nonneg (nonneg entry) (unitOf_pos entry).le
  rw [aaveHf]
  refine mul_nonneg (div_nonneg (side _ _ fun entry => ?_) (side _ _ fun entry => ?_)) ?_
  · exact div_nonneg (Nat.cast_nonneg _) (Nat.cast_nonneg _)
  · exact Nat.cast_nonneg _
  · exact Nat.cast_nonneg _

/-- The numerators of the two quotients differ by the mismatch of the units and
by what the roundings drop. -/
theorem aaveHf_sub (owed : 0 < rawDebt position price) :
    aaveHf position price threshold decimals * rawDebt position price -
        (rawCollateral position price threshold * WAD : Nat) =
      WAD * (unitMismatch position price threshold decimals +
        droppedCollateral position price threshold * scaledDebt position price decimals) /
        (BPS * scaledDebt position price decimals) := by
  have positive : 0 < scaledDebt position price decimals := scaledDebt_pos owed
  have bps : (BPS : ℚ) ≠ 0 := by norm_num [BPS]
  have cross := mismatch_eq (fun entry => (weightedValue price threshold entry : ℚ))
    (unitOf decimals) (fun entry => (borrowedValue price entry : ℚ)) (unitOf decimals)
    position.collateral.entries position.debt.entries
  rw [plainSum_weighted, plainSum_debt] at cross
  rw [unitMismatch, cross, aaveHf_eq, Nat.cast_mul]
  change _ = WAD * (_ - _ * scaledDebt position price decimals + _) / _
  field_simp
  ring

/-- The floor of the pool's health factor is the recomputed one exactly when the
units agree. -/
theorem floor_aaveHf_iff (owed : 0 < rawDebt position price) :
    ⌊aaveHf position price threshold decimals⌋₊ =
        rawCollateral position price threshold * WAD / rawDebt position price ↔
      UnitsAgree position price threshold decimals := by
  have slack : 0 < (BPS : ℚ) * scaledDebt position price decimals :=
    mul_pos (by norm_num [BPS]) (scaledDebt_pos owed)
  rw [floor_eq_div_iff owed aaveHf_nonneg, aaveHf_sub owed, le_div_iff₀ slack, div_lt_iff₀ slack,
    neg_mul]
  exact Iff.rfl

end Value

/-- The address of a token with 18 decimals. -/
def wholeEther : Address := ⟨7, 0⟩

/-- One ether of collateral and a debt of 1000 USDC. -/
def etherBorrower : AccountSnapshot where
  account := ⟨1, 0⟩
  blockNumber := 700000
  eModeCategoryId := 0
  healthFactorWad := 1600000000000000000
  totalCollateralBase := 200000000000
  totalDebtBase := 100000000000
  liquidationThreshold := 8000
  reserves := [⟨wholeEther, WAD, 0⟩, ⟨BASE_USDC, 0, 1000000000⟩]

/-- A bootstrapped model with that borrower, ether at 2000 and USDC at 1. -/
def etherModel : LocalPositionModel :=
  let reserves := (initial.registerReserve wholeEther 8000).registerReserve BASE_USDC 8000
  let priced := (reserves.registerBootstrapPrice wholeEther (2000 * WAD)
    ⟨200000000000, 8, 0, ⟨2, 0⟩, wholeEther, some .aave⟩).registerBootstrapPrice BASE_USDC WAD
    ⟨100000000, 8, 0, ⟨2, 0⟩, BASE_USDC, some .aave⟩
  (seedFromOnChainSnapshot defaultConfig priced etherBorrower).markPricesBootstrapped

/-- The position as it is stored. -/
def etherPosition : UserPosition :=
  (etherModel.positions.get? ⟨1, 0⟩).getD (newPosition ⟨1, 0⟩ 700000)

/-- Ether costs 2000 dollars, a dollar coin one. -/
def etherPrice (key : Address) : Nat := if key = wholeEther then 2000 * WAD else WAD

/-- Ether has 18 decimals, a dollar coin 6. -/
def etherDecimals (key : Address) : Nat := if key = wholeEther then 18 else 6

theorem assigned_ether :
    Assigned defaultConfig etherModel etherPosition 0 etherPrice (fun _ => 8000) where
  bootstrapped := by decide +kernel
  present := by decide +kernel
  fresh := by decide +kernel
  collateral := by decide +kernel
  debt := by decide +kernel

end LiquidationBot.LocalPositionModel
