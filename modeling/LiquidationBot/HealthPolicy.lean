import LiquidationBot.PegPrices

/-!
# Positions and the health-factor policy

A position holds raw balances with the reserve index at their last update, and
the totals of the last on-chain read. The policy decides which health factor a
recomputation may store: the recomputed one, the one of the stored totals, or
the one already cached.
-/

namespace LiquidationBot

/-- `WAD`, one with eighteen decimals. -/
def WAD : Nat := 1000000000000000000

/-- `BPS`, one hundred percent in basis points. -/
def BPS : Nat := 10000

/-- `MAX_UINT256`, the health factor of an account without debt. -/
def MAX_UINT256 : Nat := 2 ^ 256 - 1

inductive PositionConfidence where
  | high
  | low
deriving DecidableEq

inductive PositionTier where
  | healthy
  | watch
  | urgent
  | liquidatable
deriving DecidableEq

/-- Result of recomputing a health factor. Absent prices and stale feeds name
their assets. -/
inductive HfResult where
  | ok (hf : Nat)
  | priceIncomplete (missingAssets : List Address)
  | priceStale (staleAssets : List Address)
  | noDebt (hf : Nat)
  | error (reason : String)
deriving DecidableEq

/-- Amounts or indices by lower-cased asset. -/
abbrev AssetMap := InsertionMap Address Nat

/-- `UserPosition`. -/
structure UserPosition where
  account : Address
  collateral : AssetMap
  debt : AssetMap
  collateralIndexAtUpdate : AssetMap
  debtIndexAtUpdate : AssetMap
  cachedHfWad : Nat
  confidence : PositionConfidence
  isFullySeeded : Bool
  lastConfirmedBlock : Nat
  lastActivityBlock : Nat
  eModeCategoryId : Nat
  lastTotalCollateralBase : Option Nat
  lastTotalDebtBase : Option Nat
  lastLiquidationThreshold : Option Nat
deriving DecidableEq

/-- The result of the pool's `getUserAccountData`. -/
structure UserAccountData where
  totalCollateralBase : Nat
  totalDebtBase : Nat
  availableBorrowsBase : Nat
  currentLiquidationThreshold : Nat
  ltv : Nat
  healthFactor : Nat
deriving DecidableEq

/-- `calculateHealthFactor` without a health factor of its own. -/
def calculateHealthFactor (totalCollateralBase totalDebtBase currentLiquidationThreshold : Nat) :
    Nat :=
  if totalDebtBase = 0 then MAX_UINT256
  else (totalCollateralBase * currentLiquidationThreshold * WAD) / (totalDebtBase * BPS)

/-- `HF_POLICY_CAP_WAD`. -/
def HF_POLICY_CAP_WAD : Nat := 1000 * WAD

/-- `HF_DANGER_ZONE_MAX_WAD`. -/
def HF_DANGER_ZONE_MAX_WAD : Nat := (3 * WAD) / 2

/-- `HF_DIVERGENCE_RATIO_BPS`. -/
def HF_DIVERGENCE_RATIO_BPS : Nat := 5000

/-- `DUST_DEBT_BASE_THRESHOLD`. -/
def DUST_DEBT_BASE_THRESHOLD : Nat := 1000000

/-- `aggregateHfWad`: the health factor of the stored totals, when all are there. -/
def aggregateHfWad (position : UserPosition) : Option Nat :=
  match position.lastTotalCollateralBase, position.lastTotalDebtBase,
      position.lastLiquidationThreshold with
  | some totalCollateralBase, some totalDebtBase, some threshold =>
      some (calculateHealthFactor totalCollateralBase totalDebtBase threshold)
  | _, _, _ => none

/-- `isDangerZoneHf`: below 1.5, or within half of one. -/
def isDangerZoneHf (hfWad : Nat) : Bool :=
  if hfWad ≥ MAX_UINT256 then false
  else if hfWad < HF_DANGER_ZONE_MAX_WAD then true
  else
    let delta := if hfWad > WAD then hfWad - WAD else WAD - hfWad
    decide (delta < WAD / 2)

/-- `relativeDivergenceBps`: an infinite or zero baseline diverges from nothing. -/
def relativeDivergenceBps (baseline proposed : Nat) : Nat :=
  if baseline = 0 ∨ baseline ≥ MAX_UINT256 then 0
  else
    let diff := if baseline > proposed then baseline - proposed else proposed - baseline
    (diff * BPS) / baseline

/-- `capPerReserveHf`. -/
def capPerReserveHf (hfWad : Nat) (position : UserPosition) : Nat :=
  if hfWad > HF_POLICY_CAP_WAD then HF_POLICY_CAP_WAD
  else
    match position.lastTotalDebtBase with
    | none => hfWad
    | some debtBase =>
        if debtBase > 0 ∧ debtBase < DUST_DEBT_BASE_THRESHOLD ∧ hfWad > HF_DANGER_ZONE_MAX_WAD
        then HF_POLICY_CAP_WAD
        else hfWad

/-- `shouldRejectPerReserveOverwrite`. -/
def shouldRejectPerReserveOverwrite (position : UserPosition) (proposedHf : Nat) : Bool :=
  if position.confidence ≠ .high then false
  else if position.lastTotalDebtBase = none ∨ position.lastTotalCollateralBase = none then false
  else decide (relativeDivergenceBps position.cachedHfWad proposedHf > HF_DIVERGENCE_RATIO_BPS)

/-- `resolveEffectiveHfWad`: aggregate in the danger zone, aggregate against a
diverging recomputation, cached value against a diverging overwrite, and the
capped recomputation otherwise. -/
def resolveEffectiveHfWad (position : UserPosition) (perReserveHf : Nat) : Nat :=
  let capped := capPerReserveHf perReserveHf position
  let fallback :=
    if shouldRejectPerReserveOverwrite position capped then position.cachedHfWad else capped
  match aggregateHfWad position with
  | none => fallback
  | some aggregate =>
      if isDangerZoneHf aggregate then aggregate
      else if position.confidence = .high ∧
          relativeDivergenceBps aggregate capped > HF_DIVERGENCE_RATIO_BPS then aggregate
      else fallback

/-- `resolveHfFromResult`: the health factor to store, if any. -/
def resolveHfFromResult (position : UserPosition) : HfResult → Option Nat
  | .priceIncomplete _ => none
  | .priceStale _ => none
  | .error _ => none
  | .noDebt _ =>
      match position.lastTotalDebtBase with
      | none => some MAX_UINT256
      | some debtBase =>
          if debtBase > 0 then
            match aggregateHfWad position with
            | some aggregate => some (resolveEffectiveHfWad position aggregate)
            | none => some position.cachedHfWad
          else some MAX_UINT256
  | .ok hf => some (resolveEffectiveHfWad position hf)

end LiquidationBot
