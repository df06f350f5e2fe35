import Mathlib.Algebra.Order.Ring.Defs
import Mathlib.Data.Rat.Defs
import Mathlib.Tactic.Common

/-!
# Amounts of an asset

An amount carries its asset, and arithmetic on amounts of different assets
throws. Amounts are never negative: a subtraction that would go below zero
throws too. The number type is a parameter: the code counts in integers, and the
same formulas over the rationals are the exact ones.
-/

namespace LiquidationBot

/-- An asset that `createAsset` accepts. -/
structure Asset where
  symbol : String
  decimals : Nat
  named : symbol ≠ ""
  decimalsBound : decimals ≤ 36
deriving DecidableEq

/-- Dollars with eight decimals. -/
def usd : Asset := ⟨"USD", 8, by decide, by decide⟩

/-- Why asset arithmetic throws. -/
inductive AssetError where
  | negativeAmount
  | negativeSubtraction
  | assetMismatch
  | minimumMarginBps
deriving DecidableEq

/-- `AssetAmount`, an amount with its asset. -/
structure TypedAssetAmount (N : Type) [Zero N] [LE N] where
  asset : Asset
  raw : N
  nonneg : 0 ≤ raw

section Arithmetic

variable {N : Type} [CommRing N] [LinearOrder N]

def createAssetAmount (asset : Asset) (raw : N) : Except AssetError (TypedAssetAmount N) :=
  if nonneg : 0 ≤ raw then .ok ⟨asset, raw, nonneg⟩ else .error .negativeAmount

/-- No amount of an asset. -/
def TypedAssetAmount.none (asset : Asset) : TypedAssetAmount N := ⟨asset, 0, le_refl 0⟩

def assertSameAsset (left right : TypedAssetAmount N) : Except AssetError Unit :=
  if left.asset = right.asset then .ok () else .error .assetMismatch

def addAssetAmounts (first : TypedAssetAmount N) (rest : List (TypedAssetAmount N)) :
    Except AssetError (TypedAssetAmount N) :=
  rest.foldlM (fun sum amount => do
    assertSameAsset sum amount
    createAssetAmount sum.asset (sum.raw + amount.raw)) first

def subtractAssetAmounts (left right : TypedAssetAmount N) :
    Except AssetError (TypedAssetAmount N) := do
  assertSameAsset left right
  if left.raw < right.raw then throw .negativeSubtraction
  createAssetAmount left.asset (left.raw - right.raw)

/-- `NetProfitInput`. -/
structure NetProfitInput (N : Type) [Zero N] [LE N] where
  revenue : TypedAssetAmount N
  debt : TypedAssetAmount N
  gas : TypedAssetAmount N
  flashLoanFee : TypedAssetAmount N
  swapCost : TypedAssetAmount N
  slippageBuffer : Option (TypedAssetAmount N)
  safetyBuffer : Option (TypedAssetAmount N)

/-- What is subtracted from the revenue: the debt first, then the costs. -/
def NetProfitInput.costs (input : NetProfitInput N) : List (TypedAssetAmount N) :=
  [input.gas, input.flashLoanFee, input.swapCost,
    input.slippageBuffer.getD (.none input.debt.asset),
    input.safetyBuffer.getD (.none input.debt.asset)]

def calculateNetProfit (input : NetProfitInput N) : Except AssetError (TypedAssetAmount N) := do
  let costs ← addAssetAmounts input.debt input.costs
  subtractAssetAmounts input.revenue costs

/-- The margin that is reported; nothing is decided with it. -/
def calculateMarginBps [Div N] (netProfit capitalAtRisk : TypedAssetAmount N) :
    Except AssetError N := do
  assertSameAsset netProfit capitalAtRisk
  if capitalAtRisk.raw = 0 then return 0
  return netProfit.raw * 10000 / capitalAtRisk.raw

/-- The margin that a net profit is reported with. -/
def marginOf [Div N] (netProfit capitalAtRisk : TypedAssetAmount N) : N :=
  if capitalAtRisk.raw = 0 then 0 else netProfit.raw * 10000 / capitalAtRisk.raw

theorem calculateMarginBps_eq [Div N] {netProfit capitalAtRisk : TypedAssetAmount N}
    (same : netProfit.asset = capitalAtRisk.asset) :
    calculateMarginBps netProfit capitalAtRisk = .ok (marginOf netProfit capitalAtRisk) := by
  simp only [calculateMarginBps, assertSameAsset, same, if_true, bind, Except.bind, marginOf]
  split
  · rfl
  · rfl

/-- The whole number of basis points that a configured number stands for. -/
def wholeBps (minimumMarginBps : ℚ) : Option Nat :=
  if 0 ≤ minimumMarginBps ∧ minimumMarginBps.den = 1 then some minimumMarginBps.num.toNat else none

def meetsMinimumProfitMargin (netProfit capitalAtRisk : TypedAssetAmount N) (minimumMarginBps : ℚ) :
    Except AssetError Bool := do
  assertSameAsset netProfit capitalAtRisk
  match wholeBps minimumMarginBps with
  | none => throw .minimumMarginBps
  | some bps =>
      if capitalAtRisk.raw = 0 then return false
      return decide (capitalAtRisk.raw * (bps : N) ≤ netProfit.raw * 10000)

end Arithmetic

section Sums

variable {N : Type} [CommRing N] [LinearOrder N] [IsStrictOrderedRing N]

/-- Amounts of one asset add up. Induct on the amounts behind the first. -/
theorem addAssetAmounts_eq (first : TypedAssetAmount N) (rest : List (TypedAssetAmount N))
    (same : ∀ amount ∈ rest, amount.asset = first.asset) :
    ∃ total, addAssetAmounts first rest = .ok total ∧ total.asset = first.asset ∧
      total.raw = first.raw + (rest.map TypedAssetAmount.raw).sum := by
  induction rest generalizing first with
  | nil => exact ⟨first, rfl, rfl, by simp⟩
  | cons amount rest inductionHypothesis =>
    have nonneg : 0 ≤ first.raw + amount.raw := add_nonneg first.nonneg amount.nonneg
    have here : first.asset = amount.asset := (same amount List.mem_cons_self).symm
    obtain ⟨total, added, asset, sum⟩ := inductionHypothesis
      ⟨first.asset, first.raw + amount.raw, nonneg⟩
      (fun other member => same other (List.mem_cons_of_mem amount member))
    refine ⟨total, ?_, asset, ?_⟩
    · rw [← added]
      simp [addAssetAmounts, assertSameAsset, createAssetAmount, here, nonneg, bind, Except.bind]
    · rw [sum, List.map_cons, List.sum_cons, add_assoc]

/-- The net profit of amounts of one asset. -/
theorem calculateNetProfit_eq (input : NetProfitInput N)
    (debt : input.debt.asset = input.revenue.asset)
    (costs : ∀ amount ∈ input.costs, amount.asset = input.revenue.asset) :
    (input.revenue.raw < input.debt.raw + (input.costs.map TypedAssetAmount.raw).sum ∧
        calculateNetProfit input = .error .negativeSubtraction) ∨
      ∃ net, calculateNetProfit input = .ok net ∧ net.asset = input.revenue.asset ∧
        input.debt.raw + (input.costs.map TypedAssetAmount.raw).sum ≤ input.revenue.raw ∧
        net.raw =
          input.revenue.raw - (input.debt.raw + (input.costs.map TypedAssetAmount.raw).sum) := by
  obtain ⟨total, added, asset, sum⟩ := addAssetAmounts_eq input.debt input.costs
    (fun amount member => (costs amount member).trans debt.symm)
  have same : input.revenue.asset = total.asset := (asset.trans debt).symm
  simp only [calculateNetProfit, added, subtractAssetAmounts, assertSameAsset, same, if_true, bind,
    Except.bind]
  rw [← sum]
  by_cases short : input.revenue.raw < total.raw
  · exact Or.inl ⟨short, by simp [short, throw, throwThe, MonadExceptOf.throw]⟩
  · have enough : total.raw ≤ input.revenue.raw := not_lt.mp short
    have nonneg : 0 ≤ input.revenue.raw - total.raw := sub_nonneg.mpr enough
    exact Or.inr ⟨⟨input.revenue.asset, input.revenue.raw - total.raw, nonneg⟩,
      by simp [short, createAssetAmount, enough, same], same, enough, rfl⟩

end Sums

theorem wholeBps_eq_zero_iff (minimumMarginBps : ℚ) :
    wholeBps minimumMarginBps = some 0 ↔ minimumMarginBps = 0 := by
  simp only [wholeBps]
  split
  next whole =>
    rw [Option.some.injEq]
    constructor
    · intro none
      have positive : 0 ≤ minimumMarginBps.num := Rat.num_nonneg.mpr whole.1
      exact Rat.num_eq_zero.mp (by omega)
    · rintro rfl
      rfl
  next fraction =>
    simp only [reduceCtorEq, false_iff]
    rintro rfl
    exact fraction ⟨Rat.le_refl, rfl⟩

end LiquidationBot
