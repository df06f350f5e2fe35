import LiquidationBot.SafeTransactionExecutor
import LiquidationBot.TypedAssetMath

/-!
# The profitability engine

The engine judges one route with one flash-loan provider. It computes the net
profit of the figures it is given, rejects below the minimum margin, simulates,
and judges the simulated figures once more. A net profit below zero counts as
zero, so a loss and a profit of nothing are not told apart.
-/

namespace LiquidationBot

/-- `ChainRegistry`, by what the route selection reads of it: the registered
chains, the providers configured for each of them, and the state of their
execution breakers. -/
structure ChainRegistry where
  chains : List SupportedChain
  flashLoanProviders : List FlashLoanProviderId
  execution : SupportedChain → CircuitBreakerStatus

/-- Why the selection of a route throws. -/
inductive RouteError where
  | chainNotRegistered (chain : SupportedChain)
  | missingFee (provider : FlashLoanProviderId)
  | asset (error : AssetError)
  | simulator
deriving DecidableEq

/-- `ProfitSimulationInput`. -/
structure ProfitSimulationInput (N : Type) [Zero N] [LE N] where
  chain : SupportedChain
  opportunityId : OpportunityId
  provider : FlashLoanProviderId
  revenue : TypedAssetAmount N
  debt : TypedAssetAmount N
  gas : TypedAssetAmount N
  flashLoanFee : TypedAssetAmount N
  swapCost : TypedAssetAmount N
  slippageBuffer : TypedAssetAmount N
  safetyBuffer : TypedAssetAmount N
  capitalAtRisk : TypedAssetAmount N
  minimumMarginBps : ℚ

/-- `EthCallSimulationResult`. -/
inductive EthCallSimulationResult (N : Type) [Zero N] [LE N] where
  | success (revenue gas swapCost : TypedAssetAmount N)
  | failure

/-- `reason` of a rejected route. -/
inductive ProfitabilityRejection where
  | below_min_profit_margin
  | simulation_failed
deriving DecidableEq

/-- `ProfitabilityResult`. -/
inductive ProfitabilityResult (N : Type) [Zero N] [LE N] where
  | approved (provider : FlashLoanProviderId) (netProfit : TypedAssetAmount N) (marginBps : N)
  | rejected (provider : FlashLoanProviderId) (reason : ProfitabilityRejection)
      (netProfit : TypedAssetAmount N) (marginBps : N)

/-- Asset errors among the errors of the selection. -/
def ofAsset {α : Type} : Except AssetError α → Except RouteError α
  | .ok value => .ok value
  | .error error => .error (.asset error)

def ChainRegistry.get (registry : ChainRegistry) (chain : SupportedChain) :
    Except RouteError CircuitBreakerStatus :=
  if chain ∈ registry.chains then .ok (registry.execution chain)
  else .error (.chainNotRegistered chain)

namespace ProfitabilityEngine

section Engine

variable {N : Type} [CommRing N] [LinearOrder N]

/-- The figures of a route as `calculateNetProfit` takes them. -/
def netProfitInput (input : ProfitSimulationInput N) : NetProfitInput N where
  revenue := input.revenue
  debt := input.debt
  gas := input.gas
  flashLoanFee := input.flashLoanFee
  swapCost := input.swapCost
  slippageBuffer := some input.slippageBuffer
  safetyBuffer := some input.safetyBuffer

def calculateDeterministicProfit (input : ProfitSimulationInput N) :
    Except AssetError (TypedAssetAmount N) :=
  match calculateNetProfit (netProfitInput input) with
  | .error .negativeSubtraction => .ok (.none input.revenue.asset)
  | result => result

def meetsMargin (netProfit : TypedAssetAmount N) (input : ProfitSimulationInput N) :
    Except AssetError Bool :=
  meetsMinimumProfitMargin netProfit input.capitalAtRisk input.minimumMarginBps

variable [Div N]

def reject (input : ProfitSimulationInput N) (reason : ProfitabilityRejection)
    (netProfit : TypedAssetAmount N) : Except AssetError (ProfitabilityResult N) := do
  let marginBps ← calculateMarginBps netProfit input.capitalAtRisk
  return .rejected input.provider reason netProfit marginBps

/-- `evaluate`, from the simulation's answer on. -/
def judgeSimulation (input : ProfitSimulationInput N) (deterministic : TypedAssetAmount N) :
    EthCallSimulationResult N → Except AssetError (ProfitabilityResult N)
  | .failure => reject input .simulation_failed deterministic
  | .success revenue gas swapCost => do
      let simulatedInput := { input with revenue := revenue, gas := gas, swapCost := swapCost }
      let simulated ← calculateDeterministicProfit simulatedInput
      let meets ← meetsMargin simulated simulatedInput
      if !meets then return ← reject input .below_min_profit_margin simulated
      let marginBps ← calculateMarginBps simulated input.capitalAtRisk
      return .approved input.provider simulated marginBps

def evaluate (registry : ChainRegistry)
    (simulate : ProfitSimulationInput N → Except RouteError (EthCallSimulationResult N))
    (input : ProfitSimulationInput N) : Except RouteError (ProfitabilityResult N) := do
  let _ ← registry.get input.chain
  let deterministic ← ofAsset (calculateDeterministicProfit input)
  let meets ← ofAsset (meetsMargin deterministic input)
  if !meets then
    ofAsset (reject input .below_min_profit_margin deterministic)
  else
    let simulation ← simulate input
    ofAsset (judgeSimulation input deterministic simulation)

end Engine

/-- All amounts of a route are in one asset. -/
structure InAsset {N : Type} [Zero N] [LE N] (asset : Asset) (input : ProfitSimulationInput N) :
    Prop where
  revenue : input.revenue.asset = asset
  debt : input.debt.asset = asset
  gas : input.gas.asset = asset
  flashLoanFee : input.flashLoanFee.asset = asset
  swapCost : input.swapCost.asset = asset
  slippageBuffer : input.slippageBuffer.asset = asset
  safetyBuffer : input.safetyBuffer.asset = asset
  capitalAtRisk : input.capitalAtRisk.asset = asset

section Profit

variable {N : Type} [CommRing N] [LinearOrder N] {asset : Asset} {input : ProfitSimulationInput N}

/-- The margin test of amounts of one asset. -/
theorem meetsMargin_eq (netProfit : TypedAssetAmount N) (inAsset : netProfit.asset = asset)
    (same : InAsset asset input) :
    meetsMargin netProfit input =
      match wholeBps input.minimumMarginBps with
      | none => .error .minimumMarginBps
      | some bps => .ok (decide (input.capitalAtRisk.raw ≠ 0 ∧
          input.capitalAtRisk.raw * (bps : N) ≤ netProfit.raw * 10000)) := by
  have here : netProfit.asset = input.capitalAtRisk.asset := inAsset.trans same.capitalAtRisk.symm
  simp only [meetsMargin, meetsMinimumProfitMargin, assertSameAsset, here, if_true, bind,
    Except.bind]
  cases wholeBps input.minimumMarginBps with
  | none => rfl
  | some bps =>
    by_cases free : input.capitalAtRisk.raw = 0
    · simp [free, pure, Except.pure]
    · simp [free, pure, Except.pure]

variable [IsStrictOrderedRing N]

/-- What a route has to earn: its debt and all costs. -/
def outlay (input : ProfitSimulationInput N) : N :=
  input.debt.raw + input.gas.raw + input.flashLoanFee.raw + input.swapCost.raw +
    input.slippageBuffer.raw + input.safetyBuffer.raw

/-- The deterministic profit is the revenue above the outlay, and zero below. -/
theorem calculateDeterministicProfit_eq (same : InAsset asset input) :
    ∃ net, calculateDeterministicProfit input = .ok net ∧ net.asset = asset ∧
      net.raw = max 0 (input.revenue.raw - outlay input) := by
  have costs : ∀ amount ∈ (netProfitInput input).costs,
      amount.asset = (netProfitInput input).revenue.asset := by
    simp [netProfitInput, NetProfitInput.costs, same.revenue, same.gas, same.flashLoanFee,
      same.swapCost, same.slippageBuffer, same.safetyBuffer]
  have total : (netProfitInput input).debt.raw +
      ((netProfitInput input).costs.map TypedAssetAmount.raw).sum = outlay input := by
    simp [netProfitInput, NetProfitInput.costs, outlay, add_assoc]
  rcases calculateNetProfit_eq (netProfitInput input) (same.debt.trans same.revenue.symm) costs with
    ⟨short, thrown⟩ | ⟨net, returned, inAsset, enough, raw⟩
  · rw [total] at short
    have loss : input.revenue.raw - outlay input ≤ 0 := sub_nonpos.mpr short.le
    refine ⟨.none input.revenue.asset, ?_, same.revenue, (max_eq_left loss).symm⟩
    simp only [calculateDeterministicProfit, thrown]
  · rw [total] at enough raw
    refine ⟨net, ?_, inAsset.trans same.revenue, ?_⟩
    · simp only [calculateDeterministicProfit, returned]
    · rw [raw]
      exact (max_eq_right (sub_nonneg.mpr enough)).symm

end Profit

end ProfitabilityEngine

end LiquidationBot
