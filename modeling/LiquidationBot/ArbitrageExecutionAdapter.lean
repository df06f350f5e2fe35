import LiquidationBot.ArbitrageScanner
import LiquidationBot.FlashLoanProviderRouter
import LiquidationBot.Library.AbiWords
import Mathlib.Data.Int.Order.Basic
import Mathlib.Tactic.Linarith
import Mathlib.Tactic.Qify

/-!
# Execution requests for arbitrage

An opportunity becomes a flash loan of what goes in, with a route that names the
least that each leg may return. The first leg may not return less than was quoted.
The second one may return less by the opportunity's minimum margin, taken here of
what comes out; the margin that an opportunity has earned is one of what went in.
-/

namespace LiquidationBot

open AbiWords

/-- `EncodedArbitrageRoute`, with amounts that fit their words. -/
structure EncodedArbitrageRoute where
  buyRouter : Address
  sellRouter : Address
  tokenIn : Address
  tokenOut : Address
  amountIn : BitVec 256
  minBuyOut : BitVec 256
  minSellOut : BitVec 256
deriving DecidableEq

/-- `routeParams`: the words of a route. -/
def EncodedArbitrageRoute.words (route : EncodedArbitrageRoute) : List Word :=
  [ofUnsigned route.buyRouter.value, ofUnsigned route.sellRouter.value,
    ofUnsigned route.tokenIn.value, ofUnsigned route.tokenOut.value, ofUnsigned route.amountIn,
    ofUnsigned route.minBuyOut, ofUnsigned route.minSellOut]

def encodeArbitrageRoute (route : EncodedArbitrageRoute) : List Byte := encode route.words

/-- The position of `minSellOut` among the words. -/
def minSellOutWord : Nat := 6

/-- The encoder takes a number that fits a word. -/
def toUint256 (value : Int) : Except ScannerError (BitVec 256) :=
  if 0 ≤ value ∧ value < 2 ^ 256 then .ok (BitVec.ofInt 256 value) else .error .unencodable

/-- `ArbitrageExecutionAdapterConfig`. -/
structure ArbitrageExecutionAdapterConfig where
  receiverAddress : Address
  operatorAddress : Address
  referralCode : Option (BitVec 16)
  gasProfileKey : Option GasProfileKey

/-- The key `arb:flashLoanSimple`. -/
def arbFlashLoanSimple : GasProfileKey := .custom 0

/-- The arguments of `flashLoanSimple`. -/
structure FlashLoanSimpleArgs where
  receiverAddress : Address
  asset : Address
  amount : BitVec 256
  params : List Byte
  referralCode : BitVec 16
deriving DecidableEq

/-- What `buildTransaction` returns. -/
structure ArbitrageTransaction where
  target : Address
  data : FlashLoanSimpleArgs
  provider : FlashLoanProviderId
deriving DecidableEq

/-- The request that is built from an opportunity, with its route input and its
transaction. -/
structure ArbitrageExecutionRequest where
  request : SafeExecutionRequest
  routeInput : RouteSelectionInput Int
  buildTransaction : FlashLoanProviderId → ArbitrageTransaction

namespace ArbitrageScanner.ArbitrageOpportunity

/-- `minAmountOut`. -/
def minAmountOut (expectedOut : Int) (minimumMarginBps : ℚ) : Except ScannerError Int := do
  let cut ← bigIntOf (min (max minimumMarginBps 0) 9500)
  return (expectedOut * (10000 - cut)).tdiv 10000

/-- The route of an opportunity. -/
def encodedRoute (opportunity : ArbitrageOpportunity) :
    Except ScannerError EncodedArbitrageRoute := do
  let minSell ← minAmountOut opportunity.expectedAmountOut opportunity.minimumMarginBps
  let amountIn ← toUint256 opportunity.amountIn
  let minBuyOut ← toUint256 opportunity.expectedIntermediateOut
  let minSellOut ← toUint256 minSell
  return {
    buyRouter := opportunity.buyDex.router
    sellRouter := opportunity.sellDex.router
    tokenIn := opportunity.tokenIn
    tokenOut := opportunity.tokenOut
    amountIn := amountIn
    minBuyOut := minBuyOut
    minSellOut := minSellOut }

/-- An amount again in dollars; it is not negative already. -/
def inUsd (amount : TypedAssetAmount Int) : TypedAssetAmount Int :=
  ⟨usd, amount.raw, amount.nonneg⟩

/-- `routeInput` of the request. -/
def routeInput (opportunity : ArbitrageOpportunity) : RouteSelectionInput Int where
  chain := opportunity.chain
  opportunityId := opportunity.opportunityId
  revenue := inUsd opportunity.expectedRevenue
  debt := inUsd opportunity.capitalAtRisk
  gas := opportunity.estimatedGas
  swapCost := .none usd
  slippageBuffer := inUsd opportunity.slippageBuffer
  safetyBuffer := inUsd opportunity.safetyBuffer
  capitalAtRisk := inUsd opportunity.capitalAtRisk
  minimumMarginBps := opportunity.minimumMarginBps

/-- `buildArbitrageExecutionRequest`. -/
def buildArbitrageExecutionRequest (opportunity : ArbitrageOpportunity)
    (config : ArbitrageExecutionAdapterConfig) : Except ScannerError ArbitrageExecutionRequest := do
  let route ← encodedRoute opportunity
  return {
    request := {
      chain := opportunity.chain
      account := config.operatorAddress
      opportunityId := opportunity.opportunityId
      gasProfileKey := config.gasProfileKey.getD arbFlashLoanSimple
      routeInputChain := opportunity.chain
      gasLimitHint := none
      buildsFlashLoanPreview := false }
    routeInput := routeInput opportunity
    buildTransaction := fun provider => {
      target := aavePoolAddress opportunity.chain
      data := {
        receiverAddress := config.receiverAddress
        asset := opportunity.tokenIn
        amount := route.amountIn
        params := encodeArbitrageRoute route
        referralCode := config.referralCode.getD 0 }
      provider := provider } }

/-! ## The encoded minimum -/

/-- The encoded minimum of the second leg repays the loan, and is not more than what is
expected. -/
def LocksInNoLoss (opportunity : ArbitrageOpportunity) (built : ArbitrageExecutionRequest) : Prop :=
  ∀ provider, ∃ minSellOut,
    wordAt (built.buildTransaction provider).data.params minSellOutWord = some minSellOut ∧
      opportunity.amountIn + opportunity.flashLoanFee.raw ≤ minSellOut.toNat ∧
      (minSellOut.toNat : Int) ≤ opportunity.expectedAmountOut

variable {opportunity : ArbitrageOpportunity} {config : ArbitrageExecutionAdapterConfig}
  {built : ArbitrageExecutionRequest}

theorem toUint256_ok {value : Int} {word : BitVec 256} (fits : toUint256 value = .ok word) :
    (word.toNat : Int) = value := by
  unfold toUint256 at fits
  split at fits
  next bounds =>
    cases fits
    rw [BitVec.toNat_ofInt, Int.toNat_of_nonneg (Int.emod_nonneg _ (by norm_num))]
    exact Int.emod_eq_of_lt bounds.1 (by exact_mod_cast bounds.2)
  next => cases fits

theorem bigIntOf_ok {value : ℚ} {whole : Int} (fits : bigIntOf value = .ok whole) :
    value = whole := by
  unfold bigIntOf at fits
  split at fits
  next integral =>
    cases fits
    exact (Rat.coe_int_num_of_den_eq_one integral).symm
  next => cases fits

/-- A built request encodes an amount that went in, and the least that the second leg
may return. -/
theorem encodes_of_built (built_ok : buildArbitrageExecutionRequest opportunity config = .ok built) :
    0 ≤ opportunity.amountIn ∧ ∃ (cut : Int) (minSellOut : BitVec 256),
      (cut : ℚ) = min (max opportunity.minimumMarginBps 0) 9500 ∧
      (minSellOut.toNat : Int) = (opportunity.expectedAmountOut * (10000 - cut)).tdiv 10000 ∧
      ∀ provider, wordAt (built.buildTransaction provider).data.params minSellOutWord =
        some minSellOut := by
  obtain ⟨route, encoded, same⟩ := (Throwing.bind_eq_ok_iff _ _ _).mp built_ok
  cases same
  obtain ⟨minSell, minimum, encoded⟩ := (Throwing.bind_eq_ok_iff _ _ _).mp encoded
  obtain ⟨amountIn, amount, encoded⟩ := (Throwing.bind_eq_ok_iff _ _ _).mp encoded
  obtain ⟨minBuyOut, _, encoded⟩ := (Throwing.bind_eq_ok_iff _ _ _).mp encoded
  obtain ⟨minSellOut, word, encoded⟩ := (Throwing.bind_eq_ok_iff _ _ _).mp encoded
  cases encoded
  obtain ⟨cut, whole, same⟩ := (Throwing.bind_eq_ok_iff _ _ _).mp minimum
  cases same
  refine ⟨?_, cut, minSellOut, (bigIntOf_ok whole).symm, toUint256_ok word, ?_⟩
  · rw [← toUint256_ok amount]
    exact Int.natCast_nonneg _
  · intro provider
    have widened : ofUnsigned minSellOut = minSellOut := by simp [ofUnsigned]
    simp [encodeArbitrageRoute, EncodedArbitrageRoute.words, minSellOutWord, widened]

/-- What is left of a non-negative amount after a cut is at most the amount, and at least
any amount that the cut leaves room for. -/
theorem cut_bounds {amount cut : Int} (nonneg : 0 ≤ amount) (low : 0 ≤ cut) (high : cut ≤ 10000)
    (least : Int) :
    (amount * (10000 - cut)).tdiv 10000 ≤ amount ∧
      (least ≤ (amount * (10000 - cut)).tdiv 10000 ↔ amount * cut ≤ 10000 * (amount - least)) := by
  have product : 0 ≤ amount * (10000 - cut) := mul_nonneg nonneg (by omega)
  have whole : amount * (10000 - cut) = 10000 * amount - amount * cut := by ring
  have lost : 0 ≤ amount * cut := mul_nonneg nonneg low
  rw [Int.tdiv_eq_ediv_of_nonneg product]
  constructor
  · omega
  · rw [Int.le_ediv_iff_mul_le (by norm_num)]
    omega

/-- An opportunity that earns its margin of one percent, and the fee, to the unit. -/
def tightOpportunity : ArbitrageOpportunity where
  chain := .base
  opportunityId := .custom 0
  buyDex := dollarRoute.buyDex
  sellDex := dollarRoute.sellDex
  tokenIn := BASE_USDC
  tokenOut := BASE_USDBC
  amountIn := 1000000
  expectedIntermediateOut := 1000000
  expectedAmountOut := 1010900
  expectedRevenue := ⟨usdc, 10900, by decide⟩
  estimatedGas := ⟨usd, 100000, by decide⟩
  flashLoanFee := ⟨usdc, 900, by decide⟩
  slippageBuffer := ⟨usdc, 109, by decide⟩
  safetyBuffer := ⟨usdc, 54, by decide⟩
  capitalAtRisk := ⟨usdc, 1000000, by decide⟩
  provider := .aaveV3
  minimumMarginBps := 100

def plainAdapter : ArbitrageExecutionAdapterConfig := ⟨ZERO_ADDRESS, ZERO_ADDRESS, none, none⟩

theorem tightOpportunity_built :
    ∃ built, buildArbitrageExecutionRequest tightOpportunity plainAdapter = .ok built := by
  have encoded : encodedRoute tightOpportunity = .ok ⟨ZERO_ADDRESS, ZERO_ADDRESS, BASE_USDC,
      BASE_USDBC, 1000000, 1000000, 1000791⟩ := by
    decide +kernel
  rw [buildArbitrageExecutionRequest, encoded]
  exact ⟨_, rfl⟩

end ArbitrageScanner.ArbitrageOpportunity

end LiquidationBot
