import LiquidationBot.FlashLoanProviderRouter
import LiquidationBot.LiquidationExecutionAdapter
import Mathlib.Algebra.Order.Field.Rat
import Mathlib.Tactic.FieldSimp
import Mathlib.Tactic.Linarith
import Mathlib.Tactic.NormNum
import Mathlib.Tactic.Ring

/-!
# The economics of a liquidation, twice

The expected value of a flash-wrapped liquidation counts the bonus as income and
leaves the principal out: what is repaid comes back as collateral. The route
input counts the same bonus as revenue, and the net profit subtracts the repaid
debt from it. The two agree only where both say that nothing is earned.

Figures in dollars are exact here, so no rounding hides or causes a difference.
-/

namespace LiquidationBot

/-- The inputs that `assertNonNegative` names. -/
inductive EvField where
  | repayValueUsd
  | liquidationBonusBps
  | gasCostUsd
  | slippageBps
  | minProfitUsd
  | flashFeeBps
deriving DecidableEq

/-- `LiquidationEvInput`. -/
structure LiquidationEvInput where
  repayValueUsd : ℚ
  liquidationBonusBps : ℚ
  gasCostUsd : ℚ
  slippageBps : ℚ
  minProfitUsd : ℚ
deriving DecidableEq

/-- `LiquidationEv`. -/
structure LiquidationEv where
  expectedProfitUsd : ℚ
  isProfitable : Bool
deriving DecidableEq

def assertNonNegative (field : EvField) (value : ℚ) : Except EvField Unit :=
  if value < 0 then .error field else .ok ()

def calculateLiquidationEv (input : LiquidationEvInput) : Except EvField LiquidationEv := do
  assertNonNegative .repayValueUsd input.repayValueUsd
  assertNonNegative .liquidationBonusBps input.liquidationBonusBps
  assertNonNegative .gasCostUsd input.gasCostUsd
  assertNonNegative .slippageBps input.slippageBps
  assertNonNegative .minProfitUsd input.minProfitUsd
  let bonusUsd := input.repayValueUsd * (input.liquidationBonusBps / 10000)
  let slippageUsd := input.repayValueUsd * (input.slippageBps / 10000)
  let expectedProfitUsd := bonusUsd - input.gasCostUsd - slippageUsd
  return ⟨expectedProfitUsd, decide (input.minProfitUsd ≤ expectedProfitUsd)⟩

def calculateFlashWrappedLiquidationEv (input : LiquidationEvInput) (flashFeeBps : ℚ) :
    Except EvField LiquidationEv := do
  assertNonNegative .flashFeeBps flashFeeBps
  let flashFeeUsd := input.repayValueUsd * (flashFeeBps / 10000)
  calculateLiquidationEv { input with gasCostUsd := input.gasCostUsd + flashFeeUsd }

/-- `AAVE_V3_BASE_FLASH_FEE_BPS`. -/
def AAVE_V3_BASE_FLASH_FEE_BPS : ℚ := 9

/-- The rest of `LiquidationExecutionAdapterConfig`: the figures in dollars and
basis points. -/
structure LiquidationEconomicsConfig extends LiquidationExecutionAdapterConfig where
  minProfitUsd : ℚ
  gasCostUsd : ℚ
  slippageBps : ℚ
  minimumMarginBps : ℚ
  flashFeeBps : Option ℚ
  slippageBufferFloorBps : Option ℚ

/-- Why no route input is built. -/
inductive RouteInputError where
  | negative (field : EvField)
  | flashLoanReceiverRequired
  | fractionalSlippage
deriving DecidableEq

/-- `usdRaw`, without rounding. -/
def usdRaw (value : ℚ) : TypedAssetAmount ℚ := ⟨usd, max 0 (value * 100000000), le_max_left _ _⟩

namespace LiquidationEconomicsConfig

def effectiveSlippageBps (config : LiquidationEconomicsConfig) : ℚ :=
  max config.slippageBps (config.slippageBufferFloorBps.getD 500)

def effectiveFlashFeeBps (config : LiquidationEconomicsConfig) : ℚ :=
  config.flashFeeBps.getD AAVE_V3_BASE_FLASH_FEE_BPS

end LiquidationEconomicsConfig

/-- `economics` of `buildLiquidationExecutionRequest`. -/
def liquidationEv (candidate : LiquidationCandidate) (config : LiquidationEconomicsConfig) :
    Except EvField LiquidationEv :=
  calculateFlashWrappedLiquidationEv
    { repayValueUsd := candidate.repayValueUsd
      liquidationBonusBps := candidate.liquidationBonusBps
      gasCostUsd := config.gasCostUsd
      slippageBps := config.effectiveSlippageBps
      minProfitUsd := config.minProfitUsd }
    config.effectiveFlashFeeBps

/-- `routeInput` of `buildLiquidationExecutionRequest`, with what throws before
it: the asserted inputs, a missing receiver, and a slippage that is not a whole
number. -/
def liquidationRouteInput (chain : SupportedChain) (candidate : LiquidationCandidate)
    (config : LiquidationEconomicsConfig) : Except RouteInputError (RouteSelectionInput ℚ) :=
  match liquidationEv candidate config with
  | .error field => .error (.negative field)
  | .ok _ =>
      if config.requireFlashLoanWrapper && config.flashLoanReceiverAddress.isNone then
        .error .flashLoanReceiverRequired
      else if config.effectiveSlippageBps.den ≠ 1 then .error .fractionalSlippage
      else
        .ok
          { chain := chain
            opportunityId := .liquidation chain candidate.account candidate.debtAsset
            revenue := usdRaw (candidate.repayValueUsd * (candidate.liquidationBonusBps / 10000))
            debt := usdRaw candidate.repayValueUsd
            gas := usdRaw config.gasCostUsd
            swapCost := usdRaw 0
            slippageBuffer :=
              usdRaw (candidate.repayValueUsd * config.effectiveSlippageBps / 10000)
            safetyBuffer := usdRaw (config.minProfitUsd / 4)
            capitalAtRisk :=
              if config.flashLoanReceiverAddress.isNone then usdRaw candidate.repayValueUsd
              else usdRaw config.gasCostUsd
            minimumMarginBps := config.minimumMarginBps }

/-- The route with the flash fee of the debt. -/
def flashWrapped (candidate : LiquidationCandidate) (config : LiquidationEconomicsConfig)
    (input : RouteSelectionInput ℚ) (provider : FlashLoanProviderId) : ProfitSimulationInput ℚ :=
  input.withFee provider (usdRaw (candidate.repayValueUsd * config.effectiveFlashFeeBps / 10000))

/-- The net profit of the route is the expected value above the safety buffer,
and such a candidate with the minimum margin passes the deterministic check. -/
def EconomicsAgree (candidate : LiquidationCandidate) (config : LiquidationEconomicsConfig)
    (input : RouteSelectionInput ℚ) (provider : FlashLoanProviderId) : Prop :=
  ∀ ev, liquidationEv candidate config = .ok ev →
    let route := flashWrapped candidate config input provider
    let earned := ev.expectedProfitUsd * 100000000 - input.safetyBuffer.raw
    ∃ net, ProfitabilityEngine.calculateDeterministicProfit route = .ok net ∧
      net.raw = max 0 earned ∧
      ∀ bps, wholeBps config.minimumMarginBps = some bps → 0 < earned →
        input.capitalAtRisk.raw * bps ≤ earned * 10000 →
          ProfitabilityEngine.meetsMargin net route = .ok true

/-- Clamping hides a difference only at zero. -/
theorem max_sub_eq_iff {value loss : ℚ} (nonneg : 0 ≤ loss) :
    max 0 (value - loss) = max 0 value ↔ value ≤ 0 ∨ loss = 0 := by
  constructor
  · intro same
    rcases le_or_gt value 0 with small | positive
    · exact Or.inl small
    · right
      rw [max_eq_right positive.le] at same
      rcases le_total (value - loss) 0 with below | above
      · rw [max_eq_left below] at same
        linarith
      · rw [max_eq_right above] at same
        linarith
  · rintro (small | rfl)
    · rw [max_eq_left small, max_eq_left (by linarith)]
    · rw [sub_zero]

theorem assertNonNegative_eq_ok_iff (field : EvField) (value : ℚ) (done : Unit) :
    assertNonNegative field value = .ok done ↔ 0 ≤ value := by
  simp only [assertNonNegative]
  split
  next negative => simp [negative]
  next nonneg => simpa using nonneg

/-- The asserted inputs, and the expected value. -/
theorem calculateFlashWrappedLiquidationEv_eq_ok {input : LiquidationEvInput} {flashFeeBps : ℚ}
    {ev : LiquidationEv}
    (computed : calculateFlashWrappedLiquidationEv input flashFeeBps = .ok ev) :
    0 ≤ flashFeeBps ∧ 0 ≤ input.repayValueUsd ∧ 0 ≤ input.liquidationBonusBps ∧
      0 ≤ input.gasCostUsd + input.repayValueUsd * (flashFeeBps / 10000) ∧
      0 ≤ input.slippageBps ∧ 0 ≤ input.minProfitUsd ∧
      ev.expectedProfitUsd = input.repayValueUsd *
        (input.liquidationBonusBps - flashFeeBps - input.slippageBps) / 10000 -
          input.gasCostUsd := by
  simp only [calculateFlashWrappedLiquidationEv, calculateLiquidationEv, Throwing.bind_eq_ok_iff,
    assertNonNegative_eq_ok_iff, Throwing.pure_eq_ok_iff, exists_const] at computed
  obtain ⟨fee, repay, bonus, gas, slippage, profit, rfl⟩ := computed
  refine ⟨fee, repay, bonus, gas, slippage, profit, ?_⟩
  ring

theorem raw_usdRaw {value : ℚ} (nonneg : 0 ≤ value) : (usdRaw value).raw = value * 100000000 :=
  max_eq_right (mul_nonneg nonneg (by norm_num))

/-- A built route input, and the expected value computed before it. -/
theorem liquidationRouteInput_eq_ok {chain : SupportedChain} {candidate : LiquidationCandidate}
    {config : LiquidationEconomicsConfig} {input : RouteSelectionInput ℚ}
    (built : liquidationRouteInput chain candidate config = .ok input) :
    (∃ ev, liquidationEv candidate config = .ok ev) ∧
      input.revenue = usdRaw (candidate.repayValueUsd * (candidate.liquidationBonusBps / 10000)) ∧
      input.debt = usdRaw candidate.repayValueUsd ∧ input.gas = usdRaw config.gasCostUsd ∧
      input.swapCost = usdRaw 0 ∧
      input.slippageBuffer =
        usdRaw (candidate.repayValueUsd * config.effectiveSlippageBps / 10000) ∧
      input.safetyBuffer = usdRaw (config.minProfitUsd / 4) ∧
      input.capitalAtRisk.asset = usd := by
  simp only [liquidationRouteInput] at built
  split at built
  next => cases built
  next ev computed =>
    split at built
    next => cases built
    next =>
      split at built
      next => cases built
      next =>
        cases built
        refine ⟨⟨ev, computed⟩, rfl, rfl, rfl, rfl, rfl, rfl, ?_⟩
        split
        · rfl
        · rfl

section Agreement

variable {chain : SupportedChain} {candidate : LiquidationCandidate}
  {config : LiquidationEconomicsConfig} {input : RouteSelectionInput ℚ}

/-- What the net profit subtracts and the expected value does not: the repaid
debt, and a negative gas cost. -/
def countedTwice (candidate : LiquidationCandidate) (config : LiquidationEconomicsConfig) : ℚ :=
  candidate.repayValueUsd * 100000000 + (usdRaw config.gasCostUsd).raw -
    config.gasCostUsd * 100000000

/-- The net profit of a built route falls short of the expected value by what is
counted twice. -/
theorem netProfit_flashWrapped
    (built : liquidationRouteInput chain candidate config = .ok input)
    (provider : FlashLoanProviderId) {ev : LiquidationEv}
    (computed : liquidationEv candidate config = .ok ev) :
    ∃ net, ProfitabilityEngine.calculateDeterministicProfit
        (flashWrapped candidate config input provider) = .ok net ∧
      net.raw = max 0 (ev.expectedProfitUsd * 100000000 - input.safetyBuffer.raw -
        countedTwice candidate config) := by
  obtain ⟨_, revenue, debt, gas, swapCost, slippage, safety, capital⟩ :=
    liquidationRouteInput_eq_ok built
  obtain ⟨fee, repay, bonus, _, slippageBps, profit, expected⟩ :=
    calculateFlashWrappedLiquidationEv_eq_ok computed
  simp only at fee repay bonus slippageBps profit expected
  have inUsd : ProfitabilityEngine.InAsset usd (flashWrapped candidate config input provider) := by
    constructor
    all_goals simp only [flashWrapped, RouteSelectionInput.withFee, revenue, debt, gas, swapCost,
      slippage, safety, capital]
    all_goals rfl
  obtain ⟨net, returned, _, raw⟩ := ProfitabilityEngine.calculateDeterministicProfit_eq inUsd
  refine ⟨net, returned, ?_⟩
  have slippageUsd : 0 ≤ candidate.repayValueUsd * config.effectiveSlippageBps / 10000 :=
    div_nonneg (mul_nonneg repay slippageBps) (by norm_num)
  have feeUsd : 0 ≤ candidate.repayValueUsd * config.effectiveFlashFeeBps / 10000 :=
    div_nonneg (mul_nonneg repay fee) (by norm_num)
  have bonusUsd : 0 ≤ candidate.repayValueUsd * (candidate.liquidationBonusBps / 10000) :=
    mul_nonneg repay (div_nonneg bonus (by norm_num))
  have bufferUsd : 0 ≤ config.minProfitUsd / 4 := div_nonneg profit (by norm_num)
  rw [raw]
  apply congrArg (max 0)
  simp only [ProfitabilityEngine.outlay, flashWrapped, RouteSelectionInput.withFee, revenue, debt,
    gas, swapCost, slippage, safety, raw_usdRaw repay, raw_usdRaw bonusUsd, raw_usdRaw slippageUsd,
    raw_usdRaw feeUsd, raw_usdRaw bufferUsd, raw_usdRaw le_rfl, countedTwice, expected]
  ring

/-- Nothing is counted twice only when nothing is repaid. -/
theorem countedTwice_nonneg (repay : 0 ≤ candidate.repayValueUsd) :
    0 ≤ countedTwice candidate config ∧
      (countedTwice candidate config = 0 → candidate.repayValueUsd = 0) := by
  have clamped : config.gasCostUsd * 100000000 ≤ (usdRaw config.gasCostUsd).raw :=
    le_max_right _ _
  refine ⟨?_, ?_⟩
  · simp only [countedTwice]
    linarith
  · intro nothing
    simp only [countedTwice] at nothing
    linarith

/-- For every route input that is built, the two agree exactly when the expected
value is not above the safety buffer. -/
theorem economics_agree_iff (built : liquidationRouteInput chain candidate config = .ok input)
    (provider : FlashLoanProviderId) :
    EconomicsAgree candidate config input provider ↔
      candidate.repayValueUsd * (candidate.liquidationBonusBps - config.effectiveFlashFeeBps -
        config.effectiveSlippageBps) ≤ 10000 * (config.gasCostUsd + config.minProfitUsd / 4) := by
  obtain ⟨⟨ev, computed⟩, _, _, _, _, _, safety, _⟩ := liquidationRouteInput_eq_ok built
  obtain ⟨fee, repay, _, gas, _, profit, expected⟩ :=
    calculateFlashWrappedLiquidationEv_eq_ok computed
  simp only at fee repay gas profit expected
  obtain ⟨net, returned, raw⟩ := netProfit_flashWrapped built provider computed
  obtain ⟨nonneg, unpaid⟩ := countedTwice_nonneg repay
  have buffer : input.safetyBuffer.raw = config.minProfitUsd / 4 * 100000000 := by
    rw [safety]
    exact raw_usdRaw (div_nonneg profit (by norm_num))
  have unearned : ev.expectedProfitUsd * 100000000 - input.safetyBuffer.raw ≤ 0 ↔
      candidate.repayValueUsd * (candidate.liquidationBonusBps - config.effectiveFlashFeeBps -
        config.effectiveSlippageBps) ≤
          10000 * (config.gasCostUsd + config.minProfitUsd / 4) := by
    rw [buffer, expected]
    constructor
    · intro small
      linarith
    · intro small
      linarith
  rw [← unearned]
  constructor
  · intro agree
    obtain ⟨other, again, same, _⟩ := agree ev computed
    rw [returned] at again
    cases again
    rw [raw, max_sub_eq_iff nonneg] at same
    rcases same with small | nothing
    · exact small
    · have zero := unpaid nothing
      rw [zero, zero_mul, add_zero] at gas
      rw [buffer, expected, zero, zero_mul, zero_div, zero_sub]
      linarith
  · intro small other again
    rw [computed] at again
    cases again
    refine ⟨net, returned, ?_, ?_⟩
    · rw [raw, max_sub_eq_iff nonneg]
      exact Or.inl small
    · intro bps _ positive
      exact absurd positive (not_lt.mpr small)

end Agreement

/-- A debt of a hundred thousand dollars at a bonus of seven and a half percent. -/
def profitableCandidate : LiquidationCandidate where
  account := ⟨1, 0⟩
  collateralAsset := ⟨2, 0⟩
  debtAsset := ⟨3, 0⟩
  debtToCover := 100000000000
  repayValueUsd := 100000
  liquidationBonusBps := 750
  healthFactor := 900000000000000000

def wrappedConfig : LiquidationEconomicsConfig where
  account := ⟨4, 0⟩
  flashLoanReceiverAddress := some ⟨5, 0⟩
  requireFlashLoanWrapper := true
  minProfitUsd := 10
  gasCostUsd := 1
  slippageBps := 50
  minimumMarginBps := 75
  flashFeeBps := some 5
  slippageBufferFloorBps := none

/-- The route input of that candidate. -/
def wrappedInput : RouteSelectionInput ℚ where
  chain := .base
  opportunityId := .liquidation .base ⟨1, 0⟩ ⟨3, 0⟩
  revenue := usdRaw (100000 * ((750 : ℤ) / 10000))
  debt := usdRaw 100000
  gas := usdRaw 1
  swapCost := usdRaw 0
  slippageBuffer := usdRaw (100000 * 500 / 10000)
  safetyBuffer := usdRaw (10 / 4)
  capitalAtRisk := usdRaw 1
  minimumMarginBps := 75

theorem effectiveSlippageBps_wrapped : wrappedConfig.effectiveSlippageBps = 500 := by
  norm_num [LiquidationEconomicsConfig.effectiveSlippageBps, wrappedConfig]

theorem liquidationEv_profitable :
    liquidationEv profitableCandidate wrappedConfig = .ok ⟨2449, true⟩ := by
  have fee : wrappedConfig.effectiveFlashFeeBps = 5 := rfl
  simp only [liquidationEv, effectiveSlippageBps_wrapped, fee]
  norm_num [calculateFlashWrappedLiquidationEv, calculateLiquidationEv, assertNonNegative,
    profitableCandidate, wrappedConfig, bind, Except.bind, pure, Except.pure]

theorem liquidationRouteInput_profitable :
    liquidationRouteInput .base profitableCandidate wrappedConfig = .ok wrappedInput := by
  simp only [liquidationRouteInput, liquidationEv_profitable, effectiveSlippageBps_wrapped]
  rfl

/-- The theorem at that candidate. -/
theorem economics_agree_iff_profitable :
    EconomicsAgree profitableCandidate wrappedConfig wrappedInput .aaveV3 ↔
      profitableCandidate.repayValueUsd * (profitableCandidate.liquidationBonusBps -
          wrappedConfig.effectiveFlashFeeBps - wrappedConfig.effectiveSlippageBps) ≤
        10000 * (wrappedConfig.gasCostUsd + wrappedConfig.minProfitUsd / 4) :=
  economics_agree_iff liquidationRouteInput_profitable .aaveV3

/-- An expected profit of 2449 dollars has a net profit of zero, and the check
rejects it. -/
theorem profitable_candidate_rejected :
    liquidationEv profitableCandidate wrappedConfig = .ok ⟨2449, true⟩ ∧
      ¬ EconomicsAgree profitableCandidate wrappedConfig wrappedInput .aaveV3 := by
  refine ⟨liquidationEv_profitable, ?_⟩
  intro agree
  obtain ⟨net, returned, claimed, _⟩ := agree ⟨2449, true⟩ liquidationEv_profitable
  obtain ⟨other, again, raw⟩ := netProfit_flashWrapped liquidationRouteInput_profitable .aaveV3
    liquidationEv_profitable
  rw [returned] at again
  cases again
  rw [claimed] at raw
  norm_num [countedTwice, profitableCandidate, wrappedConfig, wrappedInput, usdRaw] at raw

end LiquidationBot
