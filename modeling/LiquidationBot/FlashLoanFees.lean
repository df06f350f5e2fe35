import LiquidationBot.FlashLoanProviderRouter
import Mathlib.Algebra.Order.Floor.Ring
import Mathlib.Data.List.DropRight
import Mathlib.Data.Rat.Floor
import Mathlib.Tactic.Linarith
import Mathlib.Tactic.NormNum
import Mathlib.Tactic.Ring

/-!
# Flash-loan fees at start-up

The pool's premium is a ratio, in basis points of the debt. At start-up it is
read once and stored as one amount: a million units of 1e-8 dollars for each
basis point. That is the premium of a debt of one hundred dollars, and it is
charged for every debt. Fees are set for two of the three providers that the
configuration admits.
-/

namespace LiquidationBot

namespace FlashLoanFees

/-- The white space that `trim` removes. -/
def isWhitespace (char : Char) : Bool :=
  let code := char.toNat
  (9 ≤ code && code ≤ 13) || code == 32 || code == 160 || code == 5760 ||
    (8192 ≤ code && code ≤ 8202) || code == 8232 || code == 8233 || code == 8239 ||
    code == 8287 || code == 12288 || code == 65279

def trim (chars : List Char) : List Char :=
  (chars.dropWhile isWhitespace).rdropWhile isWhitespace

/-- The provider that an entry names. -/
def providerNamed (entry : List Char) : Option FlashLoanProviderId :=
  if entry = "aaveV3".toList then some .aaveV3
  else if entry = "balancer".toList then some .balancer
  else if entry = "uniswapV3".toList then some .uniswapV3
  else none

def parseFlashLoanProviders (value : Option String) : List FlashLoanProviderId :=
  match value with
  | none => [.aaveV3]
  | some text =>
      if trim text.toList = [] then [.aaveV3]
      else
        let providers := ((text.toList.splitOn ',').map trim).filterMap providerNamed
        if providers.isEmpty then [.aaveV3] else providers.eraseDups

def applyFlashLoanProviderPolicy (providers : List FlashLoanProviderId)
    (balancerFlashFallback : Bool) : List FlashLoanProviderId :=
  if balancerFlashFallback then providers
  else providers.filter (fun provider => decide (provider ≠ .balancer))

/-- A number of basis points that `parseMinNumber` accepts with minimum zero. -/
abbrev Bps := { bps : ℚ // 0 ≤ bps }

/-- The policy admits Balancer only together with its fee. -/
theorem fallback_of_balancer_mem {providers : List FlashLoanProviderId}
    {balancerFlashFallback : Bool}
    (admitted : .balancer ∈ applyFlashLoanProviderPolicy providers balancerFlashFallback) :
    balancerFlashFallback = true := by
  cases balancerFlashFallback with
  | true => rfl
  | false => simp [applyFlashLoanProviderPolicy] at admitted

/-- `RuntimeConfig`, by what decides about fees. -/
structure RuntimeConfig where
  chains : List SupportedChain
  flashLoanProviders : List FlashLoanProviderId
  balancerFlashFallback : Bool
  flashLoanFeeBps : Bps
  balancerPolicy : .balancer ∈ flashLoanProviders → balancerFlashFallback = true

/-- `parseRuntimeConfig`, from the settings on. -/
def parseRuntimeConfig (chains : List SupportedChain) (FLASH_LOAN_PROVIDERS : Option String)
    (BALANCER_FLASH_FALLBACK : Bool) (FLASH_LOAN_FEE_BPS : Bps) : RuntimeConfig where
  chains := chains
  flashLoanProviders :=
    applyFlashLoanProviderPolicy (parseFlashLoanProviders FLASH_LOAN_PROVIDERS)
      BALANCER_FLASH_FALLBACK
  balancerFlashFallback := BALANCER_FLASH_FALLBACK
  flashLoanFeeBps := FLASH_LOAN_FEE_BPS
  balancerPolicy := fallback_of_balancer_mem

/-- `readFlashLoanPremiumBps`: the premium that the pool answers, and the
configured one if the read fails. -/
def readFlashLoanPremiumBps (config : RuntimeConfig) : Except Unit Nat → Bps
  | .ok raw => ⟨raw, Nat.cast_nonneg raw⟩
  | .error _ => config.flashLoanFeeBps

/-- The amount stored for a premium; truncation is the floor here. -/
def feeAmount (bps : Bps) : TypedAssetAmount ℤ where
  asset := usd
  raw := ⌊bps.val * 1000000⌋
  nonneg := Int.floor_nonneg.mpr (mul_nonneg bps.property (by norm_num))

/-- The fees set by `startupGuard`. -/
def startupGuard (config : RuntimeConfig) (premium : Bps) (router : FlashLoanProviderRouter ℤ) :
    FlashLoanProviderRouter ℤ :=
  let charged := router.setProviderFee .aaveV3 (feeAmount premium)
  if config.balancerFlashFallback then
    charged.setProviderFee .balancer (feeAmount config.flashLoanFeeBps)
  else charged

/-- A call of `selectBestRoute`: its figures, the breakers and the times. -/
structure RouteCall where
  input : RouteSelectionInput ℤ
  execution : SupportedChain → CircuitBreakerStatus
  askedMs : Int
  doneMs : Int

def registryOf (config : RuntimeConfig) (call : RouteCall) : ChainRegistry where
  chains := config.chains
  flashLoanProviders := config.flashLoanProviders
  execution := call.execution

def select (config : RuntimeConfig) (router : FlashLoanProviderRouter ℤ) (call : RouteCall) :
    Except RouteError (RouteSelection ℤ × FlashLoanProviderRouter ℤ) :=
  router.selectBestRoute (registryOf config call) FlashLoanProviderRouter.echoSimulator
    call.askedMs call.doneMs call.input

/-- What is done with the router while the bot runs. -/
inductive RouterStep where
  | selectBestRoute (call : RouteCall)
  | clearRouteCache

/-- A step of the router; a selection that throws leaves it as it was. -/
def RouterStep.run (config : RuntimeConfig) (router : FlashLoanProviderRouter ℤ) :
    RouterStep → FlashLoanProviderRouter ℤ
  | .selectBestRoute call =>
      match select config router call with
      | .ok (_, after) => after
      | .error _ => router
  | .clearRouteCache => router.clearRouteCache

/-- The router after steps, the start-up and further steps. -/
def routerAfter (config : RuntimeConfig) (premium : Bps) (before after : List RouterStep) :
    FlashLoanProviderRouter ℤ :=
  after.foldl (RouterStep.run config)
    (startupGuard config premium (before.foldl (RouterStep.run config) .initial))

/-! ## What is claimed of a call -/

/-- The premium that the pool pulls for a debt, in units of 1e-8 dollars. -/
def premiumRaw (premium : Bps) (input : RouteSelectionInput ℤ) : ℚ :=
  input.debt.raw * premium.val / 10000

/-- What is left of the revenue after debt, premium and costs. -/
def actualNetProfit (premium : Bps) (input : RouteSelectionInput ℤ) : ℚ :=
  input.revenue.raw - (input.debt.raw + input.gas.raw + premiumRaw premium input +
    input.swapCost.raw + input.slippageBuffer.raw + input.safetyBuffer.raw)

/-- The fee charged for Aave is the pool's premium up to rounding, and a route
approved with Aave earns the net profit that is reported. -/
def ChargesPremium (config : RuntimeConfig) (premium : Bps) (router : FlashLoanProviderRouter ℤ)
    (call : RouteCall) : Prop :=
  ∃ fee, router.providerFees .aaveV3 = some fee ∧
    |(fee.raw : ℚ) - premiumRaw premium call.input| < 1 ∧
    ∀ netProfit marginBps,
      ProfitabilityEngine.evaluate (registryOf config call) FlashLoanProviderRouter.echoSimulator
          (call.input.withFee .aaveV3 fee) = .ok (.approved .aaveV3 netProfit marginBps) →
        (netProfit.raw : ℚ) < actualNetProfit premium call.input + 1

/-- The selection does not throw, and Aave's fee is right where Aave is
registered. -/
def FeeRight (config : RuntimeConfig) (premium : Bps) (router : FlashLoanProviderRouter ℤ)
    (call : RouteCall) : Prop :=
  Throwing.Returns (select config router call) ∧
    (.aaveV3 ∈ config.flashLoanProviders → ChargesPremium config premium router call)

/-- The call does not come to the providers, or finds a fee for each of them
and a margin it can compare with. -/
def FindsFees (config : RuntimeConfig) (router : FlashLoanProviderRouter ℤ) (call : RouteCall) :
    Prop :=
  (router.freshResult call.input call.askedMs).isSome = true ∨
    call.execution call.input.chain = .open ∨
    .uniswapV3 ∉ config.flashLoanProviders ∧
      (config.flashLoanProviders = [] ∨ (wholeBps call.input.minimumMarginBps).isSome = true)

/-- The debt is a hundred dollars, up to what rounding allows for the premium. -/
def NearReferenceDebt (premium : Bps) (input : RouteSelectionInput ℤ) : Prop :=
  Int.fract (premium.val * 1000000) - 1 < premium.val * (10000000000 - input.debt.raw) / 10000 ∧
    premium.val * (10000000000 - input.debt.raw) / 10000 < 1 + Int.fract (premium.val * 1000000)

/-- A route may be approved without a profit only if it makes no loss. -/
def NoApprovedLoss (premium : Bps) (input : RouteSelectionInput ℤ) : Prop :=
  input.minimumMarginBps = 0 → input.capitalAtRisk.raw ≠ 0 →
    -1 < actualNetProfit premium input

/-! ## Fees -/

theorem providerFees_run (config : RuntimeConfig) (router : FlashLoanProviderRouter ℤ)
    (step : RouterStep) : (step.run config router).providerFees = router.providerFees := by
  cases step with
  | clearRouteCache => rfl
  | selectBestRoute call =>
    simp only [RouterStep.run]
    split
    next result after returned =>
      exact FlashLoanProviderRouter.providerFees_selectBestRoute returned
    next => rfl

theorem providerFees_runs (config : RuntimeConfig) (steps : List RouterStep)
    (router : FlashLoanProviderRouter ℤ) :
    (steps.foldl (RouterStep.run config) router).providerFees = router.providerFees := by
  induction steps generalizing router with
  | nil => rfl
  | cons step rest inductionHypothesis =>
    rw [List.foldl_cons, inductionHypothesis, providerFees_run]

/-- The fees of every state after the start-up. -/
theorem providerFees_routerAfter (config : RuntimeConfig) (premium : Bps)
    (before after : List RouterStep) (provider : FlashLoanProviderId) :
    (routerAfter config premium before after).providerFees provider =
      match provider with
      | .aaveV3 => some (feeAmount premium)
      | .balancer =>
          if config.balancerFlashFallback then some (feeAmount config.flashLoanFeeBps) else none
      | .uniswapV3 => none := by
  have earlier : (before.foldl (RouterStep.run config)
      (.initial : FlashLoanProviderRouter ℤ)).providerFees = fun _ => none :=
    providerFees_runs config before .initial
  rw [routerAfter, providerFees_runs]
  simp only [startupGuard]
  split
  next =>
    cases provider <;> simp [FlashLoanProviderRouter.setProviderFee, earlier]
  next =>
    cases provider <;> simp [FlashLoanProviderRouter.setProviderFee, earlier]

/-- The stored amount is the premium exactly near the reference debt. -/
theorem feeAmount_near_iff (premium : Bps) (input : RouteSelectionInput ℤ) :
    |((feeAmount premium).raw : ℚ) - premiumRaw premium input| < 1 ↔
      NearReferenceDebt premium input := by
  have split : ((feeAmount premium).raw : ℚ) =
      premium.val * 1000000 - Int.fract (premium.val * 1000000) :=
    (sub_eq_iff_eq_add.mpr (Int.floor_add_fract (premium.val * 1000000)).symm).symm
  have moved : premium.val * (10000000000 - input.debt.raw) / 10000 =
      premium.val * 1000000 - premiumRaw premium input := by
    rw [premiumRaw]
    ring
  rw [NearReferenceDebt, moved, split, abs_lt]
  constructor
  · rintro ⟨lower, upper⟩
    exact ⟨by linarith, by linarith⟩
  · rintro ⟨lower, upper⟩
    exact ⟨by linarith, by linarith⟩

section Calls

variable {config : RuntimeConfig} {premium : Bps} {call : RouteCall}

/-- The figures of a call with the stored fee for Aave. -/
def charged (premium : Bps) (call : RouteCall) : ProfitSimulationInput ℤ :=
  call.input.withFee .aaveV3 (feeAmount premium)

theorem outlay_charged (premium : Bps) (call : RouteCall) :
    ((call.input.revenue.raw - ProfitabilityEngine.outlay (charged premium call) : ℤ) : ℚ) =
      actualNetProfit premium call.input +
        (premiumRaw premium call.input - (feeAmount premium).raw) := by
  simp only [ProfitabilityEngine.outlay, charged, RouteSelectionInput.withFee, actualNetProfit]
  push_cast
  ring

/-- With the right fee, a reported net profit is earned unless a loss is approved
as a profit of zero. -/
theorem earned_iff (registered : call.input.chain ∈ config.chains)
    (same : FlashLoanProviderRouter.InAsset usd call.input)
    (near : |((feeAmount premium).raw : ℚ) - premiumRaw premium call.input| < 1) :
    (∀ netProfit marginBps,
        ProfitabilityEngine.evaluate (registryOf config call) FlashLoanProviderRouter.echoSimulator
            (charged premium call) = .ok (.approved .aaveV3 netProfit marginBps) →
          (netProfit.raw : ℚ) < actualNetProfit premium call.input + 1) ↔
      NoApprovedLoss premium call.input := by
  have inUsd := same.withFee .aaveV3 (show (feeAmount premium).asset = usd from rfl)
  obtain ⟨net, profit, netInUsd, raw⟩ :=
    ProfitabilityEngine.calculateDeterministicProfit_eq inUsd
  have evaluated : ProfitabilityEngine.evaluate (registryOf config call)
      FlashLoanProviderRouter.echoSimulator (charged premium call) = _ :=
    FlashLoanProviderRouter.evaluate_echo registered inUsd netInUsd profit
  have real := outlay_charged premium call
  obtain ⟨lower, upper⟩ := abs_lt.mp near
  rw [evaluated]
  constructor
  · intro earns marginZero atRisk
    have whole : wholeBps (call.input.withFee .aaveV3 (feeAmount premium)).minimumMarginBps =
        some 0 := (wholeBps_eq_zero_iff _).mpr marginZero
    have nonneg : (0 : ℚ) ≤ net.raw := by exact_mod_cast net.nonneg
    have reported := earns net (marginOf net (charged premium call).capitalAtRisk) (by
      rw [whole]
      have free : (0 : ℤ) ≤ net.raw * 10000 := mul_nonneg net.nonneg (by norm_num)
      simp only [Nat.cast_zero, mul_zero]
      exact if_pos ⟨atRisk, free⟩)
    linarith
  · intro noLoss netProfit marginBps approved
    split at approved
    next => cases approved
    next bps whole =>
      split at approved
      next meets =>
        cases approved
        rcases le_total (call.input.revenue.raw - ProfitabilityEngine.outlay
            (charged premium call)) 0 with loss | gain
        · have nothing : net.raw = 0 := raw.trans (max_eq_left loss)
          have atRisk : 0 < call.input.capitalAtRisk.raw :=
            lt_of_le_of_ne call.input.capitalAtRisk.nonneg (Ne.symm meets.1)
          have marginZero : bps = 0 := by
            by_contra positive
            have above : (0 : ℤ) < call.input.capitalAtRisk.raw * (bps : ℤ) :=
              mul_pos atRisk (by omega)
            have below := meets.2
            rw [nothing, zero_mul] at below
            exact absurd above (not_lt.mpr below)
          rw [marginZero] at whole
          have small := noLoss ((wholeBps_eq_zero_iff _).mp whole) meets.1
          rw [nothing, Int.cast_zero]
          linarith
        · have full : net.raw = call.input.revenue.raw - ProfitabilityEngine.outlay
              (charged premium call) := raw.trans (max_eq_right gain)
          rw [full, real]
          linarith
      next => cases approved

/-- A call selects without an exception exactly when it finds its fees. -/
theorem returns_select_iff (before after : List RouterStep)
    (registered : call.input.chain ∈ config.chains)
    (same : FlashLoanProviderRouter.InAsset usd call.input) :
    Throwing.Returns (select config (routerAfter config premium before after) call) ↔
      FindsFees config (routerAfter config premium before after) call := by
  have fees := providerFees_routerAfter config premium before after
  have feesInUsd : ∀ provider fee,
      (routerAfter config premium before after).providerFees provider = some fee →
        fee.asset = usd := by
    intro provider fee quoted
    rw [fees] at quoted
    cases provider with
    | aaveV3 =>
      cases quoted
      rfl
    | balancer =>
      simp only at quoted
      split at quoted
      · cases quoted
        rfl
      · cases quoted
    | uniswapV3 => cases quoted
  rw [select, FlashLoanProviderRouter.returns_selectBestRoute_iff,
    FlashLoanProviderRouter.returns_selectAfresh_iff registered same feesInUsd, FindsFees]
  apply or_congr Iff.rfl
  apply or_congr Iff.rfl
  constructor
  · intro found
    constructor
    · intro uniswap
      have quoted := (found .uniswapV3 uniswap).1
      rw [fees] at quoted
      cases quoted
    · by_cases none : config.flashLoanProviders = []
      · exact Or.inl none
      · obtain ⟨provider, member⟩ := List.exists_mem_of_ne_nil _ none
        exact Or.inr (found provider member).2
  · rintro ⟨noUniswap, whole⟩ provider member
    refine ⟨?_, ?_⟩
    · rw [fees]
      cases provider with
      | aaveV3 => rfl
      | balancer => simp [config.balancerPolicy member]
      | uniswapV3 => exact absurd member noUniswap
    · rcases whole with none | whole
      · exact absurd member (List.eq_nil_iff_forall_not_mem.mp none provider)
      · exact whole

end Calls

/-- In every state after the start-up, a call that is in dollars and on a
registered chain is charged rightly exactly when it finds its fees and, where
Aave is registered, its debt is near the reference and no loss is approved. -/
theorem fee_right_iff (config : RuntimeConfig) (premium : Bps) (before after : List RouterStep)
    (call : RouteCall) (registered : call.input.chain ∈ config.chains)
    (same : FlashLoanProviderRouter.InAsset usd call.input) :
    FeeRight config premium (routerAfter config premium before after) call ↔
      FindsFees config (routerAfter config premium before after) call ∧
        (.aaveV3 ∈ config.flashLoanProviders →
          NearReferenceDebt premium call.input ∧ NoApprovedLoss premium call.input) := by
  have stored := providerFees_routerAfter config premium before after .aaveV3
  rw [FeeRight, returns_select_iff before after registered same]
  apply and_congr Iff.rfl
  apply imp_congr Iff.rfl
  constructor
  · rintro ⟨fee, quoted, near, earns⟩
    rw [stored] at quoted
    cases quoted
    exact ⟨(feeAmount_near_iff premium call.input).mp near,
      (earned_iff registered same near).mp earns⟩
  · rintro ⟨near, noLoss⟩
    have close := (feeAmount_near_iff premium call.input).mpr near
    exact ⟨feeAmount premium, stored, close, (earned_iff registered same close).mpr noLoss⟩

/-- A configuration without settings for flash loans. -/
def plainConfig : RuntimeConfig := parseRuntimeConfig [.base] none false ⟨9, by norm_num⟩

/-- An amount of dollars. -/
def dollars (amount : Nat) : TypedAssetAmount ℤ := ⟨usd, amount * 100000000, by positivity⟩

/-- A debt of ten thousand dollars with a bonus of five hundred. -/
def largeDebt : RouteCall where
  input :=
    { chain := .base
      opportunityId := .custom 0
      revenue := dollars 10500
      debt := dollars 10000
      gas := dollars 1
      swapCost := dollars 0
      slippageBuffer := dollars 50
      safetyBuffer := dollars 2
      capitalAtRisk := dollars 1
      minimumMarginBps := 75 }
  execution := fun _ => .closed
  askedMs := 0
  doneMs := 0

theorem largeDebt_inUsd : FlashLoanProviderRouter.InAsset usd largeDebt.input := by
  constructor <;> rfl

/-- The pool answers five basis points. -/
def fiveBps : Bps := readFlashLoanPremiumBps plainConfig (.ok 5)

/-- The theorem right after the start-up. -/
theorem fee_right_iff_largeDebt :
    FeeRight plainConfig fiveBps (routerAfter plainConfig fiveBps [] []) largeDebt ↔
      FindsFees plainConfig (routerAfter plainConfig fiveBps [] []) largeDebt ∧
        (.aaveV3 ∈ plainConfig.flashLoanProviders →
          NearReferenceDebt fiveBps largeDebt.input ∧ NoApprovedLoss fiveBps largeDebt.input) :=
  fee_right_iff plainConfig fiveBps [] [] largeDebt (by decide) largeDebt_inUsd

/-- The pool pulls five dollars of premium and five cents are charged. -/
theorem premium_undercharged :
    (feeAmount fiveBps).raw = 5000000 ∧ premiumRaw fiveBps largeDebt.input = 500000000 ∧
      ¬ FeeRight plainConfig fiveBps (routerAfter plainConfig fiveBps [] []) largeDebt := by
  have stored : (feeAmount fiveBps).raw = 5000000 := by
    norm_num [feeAmount, fiveBps, readFlashLoanPremiumBps]
  have pulled : premiumRaw fiveBps largeDebt.input = 500000000 := by
    norm_num [premiumRaw, largeDebt, dollars, fiveBps, readFlashLoanPremiumBps]
  refine ⟨stored, pulled, ?_⟩
  rintro ⟨_, charges⟩
  obtain ⟨fee, quoted, near, _⟩ := charges (by decide)
  rw [providerFees_routerAfter] at quoted
  cases quoted
  rw [stored, pulled] at near
  norm_num at near

end FlashLoanFees

end LiquidationBot
