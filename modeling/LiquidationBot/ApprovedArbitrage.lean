import LiquidationBot.ApprovalSoundness
import LiquidationBot.ArbitrageProbes
import LiquidationBot.PrecheckUnits

/-!
# What an approved arbitrage earns in dollars

The evaluation reads raw token amounts and a quantity of gas as dollars of eight decimals.
What an approval says of the dollars that are earned comes from the two checks before it:
the exact one, where the prices are known, and the pre-check, which counts a wei of gas as
one raw unit of the token. Without the exact check an approval means a profit only for a
token whose raw unit is worth more than a wei, and only with a margin.
-/

namespace LiquidationBot

namespace ArbitrageScanner

open Async FirstGreatest ProfitabilityEngine

theorem isApproved_iff (result : Except RouteError (ProfitabilityResult Int)) :
    isApproved result = true ↔
      ∃ provider netProfit marginBps, result = .ok (.approved provider netProfit marginBps) := by
  rcases result with error | (⟨provider, netProfit, marginBps⟩ | _)
  · simp [isApproved]
  · simp [isApproved]
  · simp [isApproved]

/-- The dollar prices of the token and of the native token, with eight decimals, and what the
price cache answers if there is one. It may not know a price, but knows no other. -/
structure Market (tokenIn gasToken : Address) where
  tokenPrice : Int
  nativePrice : Int
  cache : Option (InsertionMap Address Int)
  tokenPriced : 0 < tokenPrice
  nativePriced : 0 < nativePrice
  token : ∀ prices ∈ cache, 0 < (prices.get? tokenIn).getD 0 →
    (prices.get? tokenIn).getD 0 = tokenPrice
  native : ∀ prices ∈ cache, 0 < (prices.get? gasToken).getD 0 →
    (prices.get? gasToken).getD 0 = nativePrice

/-- The price cache knows both prices. -/
def Market.Known {tokenIn gasToken : Address} (market : Market tokenIn gasToken) : Prop :=
  ∃ prices ∈ market.cache, 0 < (prices.get? tokenIn).getD 0 ∧ 0 < (prices.get? gasToken).getD 0

/-- What is left above capital and flash loan fee is worth more dollars than the gas. -/
def ProfitsInUsd (pair : TokenPairConfig) {gasToken : Address} (market : Market pair.tokenIn gasToken)
    (gasPrice : Int) (opportunity : ArbitrageOpportunity) : Prop :=
  (opportunity.estimatedGas.raw * gasPrice * market.nativePrice : ℚ) / 10 ^ 18 <
    (opportunity.expectedAmountOut - opportunity.amountIn - opportunity.flashLoanFee.raw : ℚ) *
      market.tokenPrice / 10 ^ pair.decimalsIn

/-- The scanner asks for the margin and prices gas with the token; its least profit in dollars
is above what the two floors of the exact estimate can lose. -/
structure ScansIn (config : ArbitrageScannerConfig) (chain : SupportedChain) (gasToken : Address)
    (minProfitMarginBps : ℚ) : Prop where
  margin : config.minProfitMarginBps = minProfitMarginBps
  gasToken : config.nativeGasTokenByChain chain = gasToken
  gasDecimals : config.nativeGasTokenDecimalsByChain chain = 18
  threshold : 2 ≤ config.exactUsdMinProfitRaw

/-- Every opportunity that a scan of the pair returns and the evaluation approves, with a
simulator that repeats its input, earns dollars. -/
def ApprovalsProfit (pair : TokenPairConfig) {gasToken : Address}
    (market : Market pair.tokenIn gasToken) (minProfitMarginBps : ℚ) : Prop :=
  ∀ config chain, ScansIn config chain gasToken minProfitMarginBps →
    config.hasExactUsdPriceCache = market.cache.isSome →
      ∀ route gasPrice events opportunity registry,
        Runs (checkSingleDirection config chain route pair gasPrice) events
            (.ok (some opportunity)) →
          (∀ tokens prices, ⟨.batchGetUsdPrices tokens, .ok prices⟩ ∈ events →
            prices ∈ market.cache) →
          isApproved (evaluateOpportunity registry repeating opportunity) = true →
            ProfitsInUsd pair market gasPrice opportunity

/-! ## What an approval has been through -/

/-- The evaluation takes over the chain, what is at risk and the margin. -/
theorem simulationInput_kept {opportunity : ArbitrageOpportunity} {input : ProfitSimulationInput Int}
    (read : simulationInput opportunity = .ok input) :
    input.chain = opportunity.chain ∧ input.minimumMarginBps = opportunity.minimumMarginBps ∧
      input.capitalAtRisk.raw = opportunity.capitalAtRisk.raw := by
  obtain ⟨_, _, read⟩ := (Throwing.bind_eq_ok_iff _ _ _).mp read
  obtain ⟨_, _, read⟩ := (Throwing.bind_eq_ok_iff _ _ _).mp read
  obtain ⟨_, _, read⟩ := (Throwing.bind_eq_ok_iff _ _ _).mp read
  obtain ⟨_, _, read⟩ := (Throwing.bind_eq_ok_iff _ _ _).mp read
  obtain ⟨_, _, read⟩ := (Throwing.bind_eq_ok_iff _ _ _).mp read
  obtain ⟨_, _, read⟩ := (Throwing.bind_eq_ok_iff _ _ _).mp read
  obtain ⟨_, capital, read⟩ := (Throwing.bind_eq_ok_iff _ _ _).mp read
  cases read
  exact ⟨rfl, rfl, (createAssetAmount_ok capital).2⟩

/-- An approval compares what is left of the revenue, after the capital a second time and all
costs, with the margin on the capital. -/
theorem evaluateOpportunity_approved_iff {registry : ChainRegistry}
    {opportunity : ArbitrageOpportunity} (built : Built opportunity) :
    isApproved (evaluateOpportunity registry repeating opportunity) = true ↔
      opportunity.chain ∈ registry.chains ∧
        ∃ bps, wholeBps opportunity.minimumMarginBps = some bps ∧ 0 < opportunity.amountIn ∧
          opportunity.amountIn * bps ≤ max 0 (opportunity.expectedRevenue.raw -
            (opportunity.amountIn + opportunity.costs)) * 10000 := by
  obtain ⟨input, read, inUsd, revenue, outlay⟩ := simulationInput_eq opportunity built.inDollars
  obtain ⟨chain, margin, capital⟩ := simulationInput_kept read
  obtain ⟨net, profit, asset, raw⟩ := calculateDeterministicProfit_eq inUsd
  rw [revenue, outlay, built.capitalAtRisk] at raw
  rw [built.capitalAtRisk] at capital
  have evaluated : evaluateOpportunity registry repeating opportunity =
      evaluate registry repeating input := by
    rw [evaluateOpportunity, read]
    rfl
  have passes (bps : Nat) (whole : wholeBps opportunity.minimumMarginBps = some bps) :
      meetsMargin net input = .ok true ↔ 0 < opportunity.amountIn ∧
        opportunity.amountIn * bps ≤ max 0 (opportunity.expectedRevenue.raw -
          (opportunity.amountIn + opportunity.costs)) * 10000 := by
    rw [meetsMargin_eq_true_iff asset inUsd (by rw [margin, whole]), capital, raw]
  rw [isApproved_iff, evaluated]
  constructor
  · rintro ⟨provider, netProfit, marginBps, approved⟩
    obtain ⟨member, _, ⟨deterministic, again, meets⟩, _⟩ := evaluate_approved_iff.mp approved
    cases profit.symm.trans again
    cases whole : wholeBps opportunity.minimumMarginBps with
    | none =>
      rw [meetsMargin_eq net asset inUsd, margin, whole] at meets
      cases meets
    | some bps => exact ⟨chain ▸ member, bps, rfl, (passes bps whole).mp meets⟩
  · rintro ⟨member, bps, whole, enough⟩
    have meets := (passes bps whole).mpr enough
    exact ⟨input.provider, net, marginOf net input.capitalAtRisk, evaluate_approved_iff.mpr
      ⟨chain ▸ member, rfl, ⟨net, profit, meets⟩, input.revenue, input.gas, input.swapCost, rfl,
        profit, meets, calculateMarginBps_eq (asset.trans inUsd.capitalAtRisk.symm)⟩⟩

/-- What `buildOpportunity` puts into an opportunity. -/
structure Describes (config : ArbitrageScannerConfig) (chain : SupportedChain)
    (pair : TokenPairConfig) (amountIn finalAmountOut gasEstimate : Int)
    (opportunity : ArbitrageOpportunity) : Prop where
  onChain : opportunity.chain = chain
  spends : opportunity.amountIn = amountIn
  returns : opportunity.expectedAmountOut = finalAmountOut
  gas : opportunity.estimatedGas.raw = gasEstimate
  fee : opportunity.flashLoanFee.raw = (amountIn * mathTrunc config.flashFeeBps).tdiv 10000
  margin : opportunity.minimumMarginBps = config.minProfitMarginBps
  asset : pair.symbolIn ≠ "" ∧ pair.decimalsIn ≤ 36

theorem bigIntOf_eq_ok {value : ℚ} {whole : Int} (read : bigIntOf value = .ok whole) :
    whole = mathTrunc value := by
  unfold bigIntOf at read
  split at read
  next integer =>
    cases read
    rw [mathTrunc, integer, Nat.cast_one, Int.tdiv_one]
  next => cases read

theorem tokenAmount_asset {pair : TokenPairConfig} {raw : Int} {amount : TypedAssetAmount Int}
    (built : tokenAmount pair raw = .ok amount) : pair.symbolIn ≠ "" ∧ pair.decimalsIn ≤ 36 := by
  unfold tokenAmount at built
  split at built
  next => cases built
  next =>
    obtain ⟨asset, created, _⟩ := (Throwing.bind_eq_ok_iff _ _ _).mp built
    unfold createAsset at created
    split at created
    next valid => exact valid
    next => cases created

theorem buildOpportunity_describes {config : ArbitrageScannerConfig} {chain : SupportedChain}
    {route : Route} {pair : TokenPairConfig} {amountIn intermediate finalAmountOut gasEstimate : Int}
    {identifier : OpportunityId} {opportunity : ArbitrageOpportunity}
    (built : buildOpportunity config chain route pair amountIn intermediate finalAmountOut gasEstimate
      identifier = .ok opportunity) :
    Describes config chain pair amountIn finalAmountOut gasEstimate opportunity := by
  obtain ⟨_, revenue, built⟩ := (Throwing.bind_eq_ok_iff _ _ _).mp built
  obtain ⟨_, gas, built⟩ := (Throwing.bind_eq_ok_iff _ _ _).mp built
  obtain ⟨_, feeBps, built⟩ := (Throwing.bind_eq_ok_iff _ _ _).mp built
  obtain ⟨_, fee, built⟩ := (Throwing.bind_eq_ok_iff _ _ _).mp built
  obtain ⟨_, _, built⟩ := (Throwing.bind_eq_ok_iff _ _ _).mp built
  obtain ⟨_, _, built⟩ := (Throwing.bind_eq_ok_iff _ _ _).mp built
  obtain ⟨_, _, built⟩ := (Throwing.bind_eq_ok_iff _ _ _).mp built
  obtain ⟨_, _, built⟩ := (Throwing.bind_eq_ok_iff _ _ _).mp built
  cases built
  refine ⟨rfl, rfl, rfl, (createAssetAmount_ok (ofAsset_ok gas)).2, ?_, rfl, tokenAmount_asset revenue⟩
  rw [tokenAmount_raw fee, bigIntOf_eq_ok feeBps]

/-! ## Where the checks are enough -/

section Market

variable {pair : TokenPairConfig} {gasToken : Address} (market : Market pair.tokenIn gasToken)

/-- The comparison in dollars, without fractions. -/
theorem profitsInUsd_iff {gasPrice : Int} {opportunity : ArbitrageOpportunity} :
    ProfitsInUsd pair market gasPrice opportunity ↔
      opportunity.estimatedGas.raw * gasPrice * market.nativePrice * 10 ^ pair.decimalsIn <
        (opportunity.expectedAmountOut - opportunity.amountIn - opportunity.flashLoanFee.raw) *
          market.tokenPrice * 10 ^ 18 := by
  rw [ProfitsInUsd, div_lt_div_iff₀ (by positivity) (by positivity)]
  exact_mod_cast Iff.rfl

/-- A wei of gas counted as a raw unit of the token is too much for the gas. -/
def GasOvercharged : Prop :=
  market.nativePrice * 10 ^ pair.decimalsIn < market.tokenPrice * 10 ^ 18

variable {market}

/-- What is left for gas in the pre-check: the fee is paid, and the slippage is not negative. -/
theorem spentOf_le {input : FlashLoanArbitrageInput} (nonneg : Nonnegative input) :
    input.amountIn + (input.amountIn * mathTrunc input.flashFeeBps).tdiv 10000 ≤ spentOf input := by
  have slippage : 0 ≤ mathTrunc input.slippageBps :=
    Int.tdiv_nonneg (Rat.num_nonneg.mpr nonneg.slippageBps) (Int.natCast_nonneg _)
  have buffer : 0 ≤ (input.amountOutFinal * mathTrunc input.slippageBps).tdiv 10000 :=
    Int.tdiv_nonneg (mul_nonneg nonneg.amountOutFinal slippage) (by decide)
  rw [spentOf]
  omega

/-- A raw unit worth more than a wei of gas turns what pays the gas raw into a profit. -/
theorem profits_of_overcharged {gas left : Int} (overcharged : GasOvercharged market)
    (pays : gas ≤ left) (gains : 0 < left) :
    gas * market.nativePrice * 10 ^ pair.decimalsIn < left * market.tokenPrice * 10 ^ 18 := by
  have unit : 0 ≤ market.nativePrice * 10 ^ pair.decimalsIn :=
    mul_nonneg market.nativePriced.le (by positivity)
  calc gas * market.nativePrice * 10 ^ pair.decimalsIn
      = gas * (market.nativePrice * 10 ^ pair.decimalsIn) := mul_assoc _ _ _
    _ ≤ left * (market.nativePrice * 10 ^ pair.decimalsIn) := mul_le_mul_of_nonneg_right pays unit
    _ < left * (market.tokenPrice * 10 ^ 18) := mul_lt_mul_of_pos_left overcharged gains
    _ = left * market.tokenPrice * 10 ^ 18 := (mul_assoc _ _ _).symm

theorem tokenAmountToUsdRaw_eq {amount price : Int} (amountNonneg : 0 ≤ amount)
    (priceNonneg : 0 ≤ price) (decimals : Nat) :
    tokenAmountToUsdRaw amount decimals price = amount * price / 10 ^ decimals :=
  Int.tdiv_eq_ediv_of_nonneg (mul_nonneg amountNonneg priceNonneg)

/-- The floors of the exact estimate take less than two units from its profit. -/
theorem profits_of_floors {returned spent gas : Int} {decimals : Nat} {tokenPrice nativePrice : Int}
    (enough : 2 ≤ returned * tokenPrice / 10 ^ decimals -
      (spent * tokenPrice / 10 ^ decimals + gas * nativePrice / 10 ^ 18)) :
    gas * nativePrice * 10 ^ decimals < (returned - spent) * tokenPrice * 10 ^ 18 := by
  have unit : (0 : Int) < 10 ^ decimals := by positivity
  have revenue := Int.ediv_mul_le (returned * tokenPrice) unit.ne'
  have cost := Int.lt_ediv_add_one_mul_self (spent * tokenPrice) unit
  have fuel := Int.lt_ediv_add_one_mul_self (gas * nativePrice) (show (0 : Int) < 10 ^ 18 by decide)
  have scaled := mul_le_mul_of_nonneg_right enough (show (0 : Int) ≤ 10 ^ decimals * 10 ^ 18 by
    positivity)
  have revenueScaled := mul_le_mul_of_nonneg_right revenue (show (0 : Int) ≤ 10 ^ 18 by decide)
  have costScaled := mul_lt_mul_of_pos_right cost (show (0 : Int) < 10 ^ 18 by decide)
  have fuelScaled := mul_lt_mul_of_pos_right fuel unit
  linarith

/-- A cache that knows both prices answers the market's. -/
theorem Market.Known.prices (known : market.Known) :
    ∃ prices ∈ market.cache, prices.get? pair.tokenIn = some market.tokenPrice ∧
      prices.get? gasToken = some market.nativePrice := by
  obtain ⟨prices, answered, token, native⟩ := known
  have tokenPrice := market.token prices answered token
  have nativePrice := market.native prices answered native
  have tokenPriced := market.tokenPriced
  have nativePriced := market.nativePriced
  refine ⟨prices, answered, ?_, ?_⟩
  · cases found : prices.get? pair.tokenIn with
    | none =>
      rw [found, Option.getD_none] at tokenPrice
      omega
    | some price => rw [← tokenPrice, found, Option.getD_some]
  · cases found : prices.get? gasToken with
    | none =>
      rw [found, Option.getD_none] at nativePrice
      omega
    | some price => rw [← nativePrice, found, Option.getD_some]

variable {config : ArbitrageScannerConfig} {chain : SupportedChain}
  {gasPrice amountIn finalAmountOut gasEstimate : Int} {minProfitMarginBps : ℚ}
  {events : List ScannerEvent}

/-- Where both prices are known, what the exact estimate lets pass earns dollars. -/
theorem profits_of_exact (known : market.Known)
    (scans : ScansIn config chain gasToken minProfitMarginBps)
    (cached : config.hasExactUsdPriceCache = market.cache.isSome)
    (answers : ∀ tokens prices, ⟨.batchGetUsdPrices tokens, .ok prices⟩ ∈ events →
      prices ∈ market.cache)
    (run : Runs (belowExactUsd config (evInput config chain pair amountIn finalAmountOut gasEstimate
      gasPrice)) events (.ok false)) :
    gasEstimate * gasPrice * market.nativePrice * 10 ^ pair.decimalsIn <
      (finalAmountOut - amountIn - (amountIn * mathTrunc config.flashFeeBps).tdiv 10000) *
        market.tokenPrice * 10 ^ 18 := by
  obtain ⟨prices, among, token, native⟩ := known.prices
  rw [Option.mem_def] at among
  rw [among, Option.isSome_some] at cached
  simp only [belowExactUsd, cached, Bool.not_true, Bool.false_eq_true, if_false] at run
  obtain ⟨⟨⟩, _, asking, rfl, checked, asks⟩ := runs_bind_ok.mp run
  obtain ⟨rfl, asserted⟩ := runs_orThrow.mp checked
  obtain ⟨fetched, _, judging, rfl, asked, judges⟩ := runs_bind_ok.mp asks
  obtain ⟨answer, rest, rfl, received⟩ := runs_call.mp asked
  obtain ⟨rfl, returned⟩ : rest = [] ∧ answer = .ok fetched := by
    cases answer with
    | error error => cases (runs_throw.mp received).2
    | ok value =>
      obtain ⟨rfl, same⟩ := runs_pure.mp received
      cases same
      exact ⟨rfl, rfl⟩
  subst returned
  obtain rfl : prices = fetched :=
    Option.some.inj (among.symm.trans (answers _ fetched (List.mem_cons_self)))
  obtain ⟨exact, _, _, rfl, estimated, decided⟩ := runs_bind_ok.mp judges
  obtain ⟨rfl, computed⟩ := runs_orThrow.mp estimated
  obtain ⟨_, passed⟩ := runs_pure.mp decided
  have both : 0 < market.tokenPrice ∧ 0 < market.nativePrice :=
    ⟨market.tokenPriced, market.nativePriced⟩
  have exactly : calculateExactUsdEV (evInput config chain pair amountIn finalAmountOut gasEstimate
      gasPrice) prices = .ok exact := by
    rw [calculateExactUsdEV, ← asserted]
    exact computed.symm
  have native : prices.get? (config.nativeGasTokenByChain chain) = some market.nativePrice := by
    rw [scans.gasToken]
    exact native
  obtain ⟨nonneg, net, profitable⟩ := calculateExactUsdEV_eq_ok token native both exactly
  obtain ⟨other, again, available⟩ := exists_exactUsdEV token native both nonneg
    ((show (0 : Int) ≤ 2 by decide).trans scans.threshold)
  cases exactly.symm.trans again
  have profits : exact.isProfitable = true := by
    simpa [available] using passed
  have enough := scans.threshold.trans (profitable.mp profits)
  have gas := mul_nonneg nonneg.gasEstimate nonneg.gasPrice
  have gasDecimals : (evInput config chain pair amountIn finalAmountOut gasEstimate
      gasPrice).nativeGasTokenDecimals = 18 := scans.gasDecimals
  rw [net, tokenAmountToUsdRaw_eq nonneg.amountOutFinal both.1.le,
    tokenAmountToUsdRaw_eq (spentOf_nonneg nonneg) both.1.le, tokenAmountToUsdRaw_eq gas both.2.le,
    gasDecimals] at enough
  refine (profits_of_floors enough).trans_le ?_
  apply mul_le_mul_of_nonneg_right _ (by decide)
  apply mul_le_mul_of_nonneg_right _ both.1.le
  rw [sub_sub]
  exact sub_le_sub_left (spentOf_le nonneg) _

/-- What the pre-check lets pass pays the gas, a wei for a raw unit. -/
theorem pays_of_precheck {input : FlashLoanArbitrageInput} {ev : FlashLoanArbitrageEV}
    (precheck : calculateFlashLoanArbitrageEV input = .ok ev) (profits : ev.isProfitable = true) :
    input.gasEstimate * input.gasPrice ≤ input.amountOutFinal - input.amountIn -
      (input.amountIn * mathTrunc input.flashFeeBps).tdiv 10000 := by
  obtain ⟨nonneg, _, _, raw, decided⟩ := calculateFlashLoanArbitrageEV_eq_ok precheck
  have enough := nonneg.minProfitThreshold.trans (decided.mp profits)
  have spent := spentOf_le nonneg
  rw [raw] at enough
  omega

/-- With a margin, an approval leaves something above capital and fee. -/
theorem gains_of_margin {registry : ChainRegistry} {opportunity : ArbitrageOpportunity}
    (built : Built opportunity) (margin : 0 < opportunity.minimumMarginBps)
    (approved : isApproved (evaluateOpportunity registry repeating opportunity) = true) :
    0 < opportunity.expectedAmountOut - opportunity.amountIn - opportunity.flashLoanFee.raw := by
  obtain ⟨_, bps, whole, capital, enough⟩ := (evaluateOpportunity_approved_iff built).mp approved
  have asked : bps ≠ 0 := by
    rintro rfl
    exact margin.ne' ((wholeBps_eq_zero_iff _).mp whole)
  have required : 0 < opportunity.amountIn * bps := mul_pos capital (by omega)
  have gas := opportunity.estimatedGas.nonneg
  have slippage := opportunity.slippageBuffer.nonneg
  have safety := opportunity.safetyBuffer.nonneg
  rw [built.revenue, ArbitrageOpportunity.costs] at enough
  omega

/-- No opportunity of the pair is built, or none is approved: the token has no name or too many
decimals, or the margin is no whole number. -/
def NeverApproved (pair : TokenPairConfig) (minProfitMarginBps : ℚ) : Prop :=
  pair.symbolIn = "" ∨ 36 < pair.decimalsIn ∨ wholeBps minProfitMarginBps = none

/-- Both prices are known, or a raw unit of the token is worth more than a wei of gas and a
margin is asked for; or nothing is approved. -/
def ApprovalsCovered (market : Market pair.tokenIn gasToken) (minProfitMarginBps : ℚ) : Prop :=
  NeverApproved pair minProfitMarginBps ∨ market.Known ∨
    (0 < minProfitMarginBps ∧ GasOvercharged market)

theorem approvalsProfit_of_covered (covered : ApprovalsCovered market minProfitMarginBps) :
    ApprovalsProfit pair market minProfitMarginBps := by
  intro config chain scans cached route gasPrice events opportunity registry run answers approved
  obtain ⟨scan, turns, rfl, best⟩ := runs_checkSingleDirection.mp run
  obtain ⟨_, first⟩ := (scan.best_eq_some_iff opportunity).mp (Except.ok.inj best).symm
  obtain ⟨turn, member, _, intermediate, finalAmountOut, gasEstimate, now, passed, built⟩ :=
    turns.found first.mem
  have facts := buildOpportunity_built passed.gains built
  have describes := buildOpportunity_describes built
  rw [profitsInUsd_iff, describes.gas, describes.returns, describes.spends, describes.fee]
  rcases covered with (unnamed | many | fraction) | known | ⟨margin, overcharged⟩
  · exact absurd unnamed describes.asset.1
  · exact absurd describes.asset.2 (not_le.mpr many)
  · obtain ⟨_, bps, whole, _⟩ := (evaluateOpportunity_approved_iff facts).mp approved
    rw [describes.margin, scans.margin, fraction] at whole
    cases whole
  · obtain ⟨checks, among, exact⟩ := passed.exactCheck
    refine profits_of_exact known scans cached (fun tokens prices asked => ?_) exact
    apply answers tokens prices
    exact List.mem_append_left _ (List.mem_flatMap.mpr ⟨turn, member, among asked⟩)
  · obtain ⟨ev, precheck, profits⟩ := passed.precheck
    have gains := gains_of_margin facts (by rw [describes.margin, scans.margin]; exact margin) approved
    rw [describes.returns, describes.spends, describes.fee] at gains
    exact profits_of_overcharged overcharged (pays_of_precheck precheck profits) gains

/-! ## A scan with one probe that counts -/

/-- The quotes of the probe, the checks and the storing of its signature, one after the other. -/
def countingEvents (chain : SupportedChain) (route : Route) (pair : TokenPairConfig)
    (amountIn intermediate finalAmountOut : Int) (checks : List ScannerEvent) (now : Int) :
    List ScannerEvent :=
  ⟨.quoteAmountOut route.buyDex pair.tokenIn pair.tokenOut amountIn, .ok intermediate⟩ ::
    ⟨.quoteAmountOut route.sellDex pair.tokenOut pair.tokenIn intermediate, .ok finalAmountOut⟩ ::
      (checks ++ [⟨.dedupe (signatureOf chain route pair amountIn), some now⟩])

variable {route : Route} {intermediate now : Int} {opportunity : ArbitrageOpportunity}

theorem runs_quoteAmountOut {dex : DexConfig} {tokenIn tokenOut : Address} {amount quoted : Int} :
    Runs (quoteAmountOut dex tokenIn tokenOut amount)
      [⟨.quoteAmountOut dex tokenIn tokenOut amount, .ok quoted⟩] (.ok quoted) := by
  unfold quoteAmountOut
  exact runs_call.mpr ⟨.ok quoted, [], rfl, .pure quoted⟩

/-- Without a receiver nothing is simulated, and the estimate of the gas is the configured one. -/
theorem runs_probe {ev : FlashLoanArbitrageEV} (alone : config.flashLoanReceiverAddress = none)
    (estimated : 0 < config.flashLoanGasEstimate) (gains : amountIn < finalAmountOut)
    (precheck : calculateFlashLoanArbitrageEV (evInput config chain pair amountIn finalAmountOut
      config.flashLoanGasEstimate gasPrice).toFlashLoanArbitrageInput = .ok ev)
    (profits : ev.isProfitable = true)
    (exact : Runs (belowExactUsd config (evInput config chain pair amountIn finalAmountOut
      config.flashLoanGasEstimate gasPrice)) events (.ok false))
    (built : buildOpportunity config chain route pair amountIn intermediate finalAmountOut
      config.flashLoanGasEstimate (config.identifier (signatureOf chain route pair amountIn) now) =
        .ok opportunity) :
    Runs (probe config chain route pair gasPrice amountIn)
      (countingEvents chain route pair amountIn intermediate finalAmountOut events now)
      (.ok (some opportunity)) := by
  have quotes : Runs (quoteRoundTrip route pair amountIn)
      [⟨.quoteAmountOut route.buyDex pair.tokenIn pair.tokenOut amountIn, .ok intermediate⟩,
        ⟨.quoteAmountOut route.sellDex pair.tokenOut pair.tokenIn intermediate, .ok finalAmountOut⟩]
      (.ok (intermediate, finalAmountOut)) :=
    runs_bind_ok.mpr ⟨intermediate, _, _, rfl, runs_quoteAmountOut,
      runs_bind_ok.mpr ⟨finalAmountOut, _, [], rfl, runs_quoteAmountOut, .pure _⟩⟩
  have simulated : Runs (simulateCandidatePath config chain route pair amountIn intermediate
      finalAmountOut gasPrice) [] (.ok (some config.flashLoanGasEstimate)) := by
    simp only [simulateCandidatePath, alone]
    exact .pure _
  refine runs_bind_ok.mpr ⟨.ok (intermediate, finalAmountOut), _, _, rfl,
    runs_attempt.mpr ⟨_, quotes, rfl⟩, ?_⟩
  simp only [not_le.mpr gains, if_false]
  refine runs_bind_ok.mpr ⟨some config.flashLoanGasEstimate, [], _, rfl, simulated, ?_⟩
  simp only [estimated, if_true]
  refine runs_bind_ok.mpr ⟨ev, [], _, rfl, runs_orThrow.mpr ⟨rfl, precheck.symm⟩, ?_⟩
  simp only [profits, Bool.not_true, Bool.false_eq_true, if_false]
  refine runs_bind_ok.mpr ⟨false, events, _, rfl, exact, ?_⟩
  refine runs_bind_ok.mpr ⟨some now, _, [], rfl, runs_call.mpr ⟨some now, [], rfl, .pure _⟩, ?_⟩
  exact runs_bind_ok.mpr ⟨opportunity, [], [], rfl, runs_orThrow.mpr ⟨rfl, built.symm⟩, .pure _⟩

theorem assertExactUsdInput_eq_ok {input : ExactUsdEVInput} (nonneg : 0 ≤ input.amountIn ∧
    0 ≤ input.amountOutFinal ∧ 0 ≤ input.minProfitUsdRaw) : assertExactUsdInput input = .ok () := by
  rw [assertExactUsdInput, assertNonNegativeBigint_eq_ok.mpr nonneg.1,
    assertNonNegativeBigint_eq_ok.mpr nonneg.2.1]
  exact assertNonNegativeBigint_eq_ok.mpr nonneg.2.2

/-- Where a price is not known, the exact estimate lets everything pass. -/
theorem runs_belowExactUsd_unknown (unknown : ¬ market.Known)
    (cached : config.hasExactUsdPriceCache = market.cache.isSome)
    (priced : config.nativeGasTokenByChain chain = gasToken)
    (nonneg : 0 ≤ amountIn ∧ 0 ≤ finalAmountOut ∧ 0 ≤ config.exactUsdMinProfitRaw) :
    ∃ checks, Runs (belowExactUsd config (evInput config chain pair amountIn finalAmountOut
        gasEstimate gasPrice)) checks (.ok false) ∧
      ∀ event ∈ checks, ∃ tokens prices, event = ⟨.batchGetUsdPrices tokens, .ok prices⟩ ∧
        prices ∈ market.cache := by
  cases known : market.cache with
  | none =>
    rw [known, Option.isSome_none] at cached
    refine ⟨[], ?_, by simp⟩
    simp only [belowExactUsd, cached]
    exact .pure _
  | some prices =>
    rw [known, Option.isSome_some] at cached
    have asserted : assertExactUsdInput (evInput config chain pair amountIn finalAmountOut gasEstimate
        gasPrice) = .ok () := assertExactUsdInput_eq_ok nonneg
    have unavailable : exactUsdEV (evInput config chain pair amountIn finalAmountOut gasEstimate
        gasPrice) prices = .ok ⟨0, 0, 0, false, false⟩ := by
      have missing : (prices.get? pair.tokenIn).getD 0 ≤ 0 ∨ (prices.get? gasToken).getD 0 ≤ 0 := by
        by_contra both
        rw [not_or, not_le, not_le] at both
        exact unknown ⟨prices, known, both⟩
      rw [← priced] at missing
      exact if_pos missing
    refine ⟨[⟨.batchGetUsdPrices [pair.tokenIn, config.nativeGasTokenByChain chain], .ok prices⟩], ?_,
      by simp⟩
    simp only [belowExactUsd, cached, Bool.not_true, Bool.false_eq_true, if_false]
    refine runs_bind_ok.mpr ⟨(), [], _, rfl, runs_orThrow.mpr ⟨rfl, asserted.symm⟩, ?_⟩
    refine runs_bind_ok.mpr ⟨prices, _, [], rfl,
      runs_call.mpr ⟨.ok prices, [], rfl, .pure prices⟩, ?_⟩
    exact runs_bind_ok.mpr ⟨_, [], [], rfl, runs_orThrow.mpr ⟨rfl, unavailable.symm⟩, .pure _⟩

theorem tokenAmount_eq (named : pair.symbolIn ≠ "" ∧ pair.decimalsIn ≤ 36) {raw : Int}
    (nonneg : 0 ≤ raw) : tokenAmount pair raw =
      .ok ⟨⟨pair.symbolIn, pair.decimalsIn, named.1, named.2⟩, raw, nonneg⟩ := by
  simp [tokenAmount, createAsset, createAssetAmount, ofAsset, named, nonneg, not_lt.mpr nonneg,
    Bind.bind, Except.bind]

/-- An opportunity of a named token is built of amounts that are not negative. -/
theorem exists_buildOpportunity (named : pair.symbolIn ≠ "" ∧ pair.decimalsIn ≤ 36)
    {feeBps : Nat} (fee : config.flashFeeBps = feeBps) (slippage : config.arbitrageSlippageBps = 0)
    (spends : 0 ≤ amountIn) (gains : amountIn < finalAmountOut) (gas : 0 ≤ gasEstimate)
    (intermediate : Int) (identifier : OpportunityId) :
    ∃ opportunity, buildOpportunity config chain route pair amountIn intermediate finalAmountOut
        gasEstimate identifier = .ok opportunity ∧
      opportunity.costs = gasEstimate + (amountIn * feeBps).tdiv 10000 +
        ((finalAmountOut - amountIn) * 50).tdiv 10000 := by
  have revenue : 0 ≤ finalAmountOut - amountIn := (sub_pos.mpr gains).le
  have feeWhole : bigIntOf config.flashFeeBps = .ok (feeBps : Int) := by
    rw [fee]
    exact if_pos rfl
  have slippageWhole : bigIntOf config.arbitrageSlippageBps = .ok 0 := by
    rw [slippage]
    rfl
  have gasAmount : ofAsset (createAssetAmount usd gasEstimate) = .ok ⟨usd, gasEstimate, gas⟩ := by
    rw [createAssetAmount, dif_pos gas]
    rfl
  have feeNonneg : 0 ≤ (amountIn * feeBps).tdiv 10000 :=
    Int.tdiv_nonneg (mul_nonneg spends (Int.natCast_nonneg _)) (by decide)
  have slippageNonneg : 0 ≤ ((finalAmountOut - amountIn) * 0).tdiv 10000 := by simp
  have safetyNonneg : 0 ≤ ((finalAmountOut - amountIn) * 50).tdiv 10000 :=
    Int.tdiv_nonneg (mul_nonneg revenue (by decide)) (by decide)
  simp only [buildOpportunity, tokenAmount_eq named revenue, gasAmount, feeWhole, slippageWhole,
    tokenAmount_eq named feeNonneg, tokenAmount_eq named slippageNonneg,
    tokenAmount_eq named safetyNonneg, tokenAmount_eq named spends, Bind.bind, Except.bind]
  refine ⟨_, rfl, ?_⟩
  simp [ArbitrageOpportunity.costs]

/-- A probe whose quotes fail. -/
def failingTurn (route : Route) (pair : TokenPairConfig) (error : Thrown) (amountIn : Int) :
    Turn ScannerOp ScannerOp.Answer Int (Option ArbitrageOpportunity) :=
  ⟨amountIn, [⟨.quoteAmountOut route.buyDex pair.tokenIn pair.tokenOut amountIn, .error error⟩], none⟩

theorem failingTurn_ran (error : Thrown) (amountIn : Int) :
    (failingTurn route pair error amountIn).Ran (probe config chain route pair gasPrice) := by
  have quotes : Runs (quoteRoundTrip route pair amountIn)
      [⟨.quoteAmountOut route.buyDex pair.tokenIn pair.tokenOut amountIn, .error error⟩]
      (.error (.thrown error)) :=
    runs_bind.mpr (Or.inl ⟨.thrown error, runs_call.mpr ⟨.error error, [], rfl, .throw _⟩, rfl⟩)
  exact runs_bind_ok.mpr ⟨.error (.thrown error), _, [], rfl,
    runs_attempt.mpr ⟨_, quotes, rfl⟩, .pure none⟩

/-- Of each amount a turn that asks for no further prices: the one that finds the opportunity,
or one whose quotes fail. -/
theorem exists_turn (error : Thrown)
    (run : Runs (probe config chain route pair gasPrice amountIn) events (.ok (some opportunity)))
    (amount : Int) :
    ∃ turn : Turn ScannerOp ScannerOp.Answer Int (Option ArbitrageOpportunity),
      turn.item = amount ∧ turn.Ran (probe config chain route pair gasPrice) ∧
        (amount = amountIn → turn.outcome = some opportunity) ∧
        (∀ found ∈ turn.outcome, found = opportunity) ∧
        ∀ tokens prices, ⟨.batchGetUsdPrices tokens, .ok prices⟩ ∈ turn.events →
          ⟨.batchGetUsdPrices tokens, .ok prices⟩ ∈ events := by
  by_cases same : amount = amountIn
  · subst same
    exact ⟨⟨amount, events, some opportunity⟩, rfl, run, fun _ => rfl,
      fun found member => (Option.some.inj member).symm, fun _ _ member => member⟩
  · refine ⟨failingTurn route pair error amount, rfl, failingTurn_ran error amount,
      fun equal => absurd equal same, fun found member => (by cases member), ?_⟩
    intro tokens prices member
    simp [failingTurn] at member

/-- A probe that finds an opportunity while the quotes of the others fail decides the scan. -/
theorem exists_scan (error : Thrown) (probed : amountIn ∈ probeAmountsIn config chain pair true)
    (run : Runs (probe config chain route pair gasPrice amountIn) events (.ok (some opportunity))) :
    ∃ scanned, Runs (checkSingleDirection config chain route pair gasPrice) scanned
        (.ok (some opportunity)) ∧
      ∀ tokens prices, ⟨.batchGetUsdPrices tokens, .ok prices⟩ ∈ scanned →
        ⟨.batchGetUsdPrices tokens, .ok prices⟩ ∈ events := by
  choose turn item ran counts only asked using exists_turn error run
  let scan : DirectionScan := ⟨(probeAmountsIn config chain pair true).map turn, none⟩
  have items : scan.turns.map Turn.item = probeAmountsIn config chain pair true := by
    rw [List.map_map]
    exact (List.map_congr_left (fun amount _ => item amount)).trans (List.map_id _)
  have scans : scan.Scans config chain route pair gasPrice := by
    refine ⟨?_, items⟩
    intro made member
    obtain ⟨amount, _, rfl⟩ := List.mem_map.mp member
    exact ran amount
  have candidates : ∀ found, found ∈ scan.candidates → found = opportunity := by
    intro found member
    obtain ⟨_, made, outcome⟩ := List.mem_filterMap.mp member
    obtain ⟨amount, _, rfl⟩ := List.mem_map.mp made
    exact only amount found outcome
  have present : opportunity ∈ scan.candidates :=
    List.mem_filterMap.mpr ⟨turn amountIn, List.mem_map.mpr ⟨amountIn, probed, rfl⟩,
      counts amountIn rfl⟩
  have best : scan.best = some opportunity := by
    rw [← foldl_keepGreater_of_only revenueOf present candidates, ← foldl_better]
    rfl
  refine ⟨scan.events, runs_checkSingleDirection.mpr ⟨scan, scans, rfl, by rw [best]⟩, ?_⟩
  intro tokens prices member
  rcases List.mem_append.mp member with among | thrown
  · obtain ⟨_, made, event⟩ := List.mem_flatMap.mp among
    obtain ⟨amount, _, rfl⟩ := List.mem_map.mp made
    exact asked amount tokens prices event
  · cases thrown

/-! ## Where they are not enough -/

/-- A scanner that asks for nothing but the margin and probes one unit of the token. -/
def probingScanner (market : Market pair.tokenIn gasToken) (minProfitMarginBps : ℚ) (feeBps : Nat) :
    ArbitrageScannerConfig :=
  { defaultScanner with
    minProfitMarginBps := minProfitMarginBps
    stablePairProbeSize := 1
    volatilePairProbeSize := 1
    baseStableProbeSizes := [1]
    flashLoanGasEstimate := 1
    flashFeeBps := feeBps
    baseMinProfitThreshold := 0
    arbitrageSlippageBps := 0
    nativeGasTokenByChain := fun _ => gasToken
    hasExactUsdPriceCache := market.cache.isSome }

theorem unit_probed (market : Market pair.tokenIn gasToken) (minProfitMarginBps : ℚ) (feeBps : Nat) :
    parseUnits 1 pair.decimalsIn ∈
      probeAmountsIn (probingScanner market minProfitMarginBps feeBps) .base pair true := by
  cases stable : isStablePair pair with
  | true => simp [probeAmountsIn, stable, probingScanner]
  | false => simp [probeAmountsIn, probeAmountIn, stable, probingScanner]

/-- The pre-check of that scanner compares with the gas alone. -/
theorem precheck_probing (market : Market pair.tokenIn gasToken) (minProfitMarginBps : ℚ)
    (feeBps : Nat) {unit paid : Int} (least : 0 ≤ unit) (gains : unit < paid)
    (priced : 0 ≤ gasPrice) (pays : gasPrice ≤ paid - unit - (unit * feeBps).tdiv 10000) :
    ∃ ev, calculateFlashLoanArbitrageEV (evInput (probingScanner market minProfitMarginBps feeBps)
        .base pair unit paid 1 gasPrice).toFlashLoanArbitrageInput = .ok ev ∧
      ev.isProfitable = true := by
  have threshold : minProfitThresholdForPair (probingScanner market minProfitMarginBps feeBps) .base
      pair = 0 := by
    simp [minProfitThresholdForPair, probingScanner]
  have nonneg : Nonnegative (evInput (probingScanner market minProfitMarginBps feeBps)
      .base pair unit paid 1 gasPrice).toFlashLoanArbitrageInput :=
    ⟨least, (least.trans_lt gains).le, Int.one_nonneg, priced, threshold.ge, Nat.cast_nonneg _,
      le_refl (0 : ℚ)⟩
  obtain ⟨ev, precheck⟩ := exists_flashLoanArbitrageEV nonneg
  obtain ⟨_, _, _, raw, decided⟩ := calculateFlashLoanArbitrageEV_eq_ok precheck
  refine ⟨ev, precheck, decided.mpr ?_⟩
  have whole : mathTrunc (feeBps : ℚ) = feeBps := by simp [mathTrunc]
  have free : mathTrunc 0 = 0 := rfl
  rw [raw]
  simp only [evInput, probingScanner, spentOf, whole, free, mul_zero, Int.zero_tdiv, one_mul] at *
  omega

/-- What a profit of every approval would say of one unit that comes back as `paid`. -/
theorem profits_of_claim {bps feeBps : Nat} {paid : Int}
    (claim : ApprovalsProfit pair market minProfitMarginBps)
    (named : pair.symbolIn ≠ "" ∧ pair.decimalsIn ≤ 36)
    (whole : wholeBps minProfitMarginBps = some bps) (unknown : ¬ market.Known)
    (gains : parseUnits 1 pair.decimalsIn < paid) (priced : 0 ≤ gasPrice)
    (pays : gasPrice ≤
      paid - parseUnits 1 pair.decimalsIn - (parseUnits 1 pair.decimalsIn * feeBps).tdiv 10000)
    (enough : parseUnits 1 pair.decimalsIn * bps ≤ max 0 (paid - parseUnits 1 pair.decimalsIn -
      (parseUnits 1 pair.decimalsIn + (1 + (parseUnits 1 pair.decimalsIn * feeBps).tdiv 10000 +
        ((paid - parseUnits 1 pair.decimalsIn) * 50).tdiv 10000))) * 10000) :
    gasPrice * market.nativePrice * 10 ^ pair.decimalsIn <
      (paid - parseUnits 1 pair.decimalsIn - (parseUnits 1 pair.decimalsIn * feeBps).tdiv 10000) *
        market.tokenPrice * 10 ^ 18 := by
  let config := probingScanner market minProfitMarginBps feeBps
  have unit : 0 < parseUnits 1 pair.decimalsIn := by
    rw [parseUnits, one_mul]
    positivity
  obtain ⟨ev, precheck, profits⟩ := precheck_probing market minProfitMarginBps feeBps unit.le gains
    priced pays
  have cached : config.hasExactUsdPriceCache = market.cache.isSome := rfl
  have charged : config.flashFeeBps = feeBps := rfl
  have slippage : config.arbitrageSlippageBps = 0 := rfl
  have estimated : 0 < config.flashLoanGasEstimate := show (0 : Int) < 1 by decide
  have threshold : 2 ≤ config.exactUsdMinProfitRaw := show (2 : Int) ≤ 15000000 by decide
  obtain ⟨checks, exact, asked⟩ := runs_belowExactUsd_unknown unknown cached rfl
    ⟨unit.le, (unit.trans gains).le, (show (0 : Int) ≤ 2 by decide).trans threshold⟩
  obtain ⟨opportunity, built, costs⟩ := exists_buildOpportunity named charged slippage unit.le gains
    estimated.le 0 (config.identifier (signatureOf .base dollarRoute pair
      (parseUnits 1 pair.decimalsIn)) 0)
  have run := runs_probe rfl estimated gains precheck profits exact built
  obtain ⟨scanned, scans, prices⟩ := exists_scan ⟨false⟩ (unit_probed market minProfitMarginBps feeBps)
    run
  have facts := buildOpportunity_built gains built
  have describes := buildOpportunity_describes built
  have approved : isApproved (evaluateOpportunity baseRegistry repeating opportunity) = true := by
    rw [evaluateOpportunity_approved_iff facts, facts.revenue, describes.returns, describes.spends,
      describes.onChain, describes.margin, costs]
    exact ⟨by decide, bps, whole, unit, enough⟩
  have profit : ProfitsInUsd pair market gasPrice opportunity := by
    refine claim config .base ⟨rfl, rfl, rfl, threshold⟩ cached dollarRoute gasPrice scanned
      opportunity baseRegistry scans (fun tokens known member => ?_) approved
    have among := prices tokens known member
    simp only [countingEvents, List.mem_cons, List.mem_append, Sigma.mk.injEq, reduceCtorEq, false_and,
      List.not_mem_nil, or_false, false_or] at among
    obtain ⟨_, _, same, answered⟩ := asked _ among
    cases same
    exact answered
  rw [profitsInUsd_iff, describes.gas, describes.returns, describes.spends, describes.fee] at profit
  have whole : mathTrunc config.flashFeeBps = feeBps := by simp [charged, mathTrunc]
  rwa [whole, show config.flashLoanGasEstimate = 1 from rfl, one_mul] at profit

/-- One unit that comes back with just the gas, or without any. -/
theorem covered_of_approvalsProfit (claim : ApprovalsProfit pair market minProfitMarginBps) :
    ApprovalsCovered market minProfitMarginBps := by
  by_contra uncovered
  simp only [ApprovalsCovered, NeverApproved, not_or, not_lt] at uncovered
  obtain ⟨⟨symbol, decimals, margin⟩, unknown, short⟩ := uncovered
  obtain ⟨bps, whole⟩ := Option.ne_none_iff_exists'.mp margin
  have unit : 0 < parseUnits 1 pair.decimalsIn := by
    rw [parseUnits, one_mul]
    positivity
  obtain ⟨amount, known⟩ : ∃ amount, amount = parseUnits 1 pair.decimalsIn := ⟨_, rfl⟩
  have profits := fun {feeBps : Nat} {gasPrice paid : Int} =>
    @profits_of_claim pair gasToken market gasPrice minProfitMarginBps bps feeBps paid claim
      ⟨symbol, decimals⟩ whole unknown
  rw [← known] at unit profits
  by_cases overcharged : GasOvercharged market
  · -- without a margin, a fee of the whole gain leaves nothing
    have free : bps = 0 := by
      have unasked : minProfitMarginBps = 0 := by
        have least : 0 ≤ minProfitMarginBps := by
          unfold wholeBps at whole
          split at whole
          next asked => exact asked.1
          next => cases whole
        exact le_antisymm (not_lt.mp (fun asked => short ⟨asked, overcharged⟩)) least
      rw [unasked] at whole
      exact (Option.some.inj whole).symm
    have fee : (amount * (10000 : Nat)).tdiv 10000 = amount :=
      Int.mul_tdiv_cancel amount (by decide)
    have nothing := @profits 10000 0 (2 * amount) (by omega) (le_refl 0) (by rw [fee]; omega)
      (by rw [free, Nat.cast_zero, mul_zero]; exact mul_nonneg (le_max_left 0 _) (by decide))
    rw [fee] at nothing
    simp [two_mul] at nothing
  · -- a gain that just pays the gas, large enough for the margin
    obtain ⟨gas, size⟩ : ∃ gas, gas = 200 * (amount + 1 + amount * bps) := ⟨_, rfl⟩
    have asked : 0 ≤ amount * bps := mul_nonneg unit.le (Int.natCast_nonneg _)
    have gasPositive : 0 < gas := by omega
    have fee : (amount * (0 : Nat)).tdiv 10000 = 0 := by simp
    have safety : (gas * 50).tdiv 10000 = amount + 1 + amount * bps := by
      rw [Int.tdiv_eq_ediv_of_nonneg (by omega)]
      omega
    have gain : amount + gas - amount = gas := add_sub_cancel_left _ _
    have only := @profits 0 gas (amount + gas) (by omega) gasPositive.le (by rw [fee]; omega)
      (by rw [fee, gain, safety]; omega)
    rw [fee, gain, sub_zero, mul_assoc, mul_assoc] at only
    exact overcharged (lt_of_mul_lt_mul_left only gasPositive.le)

end Market

/-- Every approval earns dollars exactly where both prices are known, or a margin is asked for and
a raw unit of the token is worth more than a wei of gas, or nothing is approved. -/
theorem approvalsProfit_iff (pair : TokenPairConfig) {gasToken : Address}
    (market : Market pair.tokenIn gasToken) (minProfitMarginBps : ℚ) :
    ApprovalsProfit pair market minProfitMarginBps ↔ ApprovalsCovered market minProfitMarginBps :=
  ⟨covered_of_approvalsProfit, approvalsProfit_of_covered⟩

/-- A token of one cent with eighteen decimals. -/
def centPair : TokenPairConfig := { dollarPair with symbolIn := "CENT", decimalsIn := 18 }

/-- The native token at three thousand dollars, and no price cache. -/
def centMarket : Market centPair.tokenIn (nativeGasTokens .base) where
  tokenPrice := 1000000
  nativePrice := 300000000000
  cache := none
  tokenPriced := by decide
  nativePriced := by decide
  token := by simp
  native := by simp

/-- Ten tokens come back as twenty-five; larger probes are not quoted. -/
def centAnswer : (op : ScannerOp) → op.Answer
  | .quoteAmountOut _ _ _ amountIn =>
      if amountIn = 10 * 10 ^ 18 then .ok (11 * 10 ^ 18)
      else if amountIn = 11 * 10 ^ 18 then .ok (25 * 10 ^ 18)
      else .error ⟨false⟩
  | .call .. => .ok ()
  | .estimateGas .. => .ok 0
  | .batchGetUsdPrices _ => .ok .empty
  | .dedupe _ => some 0

def cent : Asset := ⟨"CENT", 18, by decide, by decide⟩

/-- Fifteen cents, for which gas of a dollar and a half is paid. -/
def centOpportunity : ArbitrageOpportunity where
  chain := .base
  opportunityId := .custom 0
  buyDex := dollarRoute.buyDex
  sellDex := dollarRoute.sellDex
  tokenIn := BASE_USDC
  tokenOut := BASE_USDBC
  amountIn := 10000000000000000000
  expectedIntermediateOut := 11000000000000000000
  expectedAmountOut := 25000000000000000000
  expectedRevenue := ⟨cent, 15000000000000000000, by decide⟩
  estimatedGas := dollarOpportunity.estimatedGas
  flashLoanFee := ⟨cent, 9000000000000000, by decide⟩
  slippageBuffer := ⟨cent, 150000000000000000, by decide⟩
  safetyBuffer := ⟨cent, 75000000000000000, by decide⟩
  capitalAtRisk := ⟨cent, 10000000000000000000, by decide⟩
  provider := .aaveV3
  minimumMarginBps := 120

/-- The default scanner approves it. -/
theorem cent_loses : ¬ ∀ (pair : TokenPairConfig) (gasToken : Address)
    (market : Market pair.tokenIn gasToken) (minProfitMarginBps : ℚ),
      ApprovalsProfit pair market minProfitMarginBps := by
  intro claim
  have run : Runs (checkSingleDirection defaultScanner .base dollarRoute centPair 1000000000)
      ((checkSingleDirection defaultScanner .base dollarRoute centPair 1000000000).trace centAnswer)
      (.ok (some centOpportunity)) :=
    runs_trace centAnswer (checkSingleDirection defaultScanner .base dollarRoute centPair 1000000000)
  have profit := claim centPair (nativeGasTokens .base) centMarket 120 defaultScanner .base
    ⟨rfl, rfl, rfl, by decide⟩ rfl dollarRoute 1000000000 _ centOpportunity baseRegistry run
  have events : (checkSingleDirection defaultScanner .base dollarRoute centPair 1000000000).trace
      centAnswer = countingEvents .base dollarRoute centPair (10 * 10 ^ 18) (11 * 10 ^ 18) (25 * 10 ^ 18)
        [] 0 ++ [20 * 10 ^ 18, 30 * 10 ^ 18, 50 * 10 ^ 18].flatMap (fun amountIn =>
          (failingTurn dollarRoute centPair ⟨false⟩ amountIn).events) := rfl
  rw [events, profitsInUsd_iff] at profit
  refine absurd (profit (fun tokens prices member => ?_) (by decide +kernel)) (by decide +kernel)
  simp [countingEvents, failingTurn] at member

end ArbitrageScanner

end LiquidationBot
