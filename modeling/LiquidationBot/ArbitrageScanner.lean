import LiquidationBot.Library.Throwing
import LiquidationBot.LiquidationEconomics
import LiquidationBot.QuoteEngine
import Mathlib.Tactic.Linarith

/-!
# The arbitrage scanner

The scanner probes one pair over one pair of venues with several sizes. A probe
becomes an opportunity when the quoted round trip returns more than went in, the
path simulates, two estimates of its value agree that it pays, and it was not
seen lately. The revenue of an opportunity is what comes back above what went in.

The evaluation hands that revenue to the profitability engine together with the
amount that went in as a debt, and the engine subtracts the debt once more.
-/

namespace LiquidationBot

/-- What the estimates assert to be non-negative. -/
inductive ArbitrageEvField where
  | amountIn
  | amountOutFinal
  | gasEstimate
  | gasPrice
  | minProfitThreshold
  | flashFeeBps
  | slippageBps
  | minProfitUsdRaw
deriving DecidableEq

/-- What ends the scan of a direction early. -/
inductive ScannerError where
  | thrown (error : Thrown)
  | negative (field : ArbitrageEvField)
  | fractionalBigInt
  | unencodable
  | invalidAsset
  | asset (error : AssetError)
deriving DecidableEq

/-! ## The estimates -/

/-- `FlashLoanArbitrageInput`. -/
structure FlashLoanArbitrageInput where
  amountIn : Int
  amountOutFinal : Int
  flashFeeBps : ℚ
  gasEstimate : Int
  gasPrice : Int
  slippageBps : ℚ
  minProfitThreshold : Int

/-- `FlashLoanArbitrageEV`. -/
structure FlashLoanArbitrageEV where
  profitWei : Int
  rawProfitWei : Int
  flashFeeWei : Int
  gasCostWei : Int
  slippageBufferWei : Int
  isProfitable : Bool

def assertNonNegativeBigint (field : ArbitrageEvField) (value : Int) : Except ScannerError Unit :=
  if value < 0 then .error (.negative field) else .ok ()

/-- `assertNonNegative` of a figure in basis points. -/
def assertNonNegativeBps (field : ArbitrageEvField) (value : ℚ) : Except ScannerError Unit :=
  if value < 0 then .error (.negative field) else .ok ()

/-- `Math.trunc`. -/
def mathTrunc (value : ℚ) : Int := value.num.tdiv value.den

/-- `BigInt` of a number, which refuses a fraction. -/
def bigIntOf (value : ℚ) : Except ScannerError Int :=
  if value.den = 1 then .ok value.num else .error .fractionalBigInt

def calculateFlashLoanArbitrageEV (input : FlashLoanArbitrageInput) :
    Except ScannerError FlashLoanArbitrageEV := do
  assertNonNegativeBigint .amountIn input.amountIn
  assertNonNegativeBigint .amountOutFinal input.amountOutFinal
  assertNonNegativeBigint .gasEstimate input.gasEstimate
  assertNonNegativeBigint .gasPrice input.gasPrice
  assertNonNegativeBigint .minProfitThreshold input.minProfitThreshold
  assertNonNegativeBps .flashFeeBps input.flashFeeBps
  assertNonNegativeBps .slippageBps input.slippageBps
  let flashFeeWei := (input.amountIn * mathTrunc input.flashFeeBps).tdiv 10000
  let gasCostWei := input.gasEstimate * input.gasPrice
  let slippageBufferWei := (input.amountOutFinal * mathTrunc input.slippageBps).tdiv 10000
  let rawProfitWei :=
    input.amountOutFinal - input.amountIn - flashFeeWei - gasCostWei - slippageBufferWei
  let isProfitable := decide (input.minProfitThreshold ≤ rawProfitWei)
  return ⟨if isProfitable then rawProfitWei else 0, rawProfitWei, flashFeeWei, gasCostWei,
    slippageBufferWei, isProfitable⟩

/-- `ExactUsdEVInput`; decimals are natural numbers here, as is asserted of them. -/
structure ExactUsdEVInput extends FlashLoanArbitrageInput where
  tokenIn : Address
  tokenInDecimals : Nat
  nativeGasToken : Address
  nativeGasTokenDecimals : Nat
  minProfitUsdRaw : Int

/-- `ExactUsdEV`. -/
structure ExactUsdEV where
  netProfitUsdRaw : Int
  revenueUsdRaw : Int
  costUsdRaw : Int
  isPriceAvailable : Bool
  isProfitable : Bool

def tokenAmountToUsdRaw (amountRaw : Int) (tokenDecimals : Nat) (tokenUsdPriceRaw : Int) : Int :=
  (amountRaw * tokenUsdPriceRaw).tdiv (10 ^ tokenDecimals)

/-- The inputs that `calculateExactUsdEV` asserts before it asks for prices. -/
def assertExactUsdInput (input : ExactUsdEVInput) : Except ScannerError Unit := do
  assertNonNegativeBigint .amountIn input.amountIn
  assertNonNegativeBigint .amountOutFinal input.amountOutFinal
  assertNonNegativeBigint .minProfitUsdRaw input.minProfitUsdRaw

/-- `calculateExactUsdEV`, from the prices on. -/
def exactUsdEV (input : ExactUsdEVInput) (prices : InsertionMap Address Int) :
    Except ScannerError ExactUsdEV := do
  let tokenInUsdPriceRaw := (prices.get? input.tokenIn).getD 0
  let nativeGasUsdPriceRaw := (prices.get? input.nativeGasToken).getD 0
  if tokenInUsdPriceRaw ≤ 0 ∨ nativeGasUsdPriceRaw ≤ 0 then return ⟨0, 0, 0, false, false⟩
  let ev ← calculateFlashLoanArbitrageEV input.toFlashLoanArbitrageInput
  let revenueUsdRaw :=
    tokenAmountToUsdRaw input.amountOutFinal input.tokenInDecimals tokenInUsdPriceRaw
  let costTokenRaw := input.amountIn + ev.flashFeeWei + ev.slippageBufferWei
  let costUsdRaw :=
    tokenAmountToUsdRaw costTokenRaw input.tokenInDecimals tokenInUsdPriceRaw +
      tokenAmountToUsdRaw ev.gasCostWei input.nativeGasTokenDecimals nativeGasUsdPriceRaw
  let netProfitUsdRaw := revenueUsdRaw - costUsdRaw
  return ⟨netProfitUsdRaw, revenueUsdRaw, costUsdRaw, true,
    decide (input.minProfitUsdRaw ≤ netProfitUsdRaw)⟩

namespace ArbitrageScanner

/-! ## The scanner's data -/

/-- `TokenPairConfig`. -/
structure TokenPairConfig where
  tokenIn : Address
  tokenOut : Address
  symbolIn : String
  symbolOut : String
  decimalsIn : Nat
  decimalsOut : Nat

/-- What `buySell` returns. -/
structure Route where
  buyDex : DexConfig
  sellDex : DexConfig
deriving DecidableEq

def buySell (buyDex : DexConfig) (sellDex : Option DexConfig) : Route :=
  ⟨buyDex, sellDex.getD buyDex⟩

/-- `signature`, before it is written as a text. -/
structure Signature where
  chain : SupportedChain
  buyDex : String
  sellDex : String
  symbolIn : String
  symbolOut : String
  amountIn : Int
deriving DecidableEq

/-- `ArbitrageOpportunity`, with its amounts in integers. -/
structure ArbitrageOpportunity where
  chain : SupportedChain
  opportunityId : OpportunityId
  buyDex : DexConfig
  sellDex : DexConfig
  tokenIn : Address
  tokenOut : Address
  amountIn : Int
  expectedIntermediateOut : Int
  expectedAmountOut : Int
  expectedRevenue : TypedAssetAmount Int
  estimatedGas : TypedAssetAmount Int
  flashLoanFee : TypedAssetAmount Int
  slippageBuffer : TypedAssetAmount Int
  safetyBuffer : TypedAssetAmount Int
  capitalAtRisk : TypedAssetAmount Int
  provider : FlashLoanProviderId
  minimumMarginBps : ℚ

/-- The costs of an opportunity, as raw numbers. -/
def ArbitrageOpportunity.costs (opportunity : ArbitrageOpportunity) : Int :=
  opportunity.estimatedGas.raw + opportunity.flashLoanFee.raw + opportunity.slippageBuffer.raw +
    opportunity.safetyBuffer.raw

/-- `MIN_PROFIT_THRESHOLD_WEI`. -/
def MIN_PROFIT_THRESHOLD_WEI : Int := 10000000000000000

/-- `MIN_PROFIT_THRESHOLD_BNB`. -/
def MIN_PROFIT_THRESHOLD_BNB : Int := 150000000000000000

/-- The wrapped native token that gas is priced with. -/
def nativeGasTokens : SupportedChain → Address
  | .optimism => ⟨0x4200000000000000000000000000000000000006, 0⟩
  | .arbitrum => ⟨0x82af49447d8a07e3bd95bd0d56f35241523fbab1, 0x10400c0008⟩
  | .base => ⟨0x4200000000000000000000000000000000000006, 0⟩

/-- `ArbitrageScannerConfig`, by what the scan of one direction reads of it. An
identifier stands for the text of a signature and a time; `hasExactUsdPriceCache`
and `estimatesGas` say whether the optional collaborators are there. -/
structure ArbitrageScannerConfig where
  defaultFlashLoanProvider : FlashLoanProviderId
  identifier : Signature → Int → OpportunityId
  minProfitMarginBps : ℚ := 120
  stablePairProbeSize : Int := 50000
  volatilePairProbeSize : Int := 10
  baseStableProbeSizes : List Int := [10000, 25000, 50000]
  baseStableExpandedProbeSize : Int := 500000
  flashLoanReceiverAddress : Option Address := none
  operatorAddress : Option Address := none
  flashLoanGasEstimate : Int := 500000
  flashFeeBps : ℚ := AAVE_V3_BASE_FLASH_FEE_BPS
  baseMinProfitThreshold : Int := MIN_PROFIT_THRESHOLD_BNB
  arbitrageSlippageBps : ℚ := 100
  nativeGasTokenByChain : SupportedChain → Address := nativeGasTokens
  nativeGasTokenDecimalsByChain : SupportedChain → Nat := fun _ => 18
  exactUsdMinProfitRaw : Int := 15000000
  hasExactUsdPriceCache : Bool := false
  estimatesGas : Bool := true

/-- The flash loan whose call data a path simulation sends. -/
structure FlashLoanCall where
  receiver : Address
  asset : Address
  amount : Int
  route : Route
  minBuyOut : Int
  minSellOut : Int
deriving DecidableEq

/-- What the scan of a direction asks for outside itself: quotes, the simulated
path, prices, and the signatures seen lately, which other directions share. -/
inductive ScannerOp where
  | quoteAmountOut (dex : DexConfig) (tokenIn tokenOut : Address) (amountIn : Int)
  | call (target account : Address) (data : FlashLoanCall) (gasPrice : Int)
  | estimateGas (target account : Address) (data : FlashLoanCall) (gasPrice : Int)
  | batchGetUsdPrices (tokens : List Address)
  | dedupe (signature : Signature)

/-- A signature that was not seen answers with the time that it is stored under. -/
@[reducible] def ScannerOp.Answer : ScannerOp → Type
  | .quoteAmountOut .. => Except Thrown Int
  | .call .. => Except Thrown Unit
  | .estimateGas .. => Except Thrown Int
  | .batchGetUsdPrices _ => Except Thrown (InsertionMap Address Int)
  | .dedupe _ => Option Int

abbrev ScannerM := Async ScannerOp ScannerOp.Answer ScannerError

/-! ## The scan of a direction -/

/-- An answer that may be an exception, thrown on. -/
def received {α : Type} : Except Thrown α → ScannerM α
  | .ok value => pure value
  | .error error => .throw (.thrown error)

def isStablePair (pair : TokenPairConfig) : Bool :=
  "US".toList.isPrefixOf pair.symbolIn.toList && "US".toList.isPrefixOf pair.symbolOut.toList

def parseUnits (units : Int) (decimals : Nat) : Int := units * 10 ^ decimals

def probeAmountIn (config : ArbitrageScannerConfig) (pair : TokenPairConfig) : Int :=
  let units :=
    if isStablePair pair then config.stablePairProbeSize else config.volatilePairProbeSize
  parseUnits units pair.decimalsIn

def probeAmountsIn (config : ArbitrageScannerConfig) (chain : SupportedChain)
    (pair : TokenPairConfig) (includeExpandedProbe : Bool) : List Int :=
  if !isStablePair pair then
    let base := probeAmountIn config pair
    [base, base * 2, base * 3, base * 5]
  else if chain ≠ .base then [probeAmountIn config pair]
  else
    let sizes := config.baseStableProbeSizes.map (parseUnits · pair.decimalsIn)
    if !includeExpandedProbe then sizes
    else sizes ++ [parseUnits config.baseStableExpandedProbeSize pair.decimalsIn]

def minProfitThresholdForPair (config : ArbitrageScannerConfig) (chain : SupportedChain)
    (pair : TokenPairConfig) : Int :=
  if chain ≠ .base then MIN_PROFIT_THRESHOLD_WEI
  else if pair.decimalsIn = 18 then config.baseMinProfitThreshold
  else if 18 < pair.decimalsIn then config.baseMinProfitThreshold * 10 ^ (pair.decimalsIn - 18)
  else config.baseMinProfitThreshold.tdiv (10 ^ (18 - pair.decimalsIn))

/-- The pool that lends on a chain. -/
def aavePoolAddress : SupportedChain → Address
  | .optimism => ⟨0x794a61358d6845594f94dc1db02a252b5b4814ad, 0⟩
  | .arbitrum => ⟨0x794a61358d6845594f94dc1db02a252b5b4814ad, 0⟩
  | .base => ⟨0xa238dd80c259a72e81d7e4664a9801593f98d1c5, 0x8880000040⟩

/-- Call data holds amounts of one word. -/
def encodeFlashLoan (receiver : Address) (route : Route) (pair : TokenPairConfig)
    (amountIn intermediate finalAmountOut : Int) : Except ScannerError FlashLoanCall :=
  if [amountIn, intermediate, finalAmountOut].all
      (fun amount => decide (0 ≤ amount ∧ amount < 2 ^ 256)) then
    .ok ⟨receiver, pair.tokenIn, amountIn, route, intermediate, finalAmountOut⟩
  else .error .unencodable

/-- `simulateFullFlashLoanArbPath`: the gas used, or none when the call fails. -/
def simulateFullFlashLoanArbPath (config : ArbitrageScannerConfig) (target account : Address)
    (data : FlashLoanCall) (gasPrice : Int) : ScannerM (Option Int) :=
  .call (.call target account data gasPrice) (fun answer =>
    match answer with
    | .error _ => pure none
    | .ok () =>
        if !config.estimatesGas then pure (some 0)
        else
          .call (.estimateGas target account data gasPrice) (fun estimated =>
            match estimated with
            | .error _ => pure (some 0)
            | .ok gas => pure (some gas)))

/-- `simulateCandidatePath`: the gas used, or none without success. -/
def simulateCandidatePath (config : ArbitrageScannerConfig) (chain : SupportedChain) (route : Route)
    (pair : TokenPairConfig) (amountIn intermediate finalAmountOut gasPrice : Int) :
    ScannerM (Option Int) :=
  match config.flashLoanReceiverAddress, config.operatorAddress with
  | some receiver, some operator => do
      let data ← Async.orThrow
        (encodeFlashLoan receiver route pair amountIn intermediate finalAmountOut)
      simulateFullFlashLoanArbPath config (aavePoolAddress chain) operator data gasPrice
  | _, _ => pure (some config.flashLoanGasEstimate)

/-- `quoteAmountOut`, which asks the quote engine. -/
def quoteAmountOut (dex : DexConfig) (tokenIn tokenOut : Address) (amountIn : Int) : ScannerM Int :=
  .call (.quoteAmountOut dex tokenIn tokenOut amountIn) received

/-- Both legs of the round trip. -/
def quoteRoundTrip (route : Route) (pair : TokenPairConfig) (amountIn : Int) :
    ScannerM (Int × Int) := do
  let intermediate ← quoteAmountOut route.buyDex pair.tokenIn pair.tokenOut amountIn
  let finalAmountOut ← quoteAmountOut route.sellDex pair.tokenOut pair.tokenIn intermediate
  pure (intermediate, finalAmountOut)

def evInput (config : ArbitrageScannerConfig) (chain : SupportedChain) (pair : TokenPairConfig)
    (amountIn finalAmountOut gasEstimate gasPrice : Int) : ExactUsdEVInput where
  amountIn := amountIn
  amountOutFinal := finalAmountOut
  flashFeeBps := config.flashFeeBps
  gasEstimate := gasEstimate
  gasPrice := gasPrice
  slippageBps := config.arbitrageSlippageBps
  minProfitThreshold := minProfitThresholdForPair config chain pair
  tokenIn := pair.tokenIn
  tokenInDecimals := pair.decimalsIn
  nativeGasToken := config.nativeGasTokenByChain chain
  nativeGasTokenDecimals := config.nativeGasTokenDecimalsByChain chain
  minProfitUsdRaw := config.exactUsdMinProfitRaw

def batchGetUsdPrices (tokens : List Address) : ScannerM (InsertionMap Address Int) :=
  .call (.batchGetUsdPrices tokens) received

/-- The exact estimate knows the prices and finds that the probe does not pay. -/
def belowExactUsd (config : ArbitrageScannerConfig) (input : ExactUsdEVInput) : ScannerM Bool :=
  if !config.hasExactUsdPriceCache then pure false
  else do
    Async.orThrow (assertExactUsdInput input)
    let prices ← batchGetUsdPrices [input.tokenIn, input.nativeGasToken]
    let exactUsd ← Async.orThrow (exactUsdEV input prices)
    pure (exactUsd.isPriceAvailable && !exactUsd.isProfitable)

/-- `createAsset`. -/
def createAsset (symbol : String) (decimals : Nat) : Except ScannerError Asset :=
  if valid : symbol ≠ "" ∧ decimals ≤ 36 then .ok ⟨symbol, decimals, valid.1, valid.2⟩
  else .error .invalidAsset

/-- Asset errors among the errors of the scan. -/
def ofAsset {α : Type} : Except AssetError α → Except ScannerError α
  | .ok value => .ok value
  | .error error => .error (.asset error)

/-- `tokenAmount`; the sign is checked before the asset. -/
def tokenAmount (pair : TokenPairConfig) (raw : Int) :
    Except ScannerError (TypedAssetAmount Int) := do
  if raw < 0 then throw (.asset .negativeAmount)
  let asset ← createAsset pair.symbolIn pair.decimalsIn
  ofAsset (createAssetAmount asset raw)

/-- `candidate` of `checkSingleDirection`. -/
def buildOpportunity (config : ArbitrageScannerConfig) (chain : SupportedChain) (route : Route)
    (pair : TokenPairConfig) (amountIn intermediate finalAmountOut gasEstimate : Int)
    (identifier : OpportunityId) : Except ScannerError ArbitrageOpportunity := do
  let revenueRaw := finalAmountOut - amountIn
  let expectedRevenue ← tokenAmount pair revenueRaw
  let estimatedGas ← ofAsset (createAssetAmount usd gasEstimate)
  let flashFeeBps ← bigIntOf config.flashFeeBps
  let flashLoanFee ← tokenAmount pair ((amountIn * flashFeeBps).tdiv 10000)
  let slippageBps ← bigIntOf config.arbitrageSlippageBps
  let slippageBuffer ← tokenAmount pair ((revenueRaw * slippageBps).tdiv 10000)
  let safetyBuffer ← tokenAmount pair ((revenueRaw * 50).tdiv 10000)
  let capitalAtRisk ← tokenAmount pair amountIn
  return {
    chain := chain
    opportunityId := identifier
    buyDex := route.buyDex
    sellDex := route.sellDex
    tokenIn := pair.tokenIn
    tokenOut := pair.tokenOut
    amountIn := amountIn
    expectedIntermediateOut := intermediate
    expectedAmountOut := finalAmountOut
    expectedRevenue := expectedRevenue
    estimatedGas := estimatedGas
    flashLoanFee := flashLoanFee
    slippageBuffer := slippageBuffer
    safetyBuffer := safetyBuffer
    capitalAtRisk := capitalAtRisk
    provider := config.defaultFlashLoanProvider
    minimumMarginBps := config.minProfitMarginBps }

/-- The opportunity with the higher revenue; the earlier one of equals. -/
def better (best : Option ArbitrageOpportunity) (candidate : ArbitrageOpportunity) :
    Option ArbitrageOpportunity :=
  match best with
  | none => some candidate
  | some kept => if kept.expectedRevenue.raw < candidate.expectedRevenue.raw then some candidate
      else some kept

/-- A probe whose quotes return more than went in. -/
def checkQuoted (config : ArbitrageScannerConfig) (chain : SupportedChain) (route : Route)
    (pair : TokenPairConfig) (gasPrice : Int) (best : Option ArbitrageOpportunity)
    (amountIn intermediate finalAmountOut : Int) : ScannerM (Option ArbitrageOpportunity) := do
  let simulation ← simulateCandidatePath config chain route pair amountIn intermediate
    finalAmountOut gasPrice
  match simulation with
  | none => pure best
  | some gasUsed => do
      let gasEstimate := if 0 < gasUsed then gasUsed else config.flashLoanGasEstimate
      let input := evInput config chain pair amountIn finalAmountOut gasEstimate gasPrice
      let ev ← Async.orThrow (calculateFlashLoanArbitrageEV input.toFlashLoanArbitrageInput)
      if !ev.isProfitable then pure best
      else do
        let below ← belowExactUsd config input
        if below then pure best
        else do
          let signature : Signature := ⟨chain, route.buyDex.name, route.sellDex.name,
            pair.symbolIn, pair.symbolOut, amountIn⟩
          let stored ← Async.perform (ScannerOp.dedupe signature)
          match stored with
          | none => pure best
          | some now => do
              let candidate ← Async.orThrow (buildOpportunity config chain route pair amountIn
                intermediate finalAmountOut gasEstimate (config.identifier signature now))
              pure (better best candidate)

/-- One turn of the loop over the probes; a failing quote is the next probe's turn. -/
def checkProbe (config : ArbitrageScannerConfig) (chain : SupportedChain) (route : Route)
    (pair : TokenPairConfig) (gasPrice : Int) (best : Option ArbitrageOpportunity)
    (amountIn : Int) : ScannerM (Option ArbitrageOpportunity) := do
  let quoted ← (quoteRoundTrip route pair amountIn).attempt
  match quoted with
  | .error _ => pure best
  | .ok (intermediate, finalAmountOut) =>
      if finalAmountOut ≤ amountIn then pure best
      else checkQuoted config chain route pair gasPrice best amountIn intermediate finalAmountOut

/-- `checkSingleDirection`; what throws outside the quotes drops the best so far. -/
def checkSingleDirection (config : ArbitrageScannerConfig) (chain : SupportedChain) (route : Route)
    (pair : TokenPairConfig) (gasPrice : Int) : ScannerM (Option ArbitrageOpportunity) :=
  ((probeAmountsIn config chain pair true).foldlM
    (checkProbe config chain route pair gasPrice) none).handle (fun _ => pure none)

/-! ## The evaluation -/

/-- `input` of `evaluateOpportunity`: every amount again, in dollars. -/
def simulationInput (opportunity : ArbitrageOpportunity) :
    Except AssetError (ProfitSimulationInput Int) := do
  let revenue ← createAssetAmount usd opportunity.expectedRevenue.raw
  let debt ← createAssetAmount usd opportunity.capitalAtRisk.raw
  let flashLoanFee ← createAssetAmount usd opportunity.flashLoanFee.raw
  let swapCost ← createAssetAmount usd (0 : Int)
  let slippageBuffer ← createAssetAmount usd opportunity.slippageBuffer.raw
  let safetyBuffer ← createAssetAmount usd opportunity.safetyBuffer.raw
  let capitalAtRisk ← createAssetAmount usd opportunity.capitalAtRisk.raw
  return {
    chain := opportunity.chain
    opportunityId := opportunity.opportunityId
    provider := opportunity.provider
    revenue := revenue
    debt := debt
    gas := opportunity.estimatedGas
    flashLoanFee := flashLoanFee
    swapCost := swapCost
    slippageBuffer := slippageBuffer
    safetyBuffer := safetyBuffer
    capitalAtRisk := capitalAtRisk
    minimumMarginBps := opportunity.minimumMarginBps }

/-- `evaluateOpportunity`. -/
def evaluateOpportunity (registry : ChainRegistry)
    (simulate : ProfitSimulationInput Int → Except RouteError (EthCallSimulationResult Int))
    (opportunity : ArbitrageOpportunity) : Except RouteError (ProfitabilityResult Int) := do
  let input ← LiquidationBot.ofAsset (simulationInput opportunity)
  ProfitabilityEngine.evaluate registry simulate input

/-! ## What an opportunity is -/

/-- The revenue is what comes back above what went in, and that is at risk. -/
structure Built (opportunity : ArbitrageOpportunity) : Prop where
  revenue :
    opportunity.expectedRevenue.raw = opportunity.expectedAmountOut - opportunity.amountIn
  positive : 0 < opportunity.expectedRevenue.raw
  capitalAtRisk : opportunity.capitalAtRisk.raw = opportunity.amountIn
  inDollars : opportunity.estimatedGas.asset = usd

section Built

variable {config : ArbitrageScannerConfig} {chain : SupportedChain} {route : Route}
  {pair : TokenPairConfig} {gasPrice amountIn intermediate finalAmountOut : Int}
  {best result : Option ArbitrageOpportunity}
  {events : List (Async.Event ScannerOp ScannerOp.Answer)}

/-- An amount that is built keeps the raw number and the asset. -/
theorem createAssetAmount_ok {asset : Asset} {raw : Int} {amount : TypedAssetAmount Int}
    (built : createAssetAmount asset raw = .ok amount) :
    amount.asset = asset ∧ amount.raw = raw := by
  unfold createAssetAmount at built
  split at built
  · cases built
    exact ⟨rfl, rfl⟩
  · cases built

theorem ofAsset_ok {α : Type} {outcome : Except AssetError α} {value : α}
    (returned : ofAsset outcome = .ok value) : outcome = .ok value := by
  cases outcome with
  | ok same => cases returned; rfl
  | error error => cases returned

theorem tokenAmount_raw {raw : Int} {amount : TypedAssetAmount Int}
    (built : tokenAmount pair raw = .ok amount) : amount.raw = raw := by
  unfold tokenAmount at built
  split at built
  · cases built
  · obtain ⟨asset, _, built⟩ := (Throwing.bind_eq_ok_iff _ _ _).mp built
    exact (createAssetAmount_ok (ofAsset_ok built)).2

theorem buildOpportunity_built {gasEstimate : Int} {identifier : OpportunityId}
    {opportunity : ArbitrageOpportunity} (gains : amountIn < finalAmountOut)
    (built : buildOpportunity config chain route pair amountIn intermediate finalAmountOut
      gasEstimate identifier = .ok opportunity) : Built opportunity := by
  obtain ⟨expectedRevenue, revenue, built⟩ := (Throwing.bind_eq_ok_iff _ _ _).mp built
  obtain ⟨estimatedGas, gas, built⟩ := (Throwing.bind_eq_ok_iff _ _ _).mp built
  obtain ⟨_, _, built⟩ := (Throwing.bind_eq_ok_iff _ _ _).mp built
  obtain ⟨_, _, built⟩ := (Throwing.bind_eq_ok_iff _ _ _).mp built
  obtain ⟨_, _, built⟩ := (Throwing.bind_eq_ok_iff _ _ _).mp built
  obtain ⟨_, _, built⟩ := (Throwing.bind_eq_ok_iff _ _ _).mp built
  obtain ⟨_, _, built⟩ := (Throwing.bind_eq_ok_iff _ _ _).mp built
  obtain ⟨capitalAtRisk, capital, built⟩ := (Throwing.bind_eq_ok_iff _ _ _).mp built
  cases built
  have raw : expectedRevenue.raw = finalAmountOut - amountIn := tokenAmount_raw revenue
  refine ⟨raw, ?_, tokenAmount_raw capital, (createAssetAmount_ok (ofAsset_ok gas)).1⟩
  rw [raw]
  exact sub_pos.mpr gains

theorem better_built {candidate : ArbitrageOpportunity}
    (kept : ∀ opportunity ∈ best, Built opportunity) (built : Built candidate) :
    ∀ opportunity ∈ better best candidate, Built opportunity := by
  intro opportunity chosen
  cases best with
  | none =>
    cases chosen
    exact built
  | some earlier =>
    rw [better] at chosen
    split at chosen
    · cases chosen
      exact built
    · cases chosen
      exact kept _ rfl

theorem checkQuoted_built (gains : amountIn < finalAmountOut)
    (kept : ∀ opportunity ∈ best, Built opportunity)
    (run : Async.Runs (checkQuoted config chain route pair gasPrice best amountIn intermediate
      finalAmountOut) events (.ok result)) :
    ∀ opportunity ∈ result, Built opportunity := by
  obtain ⟨simulation, _, _, _, _, run⟩ := Async.runs_bind_ok.mp run
  cases simulation with
  | none =>
    cases (Async.runs_pure.mp run).2
    exact kept
  | some gasUsed =>
    obtain ⟨ev, _, _, _, _, run⟩ := Async.runs_bind_ok.mp run
    split at run
    · cases (Async.runs_pure.mp run).2
      exact kept
    · obtain ⟨below, _, _, _, _, run⟩ := Async.runs_bind_ok.mp run
      cases below with
      | true =>
        cases (Async.runs_pure.mp run).2
        exact kept
      | false =>
        obtain ⟨stored, _, _, _, _, run⟩ := Async.runs_bind_ok.mp run
        cases stored with
        | none =>
          cases (Async.runs_pure.mp run).2
          exact kept
        | some now =>
          obtain ⟨candidate, _, _, _, built, run⟩ := Async.runs_bind_ok.mp run
          cases (Async.runs_pure.mp run).2
          exact better_built kept
            (buildOpportunity_built gains (Async.runs_orThrow.mp built).2.symm)

/-- A turn of the loop keeps the best so far or replaces it by one just built. -/
theorem checkProbe_built (kept : ∀ opportunity ∈ best, Built opportunity)
    (run : Async.Runs (checkProbe config chain route pair gasPrice best amountIn) events
      (.ok result)) : ∀ opportunity ∈ result, Built opportunity := by
  obtain ⟨quoted, _, _, _, _, run⟩ := Async.runs_bind_ok.mp run
  cases quoted with
  | error error =>
    cases (Async.runs_pure.mp run).2
    exact kept
  | ok amounts =>
    by_cases loses : amounts.2 ≤ amountIn
    · simp only [loses, if_true] at run
      cases (Async.runs_pure.mp run).2
      exact kept
    · simp only [loses, if_false] at run
      exact checkQuoted_built (not_le.mp loses) kept run

/-- The loop over any probes. Induct on the probes that are left. -/
theorem foldlM_checkProbe_built (probes : List Int)
    (kept : ∀ opportunity ∈ best, Built opportunity)
    (run : Async.Runs (probes.foldlM (checkProbe config chain route pair gasPrice) best) events
      (.ok result)) : ∀ opportunity ∈ result, Built opportunity := by
  induction probes generalizing best events with
  | nil =>
    cases (Async.runs_pure.mp run).2
    exact kept
  | cons probe probes inductionHypothesis =>
    rw [List.foldlM_cons] at run
    obtain ⟨middle, _, _, _, first, rest⟩ := Async.runs_bind_ok.mp run
    exact inductionHypothesis (checkProbe_built kept first) rest

theorem checkSingleDirection_built {opportunity : ArbitrageOpportunity}
    (run : Async.Runs (checkSingleDirection config chain route pair gasPrice) events
      (.ok (some opportunity))) : Built opportunity := by
  rcases Async.runs_handle.mp run with ⟨found, run, same⟩ | ⟨_, _, _, _, _, run⟩
  · cases same
    exact foldlM_checkProbe_built _ (fun _ impossible => by cases impossible) run opportunity rfl
  · cases (Async.runs_pure.mp run).2

end Built

/-! ## What the evaluation subtracts -/

/-- The evaluation reads every amount of an opportunity again in dollars. -/
theorem simulationInput_eq (opportunity : ArbitrageOpportunity)
    (inDollars : opportunity.estimatedGas.asset = usd) :
    ∃ input, simulationInput opportunity = .ok input ∧ ProfitabilityEngine.InAsset usd input ∧
      input.revenue.raw = opportunity.expectedRevenue.raw ∧
      ProfitabilityEngine.outlay input = opportunity.capitalAtRisk.raw + opportunity.costs := by
  have read : ∀ amount : TypedAssetAmount Int,
      createAssetAmount usd amount.raw = .ok ⟨usd, amount.raw, amount.nonneg⟩ := by
    intro amount
    simp [createAssetAmount, amount.nonneg]
  have zero : createAssetAmount usd (0 : Int) = .ok ⟨usd, 0, le_refl 0⟩ := rfl
  simp only [simulationInput, read, zero, bind, Except.bind]
  refine ⟨_, rfl, ⟨rfl, rfl, inDollars, rfl, rfl, rfl, rfl, rfl⟩, rfl, ?_⟩
  simp only [ProfitabilityEngine.outlay, ArbitrageOpportunity.costs]
  ring

/-- The pre-check of an opportunity that a scan returned charges the principal
beside the costs, so it is the remaining profit only where both are nothing. -/
theorem deterministicProfit_eq_iff (config : ArbitrageScannerConfig) (chain : SupportedChain)
    (route : Route) (pair : TokenPairConfig) (gasPrice : Int)
    (events : List (Async.Event ScannerOp ScannerOp.Answer)) (opportunity : ArbitrageOpportunity)
    (built : Async.Runs (checkSingleDirection config chain route pair gasPrice) events
      (.ok (some opportunity))) :
    ∃ input net, simulationInput opportunity = .ok input ∧
      ProfitabilityEngine.calculateDeterministicProfit input = .ok net ∧
      (net.raw = max 0 (opportunity.expectedRevenue.raw - opportunity.costs) ↔
        opportunity.amountIn = 0 ∨ opportunity.expectedRevenue.raw ≤ opportunity.costs) := by
  have facts := checkSingleDirection_built built
  obtain ⟨input, read, inAsset, revenue, outlay⟩ :=
    simulationInput_eq opportunity facts.inDollars
  obtain ⟨net, returned, _, raw⟩ := ProfitabilityEngine.calculateDeterministicProfit_eq inAsset
  refine ⟨input, net, read, returned, ?_⟩
  have principal : 0 ≤ opportunity.amountIn := by
    rw [← facts.capitalAtRisk]
    exact opportunity.capitalAtRisk.nonneg
  rw [raw, revenue, outlay, facts.capitalAtRisk]
  omega

def defaultScanner : ArbitrageScannerConfig where
  defaultFlashLoanProvider := .aaveV3
  identifier := fun _ now => .custom now.toNat

def dollarPair : TokenPairConfig := ⟨BASE_USDC, BASE_USDBC, "USDC", "USDbC", 6, 6⟩

def dollarRoute : Route := buySell ⟨"PancakeSmartRouter", ZERO_ADDRESS, none, none⟩ none

def usdc : Asset := ⟨"USDC", 6, by decide, by decide⟩

/-- Every leg pays a tenth more than it takes. -/
def generousAnswer : (op : ScannerOp) → op.Answer
  | .quoteAmountOut _ _ _ amountIn => .ok (amountIn + amountIn / 10)
  | .call .. => .ok ()
  | .estimateGas .. => .ok 0
  | .batchGetUsdPrices _ => .ok .empty
  | .dedupe _ => some 0

/-- The opportunity of the largest probe. -/
def dollarOpportunity : ArbitrageOpportunity where
  chain := .base
  opportunityId := .custom 0
  buyDex := dollarRoute.buyDex
  sellDex := dollarRoute.sellDex
  tokenIn := BASE_USDC
  tokenOut := BASE_USDBC
  amountIn := 500000000000
  expectedIntermediateOut := 550000000000
  expectedAmountOut := 605000000000
  expectedRevenue := ⟨usdc, 105000000000, by decide⟩
  estimatedGas := ⟨usd, 500000, by decide⟩
  flashLoanFee := ⟨usdc, 450000000, by decide⟩
  slippageBuffer := ⟨usdc, 1050000000, by decide⟩
  safetyBuffer := ⟨usdc, 525000000, by decide⟩
  capitalAtRisk := ⟨usdc, 500000000000, by decide⟩
  provider := .aaveV3
  minimumMarginBps := 120

theorem runs_dollarOpportunity :
    Async.Runs (checkSingleDirection defaultScanner .base dollarRoute dollarPair 1)
      ((checkSingleDirection defaultScanner .base dollarRoute dollarPair 1).trace generousAnswer)
      (.ok (some dollarOpportunity)) :=
  Async.runs_trace generousAnswer
    (checkSingleDirection defaultScanner .base dollarRoute dollarPair 1)

/-- A tenth on each leg pays for everything but the principal a second time. -/
theorem deterministicProfit_eq_iff_dollar :
    ∃ input net, simulationInput dollarOpportunity = .ok input ∧
      ProfitabilityEngine.calculateDeterministicProfit input = .ok net ∧
      (net.raw = max 0 (dollarOpportunity.expectedRevenue.raw - dollarOpportunity.costs) ↔
        dollarOpportunity.amountIn = 0 ∨
          dollarOpportunity.expectedRevenue.raw ≤ dollarOpportunity.costs) :=
  deterministicProfit_eq_iff defaultScanner .base dollarRoute dollarPair 1 _ dollarOpportunity
    runs_dollarOpportunity

/-- That opportunity is left with nothing. -/
theorem principal_charged_twice :
    ¬ ∀ (config : ArbitrageScannerConfig) (chain : SupportedChain) (route : Route)
      (pair : TokenPairConfig) (gasPrice : Int)
      (events : List (Async.Event ScannerOp ScannerOp.Answer))
      (opportunity : ArbitrageOpportunity),
      Async.Runs (checkSingleDirection config chain route pair gasPrice) events
        (.ok (some opportunity)) →
      ∃ input net, simulationInput opportunity = .ok input ∧
        ProfitabilityEngine.calculateDeterministicProfit input = .ok net ∧
        net.raw = max 0 (opportunity.expectedRevenue.raw - opportunity.costs) := by
  intro claim
  obtain ⟨input, net, read, returned, kept⟩ :=
    claim defaultScanner .base dollarRoute dollarPair 1 _ dollarOpportunity runs_dollarOpportunity
  obtain ⟨_, same, inAsset, revenue, outlay⟩ := simulationInput_eq dollarOpportunity rfl
  cases read.symm.trans same
  obtain ⟨_, same, _, raw⟩ := ProfitabilityEngine.calculateDeterministicProfit_eq inAsset
  cases returned.symm.trans same
  rw [raw, revenue, outlay] at kept
  exact absurd kept (by decide)

end ArbitrageScanner

end LiquidationBot
