import LiquidationBot.ArbitrageScanner
import LiquidationBot.Library.ScaledFloors

/-!
# The units of the arbitrage pre-check

The exact estimate takes what comes back, what is spent and the gas to dollars, each with
a price and decimals of its own. The pre-check subtracts them as they are: the gas is a
number of wei among amounts of the token. For a token of one dollar the two agree exactly
where that number, counted in the token, is worth the gas.
-/

namespace LiquidationBot

open ScaledFloors

/-- `calculateExactUsdEV`, with the prices that the cache answers. -/
def calculateExactUsdEV (input : ExactUsdEVInput) (prices : InsertionMap Address Int) :
    Except ScannerError ExactUsdEV := do
  assertExactUsdInput input
  exactUsdEV input prices

/-- One dollar, with eight decimals. -/
def ONE_USD : Int := 100000000

namespace ArbitrageScanner

/-- What the exact estimate accepts, the pre-check accepts, and the two profits are apart by
less than two units of the eighth decimal: three floors are taken. -/
def PrecheckAgrees (input : ExactUsdEVInput) (prices : InsertionMap Address Int) : Prop :=
  ∀ exact, calculateExactUsdEV input prices = .ok exact → exact.isPriceAvailable = true →
    exact.isProfitable = true →
      ∃ ev, calculateFlashLoanArbitrageEV input.toFlashLoanArbitrageInput = .ok ev ∧
        ev.isProfitable = true ∧
          |(exact.netProfitUsdRaw : ℚ) - ev.rawProfitWei * 10 ^ 8 / 10 ^ input.tokenInDecimals| < 2

/-! ## What the estimates return -/

/-- What is spent before gas: what goes in, the fee and the slippage. -/
def spentOf (input : FlashLoanArbitrageInput) : Int :=
  input.amountIn + (input.amountIn * mathTrunc input.flashFeeBps).tdiv 10000 +
    (input.amountOutFinal * mathTrunc input.slippageBps).tdiv 10000

/-- The inputs that the estimates assert. -/
structure Nonnegative (input : FlashLoanArbitrageInput) : Prop where
  amountIn : 0 ≤ input.amountIn
  amountOutFinal : 0 ≤ input.amountOutFinal
  gasEstimate : 0 ≤ input.gasEstimate
  gasPrice : 0 ≤ input.gasPrice
  minProfitThreshold : 0 ≤ input.minProfitThreshold
  flashFeeBps : 0 ≤ input.flashFeeBps
  slippageBps : 0 ≤ input.slippageBps

theorem assertNonNegativeBigint_eq_ok {field : ArbitrageEvField} {value : Int} :
    assertNonNegativeBigint field value = .ok () ↔ 0 ≤ value := by
  unfold assertNonNegativeBigint
  split
  next negative => simp [negative]
  next nonneg => simp [not_lt.mp nonneg]

theorem assertNonNegativeBps_eq_ok {field : ArbitrageEvField} {value : ℚ} :
    assertNonNegativeBps field value = .ok () ↔ 0 ≤ value := by
  unfold assertNonNegativeBps
  split
  next negative => simp [negative]
  next nonneg => simp [not_lt.mp nonneg]

/-- The pre-check returns for what it asserts, and compares what is left with its threshold. -/
theorem calculateFlashLoanArbitrageEV_eq_ok {input : FlashLoanArbitrageInput}
    {ev : FlashLoanArbitrageEV} (returned : calculateFlashLoanArbitrageEV input = .ok ev) :
    Nonnegative input ∧ ev.gasCostWei = input.gasEstimate * input.gasPrice ∧
      input.amountIn + ev.flashFeeWei + ev.slippageBufferWei = spentOf input ∧
      ev.rawProfitWei =
        input.amountOutFinal - spentOf input - input.gasEstimate * input.gasPrice ∧
      (ev.isProfitable = true ↔ input.minProfitThreshold ≤ ev.rawProfitWei) := by
  obtain ⟨_, amountIn, returned⟩ := (Throwing.bind_eq_ok_iff _ _ _).mp returned
  obtain ⟨_, amountOutFinal, returned⟩ := (Throwing.bind_eq_ok_iff _ _ _).mp returned
  obtain ⟨_, gasEstimate, returned⟩ := (Throwing.bind_eq_ok_iff _ _ _).mp returned
  obtain ⟨_, gasPrice, returned⟩ := (Throwing.bind_eq_ok_iff _ _ _).mp returned
  obtain ⟨_, minProfitThreshold, returned⟩ := (Throwing.bind_eq_ok_iff _ _ _).mp returned
  obtain ⟨_, flashFeeBps, returned⟩ := (Throwing.bind_eq_ok_iff _ _ _).mp returned
  obtain ⟨_, slippageBps, returned⟩ := (Throwing.bind_eq_ok_iff _ _ _).mp returned
  cases returned
  refine ⟨⟨assertNonNegativeBigint_eq_ok.mp amountIn, assertNonNegativeBigint_eq_ok.mp amountOutFinal,
    assertNonNegativeBigint_eq_ok.mp gasEstimate, assertNonNegativeBigint_eq_ok.mp gasPrice,
    assertNonNegativeBigint_eq_ok.mp minProfitThreshold, assertNonNegativeBps_eq_ok.mp flashFeeBps,
    assertNonNegativeBps_eq_ok.mp slippageBps⟩, rfl, rfl, ?_, decide_eq_true_iff⟩
  rw [spentOf]
  ring

theorem exists_flashLoanArbitrageEV {input : FlashLoanArbitrageInput}
    (nonneg : Nonnegative input) : ∃ ev, calculateFlashLoanArbitrageEV input = .ok ev := by
  have amounts (field : ArbitrageEvField) {value : Int} (least : 0 ≤ value) :
      assertNonNegativeBigint field value = .ok () := assertNonNegativeBigint_eq_ok.mpr least
  have figures (field : ArbitrageEvField) {value : ℚ} (least : 0 ≤ value) :
      assertNonNegativeBps field value = .ok () := assertNonNegativeBps_eq_ok.mpr least
  rw [calculateFlashLoanArbitrageEV, amounts .amountIn nonneg.amountIn,
    amounts .amountOutFinal nonneg.amountOutFinal, amounts .gasEstimate nonneg.gasEstimate,
    amounts .gasPrice nonneg.gasPrice, amounts .minProfitThreshold nonneg.minProfitThreshold,
    figures .flashFeeBps nonneg.flashFeeBps, figures .slippageBps nonneg.slippageBps]
  exact ⟨_, rfl⟩

/-- With both prices known the exact estimate returns for what both estimates assert. -/
theorem calculateExactUsdEV_eq_ok {input : ExactUsdEVInput} {prices : InsertionMap Address Int}
    {tokenPrice nativePrice : Int} {exact : ExactUsdEV}
    (token : prices.get? input.tokenIn = some tokenPrice)
    (native : prices.get? input.nativeGasToken = some nativePrice)
    (priced : 0 < tokenPrice ∧ 0 < nativePrice)
    (returned : calculateExactUsdEV input prices = .ok exact) :
    Nonnegative input.toFlashLoanArbitrageInput ∧
      exact.netProfitUsdRaw =
        tokenAmountToUsdRaw input.amountOutFinal input.tokenInDecimals tokenPrice -
          (tokenAmountToUsdRaw (spentOf input.toFlashLoanArbitrageInput) input.tokenInDecimals
              tokenPrice +
            tokenAmountToUsdRaw (input.gasEstimate * input.gasPrice) input.nativeGasTokenDecimals
              nativePrice) ∧
      (exact.isProfitable = true ↔ input.minProfitUsdRaw ≤ exact.netProfitUsdRaw) := by
  obtain ⟨_, _, returned⟩ := (Throwing.bind_eq_ok_iff _ _ _).mp returned
  unfold exactUsdEV at returned
  simp only [token, native, Option.getD_some, not_le.mpr priced.1, not_le.mpr priced.2, or_self,
    if_false] at returned
  obtain ⟨ev, precheck, returned⟩ := (Throwing.bind_eq_ok_iff _ _ _).mp returned
  obtain ⟨nonneg, gas, spent, _⟩ := calculateFlashLoanArbitrageEV_eq_ok precheck
  cases returned
  rw [spent, gas]
  exact ⟨nonneg, rfl, decide_eq_true_iff⟩

theorem exists_exactUsdEV {input : ExactUsdEVInput} {prices : InsertionMap Address Int}
    {tokenPrice nativePrice : Int} (token : prices.get? input.tokenIn = some tokenPrice)
    (native : prices.get? input.nativeGasToken = some nativePrice)
    (priced : 0 < tokenPrice ∧ 0 < nativePrice)
    (nonneg : Nonnegative input.toFlashLoanArbitrageInput) (threshold : 0 ≤ input.minProfitUsdRaw) :
    ∃ exact, calculateExactUsdEV input prices = .ok exact ∧ exact.isPriceAvailable = true := by
  obtain ⟨ev, precheck⟩ := exists_flashLoanArbitrageEV nonneg
  rw [calculateExactUsdEV, assertExactUsdInput, assertNonNegativeBigint_eq_ok.mpr nonneg.amountIn,
    assertNonNegativeBigint_eq_ok.mpr nonneg.amountOutFinal,
    assertNonNegativeBigint_eq_ok.mpr threshold, exactUsdEV, token, native, precheck]
  simp only [Option.getD_some, not_le.mpr priced.1, not_le.mpr priced.2, or_self, if_false]
  exact ⟨_, rfl, rfl⟩

/-! ## One dollar -/

/-- An amount of a token of one dollar, in dollars. -/
theorem tokenAmountToUsdRaw_oneUsd {amount : Int} (nonneg : 0 ≤ amount) (decimals : Nat) :
    tokenAmountToUsdRaw amount decimals ONE_USD = amount * 10 ^ (8 - decimals) / 10 ^ (decimals - 8) := by
  have price : ONE_USD = 10 ^ (8 - decimals) * 10 ^ min decimals 8 := by
    rw [← pow_add, show 8 - decimals + min decimals 8 = 8 by omega]
    rfl
  have scale : (10 : Int) ^ decimals = 10 ^ (decimals - 8) * 10 ^ min decimals 8 := by
    rw [← pow_add]
    congr 1
    omega
  rw [tokenAmountToUsdRaw, Int.tdiv_eq_ediv_of_nonneg (mul_nonneg nonneg (by decide)), price, scale,
    ← mul_assoc, Int.mul_ediv_mul_of_pos_left _ _ (by positivity)]

/-- The profits in dollars, as whole numbers. -/
theorem agrees_iff (decimals : Nat) (net raw : Int) :
    |(net : ℚ) - raw * 10 ^ 8 / 10 ^ decimals| < 2 ↔
      |net * 10 ^ (decimals - 8) - raw * 10 ^ (8 - decimals)| < 2 * 10 ^ (decimals - 8) := by
  have positive : (0 : ℚ) < 10 ^ (decimals - 8) := by positivity
  have price : (10 : ℚ) ^ 8 = 10 ^ (8 - decimals) * 10 ^ min decimals 8 := by
    rw [← pow_add, show 8 - decimals + min decimals 8 = 8 by omega]
  have scale : (10 : ℚ) ^ decimals = 10 ^ (decimals - 8) * 10 ^ min decimals 8 := by
    rw [← pow_add]
    congr 1
    omega
  have scaled : (net : ℚ) - raw * 10 ^ 8 / 10 ^ decimals =
      (net * 10 ^ (decimals - 8) - raw * 10 ^ (8 - decimals)) / 10 ^ (decimals - 8) := by
    rw [price, scale]
    field_simp
  rw [scaled, abs_div, abs_of_pos positive, div_lt_iff₀ positive]
  exact_mod_cast Iff.rfl

theorem oneUsd_unit (decimals : Nat) :
    (10 : Int) ^ (8 - decimals) = 1 ∨ (10 : Int) ^ (decimals - 8) = 1 := by
  rcases Nat.le_total decimals 8 with few | many
  · exact Or.inr (by rw [Nat.sub_eq_zero_of_le few, pow_zero])
  · exact Or.inl (by rw [Nat.sub_eq_zero_of_le many, pow_zero])

/-! ## Over all amounts, fees and slippages -/

/-- The thresholds and the decimals of gas are those of the source; fees and slippage are free. -/
structure SourceThresholds (config : ArbitrageScannerConfig) (gasToken : Address) : Prop where
  token : config.baseMinProfitThreshold = MIN_PROFIT_THRESHOLD_BNB
  usd : config.exactUsdMinProfitRaw = 15000000
  gas : config.nativeGasTokenByChain .base = gasToken
  gasDecimals : config.nativeGasTokenDecimalsByChain .base = 18

/-- Fifteen hundredths of a token. -/
def tokenThreshold (decimals : Nat) : Int := 15 * 10 ^ decimals / 100

/-- The number of wei is what the gas costs in raw units of the token. With the threshold it is
at most the least gain that is worth fifteen cents more than the gas, and it is worth the gas
up to one unit of the eighth decimal. -/
def GasInTokenUnits (decimals : Nat) (gas gasUsdRaw : Int) : Prop :=
  (tokenThreshold decimals + gas - 1) * 10 ^ (8 - decimals) ≤
      (14999999 + gasUsdRaw) * 10 ^ (decimals - 8) ∧
    |gas * 10 ^ (8 - decimals) - gasUsdRaw * 10 ^ (decimals - 8)| ≤ 10 ^ (decimals - 8)

instance (decimals : Nat) (gas gasUsdRaw : Int) :
    Decidable (GasInTokenUnits decimals gas gasUsdRaw) :=
  inferInstanceAs (Decidable (_ ∧ _))

/-- The two estimates agree on what is spent before gas and on what comes back. -/
def AgreesOn (decimals : Nat) (gas gasUsdRaw spent returned : Int) : Prop :=
  15000000 + gasUsdRaw ≤ returned * 10 ^ (8 - decimals) / 10 ^ (decimals - 8) -
      spent * 10 ^ (8 - decimals) / 10 ^ (decimals - 8) →
    tokenThreshold decimals + gas ≤ returned - spent ∧
      |(returned * 10 ^ (8 - decimals) / 10 ^ (decimals - 8) -
            spent * 10 ^ (8 - decimals) / 10 ^ (decimals - 8) - gasUsdRaw) * 10 ^ (decimals - 8) -
          (returned - spent - gas) * 10 ^ (8 - decimals)| < 2 * 10 ^ (decimals - 8)

/-- They agree on all amounts exactly if the gas is counted in the token. -/
theorem agreesOn_iff (decimals : Nat) {gas gasUsdRaw : Int} (nonneg : 0 ≤ gasUsdRaw) :
    (∀ spent returned : Int, 0 ≤ spent → 0 ≤ returned →
      AgreesOn decimals gas gasUsdRaw spent returned) ↔ GasInTokenUnits decimals gas gasUsdRaw := by
  have unit := oneUsd_unit decimals
  have scale : (0 : Int) < 10 ^ (8 - decimals) := by positivity
  have positive : (0 : Int) < 10 ^ (decimals - 8) := by positivity
  have some : 1 ≤ 15000000 + gasUsdRaw := by omega
  have gains := gains_iff unit scale positive some (tokenThreshold decimals + gas)
  have rounding := rounding_iff unit scale positive some gasUsdRaw gas
  rw [show 15000000 + gasUsdRaw - 1 = 14999999 + gasUsdRaw by omega] at gains
  rw [GasInTokenUnits, ← gains, ← rounding]
  constructor
  · intro agrees
    exact ⟨fun spent returned least more reached => (agrees spent returned least more reached).1,
      fun spent returned least more reached => (agrees spent returned least more reached).2⟩
  · rintro ⟨enough, close⟩ spent returned least more reached
    exact ⟨enough spent returned least more reached, close spent returned least more reached⟩

theorem spentOf_nonneg {input : FlashLoanArbitrageInput} (nonneg : Nonnegative input) :
    0 ≤ spentOf input := by
  have trunc (figure : ℚ) (least : 0 ≤ figure) : 0 ≤ mathTrunc figure :=
    Int.tdiv_nonneg (Rat.num_nonneg.mpr least) (Int.natCast_nonneg _)
  have fee : 0 ≤ (input.amountIn * mathTrunc input.flashFeeBps).tdiv 10000 :=
    Int.tdiv_nonneg (mul_nonneg nonneg.amountIn (trunc _ nonneg.flashFeeBps)) (by decide)
  have slippage : 0 ≤ (input.amountOutFinal * mathTrunc input.slippageBps).tdiv 10000 :=
    Int.tdiv_nonneg (mul_nonneg nonneg.amountOutFinal (trunc _ nonneg.slippageBps)) (by decide)
  have amountIn := nonneg.amountIn
  rw [spentOf]
  omega

section Amounts

variable {config : ArbitrageScannerConfig} {pair : TokenPairConfig} {gasToken : Address}
  {prices : InsertionMap Address Int} {nativePrice gasEstimate gasPrice : Int}

theorem minProfitThresholdForPair_eq (thresholds : SourceThresholds config gasToken) :
    minProfitThresholdForPair config .base pair = tokenThreshold pair.decimalsIn := by
  unfold minProfitThresholdForPair tokenThreshold
  rw [if_neg (by simp), thresholds.token, MIN_PROFIT_THRESHOLD_BNB]
  split
  next same =>
    rw [same]
    decide
  next =>
    split
    next many =>
      have split : (10 : Int) ^ pair.decimalsIn = 10 ^ (pair.decimalsIn - 18) * 10 ^ 18 := by
        rw [← pow_add, Nat.sub_add_cancel many.le]
      rw [split]
      omega
    next =>
      have few : pair.decimalsIn ≤ 18 := by omega
      have whole : (10 : Int) ^ (18 - pair.decimalsIn) * 10 ^ pair.decimalsIn = 100 * 10 ^ 16 := by
        rw [← pow_add, Nat.sub_add_cancel few]
        norm_num
      rw [Int.tdiv_eq_ediv_of_nonneg (by decide),
        ← Int.mul_ediv_mul_of_pos_left _ _ (show (0 : Int) < 10 ^ pair.decimalsIn by positivity), whole,
        show (150000000000000000 : Int) * 10 ^ pair.decimalsIn = 15 * 10 ^ pair.decimalsIn * 10 ^ 16 by
          ring,
        Int.mul_ediv_mul_of_pos_left _ _ (by norm_num)]

section Priced

variable (thresholds : SourceThresholds config gasToken)
  (token : prices.get? pair.tokenIn = some ONE_USD)
  (native : prices.get? gasToken = some nativePrice) (priced : 0 < nativePrice)

include thresholds token native priced

/-- A probe with amounts, fee and slippage that are asserted. -/
theorem precheckAgrees_iff_agreesOn {amountIn amountOutFinal : Int}
    (nonneg : Nonnegative (evInput config .base pair amountIn amountOutFinal gasEstimate
      gasPrice).toFlashLoanArbitrageInput) :
    PrecheckAgrees (evInput config .base pair amountIn amountOutFinal gasEstimate gasPrice) prices ↔
      AgreesOn pair.decimalsIn (gasEstimate * gasPrice)
        (gasEstimate * gasPrice * nativePrice / 10 ^ 18)
        (spentOf (evInput config .base pair amountIn amountOutFinal gasEstimate
          gasPrice).toFlashLoanArbitrageInput) amountOutFinal := by
  have bothPriced : 0 < ONE_USD ∧ 0 < nativePrice := ⟨by decide, priced⟩
  have least : 0 ≤ gasEstimate * gasPrice := mul_nonneg nonneg.gasEstimate nonneg.gasPrice
  have returnedNonneg : 0 ≤ amountOutFinal := nonneg.amountOutFinal
  have gas : tokenAmountToUsdRaw (gasEstimate * gasPrice) 18 nativePrice =
      gasEstimate * gasPrice * nativePrice / 10 ^ 18 :=
    Int.tdiv_eq_ediv_of_nonneg (mul_nonneg least priced.le)
  rw [← thresholds.gas] at native
  obtain ⟨ev, precheck⟩ := exists_flashLoanArbitrageEV nonneg
  obtain ⟨_, _, _, raw, profitable⟩ := calculateFlashLoanArbitrageEV_eq_ok precheck
  obtain ⟨exact, found, available⟩ := exists_exactUsdEV token native bothPriced nonneg
    (show 0 ≤ config.exactUsdMinProfitRaw by rw [thresholds.usd]; decide)
  obtain ⟨_, net, accepted⟩ := calculateExactUsdEV_eq_ok token native bothPriced found
  have spentNonneg := spentOf_nonneg nonneg
  obtain ⟨spent, known⟩ : ∃ spent, spent = spentOf (evInput config .base pair amountIn
    amountOutFinal gasEstimate gasPrice).toFlashLoanArbitrageInput := ⟨_, rfl⟩
  rw [← known] at net raw spentNonneg ⊢
  simp only [evInput, thresholds.gasDecimals, thresholds.usd, gas,
    minProfitThresholdForPair_eq thresholds, tokenAmountToUsdRaw_oneUsd returnedNonneg,
    tokenAmountToUsdRaw_oneUsd spentNonneg] at net raw profitable accepted
  have apart := agrees_iff pair.decimalsIn exact.netProfitUsdRaw ev.rawProfitWei
  rw [net, raw, ← sub_sub] at apart
  rw [net] at accepted
  rw [raw] at profitable
  constructor
  · intro agrees reached
    obtain ⟨_, same, profits, close⟩ := agrees exact found available (accepted.mpr (by omega))
    cases same.symm.trans precheck
    rw [net, raw, ← sub_sub] at close
    exact ⟨by have := profitable.mp profits; omega, apart.mp close⟩
  · intro agrees other same _ profits
    cases same.symm.trans found
    obtain ⟨enough, close⟩ := agrees (by have := accepted.mp profits; omega)
    refine ⟨ev, precheck, profitable.mpr (by omega), ?_⟩
    rw [net, raw, ← sub_sub]
    exact apart.mpr close

end Priced

end Amounts

/-- A scanner that is charged neither a fee nor slippage. -/
def freeScanner (gasToken : Address) : ArbitrageScannerConfig :=
  { defaultScanner with
    flashFeeBps := 0
    arbitrageSlippageBps := 0
    nativeGasTokenByChain := fun _ => gasToken }

theorem sourceThresholds_free (gasToken : Address) :
    SourceThresholds (freeScanner gasToken) gasToken := ⟨rfl, rfl, rfl, rfl⟩

/-- Without a fee and slippage, what goes in is spent. -/
theorem spentOf_free (gasToken : Address) (pair : TokenPairConfig)
    (amountIn amountOutFinal gasEstimate gasPrice : Int) :
    spentOf (evInput (freeScanner gasToken) .base pair amountIn amountOutFinal gasEstimate
      gasPrice).toFlashLoanArbitrageInput = amountIn := by
  have free : mathTrunc 0 = 0 := rfl
  simp [spentOf, evInput, freeScanner, free]

/-- For a token of one dollar on base, the pre-check agrees with the exact estimate for every
fee, slippage and amount, exactly if the gas is counted in the token. -/
theorem precheck_agrees_iff (pair : TokenPairConfig) (gasToken : Address)
    (prices : InsertionMap Address Int) (nativePrice gasEstimate gasPrice : Int)
    (token : prices.get? pair.tokenIn = some ONE_USD)
    (native : prices.get? gasToken = some nativePrice) (priced : 0 < nativePrice)
    (estimated : 0 ≤ gasEstimate) (gasPriced : 0 ≤ gasPrice) :
    (∀ config, SourceThresholds config gasToken → ∀ amountIn amountOutFinal,
      PrecheckAgrees (evInput config .base pair amountIn amountOutFinal gasEstimate gasPrice)
        prices) ↔
      GasInTokenUnits pair.decimalsIn (gasEstimate * gasPrice)
        (gasEstimate * gasPrice * nativePrice / 10 ^ 18) := by
  have gas : 0 ≤ gasEstimate * gasPrice := mul_nonneg estimated gasPriced
  rw [← agreesOn_iff _ (Int.ediv_nonneg (mul_nonneg gas priced.le) (by positivity))]
  constructor
  · intro agrees spent returned least more
    have thresholds := sourceThresholds_free gasToken
    have nonneg : Nonnegative (evInput (freeScanner gasToken) .base pair spent returned gasEstimate
        gasPrice).toFlashLoanArbitrageInput := by
      refine ⟨least, more, estimated, gasPriced, ?_, le_refl (0 : ℚ), le_refl (0 : ℚ)⟩
      change 0 ≤ minProfitThresholdForPair (freeScanner gasToken) .base pair
      rw [minProfitThresholdForPair_eq thresholds]
      exact Int.ediv_nonneg (by positivity) (by decide)
    have agreesOn := (precheckAgrees_iff_agreesOn thresholds token native priced nonneg).mp
      (agrees _ thresholds spent returned)
    rwa [spentOf_free] at agreesOn
  · intro agreesOn config thresholds amountIn amountOutFinal exact found available profits
    obtain ⟨nonneg, _⟩ := calculateExactUsdEV_eq_ok token
      (show prices.get? (config.nativeGasTokenByChain .base) = some nativePrice by
        rw [thresholds.gas, native]) ⟨by decide, priced⟩ found
    exact (precheckAgrees_iff_agreesOn thresholds token native priced nonneg).mpr
      (agreesOn _ _ (spentOf_nonneg nonneg) nonneg.amountOutFinal) exact found available profits

/-- A dollar, and three thousand dollars for what gas is paid with. -/
def dollarPrices : InsertionMap Address Int :=
  (InsertionMap.empty.set BASE_USDC ONE_USD).set (nativeGasTokens .base) 300000000000

/-- For free gas the two agree on a gain of ten thousand dollars. -/
theorem precheck_agrees_iff_free :
    PrecheckAgrees (evInput defaultScanner .base dollarPair 50000000000 60000000000 500000 0)
      dollarPrices :=
  (precheck_agrees_iff dollarPair (nativeGasTokens .base) dollarPrices 300000000000 500000 0
    (by decide +kernel) (by decide +kernel) (by decide) (by decide) (by decide)).mpr
      (by decide +kernel) defaultScanner ⟨rfl, rfl, rfl, rfl⟩ 50000000000 60000000000

/-- Gas of half a milliether is a dollar and a half. The pre-check rejects a gain of ten
thousand dollars for it. -/
theorem gas_outweighs_gain :
    ¬ ∀ (config : ArbitrageScannerConfig) (pair : TokenPairConfig) (gasToken : Address)
      (prices : InsertionMap Address Int) (gasEstimate gasPrice amountIn amountOutFinal : Int),
      SourceThresholds config gasToken → pair.decimalsIn ≤ 36 →
        prices.get? pair.tokenIn = some ONE_USD →
          PrecheckAgrees (evInput config .base pair amountIn amountOutFinal gasEstimate gasPrice)
            prices := by
  intro claim
  have agrees := claim defaultScanner dollarPair (nativeGasTokens .base) dollarPrices 500000
    1000000000 50000000000 60000000000 ⟨rfl, rfl, rfl, rfl⟩ (by decide) (by decide +kernel)
  obtain ⟨ev, precheck, profits, _⟩ :=
    agrees ⟨935350000000, 6000000000000, 5064650000000, true, true⟩ rfl rfl rfl
  obtain ⟨_, _, _, raw, decided⟩ := calculateFlashLoanArbitrageEV_eq_ok precheck
  rw [decided, raw] at profits
  revert profits
  decide +kernel

end ArbitrageScanner

end LiquidationBot
