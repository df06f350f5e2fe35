import LiquidationBot.Library.AsyncTurns
import LiquidationBot.Library.Averages
import LiquidationBot.HealthFactorMonitor

/-!
# The gate before a liquidation

The gate values the debt of a candidate with a price read for the purpose, asks
whether the bonus covers gas and flash fee with a margin, and then asks the dust
filter and the sanity check of the oracle. The evaluation is logged before the
dust filter is asked, so what is logged and what is kept are two verdicts.

Figures in dollars are exact. What the gate is answered may throw anything, and
the gate catches nothing.
-/

namespace LiquidationBot

/-- `LiquidationProfitabilityInput`. -/
structure LiquidationProfitabilityInput where
  debtUsd : ℚ
  liquidationBonusBps : ℚ
  gasCostUsd : ℚ
  flashFeeBps : ℚ
  hardFloorUsd : ℚ
  safetyBufferMultiplier : Option ℚ
deriving DecidableEq

/-- `LiquidationProfitabilityResult`. -/
structure LiquidationProfitabilityResult where
  pass : Bool
  dynamicFloor : ℚ
  hardFloor : ℚ
  effectiveFloor : ℚ
  gasCostUsd : ℚ
  flashFeeUsd : ℚ
  bonusRate : ℚ
  netProfitUsd : ℚ
deriving DecidableEq

def defaultSafetyBuffer : ℚ := 5 / 4

def defaultBonusBps : ℚ := 500

/-- `effectiveBonusRate`: the configured bonus, or the default for one that is not
positive. -/
def effectiveBonusRate (liquidationBonusBps : ℚ) : ℚ :=
  if 0 < liquidationBonusBps / 10000 then liquidationBonusBps / 10000 else defaultBonusBps / 10000

def evaluateLiquidationProfitability (input : LiquidationProfitabilityInput) :
    LiquidationProfitabilityResult :=
  let bonusRate := effectiveBonusRate input.liquidationBonusBps
  let flashFeeUsd := input.debtUsd * (input.flashFeeBps / 10000)
  let buffer := input.safetyBufferMultiplier.getD defaultSafetyBuffer
  let dynamicFloor := (input.gasCostUsd + flashFeeUsd) / bonusRate * buffer
  let effectiveFloor := max dynamicFloor input.hardFloorUsd
  { pass := decide (effectiveFloor ≤ input.debtUsd)
    dynamicFloor := dynamicFloor
    hardFloor := input.hardFloorUsd
    effectiveFloor := effectiveFloor
    gasCostUsd := input.gasCostUsd
    flashFeeUsd := flashFeeUsd
    bonusRate := bonusRate
    netProfitUsd := input.debtUsd * bonusRate - input.gasCostUsd - flashFeeUsd }

/-- A debt in units of its token, at a price with eight decimals. -/
def computeDebtUsdFromWei (debtRaw : Nat) (debtDecimals : Nat) (priceUsd8 : Int) : ℚ :=
  if debtRaw = 0 ∨ priceUsd8 ≤ 0 then 0 else debtRaw / 10 ^ debtDecimals * (priceUsd8 / 10 ^ 8)

/-- The reasons of the gate's decision: two of its own, and those of the filter. -/
inductive GateDustReason where
  | oracle_untrusted
  | below_profitability_floor
  | filtered (reason : DustFilterReason)
deriving DecidableEq

/-- `DustFilterDecision`. -/
structure DustFilterDecision where
  debtUsd : ℚ
  isDust : Bool
  reason : Option GateDustReason
deriving DecidableEq

/-- The decision of `evaluateDustFilter`, which reports no debt for one that is not
positive. -/
def dustFilterDecision (debtUsd minDebtUsd gasCostUsd : ℚ) : DustFilterDecision :=
  match evaluateDustFilter (some debtUsd) minDebtUsd gasCostUsd with
  | none => ⟨debtUsd, false, none⟩
  | some .non_positive_debt => ⟨0, true, some (.filtered .non_positive_debt)⟩
  | some reason => ⟨debtUsd, true, some (.filtered reason)⟩

/-- `LiquidationCandidateGateConfig`, with what it has an object or a hook for. -/
structure LiquidationCandidateGateConfig where
  minDebtUsd : ℚ
  hasPriceOracle : Bool
  hasOracleSanityCheck : Bool
  resolveDebtDecimals : Option (Address → Nat)

/-- The debt that a candidate is judged by. -/
structure ResolvedDebt where
  debtUsd : ℚ
  trusted : Bool
deriving DecidableEq

/-- An answer of the sanity check. An infinite deviation is none. -/
structure OracleSanityResult where
  pass : Bool
  deviationPct : Option ℚ
deriving DecidableEq

/-- The row of `liquidation_evaluated`, whose `pass` is the final one. -/
structure LiquidationEvaluated where
  chain : SupportedChain
  account : Address
  stage : String
  debtUsd : ℚ
  profitability : LiquidationProfitabilityResult
  pass : Bool
deriving DecidableEq

/-- Why a diagnostic row was skipped. The floor stands in the text with two digits. -/
inductive GateSkipReason where
  | oracle_sanity_deviation
  | below_effective_floor (effectiveFloor : ℚ)
deriving DecidableEq

/-- `CycleDiagnosticRow` of a liquidation. -/
structure LiquidationDiagnosticRow where
  account : Address
  stage : String
  grossProfitUsd : ℚ
  gasCostUsd : ℚ
  netDeltaUsd : ℚ
  failureMarginBps : Int
  skipReason : Option GateSkipReason
  passed : Bool
deriving DecidableEq

/-- The accounts and assets that the gate's warnings name. -/
structure GateSubject where
  chain : SupportedChain
  account : Address
  debtAsset : Address
  collateralAsset : Address
deriving DecidableEq

/-- What the gate asks for and what it reports. -/
inductive GateOp where
  | resolveGasCostUsd
  | resolveFlashFeeBps
  | isBorrowerBlocked (chain : SupportedChain) (account : Address)
  | forceRefreshUsdPrices (tokens : List Address)
  | oracleSanityCheck (subject : GateSubject)
  | oracle_price_untrusted_critical (subject : GateSubject)
  | oracle_sanity_gate_blocked (subject : GateSubject) (deviationPct : Option ℚ)
  | liquidation_evaluated (row : LiquidationEvaluated)
  | recordDiagnostic (row : LiquidationDiagnosticRow)
  | logLiquidationDustDecision (subject : GateSubject) (stage : String)
      (decision : DustFilterDecision) (minDebtUsd effectiveFloorUsd : ℚ)
  | recordDustFiltered
deriving DecidableEq

@[reducible] def GateOp.Answer (ε : Type) : GateOp → Type
  | .resolveGasCostUsd => Except ε ℚ
  | .resolveFlashFeeBps => Except ε ℚ
  | .isBorrowerBlocked _ _ => Bool
  | .forceRefreshUsdPrices _ => Except ε (InsertionMap Address Int)
  | .oracleSanityCheck _ => Except ε OracleSanityResult
  | _ => Unit

abbrev GateM (ε : Type) := Async GateOp (GateOp.Answer ε) ε

namespace LiquidationCandidateGate

variable {ε : Type}

/-! ## The program -/

/-- The suffixes that the addresses are compared by are whole addresses. -/
def resolveDebtDecimals (config : LiquidationCandidateGateConfig) (asset : Address) : Nat :=
  match config.resolveDebtDecimals with
  | some resolve => resolve asset
  | none =>
      if asset.value = 0x833589fcd6edb6e08f4c7c32d4f71b54bda02913 then 6
      else if asset.value = 0x4200000000000000000000000000000000000006 then 18
      else 18

def subjectOf (chain : SupportedChain) (candidate : LiquidationCandidate) : GateSubject :=
  ⟨chain, candidate.account, candidate.debtAsset, candidate.collateralAsset⟩

/-- The debt under an answer of `forceRefreshUsdPrices`. -/
def debtUnder (config : LiquidationCandidateGateConfig) (candidate : LiquidationCandidate)
    (prices : InsertionMap Address Int) : ResolvedDebt :=
  let debtPrice := (prices.get? candidate.debtAsset).getD 0
  if debtPrice ≤ 0 then ⟨0, false⟩
  else
    ⟨computeDebtUsdFromWei candidate.debtToCover (resolveDebtDecimals config candidate.debtAsset)
      debtPrice, true⟩

def resolveFreshDebtUsd (config : LiquidationCandidateGateConfig) (chain : SupportedChain)
    (candidate : LiquidationCandidate) : GateM ε ResolvedDebt :=
  if !config.hasPriceOracle then .pure ⟨candidate.repayValueUsd, true⟩
  else do
    let prices ← (.call (.forceRefreshUsdPrices [candidate.debtAsset, candidate.collateralAsset])
      Async.orThrow : GateM ε _)
    let resolved := debtUnder config candidate prices
    if !resolved.trusted then
      Async.perform (GateOp.oracle_price_untrusted_critical (subjectOf chain candidate))
    return resolved

/-- The check of the oracle, if there is one. -/
def sanityPass (config : LiquidationCandidateGateConfig) (chain : SupportedChain)
    (candidate : LiquidationCandidate) : GateM ε Bool :=
  if !config.hasOracleSanityCheck then .pure true
  else do
    let sanity ← (.call (.oracleSanityCheck (subjectOf chain candidate)) Async.orThrow : GateM ε _)
    if !sanity.pass then
      Async.perform
        (GateOp.oracle_sanity_gate_blocked (subjectOf chain candidate) sanity.deviationPct)
    return sanity.pass

def buildFilterDecision (resolved : ResolvedDebt) (profitabilityPass : Bool) (gasCostUsd : ℚ) :
    DustFilterDecision :=
  if !resolved.trusted then ⟨resolved.debtUsd, true, some .oracle_untrusted⟩
  else if !profitabilityPass then ⟨resolved.debtUsd, true, some .below_profitability_floor⟩
  else dustFilterDecision resolved.debtUsd 0 gasCostUsd

/-- `profitability` of a candidate with its resolved debt. -/
def profitabilityOf (config : LiquidationCandidateGateConfig) (candidate : LiquidationCandidate)
    (gasCostUsd flashFeeBps debtUsd : ℚ) : LiquidationProfitabilityResult :=
  evaluateLiquidationProfitability
    ⟨debtUsd, candidate.liquidationBonusBps, gasCostUsd, flashFeeBps, config.minDebtUsd, none⟩

def diagnosticRow (candidate : LiquidationCandidate) (stage : String) (gasCostUsd debtUsd : ℚ)
    (profitability : LiquidationProfitabilityResult) (sanity finalPass : Bool) :
    LiquidationDiagnosticRow where
  account := candidate.account
  stage := stage
  grossProfitUsd := debtUsd * (candidate.liquidationBonusBps / 10000)
  gasCostUsd := gasCostUsd
  netDeltaUsd := profitability.netProfitUsd
  failureMarginBps :=
    if 0 < profitability.effectiveFloor then
      mathRound (profitability.netProfitUsd / profitability.effectiveFloor * 10000)
    else 0
  skipReason :=
    if finalPass then none
    else if !sanity then some .oracle_sanity_deviation
    else some (.below_effective_floor profitability.effectiveFloor)
  passed := finalPass

def evaluatedRow (config : LiquidationCandidateGateConfig) (chain : SupportedChain)
    (stage : String) (gasCostUsd flashFeeBps : ℚ) (candidate : LiquidationCandidate)
    (resolved : ResolvedDebt) (sanity : Bool) : LiquidationEvaluated :=
  let profitability := profitabilityOf config candidate gasCostUsd flashFeeBps resolved.debtUsd
  { chain := chain
    account := candidate.account
    stage := stage
    debtUsd := resolved.debtUsd
    profitability := profitability
    pass := resolved.trusted && profitability.pass && sanity }

/-- The reports of an evaluation, and what is kept of its candidate. -/
def settle (config : LiquidationCandidateGateConfig) (chain : SupportedChain) (stage : String)
    (gasCostUsd flashFeeBps : ℚ) (candidate : LiquidationCandidate) (resolved : ResolvedDebt)
    (sanity : Bool) : GateM ε (Option LiquidationCandidate) := do
  let row := evaluatedRow config chain stage gasCostUsd flashFeeBps candidate resolved sanity
  Async.perform (GateOp.liquidation_evaluated row)
  Async.perform (GateOp.recordDiagnostic
    (diagnosticRow candidate stage gasCostUsd resolved.debtUsd row.profitability sanity row.pass))
  let decision := buildFilterDecision resolved row.profitability.pass gasCostUsd
  Async.perform (GateOp.logLiquidationDustDecision (subjectOf chain candidate) stage decision
    config.minDebtUsd row.profitability.effectiveFloor)
  if decision.isDust || !sanity then
    Async.perform GateOp.recordDustFiltered
    return none
  return some { candidate with repayValueUsd := resolved.debtUsd }

/-- The turn of `filterCandidates` for one candidate. -/
def evaluateCandidate (config : LiquidationCandidateGateConfig) (chain : SupportedChain)
    (stage : String) (gasCostUsd flashFeeBps : ℚ) (candidate : LiquidationCandidate) :
    GateM ε (Option LiquidationCandidate) := do
  let blocked ← Async.perform (GateOp.isBorrowerBlocked chain candidate.account)
  if blocked then return none
  let resolved ← resolveFreshDebtUsd config chain candidate
  let sanity ← sanityPass config chain candidate
  settle config chain stage gasCostUsd flashFeeBps candidate resolved sanity

def filterCandidates (config : LiquidationCandidateGateConfig) (chain : SupportedChain)
    (candidates : List LiquidationCandidate) (stage : String) :
    GateM ε (List LiquidationCandidate) := do
  let gasCostUsd ← (.call .resolveGasCostUsd Async.orThrow : GateM ε _)
  let flashFeeBps ← (.call .resolveFlashFeeBps Async.orThrow : GateM ε _)
  Async.collect (evaluateCandidate config chain stage gasCostUsd flashFeeBps)
    (fun _ kept => kept.toList) [] candidates

/-! ## The two verdicts -/

theorem effectiveBonusRate_pos (liquidationBonusBps : ℚ) :
    0 < effectiveBonusRate liquidationBonusBps := by
  unfold effectiveBonusRate
  split
  next positive => exact positive
  next => norm_num [defaultBonusBps]

/-- A debt above the dynamic floor earns what it costs, whatever the bonus. -/
theorem netProfitUsd_nonneg {input : LiquidationProfitabilityInput}
    (passes : (evaluateLiquidationProfitability input).pass = true)
    (noBuffer : input.safetyBufferMultiplier = none) (debt : 0 ≤ input.debtUsd)
    (gas : 0 ≤ input.gasCostUsd) (fee : 0 ≤ input.flashFeeBps) :
    0 ≤ (evaluateLiquidationProfitability input).netProfitUsd := by
  have bonus := effectiveBonusRate_pos input.liquidationBonusBps
  have flashFee : 0 ≤ input.debtUsd * (input.flashFeeBps / 10000) := by positivity
  simp only [evaluateLiquidationProfitability, noBuffer, Option.getD_none, decide_eq_true_eq,
    max_le_iff] at passes ⊢
  generalize effectiveBonusRate input.liquidationBonusBps = rate at *
  have covered : (input.gasCostUsd + input.debtUsd * (input.flashFeeBps / 10000)) *
      defaultSafetyBuffer ≤ input.debtUsd * rate := by
    calc (input.gasCostUsd + input.debtUsd * (input.flashFeeBps / 10000)) * defaultSafetyBuffer
        = (input.gasCostUsd + input.debtUsd * (input.flashFeeBps / 10000)) / rate *
            defaultSafetyBuffer * rate := by field_simp
      _ ≤ input.debtUsd * rate := mul_le_mul_of_nonneg_right passes.1 bonus.le
  unfold defaultSafetyBuffer at covered
  linarith

/-- What the dust filter asks of a debt when it has no minimum. -/
def SurvivesDust (debtUsd gasCostUsd : ℚ) : Prop :=
  0 < debtUsd ∧ (0 < gasCostUsd → gasCostUsd * 2 ≤ debtUsd)

/-- What is no dust is positive, at the minimum and worth its gas twice. -/
theorem evaluateDustFilter_eq_none_iff (debtUsd minDebtUsd gasCostUsd : ℚ) :
    evaluateDustFilter (some debtUsd) minDebtUsd gasCostUsd = none ↔
      minDebtUsd ≤ debtUsd ∧ SurvivesDust debtUsd gasCostUsd := by
  unfold evaluateDustFilter SurvivesDust
  by_cases negative : debtUsd ≤ 0
  · simp [negative, negative.not_gt]
  by_cases low : debtUsd < minDebtUsd
  · simp [negative, low, low.not_ge]
  by_cases below : 0 < gasCostUsd ∧ debtUsd < gasCostUsd * 2
  · simp [negative, low, below, below.2.not_ge]
  · simp only [negative, low, if_false, if_neg below, not_lt.mp low, not_le.mp negative, true_and,
      true_iff]
    exact fun costs => not_lt.mp (fun small => below ⟨costs, small⟩)

theorem isDust_dustFilterDecision_iff (debtUsd gasCostUsd : ℚ) :
    (dustFilterDecision debtUsd 0 gasCostUsd).isDust = false ↔ SurvivesDust debtUsd gasCostUsd := by
  have none_iff := evaluateDustFilter_eq_none_iff debtUsd 0 gasCostUsd
  unfold dustFilterDecision
  split
  next survives => simpa using (none_iff.mp survives).2
  all_goals
    rename_i dropped
    simp only [Bool.true_eq_false, false_iff]
    intro survives
    rw [none_iff.mpr ⟨survives.1.le, survives⟩] at dropped
    cases dropped

/-- The decision is that of the filter for what is trusted and above the floor. -/
theorem isDust_buildFilterDecision_iff (resolved : ResolvedDebt) (profitabilityPass : Bool)
    (gasCostUsd : ℚ) :
    (buildFilterDecision resolved profitabilityPass gasCostUsd).isDust = false ↔
      resolved.trusted = true ∧ profitabilityPass = true ∧
        SurvivesDust resolved.debtUsd gasCostUsd := by
  unfold buildFilterDecision
  cases resolved.trusted with
  | false => simp
  | true =>
    cases profitabilityPass with
    | false => simp
    | true => simp [isDust_dustFilterDecision_iff]

/-! ## Runs -/

/-- The row that a call logs, if it logs one. -/
def evaluationOf : GateOp → Option LiquidationEvaluated
  | .liquidation_evaluated row => some row
  | _ => none

/-- The evaluations that were logged. -/
def evaluations (events : List (Async.Event GateOp (GateOp.Answer ε))) :
    List LiquidationEvaluated :=
  events.filterMap (fun event => evaluationOf event.1)

theorem evaluations_eq_nil {α : Type} {program : GateM ε α}
    {events : List (Async.Event GateOp (GateOp.Answer ε))} {result : Except ε α}
    (quiet : program.Uses (fun op => evaluationOf op = none))
    (run : program.Runs events result) : evaluations events = [] :=
  List.filterMap_eq_nil_iff.mpr (quiet.of_run run)

section Turns

variable {config : LiquidationCandidateGateConfig} {chain : SupportedChain} {stage : String}
  {gasCostUsd flashFeeBps : ℚ} {candidate : LiquidationCandidate} {resolved : ResolvedDebt}
  {sanity : Bool} {outcome : Option LiquidationCandidate}
  {events : List (Async.Event GateOp (GateOp.Answer ε))}

theorem resolveFreshDebtUsd_quiet :
    (resolveFreshDebtUsd config chain candidate : GateM ε ResolvedDebt).Uses
      (fun op => evaluationOf op = none) := by
  unfold resolveFreshDebtUsd
  split
  · trivial
  · apply Async.Uses.bind
    · exact ⟨rfl, fun answer => Async.uses_orThrow answer⟩
    · intro prices
      dsimp only
      split
      · exact ⟨rfl, fun _ => trivial⟩
      · trivial

theorem sanityPass_quiet :
    (sanityPass config chain candidate : GateM ε Bool).Uses (fun op => evaluationOf op = none) := by
  unfold sanityPass
  split
  · trivial
  · apply Async.Uses.bind
    · exact ⟨rfl, fun answer => Async.uses_orThrow answer⟩
    · intro sanity
      dsimp only
      split
      · exact ⟨rfl, fun _ => trivial⟩
      · trivial

/-- Where a trusted debt comes from: the candidate itself without an oracle, else
its token amount at a positive price that was read for it. -/
def Trusted (config : LiquidationCandidateGateConfig) (candidate : LiquidationCandidate)
    (events : List (Async.Event GateOp (GateOp.Answer ε))) (debtUsd : ℚ) : Prop :=
  (config.hasPriceOracle = false ∧ debtUsd = candidate.repayValueUsd) ∨
    ∃ prices price,
      (⟨.forceRefreshUsdPrices [candidate.debtAsset, candidate.collateralAsset], .ok prices⟩ :
        Async.Event GateOp (GateOp.Answer ε)) ∈ events ∧
      prices.get? candidate.debtAsset = some price ∧ 0 < price ∧
      debtUsd = computeDebtUsdFromWei candidate.debtToCover
        (resolveDebtDecimals config candidate.debtAsset) price

theorem debtUnder_trusted {prices : InsertionMap Address Int}
    (trusted : (debtUnder config candidate prices).trusted = true) :
    ∃ price, prices.get? candidate.debtAsset = some price ∧ 0 < price ∧
      (debtUnder config candidate prices).debtUsd = computeDebtUsdFromWei candidate.debtToCover
        (resolveDebtDecimals config candidate.debtAsset) price := by
  unfold debtUnder at trusted ⊢
  cases read : prices.get? candidate.debtAsset with
  | none => simp [read] at trusted
  | some price =>
    by_cases refused : price ≤ 0
    · simp [read, refused] at trusted
    · exact ⟨price, rfl, not_le.mp refused, by simp [refused]⟩

/-- A debt that is said to be trusted is. -/
theorem runs_resolveFreshDebtUsd
    (run : (resolveFreshDebtUsd config chain candidate : GateM ε ResolvedDebt).Runs events
      (.ok resolved)) (trusted : resolved.trusted = true) :
    Trusted config candidate events resolved.debtUsd := by
  unfold resolveFreshDebtUsd at run
  split at run
  next unpriced =>
    obtain ⟨rfl, same⟩ := Async.runs_pure.mp run
    cases same
    exact Or.inl ⟨by simpa using unpriced, rfl⟩
  next priced =>
    obtain ⟨prices, earlier, later, rfl, read, rest⟩ := Async.runs_bind_ok.mp run
    obtain ⟨answer, calls, rfl, threw⟩ := Async.runs_call.mp read
    obtain ⟨rfl, rfl⟩ := Async.runs_orThrow.mp threw
    have same : resolved = debtUnder config candidate prices := by
      dsimp only at rest
      split at rest
      next refused =>
        obtain ⟨_, _, _, ended⟩ := Async.runs_call.mp rest
        exact Except.ok.inj (Async.runs_pure.mp ended).2
      next => exact Except.ok.inj (Async.runs_pure.mp rest).2
    subst same
    obtain ⟨price, found, positive, valued⟩ := debtUnder_trusted trusted
    exact Or.inr ⟨prices, price, by simp, found, positive, valued⟩

/-- What an evaluation keeps of its candidate. -/
def keptAs (candidate : LiquidationCandidate) (resolved : ResolvedDebt) (sanity : Bool)
    (decision : DustFilterDecision) : Option LiquidationCandidate :=
  if decision.isDust || !sanity then none
  else some { candidate with repayValueUsd := resolved.debtUsd }

/-- One row is logged, and the decision keeps or drops. -/
theorem runs_settle
    (run : (settle config chain stage gasCostUsd flashFeeBps candidate resolved sanity :
      GateM ε (Option LiquidationCandidate)).Runs events (.ok outcome)) :
    evaluations events =
        [evaluatedRow config chain stage gasCostUsd flashFeeBps candidate resolved sanity] ∧
      outcome = keptAs candidate resolved sanity (buildFilterDecision resolved
        (profitabilityOf config candidate gasCostUsd flashFeeBps resolved.debtUsd).pass
        gasCostUsd) := by
  obtain ⟨_, _, rfl, logged⟩ := Async.runs_call.mp run
  obtain ⟨_, _, rfl, diagnosed⟩ := Async.runs_call.mp logged
  obtain ⟨_, _, rfl, decided⟩ := Async.runs_call.mp diagnosed
  dsimp only [Async.pure_bind] at decided
  unfold keptAs
  split at decided
  next dropped =>
    obtain ⟨_, _, rfl, counted⟩ := Async.runs_call.mp decided
    obtain ⟨rfl, ended⟩ := Async.runs_pure.mp counted
    exact ⟨rfl, (Except.ok.inj ended).trans (if_pos dropped).symm⟩
  next kept =>
    obtain ⟨rfl, ended⟩ := Async.runs_pure.mp decided
    exact ⟨rfl, (Except.ok.inj ended).trans (if_neg kept).symm⟩

theorem Trusted.mono {wider : List (Async.Event GateOp (GateOp.Answer ε))} {debtUsd : ℚ}
    (trusted : Trusted config candidate events debtUsd) (included : events ⊆ wider) :
    Trusted config candidate wider debtUsd := by
  rcases trusted with unpriced | ⟨prices, price, read, found⟩
  · exact Or.inl unpriced
  · exact Or.inr ⟨prices, price, included read, found⟩

/-- A turn ends with a blocked borrower, or settles the candidate with the debt and
the verdict that it read. -/
theorem runs_evaluateCandidate
    (run : (evaluateCandidate config chain stage gasCostUsd flashFeeBps candidate :
      GateM ε (Option LiquidationCandidate)).Runs events (.ok outcome)) :
    (evaluations events = [] ∧ outcome = none) ∨
      ∃ resolved sanity,
        (resolved.trusted = true → Trusted config candidate events resolved.debtUsd) ∧
        evaluations events =
          [evaluatedRow config chain stage gasCostUsd flashFeeBps candidate resolved sanity] ∧
        outcome = keptAs candidate resolved sanity (buildFilterDecision resolved
          (profitabilityOf config candidate gasCostUsd flashFeeBps resolved.debtUsd).pass
          gasCostUsd) := by
  obtain ⟨blocked, rest, rfl, checked⟩ := Async.runs_call.mp run
  dsimp only [Async.pure_bind] at checked
  split at checked
  next =>
    obtain ⟨rfl, ended⟩ := Async.runs_pure.mp checked
    exact Or.inl ⟨rfl, Except.ok.inj ended⟩
  next =>
    obtain ⟨resolved, valuing, others, rfl, valued, later⟩ := Async.runs_bind_ok.mp checked
    obtain ⟨sanity, asking, settling, rfl, asked, settled⟩ := Async.runs_bind_ok.mp later
    obtain ⟨logged, kept⟩ := runs_settle settled
    refine Or.inr ⟨resolved, sanity, ?_, ?_, kept⟩
    · intro trusted
      apply (runs_resolveFreshDebtUsd valued trusted).mono
      intro event member
      simp [member]
    · calc evaluations (_ :: (valuing ++ (asking ++ settling)))
          = evaluations valuing ++ (evaluations asking ++ evaluations settling) := by
            simp [evaluations, evaluationOf]
        _ = evaluations settling := by
            rw [evaluations_eq_nil resolveFreshDebtUsd_quiet valued,
              evaluations_eq_nil sanityPass_quiet asked, List.nil_append, List.nil_append]
        _ = _ := logged

end Turns

/-- The turn of the gate for a candidate. -/
abbrev GateTurn (ε : Type) :=
  Async.Turn GateOp (GateOp.Answer ε) LiquidationCandidate (Option LiquidationCandidate)

/-- What a kept candidate can show: a trusted value above the hard floor, at which
the bonus pays for gas and flash fee, and an evaluation that passed. -/
structure Justified (config : LiquidationCandidateGateConfig) (gasCostUsd flashFeeBps : ℚ)
    (turn : GateTurn ε) (kept : LiquidationCandidate) : Prop where
  valued : kept = { turn.item with repayValueUsd := kept.repayValueUsd }
  profitable :
    0 ≤ kept.repayValueUsd * effectiveBonusRate turn.item.liquidationBonusBps - gasCostUsd -
      kept.repayValueUsd * (flashFeeBps / 10000)
  aboveFloor : config.minDebtUsd ≤ kept.repayValueUsd
  trusted : Trusted config turn.item turn.events kept.repayValueUsd
  passed : ∃ row, evaluations turn.events = [row] ∧ row.account = turn.item.account ∧
    row.debtUsd = kept.repayValueUsd ∧ row.pass = true

/-- The two verdicts on a candidate: what is kept is justified, and what is logged as
passed is kept if it survives the dust filter. -/
structure VerdictsAgree (config : LiquidationCandidateGateConfig) (gasCostUsd flashFeeBps : ℚ)
    (turn : GateTurn ε) : Prop where
  justified : ∀ kept, turn.outcome = some kept →
    Justified config gasCostUsd flashFeeBps turn kept
  kept : ∀ row ∈ evaluations turn.events, row.pass = true →
    (turn.outcome = some { turn.item with repayValueUsd := row.debtUsd } ↔
      SurvivesDust row.debtUsd gasCostUsd)

theorem evaluateCandidate_verdictsAgree {config : LiquidationCandidateGateConfig}
    {chain : SupportedChain} {stage : String} {gasCostUsd flashFeeBps : ℚ} {turn : GateTurn ε}
    (ran : turn.Ran (evaluateCandidate config chain stage gasCostUsd flashFeeBps))
    (gas : 0 ≤ gasCostUsd) (fee : 0 ≤ flashFeeBps) :
    VerdictsAgree config gasCostUsd flashFeeBps turn := by
  obtain ⟨silent, dropped⟩ | ⟨resolved, sanity, trusted, logged, outcome⟩ :=
    runs_evaluateCandidate ran
  · exact ⟨by simp [dropped], by simp [silent]⟩
  have decided := isDust_buildFilterDecision_iff resolved
    (profitabilityOf config turn.item gasCostUsd flashFeeBps resolved.debtUsd).pass gasCostUsd
  unfold keptAs at outcome
  constructor
  · intro kept isKept
    rw [outcome] at isKept
    obtain ⟨stays, same⟩ := Option.ite_none_left_eq_some.mp isKept
    cases same
    simp only [Bool.or_eq_true, Bool.not_eq_true', not_or, Bool.not_eq_true,
      Bool.not_eq_false] at stays
    obtain ⟨reliable, passes, survives⟩ := decided.mp stays.1
    have above : config.minDebtUsd ≤ resolved.debtUsd :=
      (le_max_right _ _).trans (of_decide_eq_true passes)
    have profits := netProfitUsd_nonneg passes rfl survives.1.le gas fee
    exact
      { valued := rfl
        profitable := profits
        aboveFloor := above
        trusted := trusted reliable
        passed := ⟨_, logged, rfl, rfl, by simp [evaluatedRow, reliable, passes, stays.2]⟩ }
  · intro row member passed
    rw [logged, List.mem_singleton] at member
    subst member
    simp only [evaluatedRow, Bool.and_eq_true] at passed ⊢
    obtain ⟨⟨reliable, passes⟩, sane⟩ := passed
    rw [outcome]
    cases dust : (buildFilterDecision resolved
        (profitabilityOf config turn.item gasCostUsd flashFeeBps resolved.debtUsd).pass
        gasCostUsd).isDust with
    | false => simpa [sane] using (decided.mp dust).2.2
    | true =>
      simp only [Bool.true_or, if_true, reduceCtorEq, false_iff]
      intro survives
      have kept := decided.mpr ⟨reliable, passes, survives⟩
      rw [dust] at kept
      cases kept

/-- In every run, what the gate keeps is what its turns kept, and in every turn the
two verdicts agree. -/
theorem filterCandidates_verdictsAgree {config : LiquidationCandidateGateConfig}
    {chain : SupportedChain} {candidates kept : List LiquidationCandidate} {stage : String}
    {events : List (Async.Event GateOp (GateOp.Answer ε))}
    (run : (filterCandidates config chain candidates stage : GateM ε _).Runs events (.ok kept)) :
    ∃ gasCostUsd flashFeeBps, ∃ turns : List (GateTurn ε),
      turns.map Async.Turn.item = candidates ∧
      kept = turns.filterMap Async.Turn.outcome ∧
      events = ⟨.resolveGasCostUsd, .ok gasCostUsd⟩ ::
        ⟨.resolveFlashFeeBps, .ok flashFeeBps⟩ :: turns.flatMap Async.Turn.events ∧
      ∀ turn ∈ turns,
        turn.Ran (evaluateCandidate config chain stage gasCostUsd flashFeeBps) ∧
        (0 ≤ gasCostUsd → 0 ≤ flashFeeBps → VerdictsAgree config gasCostUsd flashFeeBps turn) := by
  obtain ⟨gasCostUsd, _, _, rfl, priced, rest⟩ := Async.runs_bind_ok.mp run
  obtain ⟨_, _, rfl, threw⟩ := Async.runs_call.mp priced
  obtain ⟨rfl, rfl⟩ := Async.runs_orThrow.mp threw
  obtain ⟨flashFeeBps, _, _, rfl, charged, loop⟩ := Async.runs_bind_ok.mp rest
  obtain ⟨_, _, rfl, threw⟩ := Async.runs_call.mp charged
  obtain ⟨rfl, rfl⟩ := Async.runs_orThrow.mp threw
  obtain ⟨turns, covered, ran, rfl, rfl⟩ := Async.runs_collect.mp loop
  refine ⟨gasCostUsd, flashFeeBps, turns, covered, ?_, rfl, ?_⟩
  · simp [List.filterMap_eq_flatMap_toList]
  · intro turn member
    exact ⟨ran turn member, evaluateCandidate_verdictsAgree (ran turn member)⟩

section Example

/-- A gate without an oracle, and with a hard floor of fifty dollars. -/
def plainGate : LiquidationCandidateGateConfig := ⟨50, false, false, none⟩

/-- A candidate that repays an amount for a bonus. -/
def candidateWith (repayValueUsd : ℚ) (liquidationBonusBps : Int) : LiquidationCandidate :=
  ⟨ZERO_ADDRESS, ZERO_ADDRESS, BASE_USDC, 1, repayValueUsd, liquidationBonusBps, 0⟩

/-- Gas at a price, a flash fee of five basis points, and no borrower on hold. -/
def answers (gasCostUsd : ℚ) : (op : GateOp) → op.Answer Unit
  | .resolveGasCostUsd => .ok gasCostUsd
  | .resolveFlashFeeBps => .ok 5
  | .isBorrowerBlocked _ _ => false
  | .forceRefreshUsdPrices _ => .ok .empty
  | .oracleSanityCheck _ => .ok ⟨true, some 0⟩
  | .oracle_price_untrusted_critical _ => ()
  | .oracle_sanity_gate_blocked _ _ => ()
  | .liquidation_evaluated _ => ()
  | .recordDiagnostic _ => ()
  | .logLiquidationDustDecision _ _ _ _ _ => ()
  | .recordDustFiltered => ()

/-- The gate's program for one candidate. -/
def plainRun (candidate : LiquidationCandidate) : GateM Unit (List LiquidationCandidate) :=
  filterCandidates plainGate .base [candidate] "health_factor_scan"

/-- The run of the gate's program under these answers. -/
theorem runs_plain {gasCostUsd : ℚ} {candidate : LiquidationCandidate}
    {kept : List LiquidationCandidate}
    (returns : (plainRun candidate).evaluate (answers gasCostUsd) = .ok kept) :
    (plainRun candidate).Runs ((plainRun candidate).trace (answers gasCostUsd)) (.ok kept) :=
  returns ▸ Async.runs_trace (answers gasCostUsd) (plainRun candidate)

theorem filterCandidates_verdictsAgree_plain :
    ∃ turn : GateTurn Unit, turn.item = candidateWith 100 500 ∧
      turn.outcome = some (candidateWith 100 500) ∧ VerdictsAgree plainGate 1 5 turn := by
  have returns : (plainRun (candidateWith 100 500)).evaluate (answers 1) =
      .ok [candidateWith 100 500] := by decide +kernel
  obtain ⟨gas, fee, turns, covered, kept, calls, agree⟩ :=
    filterCandidates_verdictsAgree (runs_plain returns)
  obtain ⟨first, later⟩ := List.cons.inj calls
  obtain ⟨second, _⟩ := List.cons.inj later
  cases first
  cases second
  obtain ⟨turn, rfl, item⟩ := List.map_eq_singleton_iff.mp covered
  refine ⟨turn, item, ?_, (agree turn List.mem_cons_self).2 (by norm_num) (by norm_num)⟩
  cases outcome : turn.outcome with
  | none => simp [outcome] at kept
  | some candidate => simpa [outcome] using kept.symm

theorem kept_without_bonus :
    (∃ events, (plainRun (candidateWith 100 0)).Runs events (.ok [candidateWith 100 0]) ∧
      (⟨.resolveGasCostUsd, .ok 1⟩ : Async.Event GateOp (GateOp.Answer Unit)) ∈ events ∧
      (⟨.resolveFlashFeeBps, .ok 5⟩ : Async.Event GateOp (GateOp.Answer Unit)) ∈ events ∧
      (100 : ℚ) * (0 / 10000) - 1 - 100 * (5 / 10000) < 0) ∧
    ∃ events, (plainRun (candidateWith 60 9000)).Runs events (.ok []) ∧
      ∃ row ∈ evaluations events, row.pass = true := by
  have keeps : (plainRun (candidateWith 100 0)).evaluate (answers 1) =
      .ok [candidateWith 100 0] := by decide +kernel
  have drops : (plainRun (candidateWith 60 9000)).evaluate (answers 40) = .ok [] := by
    decide +kernel
  refine ⟨⟨_, runs_plain keeps, List.mem_cons_self, ?_, by norm_num⟩, ⟨_, runs_plain drops, ?_⟩⟩
  · exact List.mem_cons_of_mem _ List.mem_cons_self
  · decide +kernel

end Example

end LiquidationCandidateGate

end LiquidationBot
