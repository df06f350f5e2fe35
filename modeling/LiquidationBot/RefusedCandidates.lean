import LiquidationBot.LiquidationCandidateGate

/-!
# The gate as a resolver of debts

The bot hands the gate to the health-factor monitor as the resolver of a
candidate's debt. A resolver can only answer a number, so a candidate that the
gate drops is answered with its configured value, and the monitor goes on with
that. What the gate objected to is lost: the candidate is returned exactly if its
configured value passes the monitor's own two filters.
-/

namespace LiquidationBot

/-- `evaluateOracleSanity`, in whole hundredths of a percent. -/
def evaluateOracleSanity (chainlinkPriceRaw twapPriceRaw : Int) (thresholdPct : Option ℚ) :
    OracleSanityResult :=
  if chainlinkPriceRaw ≤ 0 ∨ twapPriceRaw ≤ 0 then ⟨false, none⟩
  else
    let hundredths : Int := |chainlinkPriceRaw - twapPriceRaw| * 10000 / chainlinkPriceRaw
    let deviationPct : ℚ := hundredths / 100
    ⟨decide (deviationPct ≤ thresholdPct.getD 2), some deviationPct⟩

/-- What `buildPipelineBot` wires the gate and the monitor with. -/
structure PipelineBotConfig where
  chain : SupportedChain
  protocol : AaveScanner
  hasPriceOracle : Bool
  candidateCooldownMs : ℚ
  minProfitUsd : ℚ
  gasCostUsd : ℚ
  slippageBps : ℚ
  minLiquidationDebtUsd : ℚ

/-- The calls of a scan, those of the gate inside it, and the report of its sanity
check. -/
inductive BotOp where
  | scan (op : ScanOp)
  | gate (op : GateOp)
  | oracle_sanity_deviation_block (subject : GateSubject) (chainlinkPriceRaw twapPriceRaw : Int)
      (deviationPct : Option ℚ)
deriving DecidableEq

@[reducible] def BotOp.Answer : BotOp → Type
  | .scan op => op.Answer
  | .gate op => op.Answer ScanError
  | .oracle_sanity_deviation_block _ _ _ _ => Unit

abbrev BotM := Async BotOp BotOp.Answer ScanError

namespace PipelineBotConfig

variable (config : PipelineBotConfig)

/-! ## The wiring -/

def gateConfig : LiquidationCandidateGateConfig where
  minDebtUsd := config.minLiquidationDebtUsd
  hasPriceOracle := config.hasPriceOracle
  hasOracleSanityCheck := true
  resolveDebtDecimals := none

def monitorConfig : HealthFactorMonitorConfig where
  protocol := config.protocol
  candidateCooldownMs := config.candidateCooldownMs
  minProfitUsd := config.minProfitUsd
  gasCostUsd := config.gasCostUsd
  resolvesGasCost := true
  slippageBps := config.slippageBps
  resolvesSlippage := true
  minLiquidationDebtUsd := some config.minLiquidationDebtUsd
  resolvesDebt := true

/-- A price of the debt asset, read afresh. -/
def refreshedPrice (debtAsset : Address) : BotM Int :=
  .call (.gate (.forceRefreshUsdPrices [debtAsset])) (fun answer =>
    (Async.orThrow answer).bind (fun prices => .pure ((prices.get? debtAsset).getD 0)))

/-- `oracleSanityCheck` of the gate. Both prices come from the one oracle. -/
def oracleSanityCheck (subject : GateSubject) : BotM OracleSanityResult :=
  if !config.hasPriceOracle then .pure ⟨true, some 0⟩
  else do
    let chainlink ← refreshedPrice subject.debtAsset
    let twap ← refreshedPrice subject.debtAsset
    let result := evaluateOracleSanity chainlink twap (some 2)
    if !result.pass then
      Async.perform
        (BotOp.oracle_sanity_deviation_block subject chainlink twap result.deviationPct)
    return result

/-- What the calls of the gate are in the bot. -/
def gateMeaning : (op : GateOp) → BotM (op.Answer ScanError)
  | .oracleSanityCheck subject => (config.oracleSanityCheck subject).attempt
  | op => Async.perform (BotOp.gate op)

/-- The gate, asked for one candidate. -/
def filterCandidate (candidate : LiquidationCandidate) : BotM (List LiquidationCandidate) :=
  (LiquidationCandidateGate.filterCandidates config.gateConfig config.chain [candidate]
    "health_factor_scan" : GateM ScanError _).expand config.gateMeaning

/-- `resolveDebtUsd` of the monitor. -/
def resolveDebtUsd (candidate : LiquidationCandidate) : BotM (Option ℚ) := do
  let filtered ← config.filterCandidate candidate
  return some ((filtered.head?.map LiquidationCandidate.repayValueUsd).getD
    candidate.repayValueUsd)

/-- What the calls of a scan are in the bot. -/
def scanMeaning : (op : ScanOp) → BotM op.Answer
  | .resolveDebtUsd candidate => (config.resolveDebtUsd candidate).attempt
  | op => Async.perform (BotOp.scan op)

/-- `scanOnce` of the bot's monitor. -/
def scanOnce (now : ℚ) : BotM ScanResult :=
  (HealthFactorMonitor.scanOnce config.monitorConfig now).expand config.scanMeaning

end PipelineBotConfig

/-! ## The loop of a scan -/

namespace HealthFactorMonitor

/-- The turn of `scanOnce` for one position. -/
def examine (config : HealthFactorMonitorConfig) (now gasCostUsd slippageBps : ℚ)
    (position : LiquidationCandidate) : ScanM Bool := do
  let executable ← isExecutableCandidate config position now gasCostUsd slippageBps
  Async.perform (ScanOp.settle (candidateKey position) executable)
  return executable

/-- The loop collects the positions that were found executable. -/
theorem executableCandidates_eq_collect (config : HealthFactorMonitorConfig)
    (now gasCostUsd slippageBps : ℚ) (candidates positions : List LiquidationCandidate) :
    executableCandidates config now gasCostUsd slippageBps candidates positions =
      Async.collect (examine config now gasCostUsd slippageBps)
        (fun position executable => if executable then [position] else []) candidates positions := by
  induction positions generalizing candidates with
  | nil => rfl
  | cons position rest inductionHypothesis =>
    simp only [executableCandidates, Async.collect, examine, Async.bind_eq, Async.bind_assoc,
      inductionHypothesis]
    congr 1
    funext executable
    cases executable with
    | false => simp [Async.perform]
    | true => simp [Async.perform]

end HealthFactorMonitor

namespace PipelineBotConfig

open HealthFactorMonitor (resolvedOr examine)

/-- The turn of the bot's scan for one position. -/
abbrev BotTurn := Async.Turn BotOp BotOp.Answer LiquidationCandidate Bool

section Turns

variable {config : PipelineBotConfig} {now gasCostUsd slippageBps : ℚ} {turn : BotTurn}

/-- The gate was asked in the turn, and returned these candidates. -/
def Asked (config : PipelineBotConfig) (now : ℚ) (turn : BotTurn)
    (filtered : List LiquidationCandidate) : Prop :=
  ∃ asked later,
    turn.events =
      ⟨.scan (.isCoolingDown (candidateKey turn.item) now), false⟩ :: (asked ++ later) ∧
      (config.filterCandidate turn.item).Runs asked (.ok filtered)

/-- The configured value of a candidate fails the monitor's own filters: it is dust,
or its bonus earns less than the minimum. -/
def StaticRefused (config : PipelineBotConfig) (gasCostUsd slippageBps : ℚ)
    (candidate : LiquidationCandidate) : Prop :=
  ¬ (config.minLiquidationDebtUsd ≤ candidate.repayValueUsd ∧
      LiquidationCandidateGate.SurvivesDust candidate.repayValueUsd gasCostUsd) ∨
    candidate.repayValueUsd * (candidate.liquidationBonusBps / 10000) - gasCostUsd -
      candidate.repayValueUsd * (slippageBps / 10000) < config.minProfitUsd

/-- The monitor's two filters, on a debt that was resolved. -/
def verdict (config : PipelineBotConfig) (candidate : LiquidationCandidate)
    (gasCostUsd slippageBps : ℚ) (debt : Option ℚ) : BotM Bool :=
  if !(evaluateDustFilter debt config.minLiquidationDebtUsd gasCostUsd).isNone then .pure false
  else
    (Async.orThrow (HealthFactorMonitor.liquidationEv config.monitorConfig candidate gasCostUsd
      slippageBps)).bind (fun ev => .pure ev.isProfitable)

/-- The program of a judgement, with the gate in place of its resolver. -/
theorem expand_judged (candidate : LiquidationCandidate) :
    (HealthFactorMonitor.judged config.monitorConfig candidate gasCostUsd slippageBps).expand
        config.scanMeaning =
      (config.resolveDebtUsd candidate).bind
        (verdict config candidate gasCostUsd slippageBps) := by
  have asked : HealthFactorMonitor.passesDustFilter config.monitorConfig candidate gasCostUsd =
      (.call (.resolveDebtUsd candidate) (fun answer => (Async.orThrow answer).bind (fun debt =>
        .pure (evaluateDustFilter debt config.minLiquidationDebtUsd gasCostUsd).isNone)) :
          ScanM Bool) := rfl
  simp only [HealthFactorMonitor.judged, asked, Async.bind_eq, Async.call_bind, Async.bind_assoc,
    Async.pure_bind, Async.expand_call, Async.expand_bind, Async.expand_orThrow, scanMeaning]
  rw [← Async.bind_assoc, Async.attempt_bind_orThrow]
  congr 1
  funext debt
  unfold verdict
  split
  · rfl
  · simp

/-- A computed expected value is profitable from the minimum on. -/
theorem liquidationEv_isProfitable {candidate : LiquidationCandidate} {ev : LiquidationEv}
    (computed : HealthFactorMonitor.liquidationEv config.monitorConfig candidate gasCostUsd
      slippageBps = .ok ev) :
    ev.isProfitable = decide (config.minProfitUsd ≤
      candidate.repayValueUsd * (candidate.liquidationBonusBps / 10000) - gasCostUsd -
        candidate.repayValueUsd * (slippageBps / 10000)) := by
  unfold HealthFactorMonitor.liquidationEv at computed
  cases calculated : calculateLiquidationEv ⟨candidate.repayValueUsd, candidate.liquidationBonusBps,
      gasCostUsd, slippageBps, config.monitorConfig.minProfitUsd⟩ with
  | error field =>
    rw [calculated] at computed
    cases computed
  | ok value =>
    rw [calculated] at computed
    cases computed
    simp only [calculateLiquidationEv, Throwing.bind_eq_ok_iff,
      Throwing.pure_eq_ok_iff] at calculated
    obtain ⟨_, _, _, _, _, _, _, _, _, _, rfl⟩ := calculated
    rfl

/-- The monitor's verdict on the configured value. -/
theorem runs_verdict {candidate : LiquidationCandidate}
    {events : List (Async.Event BotOp BotOp.Answer)} {executable : Bool}
    (decided : (verdict config candidate gasCostUsd slippageBps
      (some candidate.repayValueUsd)).Runs events (.ok executable)) :
    executable = false ↔ StaticRefused config gasCostUsd slippageBps candidate := by
  unfold StaticRefused
  rw [← LiquidationCandidateGate.evaluateDustFilter_eq_none_iff]
  unfold verdict at decided
  split at decided
  next dust =>
    obtain ⟨_, same⟩ := Async.runs_pure.mp decided
    cases same
    have isDust : ¬ evaluateDustFilter (some candidate.repayValueUsd) config.minLiquidationDebtUsd
        gasCostUsd = none := Option.isSome_iff_ne_none.mp (by simpa using dust)
    simp [isDust]
  next clean =>
    obtain ⟨ev, _, _, rfl, computed, ended⟩ := Async.runs_bind_ok.mp decided
    obtain ⟨_, same⟩ := Async.runs_pure.mp ended
    cases same
    have calculated := (Async.runs_orThrow.mp computed).2
    have survives : evaluateDustFilter (some candidate.repayValueUsd) config.minLiquidationDebtUsd
        gasCostUsd = none := by simpa using clean
    simp [survives, liquidationEv_isProfitable calculated.symm]

/-- The program of a turn. -/
def examineTurn (config : PipelineBotConfig) (now gasCostUsd slippageBps : ℚ)
    (position : LiquidationCandidate) : BotM Bool :=
  (examine config.monitorConfig now gasCostUsd slippageBps position).expand config.scanMeaning

/-- A turn ends before the gate is asked, or asks it and goes on with its answer or
else the configured value. -/
theorem examineTurn_cases (ran : turn.Ran (config.examineTurn now gasCostUsd slippageBps)) :
    (turn.outcome = false ∧ ∀ filtered, ¬ Asked config now turn filtered) ∨
      ∃ filtered deciding, Asked config now turn filtered ∧
        (∀ other, Asked config now turn other → other = filtered) ∧
        (verdict config turn.item gasCostUsd slippageBps
          (some ((filtered.head?.map LiquidationCandidate.repayValueUsd).getD
            turn.item.repayValueUsd))).Runs deciding (.ok turn.outcome) := by
  obtain ⟨item, events, outcome⟩ := turn
  simp only [Async.Turn.Ran, examineTurn, examine, Async.bind_eq, Async.expand_bind] at ran
  obtain ⟨executable, judging, settling, rfl, judged, settled⟩ := Async.runs_bind_ok.mp ran
  obtain ⟨_, _, rfl, ended⟩ := Async.runs_call.mp settled
  obtain ⟨rfl, same⟩ := Async.runs_pure.mp ended
  cases same
  unfold HealthFactorMonitor.isExecutableCandidate at judged
  split at judged
  next healthy =>
    obtain ⟨rfl, same⟩ := Async.runs_pure.mp judged
    cases same
    left
    refine ⟨rfl, ?_⟩
    rintro filtered ⟨asked, later, calls, _⟩
    cases (List.cons.inj calls).1
  next =>
    obtain ⟨cooling, rest, rfl, went⟩ := Async.runs_call.mp judged
    cases cooling with
    | true =>
      obtain ⟨rfl, same⟩ := Async.runs_pure.mp went
      cases same
      left
      refine ⟨rfl, ?_⟩
      rintro filtered ⟨asked, later, calls, _⟩
      cases (List.cons.inj calls).1
    | false =>
      have judgement : ((HealthFactorMonitor.judged config.monitorConfig item gasCostUsd
          slippageBps).expand config.scanMeaning).Runs rest (.ok outcome) := went
      rw [expand_judged] at judgement
      obtain ⟨debt, resolving, deciding, rfl, resolved, decided⟩ := Async.runs_bind_ok.mp judgement
      obtain ⟨filtered, gating, answering, rfl, gated, answered⟩ := Async.runs_bind_ok.mp resolved
      obtain ⟨rfl, value⟩ := Async.runs_pure.mp answered
      cases value
      right
      have calls : (gating ++ [] ++ deciding) ++ [⟨.scan (.settle (candidateKey item) outcome), ()⟩] =
          gating ++ (deciding ++ [⟨.scan (.settle (candidateKey item) outcome), ()⟩]) := by
        rw [List.append_nil, List.append_assoc]
      refine ⟨filtered, deciding, ⟨gating, _, congrArg _ calls, gated⟩, ?_, decided⟩
      rintro other ⟨asked, later, calls, returned⟩
      obtain ⟨_, same, _⟩ := returned.unique gated (by simpa using (List.cons.inj calls).2.symm)
      exact Except.ok.inj same

/-- After the gate dropped the candidate, its configured value decides. -/
theorem outcome_of_dropped (ran : turn.Ran (config.examineTurn now gasCostUsd slippageBps))
    (dropped : Asked config now turn []) :
    turn.outcome = false ↔ StaticRefused config gasCostUsd slippageBps turn.item := by
  rcases examineTurn_cases ran with ⟨_, unasked⟩ | ⟨filtered, deciding, _, unique, decided⟩
  · exact absurd dropped (unasked [])
  · cases unique [] dropped
    exact runs_verdict decided

end Turns

/-- What the loop collects are the items of the turns with a positive outcome. -/
theorem collected_eq (turns : List BotTurn) :
    turns.flatMap (fun turn => if turn.outcome then [turn.item] else []) =
      (turns.filter Async.Turn.outcome).map Async.Turn.item := by
  induction turns with
  | nil => rfl
  | cons turn rest inductionHypothesis =>
    cases outcome : turn.outcome with
    | false => simp [outcome, inductionHypothesis]
    | true => simp [outcome, inductionHypothesis]

/-- In every run of the bot's scan, the candidates returned are the positions whose
turn found them executable, the gate was asked for each of these, and one that the
gate dropped is not returned exactly if its configured value is refused. -/
theorem dropped_not_returned_iff {config : PipelineBotConfig} {now : ℚ} {result : ScanResult}
    {events : List (Async.Event BotOp BotOp.Answer)}
    (run : (config.scanOnce now).Runs events (.ok result)) :
    ∃ gasAnswer slippageAnswer reading, ∃ turns : List BotTurn,
      events = ⟨.scan .resolveDynamicGasCostUsd, gasAnswer⟩ ::
        ⟨.scan .resolveDynamicSlippageBps, slippageAnswer⟩ ::
          (reading ++ (turns.flatMap Async.Turn.events ++
            [⟨.scan (.noteCandidates (result.candidates.map candidateKey) now), ()⟩])) ∧
      ((HealthFactorMonitor.getLiquidatablePositions config.protocol).expand
        config.scanMeaning).Runs reading (.ok (turns.map Async.Turn.item)) ∧
      result.candidates = (turns.filter Async.Turn.outcome).map Async.Turn.item ∧
      ∀ turn ∈ turns,
        turn.Ran (config.examineTurn now (resolvedOr config.gasCostUsd gasAnswer)
          (resolvedOr config.slippageBps slippageAnswer)) ∧
        (turn.outcome = true → ∃ filtered, Asked config now turn filtered) ∧
        (Asked config now turn [] →
          (turn.outcome = false ↔
            StaticRefused config (resolvedOr config.gasCostUsd gasAnswer)
              (resolvedOr config.slippageBps slippageAnswer) turn.item)) := by
  simp only [scanOnce, HealthFactorMonitor.scanOnce, Async.bind_eq, Async.expand_bind,
    HealthFactorMonitor.executableCandidates_eq_collect, Async.expand_collect] at run
  obtain ⟨_, _, _, rfl, priced, run⟩ := Async.runs_bind_ok.mp run
  obtain ⟨gasAnswer, _, rfl, ended⟩ := Async.runs_call.mp priced
  obtain ⟨rfl, gas⟩ := Async.runs_pure.mp ended
  cases gas
  obtain ⟨_, _, _, rfl, slipped, run⟩ := Async.runs_bind_ok.mp run
  obtain ⟨slippageAnswer, _, rfl, ended⟩ := Async.runs_call.mp slipped
  obtain ⟨rfl, slippage⟩ := Async.runs_pure.mp ended
  cases slippage
  obtain ⟨positions, reading, _, rfl, read, run⟩ := Async.runs_bind_ok.mp run
  obtain ⟨candidates, _, _, rfl, looped, run⟩ := Async.runs_bind_ok.mp run
  obtain ⟨_, _, rfl, ended⟩ := Async.runs_call.mp run
  obtain ⟨rfl, same⟩ := Async.runs_pure.mp ended
  cases same
  obtain ⟨turns, rfl, ran, rfl, rfl⟩ := Async.runs_collect.mp looped
  refine ⟨gasAnswer, slippageAnswer, reading, turns, rfl, read, ?_, ?_⟩
  · exact (List.nil_append _).trans (collected_eq turns)
  · intro turn member
    refine ⟨ran turn member, ?_, outcome_of_dropped (ran turn member)⟩
    intro returned
    rcases examineTurn_cases (ran turn member) with ⟨ended, _⟩ | ⟨filtered, _, asked, _⟩
    · rw [returned] at ended
      cases ended
    · exact ⟨filtered, asked⟩

section Example

/-- A bot with an oracle, whose borrowers each owe a thousand dollars. -/
def indebtedBot : PipelineBotConfig where
  chain := .base
  protocol := ⟨[⟨ZERO_ADDRESS, BASE_USDC, 1000000000, 1000, 500⟩], true, 10⟩
  hasPriceOracle := true
  candidateCooldownMs := 60000
  minProfitUsd := 5
  gasCostUsd := 1
  slippageBps := 100
  minLiquidationDebtUsd := 50

/-- The one position of its page. -/
def indebted : LiquidationCandidate :=
  ⟨ZERO_ADDRESS, ZERO_ADDRESS, BASE_USDC, 1000000000, 1000, 500, 0⟩

/-- One position, whose borrower is on hold or not, under prices read afresh. -/
def answers (onHold : Bool) (prices : InsertionMap Address Int) : (op : BotOp) → op.Answer
  | .scan .resolveDynamicGasCostUsd => .ok (some 1)
  | .scan .resolveDynamicSlippageBps => .ok (some 100)
  | .scan (.fetchBorrowerPage _) => .ok ⟨some ["0x0000000000000000000000000000000000000000-debt"]⟩
  | .scan (.getUserAccount _) => .ok ⟨1, 1, 0, 8000, 0, 0⟩
  | .scan (.setBorrowerCursor _) => ()
  | .scan (.resolveDebtUsd _) => .ok none
  | .scan (.isCoolingDown _ _) => false
  | .scan (.settle _ _) => ()
  | .scan (.noteCandidates _ _) => ()
  | .gate .resolveGasCostUsd => .ok 1
  | .gate .resolveFlashFeeBps => .ok 5
  | .gate (.isBorrowerBlocked _ _) => onHold
  | .gate (.forceRefreshUsdPrices _) => .ok prices
  | .gate (.oracleSanityCheck _) => .ok ⟨true, some 0⟩
  | .gate (.oracle_price_untrusted_critical _) => ()
  | .gate (.oracle_sanity_gate_blocked _ _) => ()
  | .gate (.liquidation_evaluated _) => ()
  | .gate (.recordDiagnostic _) => ()
  | .gate (.logLiquidationDustDecision _ _ _ _ _) => ()
  | .gate .recordDustFiltered => ()
  | .oracle_sanity_deviation_block _ _ _ _ => ()

theorem dropped_not_returned_iff_indebted :
    ∃ turns : List BotTurn, (turns.filter Async.Turn.outcome).map Async.Turn.item = [indebted] ∧
      ∀ turn ∈ turns, Asked indebtedBot 0 turn [] →
        (turn.outcome = false ↔ StaticRefused indebtedBot 1 100 turn.item) := by
  have returns : (indebtedBot.scanOnce 0).evaluate (answers true .empty) = .ok ⟨0, [indebted]⟩ := by
    decide +kernel
  have run : (indebtedBot.scanOnce 0).Runs ((indebtedBot.scanOnce 0).trace (answers true .empty))
      (.ok ⟨0, [indebted]⟩) := returns ▸ Async.runs_trace _ _
  obtain ⟨gas, slippage, reading, turns, calls, _, candidates, sound⟩ := dropped_not_returned_iff run
  obtain ⟨first, later⟩ := List.cons.inj calls
  obtain ⟨second, _⟩ := List.cons.inj later
  cases first
  cases second
  exact ⟨turns, candidates.symm, fun turn member => (sound turn member).2.2⟩

theorem returned_on_hold_and_unpriced :
    (indebted.healthFactor < WAD ∧
      (indebtedBot.filterCandidate indebted).Runs
        ((indebtedBot.filterCandidate indebted).trace (answers true .empty)) (.ok []) ∧
      (indebtedBot.scanOnce 0).Runs ((indebtedBot.scanOnce 0).trace (answers true .empty))
        (.ok ⟨0, [indebted]⟩)) ∧
    (indebtedBot.filterCandidate indebted).Runs
        ((indebtedBot.filterCandidate indebted).trace (answers false .empty)) (.ok []) ∧
      (indebtedBot.scanOnce 0).Runs ((indebtedBot.scanOnce 0).trace (answers false .empty))
        (.ok ⟨0, [indebted]⟩) := by
  have held : (indebtedBot.filterCandidate indebted).evaluate (answers true .empty) = .ok [] := by
    decide +kernel
  have heldScan : (indebtedBot.scanOnce 0).evaluate (answers true .empty) =
      .ok ⟨0, [indebted]⟩ := by decide +kernel
  have unpriced : (indebtedBot.filterCandidate indebted).evaluate (answers false .empty) =
      .ok [] := by decide +kernel
  have unpricedScan : (indebtedBot.scanOnce 0).evaluate (answers false .empty) =
      .ok ⟨0, [indebted]⟩ := by decide +kernel
  exact ⟨⟨by decide, held ▸ Async.runs_trace _ _, heldScan ▸ Async.runs_trace _ _⟩,
    unpriced ▸ Async.runs_trace _ _, unpricedScan ▸ Async.runs_trace _ _⟩

end Example

end PipelineBotConfig

end LiquidationBot
