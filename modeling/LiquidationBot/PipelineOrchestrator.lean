import LiquidationBot.BorrowerCache
import LiquidationBot.Library.Async

/-!
# The pipeline orchestrator

One cycle goes over the chains: it checks the staleness guard, the sequencer and
the breakers, lists candidates from the borrower cache, has the gate filter them,
builds execution requests, ranks them, and executes them one after the other. A
cycle is a program over its calls, in which the executor's own calls appear with
the plan they are made for. Nothing in it keeps a second cycle from starting
while it waits.

What runs between two awaits is one call where it reads or writes shared objects:
`executePlan` up to the executor, and everything after the executor's result.
Metrics, logs and cycle diagnostics are left out. The gate's profitability
arithmetic, in floats, is an answer.
-/

namespace LiquidationBot

/-- `ArbitrageOpportunity`, by what the orchestrator reads of it. -/
structure ArbitrageOpportunity where
  chain : SupportedChain
  opportunityId : Nat
  tokenIn : Address
deriving DecidableEq

/-- `Opportunity`. -/
inductive Opportunity where
  | liquidation (candidate : LiquidationCandidate)
  | arbitrage (candidate : ArbitrageOpportunity)
deriving DecidableEq

/-- `PipelineExecutionPlan`. -/
structure PipelineExecutionPlan where
  chain : SupportedChain
  opportunity : Opportunity
  request : SafeExecutionRequest
deriving DecidableEq

inductive StalenessStatus where
  | fresh
  | stale
  | critical
deriving DecidableEq

/-- The breakers of the detection pipeline. -/
inductive CircuitBreakerName where
  | rpc
  | subgraph
deriving DecidableEq

/-- `PipelineObservedOutcome`, as far as the orchestrator reports it. -/
inductive PipelineObservedOutcome where
  | won
  | missed
  | reverted
deriving DecidableEq

/-- `PipelineRunSummary`, without the diagnostics. -/
structure PipelineRunSummary where
  scanned : Nat
  attempted : Nat
  sent : Nat
  simulated : Nat
  rejected : Nat
  failed : Nat
deriving DecidableEq

/-- `PipelineOrchestratorConfig`: the registry's chains, which optional
collaborators there are, and what the request builders close over. -/
structure PipelineOrchestratorConfig where
  chains : List SupportedChain
  watchlistSweep : Bool
  watchlistStaleness : Bool
  sequencerGuard : Bool
  liquidationGate : Bool
  collectsExtraOpportunities : Bool
  opportunityRanker : Bool
  outcomeObserver : Bool
  watchlistDiagnosticSample : Bool
  cycleObserver : Bool
  maxCacheAgeMs : Int
  requestChain : SupportedChain
  adapter : LiquidationExecutionAdapterConfig
  arbitrageReceiverAddress : Option Address
  executor : SafeTransactionExecutorConfig

/-- Calls to objects in memory. `listCandidates` lists from the cache, or from
its copy without aged snapshots; `beginExecution` is `executePlan` up to the
executor, and `settleExecution` what it does with the executor's result. -/
inductive PipelineMemory where
  | liquidatableCandidate (account : Address)
  | stalenessCheck
  | executionBreaker (chain : SupportedChain)
  | detectionBreaker (chain : SupportedChain) (name : CircuitBreakerName)
  | hasFreshCache (chain : SupportedChain)
  | listCandidates (chain : SupportedChain) (fresh : Bool)
  | filterCandidates (chain : SupportedChain) (candidates : List LiquidationCandidate)
  | isBorrowerBlocked (chain : SupportedChain) (account : Address)
  | deadLetterOpportunity (chain : SupportedChain) (opportunity : Opportunity)
  | beginExecution (plan : PipelineExecutionPlan)
  | settleExecution (plan : PipelineExecutionPlan) (result : Except Thrown SafeExecutionResult)

@[reducible] def PipelineMemory.Answer : PipelineMemory → Type
  | .liquidatableCandidate _ => Unit
  | .stalenessCheck => StalenessStatus
  | .executionBreaker _ => CircuitBreakerStatus
  | .detectionBreaker _ _ => CircuitBreakerStatus
  | .hasFreshCache _ => Bool
  | .listCandidates _ _ => List LiquidationCandidate
  | .filterCandidates _ _ => Unit
  | .isBorrowerBlocked _ _ => Bool
  | .deadLetterOpportunity _ _ => Unit
  | .beginExecution _ => Bool
  | .settleExecution _ _ => Unit

/-- Awaited calls. Each may throw. The gate's `judge` answers the repay value of
a candidate that it keeps; a ranking answers places in the list of plans. -/
inductive PipelineCollaborator where
  | refreshWatchlistBorrowers (accounts : List Address)
  | watchlistSweep (chain : SupportedChain)
  | isUp (chain : SupportedChain)
  | pollFallback (chain : SupportedChain)
  | resolveGasCostUsd
  | resolveFlashFeeBps
  | judge (chain : SupportedChain) (candidate : LiquidationCandidate)
  | collectExtraOpportunities (chain : SupportedChain)
  | rank (chain : SupportedChain) (plans : List PipelineExecutionPlan)
  | recordOutcome (plan : PipelineExecutionPlan) (outcome : PipelineObservedOutcome)
  | watchlistDiagnosticSample (chain : SupportedChain)
  | cycleObserver (summary : PipelineRunSummary)

@[reducible] def PipelineCollaborator.Result : PipelineCollaborator → Type
  | .refreshWatchlistBorrowers _ => Unit
  | .watchlistSweep _ => Unit
  | .isUp _ => Bool
  | .pollFallback _ => Unit
  | .resolveGasCostUsd => Unit
  | .resolveFlashFeeBps => Unit
  | .judge _ _ => Option ℚ
  | .collectExtraOpportunities _ => List ArbitrageOpportunity
  | .rank _ _ => List Nat
  | .recordOutcome _ _ => Unit
  | .watchlistDiagnosticSample _ => Unit
  | .cycleObserver _ => Unit

/-- Any call of a cycle; the executor's calls carry the plan being executed. -/
inductive PipelineOp where
  | memory (op : PipelineMemory)
  | ask (op : PipelineCollaborator)
  | executor (plan : PipelineExecutionPlan) (op : ExecutorOp)

@[reducible] def PipelineOp.Answer : PipelineOp → Type
  | .memory op => op.Answer
  | .ask op => Except Thrown op.Result
  | .executor _ op => op.Answer

/-- A part of a cycle. -/
abbrev PipelineM := Async PipelineOp PipelineOp.Answer Thrown

/-- `toLearningOutcome`; an exception counts as missed. -/
def toLearningOutcome : Except Thrown SafeExecutionResult → PipelineObservedOutcome
  | .ok (.sent _) => .won
  | .ok (.failed .receipt_reverted) => .reverted
  | _ => .missed

/-- What a result means for the dead letters: its reason, unless the execution
succeeded or a guard skipped it. -/
def deadLetterReason : Except Thrown SafeExecutionResult → Option DeadLetterReason
  | .ok (.sent _) => none
  | .ok .simulated => none
  | .ok (.rejected .dust_filtered) => none
  | .ok (.rejected .borrower_cooldown) => none
  | .ok (.rejected reason) => some (.rejected reason)
  | .ok (.failed reason) => some (.failed reason)
  | .error _ => some .executor_exception

namespace PipelineRunSummary

/-- `mutableSummary`. -/
def empty : PipelineRunSummary := ⟨0, 0, 0, 0, 0, 0⟩

/-- One attempt with its result. -/
def count (summary : PipelineRunSummary) (result : Except Thrown SafeExecutionResult) :
    PipelineRunSummary :=
  let attempted := { summary with attempted := summary.attempted + 1 }
  match result with
  | .ok (.sent _) => { attempted with sent := summary.sent + 1 }
  | .ok .simulated => { attempted with simulated := summary.simulated + 1 }
  | .ok (.rejected _) => { attempted with rejected := summary.rejected + 1 }
  | .ok (.failed _) => { attempted with failed := summary.failed + 1 }
  | .error _ => { attempted with failed := summary.failed + 1 }

/-- The dead letters that `freezeSummary` reports. -/
def deadLetters (summary : PipelineRunSummary) : Nat := summary.rejected + summary.failed

end PipelineRunSummary

namespace PipelineOrchestrator

/-- A call to an object in memory. -/
def memory (op : PipelineMemory) : PipelineM op.Answer := .call (.memory op) .pure

/-- An awaited call. -/
def ask (op : PipelineCollaborator) : PipelineM op.Result := .call (.ask op) Async.orThrow

/-- The same without passing an exception on. -/
def tryAsk (op : PipelineCollaborator) : PipelineM (Except Thrown op.Result) :=
  .call (.ask op) .pure

/-! ## Candidates -/

/-- The loop of `filterCandidates`. -/
def keepCandidates (chain : SupportedChain) :
    List LiquidationCandidate → PipelineM (List LiquidationCandidate)
  | [] => pure []
  | candidate :: rest => do
      let blocked ← memory (.isBorrowerBlocked chain candidate.account)
      if blocked then keepCandidates chain rest
      else
        let repayValueUsd ← ask (.judge chain candidate)
        let kept ← keepCandidates chain rest
        match repayValueUsd with
        | none => pure kept
        | some repayValueUsd => pure ({ candidate with repayValueUsd := repayValueUsd } :: kept)

/-- The gate's `filterCandidates`. -/
def filterCandidates (chain : SupportedChain) (candidates : List LiquidationCandidate) :
    PipelineM (List LiquidationCandidate) := do
  memory (.filterCandidates chain candidates)
  ask .resolveGasCostUsd
  ask .resolveFlashFeeBps
  keepCandidates chain candidates

/-- The base candidates of a chain. -/
def baseCandidates (config : PipelineOrchestratorConfig) (chain : SupportedChain)
    (degraded : Bool) : PipelineM (List LiquidationCandidate) := do
  let rawCandidates ← memory (.listCandidates chain degraded)
  if config.liquidationGate then filterCandidates chain rawCandidates else pure rawCandidates

def collectExtraOpportunities (config : PipelineOrchestratorConfig) (chain : SupportedChain) :
    PipelineM (List ArbitrageOpportunity) :=
  if config.collectsExtraOpportunities then ask (.collectExtraOpportunities chain) else pure []

/-! ## Plans -/

/-- `buildArbitrageExecutionRequest`. -/
def buildArbitrageExecutionRequest (opportunity : ArbitrageOpportunity)
    (operatorAddress : Address) : SafeExecutionRequest where
  chain := opportunity.chain
  account := operatorAddress
  opportunityId := .custom opportunity.opportunityId
  gasProfileKey := .custom 0
  routeInputChain := opportunity.chain
  gasLimitHint := none
  buildsFlashLoanPreview := false

/-- The request of an opportunity, none for one that is not executed. -/
def requestOf (config : PipelineOrchestratorConfig) :
    Opportunity → Except Thrown (Option SafeExecutionRequest)
  | .liquidation candidate =>
      (buildLiquidationExecutionRequest config.requestChain candidate config.adapter).map some
  | .arbitrage opportunity =>
      .ok (config.arbitrageReceiverAddress.map (fun _ =>
        buildArbitrageExecutionRequest opportunity config.adapter.account))

/-- `buildExecutionRequest`, with the builders of `buildPipelineBot`. -/
def buildExecutionRequest (config : PipelineOrchestratorConfig) (opportunity : Opportunity) :
    PipelineM (Option SafeExecutionRequest) :=
  match opportunity with
  | .liquidation _ => do
      ask .resolveGasCostUsd
      ask .resolveFlashFeeBps
      Async.orThrow (requestOf config opportunity)
  | .arbitrage _ => Async.orThrow (requestOf config opportunity)

/-- The gate's check of a liquidation's borrower. -/
def isOpportunityBlocked (config : PipelineOrchestratorConfig) (chain : SupportedChain) :
    Opportunity → PipelineM Bool
  | .liquidation candidate =>
      if config.liquidationGate then memory (.isBorrowerBlocked chain candidate.account)
      else pure false
  | .arbitrage _ => pure false

/-- `buildExecutionPlans`. -/
def buildExecutionPlans (config : PipelineOrchestratorConfig) (chain : SupportedChain) :
    List Opportunity → PipelineRunSummary →
      PipelineM (List PipelineExecutionPlan × PipelineRunSummary)
  | [], summary => pure ([], summary)
  | opportunity :: rest, summary => do
      let blocked ← isOpportunityBlocked config chain opportunity
      if blocked then buildExecutionPlans config chain rest summary
      else
        match ← (buildExecutionRequest config opportunity).attempt with
        | .ok (some request) =>
            let (plans, summary) ← buildExecutionPlans config chain rest summary
            pure (⟨chain, opportunity, request⟩ :: plans, summary)
        | .ok none => buildExecutionPlans config chain rest summary
        | .error _ =>
            memory (.deadLetterOpportunity chain opportunity)
            buildExecutionPlans config chain rest { summary with failed := summary.failed + 1 }

/-- `rankPlans`: a ranker that throws ranks nothing. -/
def rankPlans (config : PipelineOrchestratorConfig) (chain : SupportedChain)
    (plans : List PipelineExecutionPlan) : PipelineM (List PipelineExecutionPlan) :=
  if config.opportunityRanker then do
    match ← tryAsk (.rank chain plans) with
    | .ok order => pure (order.filterMap (fun place => plans[place]?))
    | .error _ => pure plans
  else pure plans

/-! ## Execution -/

/-- `recordLearningOutcome`. -/
def recordLearningOutcome (config : PipelineOrchestratorConfig) (plan : PipelineExecutionPlan)
    (outcome : PipelineObservedOutcome) : PipelineM Unit :=
  if config.outcomeObserver then (tryAsk (.recordOutcome plan outcome)).bind (fun _ => pure ())
  else pure ()

/-- The executor on a plan's request. -/
def executeRequest (config : PipelineOrchestratorConfig) (plan : PipelineExecutionPlan) :
    PipelineM SafeExecutionResult :=
  (SafeTransactionExecutor.execute config.executor plan.request).translate (.executor plan)
    (fun _ answer => answer)

/-- `executePlan`. -/
def executePlan (config : PipelineOrchestratorConfig) (plan : PipelineExecutionPlan)
    (summary : PipelineRunSummary) : PipelineM PipelineRunSummary := do
  let started ← memory (.beginExecution plan)
  if started then
    let result ← (executeRequest config plan).attempt
    memory (.settleExecution plan result)
    recordLearningOutcome config plan (toLearningOutcome result)
    pure (summary.count result)
  else pure summary

def executePlans (config : PipelineOrchestratorConfig) :
    List PipelineExecutionPlan → PipelineRunSummary → PipelineM PipelineRunSummary
  | [], summary => pure summary
  | plan :: rest, summary => do
      let summary ← executePlan config plan summary
      executePlans config rest summary

/-! ## Cycles -/

/-- A failing sweep is reported only. -/
def sweepWatchlist (config : PipelineOrchestratorConfig) (chain : SupportedChain) :
    PipelineM Unit :=
  if config.watchlistSweep then (tryAsk (.watchlistSweep chain)).bind (fun _ => pure ())
  else pure ()

def checkStaleness (config : PipelineOrchestratorConfig) : PipelineM StalenessStatus :=
  if config.watchlistStaleness then memory .stalenessCheck else pure .fresh

def isSequencerUp (config : PipelineOrchestratorConfig) (chain : SupportedChain) :
    PipelineM Bool :=
  if config.sequencerGuard then ask (.isUp chain) else pure true

/-- A breaker of the detection pipeline is open. -/
def isDegraded (chain : SupportedChain) : PipelineM Bool := do
  let rpc ← memory (.detectionBreaker chain .rpc)
  if rpc = .open then pure true
  else
    let subgraph ← memory (.detectionBreaker chain .subgraph)
    pure (subgraph = .open)

/-- `runDegradedPolling` and `hasFreshCache`. -/
def refreshDegraded (chain : SupportedChain) : PipelineM Bool := do
  match ← tryAsk (.pollFallback chain) with
  | .error _ => pure false
  | .ok _ => memory (.hasFreshCache chain)

/-- `runChain` once its guards have passed. -/
def evaluateChain (config : PipelineOrchestratorConfig) (chain : SupportedChain)
    (degraded : Bool) (summary : PipelineRunSummary) : PipelineM PipelineRunSummary := do
  let candidates ← baseCandidates config chain degraded
  let extraOpportunities ← collectExtraOpportunities config chain
  let (plans, summary) ← buildExecutionPlans config chain
    (candidates.map .liquidation ++ extraOpportunities.map .arbitrage) summary
  let rankedPlans ← rankPlans config chain plans
  executePlans config rankedPlans { summary with scanned := summary.scanned + rankedPlans.length }

/-- `runChain` from the breakers on. -/
def runOpenChain (config : PipelineOrchestratorConfig) (chain : SupportedChain)
    (summary : PipelineRunSummary) : PipelineM PipelineRunSummary := do
  let breaker ← memory (.executionBreaker chain)
  if breaker = .open then pure summary
  else
    let degraded ← isDegraded chain
    if degraded then
      let refreshed ← refreshDegraded chain
      if refreshed then evaluateChain config chain true summary else pure summary
    else evaluateChain config chain false summary

/-- `runChain`. -/
def runChain (config : PipelineOrchestratorConfig) (chain : SupportedChain)
    (summary : PipelineRunSummary) : PipelineM PipelineRunSummary := do
  sweepWatchlist config chain
  let staleness ← checkStaleness config
  if staleness = .critical then pure summary
  else
    let sequencerUp ← isSequencerUp config chain
    if sequencerUp then runOpenChain config chain summary else pure summary

/-- The health factors sampled after a chain, for the diagnostics. -/
def sampleDiagnostics (config : PipelineOrchestratorConfig) (chain : SupportedChain) :
    PipelineM Unit :=
  if config.watchlistDiagnosticSample && config.liquidationGate then
    ask (.watchlistDiagnosticSample chain)
  else pure ()

def runChains (config : PipelineOrchestratorConfig) :
    List SupportedChain → PipelineRunSummary → PipelineM PipelineRunSummary
  | [], summary => pure summary
  | chain :: rest, summary => do
      let summary ← runChain config chain summary
      sampleDiagnostics config chain
      runChains config rest summary

/-- `runOnce`. -/
def runOnce (config : PipelineOrchestratorConfig) : PipelineM PipelineRunSummary := do
  let summary ← runChains config config.chains .empty
  if config.cycleObserver then
    ask (.cycleObserver summary)
    pure summary
  else pure summary

/-! ## What starts a cycle -/

/-- The switches of the event-purity mode. -/
structure EventPurityConfig where
  enableLiveTx : Bool
  simulationMode : Bool
deriving DecidableEq

/-- The hook `onLiquidatableCandidate` of `buildPipelineBot`. -/
def onLiquidatableCandidate (purity : EventPurityConfig) (config : PipelineOrchestratorConfig)
    (account : Address) : PipelineM Unit := do
  memory (.liquidatableCandidate account)
  if purity.enableLiveTx && !purity.simulationMode then
    (runOnce config).bind (fun _ => pure ())
  else pure ()

/-- The hook `onUrgentAccounts` of `buildPipelineBot`: the accounts are
registered, read and put into the cache first. -/
def onUrgentAccounts (config : PipelineOrchestratorConfig) (accounts : List Address) :
    PipelineM Unit := do
  ask (.refreshWatchlistBorrowers accounts)
  (runOnce config).bind (fun _ => pure ())

/-- One round of `runLoop`, which survives a failing cycle. -/
def pollingRound (config : PipelineOrchestratorConfig) : PipelineM Unit :=
  (runOnce config).attempt.bind (fun _ => pure ())

/-- The three places that start a cycle. -/
inductive CycleTrigger where
  | pollingRound
  | liquidatableCandidate (account : Address)
  | urgentAccounts (accounts : List Address)
deriving DecidableEq

def CycleTrigger.program (purity : EventPurityConfig) (config : PipelineOrchestratorConfig) :
    CycleTrigger → PipelineM Unit
  | .pollingRound => PipelineOrchestrator.pollingRound config
  | .liquidatableCandidate account => onLiquidatableCandidate purity config account
  | .urgentAccounts accounts => onUrgentAccounts config accounts

end PipelineOrchestrator

end LiquidationBot
