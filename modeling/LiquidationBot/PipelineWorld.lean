import LiquidationBot.Library.AsyncPool
import LiquidationBot.NonceWorld
import LiquidationBot.PipelineProtocol

/-!
# Cycles around shared objects

The calls of a cycle meet the borrower cache, the staleness guard, the cooldown
registry behind the gate, the dead letters, and the executor's nonces. Before any
call is answered, time passes and the components around the orchestrator do their
work: they deliver snapshots to the cache and report activity to the guard. What
they deliver and when, and every answer from outside, is chosen by the run.

The history records what the gate was asked and answered, which executions began,
and which were dead-lettered. It is stamped with the clock and nothing reads it.
So are the deliveries and the arrival of logs at the event-purity stack, which
none of the objects here takes notice of.
-/

namespace LiquidationBot

/-- `StalenessGuard`. -/
structure StalenessGuard where
  lastUpdate : Int
  maxStaleMs : Int
deriving DecidableEq

namespace StalenessGuard

def record (guard : StalenessGuard) (nowMs : Int) : StalenessGuard :=
  { guard with lastUpdate := nowMs }

def check (guard : StalenessGuard) (nowMs : Int) : StalenessStatus :=
  let age := nowMs - guard.lastUpdate
  if age < guard.maxStaleMs then .fresh
  else if age < guard.maxStaleMs * 3 then .stale
  else .critical

/-- The guard does not give up before three times the limit has passed. -/
theorem check_ne_critical {guard : StalenessGuard} {nowMs : Int}
    (reported : nowMs < guard.lastUpdate + guard.maxStaleMs * 3) : guard.check nowMs ≠ .critical := by
  unfold check
  dsimp only
  split
  · intro impossible
    cases impossible
  · rw [if_pos (by omega)]
    intro impossible
    cases impossible

end StalenessGuard

/-- `PipelineDeadLetter`. -/
structure PipelineDeadLetter where
  chain : SupportedChain
  opportunityId : OpportunityId
  account : Address
  reason : DeadLetterReason
  createdAtMs : Int
deriving DecidableEq

/-- `PipelineDeadLetterQueue`, which keeps the latest entries. -/
structure PipelineDeadLetterQueue where
  maxEntries : Nat
  entries : List PipelineDeadLetter
  dropped : Nat
  positive : 1 ≤ maxEntries
  bounded : entries.length ≤ maxEntries

namespace PipelineDeadLetterQueue

/-- The constructor with its default. -/
def initial : PipelineDeadLetterQueue where
  maxEntries := 1000
  entries := []
  dropped := 0
  positive := by decide
  bounded := by decide

def enqueue (queue : PipelineDeadLetterQueue) (entry : PipelineDeadLetter) :
    PipelineDeadLetterQueue where
  maxEntries := queue.maxEntries
  entries := queue.entries.drop (queue.entries.length + 1 - queue.maxEntries) ++ [entry]
  dropped := queue.dropped + (queue.entries.length + 1 - queue.maxEntries)
  positive := queue.positive
  bounded := by
    have := queue.positive
    simp
    omega

end PipelineDeadLetterQueue

namespace PipelineOrchestrator

/-- What has happened at the gate and at the executor. -/
inductive PipelineRecord where
  | checked (borrower : BorrowerKey) (blocked : Bool) (atMs : Int)
  | attempted (plan : PipelineExecutionPlan) (atMs : Int)
  | deadLettered (plan : PipelineExecutionPlan) (reason : DeadLetterReason) (atMs : Int)
deriving DecidableEq

/-- The shared objects, the clock, and what the run records. -/
structure PipelineWorld where
  nowMs : Int
  cache : ReserveAwareBorrowerCache
  watchlistStaleness : StalenessGuard
  borrowerCooldown : BorrowerCooldownRegistry
  deadLetters : PipelineDeadLetterQueue
  nonces : NonceWorld
  history : List PipelineRecord
  delivered : List BorrowerSnapshot
  lastLogMs : Int

/-- What one turn brings: the time and the work of other components before it,
and the answers from outside. -/
structure PipelineOracle where
  elapsedMs : Nat
  deliveries : List BorrowerSnapshot
  reported : Bool
  logArrived : Bool
  executionBreaker : CircuitBreakerStatus
  detectionBreaker : CircuitBreakerName → CircuitBreakerStatus
  answer : (op : PipelineCollaborator) → Except Thrown op.Result
  executor : ExecutorOracle

/-- Whom a plan is about: the borrower, or for an arbitrage the request's
account. -/
def subject (plan : PipelineExecutionPlan) : BorrowerKey :=
  match plan.opportunity with
  | .liquidation candidate => borrowerKey plan.chain candidate.account
  | .arbitrage _ => borrowerKey plan.request.chain plan.request.account

namespace PipelineWorld

/-- Time passes, and the other components do their work. -/
def elapse (world : PipelineWorld) (oracle : PipelineOracle) : PipelineWorld :=
  let nowMs := world.nowMs + oracle.elapsedMs
  { world with
    nowMs := nowMs
    cache := world.cache.upsertAll nowMs oracle.deliveries
    watchlistStaleness :=
      if oracle.reported then world.watchlistStaleness.record nowMs else world.watchlistStaleness
    delivered := world.delivered ++ oracle.deliveries
    lastLogMs := if oracle.logArrived then nowMs else world.lastLogMs }

def note (world : PipelineWorld) (record : PipelineRecord) : PipelineWorld :=
  { world with history := world.history ++ [record] }

/-- The registry's check of an account, on behalf of a borrower. -/
def checkFor (world : PipelineWorld) (borrower : BorrowerKey) (chain : SupportedChain)
    (account : Address) : PipelineWorld × Bool :=
  let checked := world.borrowerCooldown.isBorrowerBlocked world.nowMs chain account
  ({ world with borrowerCooldown := checked.1 }.note (.checked borrower checked.2 world.nowMs),
    checked.2)

/-- The gate's `isBorrowerBlocked`. -/
def isBorrowerBlocked (world : PipelineWorld) (chain : SupportedChain) (account : Address) :
    PipelineWorld × Bool :=
  world.checkFor (borrowerKey chain account) chain account

/-- The gate's `recordDeadLetter`, where there is a gate. -/
def recordDeadLetter (config : PipelineOrchestratorConfig) (world : PipelineWorld)
    (chain : SupportedChain) (account : Address) (reason : DeadLetterReason) : PipelineWorld :=
  if config.liquidationGate then
    { world with
      borrowerCooldown :=
        world.borrowerCooldown.recordDeadLetter world.nowMs chain account reason }
  else world

def enqueue (world : PipelineWorld) (chain : SupportedChain) (opportunityId : OpportunityId)
    (account : Address) (reason : DeadLetterReason) : PipelineWorld :=
  { world with
    deadLetters := world.deadLetters.enqueue ⟨chain, opportunityId, account, reason, world.nowMs⟩ }

/-- `deadLetter`, for a plan. -/
def deadLetter (config : PipelineOrchestratorConfig) (world : PipelineWorld)
    (plan : PipelineExecutionPlan) (reason : DeadLetterReason) : PipelineWorld :=
  ((world.recordDeadLetter config plan.request.chain plan.request.account reason).enqueue
    plan.request.chain plan.request.opportunityId plan.request.account reason).note
      (.deadLettered plan reason world.nowMs)

/-- `deadLetterOpportunity`, with `deadLetterCandidate`. -/
def deadLetterOpportunity (config : PipelineOrchestratorConfig) (world : PipelineWorld)
    (chain : SupportedChain) (opportunity : Opportunity) : PipelineWorld :=
  match opportunity with
  | .liquidation candidate =>
      (world.recordDeadLetter config chain candidate.account .request_builder_exception).enqueue
        chain (.liquidation chain candidate.account candidate.debtAsset) candidate.account
        .request_builder_exception
  | .arbitrage opportunity =>
      world.enqueue chain (.custom opportunity.opportunityId) opportunity.tokenIn
        .request_builder_exception

/-- The beginning of `executePlan`: the gate's check, and the attempt. -/
def beginExecution (config : PipelineOrchestratorConfig) (world : PipelineWorld)
    (plan : PipelineExecutionPlan) : PipelineWorld × Bool :=
  match plan.opportunity with
  | .liquidation candidate =>
      if config.liquidationGate then
        let checked := world.isBorrowerBlocked plan.chain candidate.account
        if checked.2 then (checked.1, false)
        else (checked.1.note (.attempted plan world.nowMs), true)
      else (world.note (.attempted plan world.nowMs), true)
  | .arbitrage _ => (world.note (.attempted plan world.nowMs), true)

/-- `recordExecutionResult`, as far as the dead letters go. -/
def settleExecution (config : PipelineOrchestratorConfig) (world : PipelineWorld)
    (plan : PipelineExecutionPlan) (result : Except Thrown SafeExecutionResult) : PipelineWorld :=
  match deadLetterReason result with
  | none => world
  | some reason => world.deadLetter config plan reason

/-! ## The detection cache -/

/-- The snapshots of a chain that are young enough for degraded polling. -/
def freshSnapshots (config : PipelineOrchestratorConfig) (world : PipelineWorld)
    (chain : SupportedChain) : List BorrowerSnapshot :=
  (world.cache.listSnapshots world.nowMs chain).filter
    (fun snapshot => world.nowMs - config.maxCacheAgeMs ≤ snapshot.updatedAtMs)

/-- `createFreshCandidates`, through a cache of its own. -/
def createFreshCandidates (config : PipelineOrchestratorConfig) (world : PipelineWorld)
    (chain : SupportedChain) : List LiquidationCandidate :=
  ((ReserveAwareBorrowerCache.create none none).upsertAll world.nowMs
    (world.freshSnapshots config chain)).createReserveAwareCandidates world.nowMs chain

/-- The raw candidates of a chain. -/
def listCandidates (config : PipelineOrchestratorConfig) (world : PipelineWorld)
    (chain : SupportedChain) (degraded : Bool) : List LiquidationCandidate :=
  if degraded then world.createFreshCandidates config chain
  else world.cache.createReserveAwareCandidates world.nowMs chain

/-- The cache after it was listed. -/
def pruned (world : PipelineWorld) : PipelineWorld :=
  { world with cache := world.cache.prune world.nowMs }

/-! ## The server -/

def serveMemory (config : PipelineOrchestratorConfig) (oracle : PipelineOracle)
    (world : PipelineWorld) : (op : PipelineMemory) → PipelineWorld × op.Answer
  | .liquidatableCandidate _ => (world, ())
  | .stalenessCheck => (world, world.watchlistStaleness.check world.nowMs)
  | .executionBreaker _ => (world, oracle.executionBreaker)
  | .detectionBreaker _ name => (world, oracle.detectionBreaker name)
  | .hasFreshCache chain => (world.pruned, !(world.freshSnapshots config chain).isEmpty)
  | .listCandidates chain degraded => (world.pruned, world.listCandidates config chain degraded)
  | .filterCandidates _ _ => (world, ())
  | .isBorrowerBlocked chain account => world.isBorrowerBlocked chain account
  | .deadLetterOpportunity chain opportunity =>
      (world.deadLetterOpportunity config chain opportunity, ())
  | .beginExecution plan => world.beginExecution config plan
  | .settleExecution plan result => (world.settleExecution config plan result, ())

/-- The hook `rejectBeforePreview` of `buildPipelineBot` asks the gate about the
request's account first. What else it looks at never gives that reason. -/
def rejectBeforePreview (oracle : PipelineOracle) (world : PipelineWorld)
    (plan : PipelineExecutionPlan) (request : SafeExecutionRequest) :
    PipelineWorld × Except Thrown (Option PreviewRejectReason) :=
  let checked := world.checkFor (subject plan) request.chain request.account
  if checked.2 then (checked.1, .ok (some .borrower_cooldown))
  else
    match oracle.executor.answer (.ask (.rejectBeforePreview request)) with
    | .ok (some .borrower_cooldown) => (checked.1, .ok none)
    | answer => (checked.1, answer)

/-- The executor's calls: the hook, the nonces, and the node. -/
def serveExecutor (oracle : PipelineOracle) (world : PipelineWorld)
    (plan : PipelineExecutionPlan) : (op : ExecutorOp) → Option (PipelineWorld × op.Answer)
  | .ask (.rejectBeforePreview request) => some (world.rejectBeforePreview oracle plan request)
  | op => (NonceWorld.serve oracle.executor world.nonces op).map (fun served =>
      ({ world with nonces := served.1 }, served.2))

/-- The server of a cycle's calls. -/
def serve (config : PipelineOrchestratorConfig) :
    Server PipelineOracle PipelineWorld PipelineOp PipelineOp.Answer :=
  fun oracle world op => match op with
    | .memory op => some ((world.elapse oracle).serveMemory config oracle op)
    | .ask op => some (world.elapse oracle, oracle.answer op)
    | .executor plan op => (world.elapse oracle).serveExecutor oracle plan op

section Serve

variable {config : PipelineOrchestratorConfig} {oracle : PipelineOracle}
variable {world after : PipelineWorld}

theorem serve_memory_eq_some {op : PipelineMemory} {answer : op.Answer}
    (served : serve config oracle world (.memory op) = some (after, answer)) :
    ((world.elapse oracle).serveMemory config oracle op).1 = after ∧
      ((world.elapse oracle).serveMemory config oracle op).2 = answer := by
  have same := Option.some.inj served
  rw [same]
  exact ⟨rfl, rfl⟩

/-- Awaited calls find and leave what the other components have done. -/
theorem serve_ask_eq_some {op : PipelineCollaborator} {answer : Except Thrown op.Result}
    (served : serve config oracle world (.ask op) = some (after, answer)) :
    world.elapse oracle = after ∧ oracle.answer op = answer := by
  cases served
  exact ⟨rfl, rfl⟩

/-- Of the shared objects of a cycle, the executor's calls apart from the hook
touch the nonces only. -/
theorem serve_executor_eq_some {plan : PipelineExecutionPlan} {op : ExecutorOp} {answer : op.Answer}
    (served : serve config oracle world (.executor plan op) = some (after, answer)) :
    (∃ request, op = .ask (.rejectBeforePreview request) ∧
        ((world.elapse oracle).rejectBeforePreview oracle plan request).1 = after) ∨
      ∃ nonces, { world.elapse oracle with nonces := nonces } = after := by
  dsimp only [serve] at served
  unfold serveExecutor at served
  split at served
  next request =>
    have same := congrArg Prod.fst (Option.some.inj served)
    exact Or.inl ⟨request, rfl, same⟩
  next =>
    obtain ⟨reply, _, same⟩ := Option.map_eq_some_iff.mp served
    exact Or.inr ⟨reply.1, congrArg Prod.fst same⟩

/-- The detection cache, its clock and its deliveries are as before, or the cache
has been listed. -/
def SameDetection (world after : PipelineWorld) : Prop :=
  (after.cache = world.cache ∨ after.cache = world.cache.prune world.nowMs) ∧
    after.nowMs = world.nowMs ∧ after.delivered = world.delivered

theorem sameDetection_refl (world : PipelineWorld) : SameDetection world world :=
  ⟨Or.inl rfl, rfl, rfl⟩

theorem sameDetection_recordDeadLetter (chain : SupportedChain) (account : Address)
    (reason : DeadLetterReason) :
    SameDetection world (world.recordDeadLetter config chain account reason) := by
  unfold recordDeadLetter
  split
  · exact ⟨Or.inl rfl, rfl, rfl⟩
  · exact sameDetection_refl world

theorem sameDetection_beginExecution (plan : PipelineExecutionPlan) :
    SameDetection world (world.beginExecution config plan).1 := by
  unfold beginExecution
  split
  next candidate found =>
    split
    next =>
      dsimp only
      split
      · exact ⟨Or.inl rfl, rfl, rfl⟩
      · exact ⟨Or.inl rfl, rfl, rfl⟩
    next => exact ⟨Or.inl rfl, rfl, rfl⟩
  next => exact ⟨Or.inl rfl, rfl, rfl⟩

theorem sameDetection_settleExecution (plan : PipelineExecutionPlan)
    (result : Except Thrown SafeExecutionResult) :
    SameDetection world (world.settleExecution config plan result) := by
  unfold settleExecution
  split
  next => exact sameDetection_refl world
  next reason found => exact sameDetection_recordDeadLetter _ _ reason

theorem sameDetection_deadLetterOpportunity (chain : SupportedChain) (opportunity : Opportunity) :
    SameDetection world (world.deadLetterOpportunity config chain opportunity) := by
  cases opportunity with
  | liquidation candidate => exact sameDetection_recordDeadLetter _ _ _
  | arbitrage opportunity => exact ⟨Or.inl rfl, rfl, rfl⟩

theorem sameDetection_rejectBeforePreview (plan : PipelineExecutionPlan)
    (request : SafeExecutionRequest) :
    SameDetection world (world.rejectBeforePreview oracle plan request).1 := by
  unfold rejectBeforePreview
  dsimp only
  split
  · exact ⟨Or.inl rfl, rfl, rfl⟩
  · split
    · exact ⟨Or.inl rfl, rfl, rfl⟩
    · exact ⟨Or.inl rfl, rfl, rfl⟩

/-- Once the other components have done their work, a call at most lists the
cache. -/
theorem sameDetection_serve {op : PipelineOp} {answer : op.Answer}
    (served : serve config oracle world op = some (after, answer)) :
    SameDetection (world.elapse oracle) after := by
  cases op with
  | ask op =>
    rw [← (serve_ask_eq_some served).1]
    exact sameDetection_refl _
  | executor plan op =>
    rcases serve_executor_eq_some served with ⟨request, rfl, rfl⟩ | ⟨nonces, rfl⟩
    · exact sameDetection_rejectBeforePreview plan request
    · exact ⟨Or.inl rfl, rfl, rfl⟩
  | memory op =>
    rw [← (serve_memory_eq_some served).1]
    cases op with
    | hasFreshCache chain => exact ⟨Or.inr rfl, rfl, rfl⟩
    | listCandidates chain degraded => exact ⟨Or.inr rfl, rfl, rfl⟩
    | deadLetterOpportunity chain opportunity =>
      exact sameDetection_deadLetterOpportunity chain opportunity
    | beginExecution plan => exact sameDetection_beginExecution plan
    | settleExecution plan result => exact sameDetection_settleExecution plan result
    | _ => exact ⟨Or.inl rfl, rfl, rfl⟩

end Serve

/-- An empty cache and an empty registry at a time, with the guard just
started. -/
def start (nowMs maxStaleMs : Int) (cooldownMs : Option Int) (acceptedBefore : Nat) :
    PipelineWorld where
  nowMs := nowMs
  cache := .create none none
  watchlistStaleness := ⟨nowMs, maxStaleMs⟩
  borrowerCooldown := .create cooldownMs
  deadLetters := .initial
  nonces := .start acceptedBefore
  history := []
  delivered := []
  lastLogMs := nowMs

end PipelineWorld

/-- A started trigger with its calls so far. -/
abbrev CycleThread := Thread PipelineOp PipelineOp.Answer Thrown Unit

abbrev CyclePool := Pool PipelineWorld PipelineOp PipelineOp.Answer Thrown Unit

abbrev CycleAct := Act PipelineOracle PipelineOp PipelineOp.Answer Thrown Unit

abbrev PipelineEvent := Async.Event PipelineOp PipelineOp.Answer

/-- Turns start cycles and answer calls. -/
def Triggers (purity : EventPurityConfig) (config : PipelineOrchestratorConfig) : CycleAct → Prop
  | .start program => ∃ trigger : CycleTrigger, program = trigger.program purity config
  | .run _ _ => True

/-- The call a thread waits for. -/
def pendingCall (thread : CycleThread) : Option PipelineOp :=
  match thread.program with
  | .call op _ => some op
  | _ => none

/-! ## A wallet on Base -/

/-- The orchestrator as it is wired for live transactions from an account. -/
def baseConfig (account : Address) : PipelineOrchestratorConfig where
  chains := [.base]
  watchlistSweep := false
  watchlistStaleness := true
  sequencerGuard := true
  liquidationGate := true
  collectsExtraOpportunities := false
  opportunityRanker := true
  outcomeObserver := true
  watchlistDiagnosticSample := true
  cycleObserver := true
  maxCacheAgeMs := 30000
  requestChain := .base
  adapter := ⟨account, some ⟨4, 0⟩, true⟩
  arbitrageReceiverAddress := none
  executor := { SafeTransactionExecutor.plainConfig false with rejectBeforePreview := true }

def liveTx : EventPurityConfig := ⟨true, false⟩

/-- A turn in which no time passes, nothing is delivered, and nothing fails. -/
def calm : PipelineOracle where
  elapsedMs := 0
  deliveries := []
  reported := false
  logArrived := false
  executionBreaker := .closed
  detectionBreaker := fun _ => .closed
  executor := NonceWorld.willing
  answer := fun op => match op with
    | .refreshWatchlistBorrowers _ => .ok ()
    | .watchlistSweep _ => .ok ()
    | .isUp _ => .ok true
    | .pollFallback _ => .ok ()
    | .resolveGasCostUsd => .ok ()
    | .resolveFlashFeeBps => .ok ()
    | .judge _ candidate => .ok (some candidate.repayValueUsd)
    | .collectExtraOpportunities _ => .ok []
    | .rank _ plans => .ok (List.range plans.length)
    | .recordOutcome _ _ => .ok ()
    | .watchlistDiagnosticSample _ => .ok ()
    | .cycleObserver _ => .ok ()

/-- An account with collateral of 900 against a debt of 1000, both of 6 decimals
and priced at one. -/
def snapshotAtRisk (account : Address) : BorrowerSnapshot where
  chain := .base
  account := account
  healthFactor := 900000000000000000
  updatedAtMs := 0
  reserves := [
    ⟨⟨2, 0⟩, 6, ⟨6, 900000000⟩, ⟨6, 0⟩, ⟨6, 0⟩, ⟨8, 100000000⟩, true, 500⟩,
    ⟨⟨3, 0⟩, 6, ⟨6, 0⟩, ⟨6, 1000000000⟩, ⟨6, 0⟩, ⟨8, 100000000⟩, false, 500⟩]

/-- Let one thread take a number of turns. -/
def turns (index count : Nat) (oracle : PipelineOracle) : List CycleAct :=
  List.replicate count (.run index oracle)

theorem triggers_turns {purity : EventPurityConfig} {config : PipelineOrchestratorConfig}
    {index count : Nat} {oracle : PipelineOracle} {act : CycleAct}
    (member : act ∈ turns index count oracle) : Triggers purity config act := by
  rw [List.eq_of_mem_replicate member]
  trivial

end PipelineOrchestrator

end LiquidationBot
