import LiquidationBot.Library.AsyncPool
import LiquidationBot.NonceProtocol

/-!
# Executions around one nonce manager

The executor's calls meet the nonce manager and the node. The manager answers as
its code does; the node counts the transactions it has accepted, and its pending
nonce is that count. Everything else is answered by an oracle, which a run
chooses anew at every call.
-/

namespace LiquidationBot

/-- The manager and the node's side of an account: how many transactions it had
accepted before, and the nonces it has accepted since. -/
structure NonceWorld where
  manager : LocalNonceManager
  acceptedBefore : Nat
  accepted : List Nat

/-- The answers of one turn. A send that throws may have reached the node. -/
structure ExecutorOracle where
  answer : (op : ExecutorOp) → op.Answer
  reachesNode : Bool

namespace NonceWorld

/-- The count of transactions the node has accepted. -/
def pendingNonce (world : NonceWorld) : Nat := world.acceptedBefore + world.accepted.length

/-- The node accepts a transaction; a replacement does not count again. -/
def accept (world : NonceWorld) (nonce : Nat) : NonceWorld :=
  if nonce ∈ world.accepted then world
  else { world with accepted := world.accepted ++ [nonce] }

/-- The calls to memory. -/
def serveMemory (oracle : ExecutorOracle) (manager : LocalNonceManager) :
    (op : MemoryOp) → Option (LocalNonceManager × op.Answer)
  | .lookup key => some (manager.lookup key)
  | .initialized key ref read => some (manager.initialized key ref read, ())
  | .takeFrom ref => manager.takeFrom ref
  | .release key nonce => some (manager.release key nonce, ())
  | .resync key nextNonce => some (manager.resync key nextNonce, ())
  | .executionBreaker chain => some (manager, oracle.answer (.memory (.executionBreaker chain)))
  | .gasProfile key => some (manager, oracle.answer (.memory (.gasProfile key)))
  | .setGasProfile _ _ => some (manager, ())

/-- The calls to collaborators. -/
def serveAsk (oracle : ExecutorOracle) (world : NonceWorld) :
    (op : Collaborator) → NonceWorld × Except Thrown op.Result
  | .getPendingNonce key =>
      match oracle.answer (.ask (.getPendingNonce key)) with
      | .error error => (world, .error error)
      | .ok _ => (world, .ok world.pendingNonce)
  | .send route request transaction overrides =>
      match oracle.answer (.ask (.send route request transaction overrides)) with
      | .error error =>
          (if oracle.reachesNode then world.accept overrides.nonce else world, .error error)
      | .ok hash => (world.accept overrides.nonce, .ok hash)
  | op => (world, oracle.answer (.ask op))

/-- The server of the executor's calls. -/
def serve : Server ExecutorOracle NonceWorld ExecutorOp ExecutorOp.Answer :=
  fun oracle world op => match op with
    | .memory op => (serveMemory oracle world.manager op).map (fun served =>
        ({ world with manager := served.1 }, served.2))
    | .ask op => some (serveAsk oracle world op)

theorem manager_accept (world : NonceWorld) (nonce : Nat) :
    (world.accept nonce).manager = world.manager := by
  unfold accept
  split
  · rfl
  · rfl

theorem manager_serveAsk (oracle : ExecutorOracle) (world : NonceWorld) (op : Collaborator) :
    (serveAsk oracle world op).1.manager = world.manager := by
  unfold serveAsk
  split
  · split
    · rfl
    · rfl
  · split
    · dsimp only
      split
      · exact manager_accept world _
      · rfl
    · exact manager_accept world _
  · rfl

/-- Collaborators do not touch the manager. -/
theorem manager_serve_ask {oracle : ExecutorOracle} {world after : NonceWorld}
    {op : Collaborator} {answer : Except Thrown op.Result}
    (served : serve oracle world (.ask op) = some (after, answer)) :
    after.manager = world.manager := by
  have same : (serveAsk oracle world op).1 = after := congrArg Prod.fst (Option.some.inj served)
  rw [← same, manager_serveAsk]

theorem serve_memory_eq_some {oracle : ExecutorOracle} {world after : NonceWorld}
    {op : MemoryOp} {answer : op.Answer}
    (served : serve oracle world (.memory op) = some (after, answer)) :
    serveMemory oracle world.manager op = some (after.manager, answer) := by
  obtain ⟨⟨manager, reply⟩, memory, same⟩ := Option.map_eq_some_iff.mp served
  cases same
  exact memory

/-- Calls to memory apart from the nonces do not touch the manager. -/
theorem serveMemory_neutral {oracle : ExecutorOracle} {manager after : LocalNonceManager}
    {op : MemoryOp} {answer : op.Answer} (apart : SafeTransactionExecutor.neutral op = true)
    (served : serveMemory oracle manager op = some (after, answer)) : after = manager := by
  cases op <;> first | (cases served; rfl) | cases apart

/-- Collaborators that let every transaction through. -/
def willing : ExecutorOracle where
  reachesNode := false
  answer := fun op => match op with
    | .memory (.executionBreaker _) => .ok .closed
    | .memory (.lookup _) => (0, false)
    | .memory (.initialized _ _ _) => ()
    | .memory (.takeFrom _) => .ok 0
    | .memory (.release _ _) => ()
    | .memory (.resync _ _) => ()
    | .memory (.gasProfile _) => none
    | .memory (.setGasProfile _ _) => ()
    | .ask (.getPendingNonce _) => .ok 0
    | .ask (.selectBestRoute _) => .ok (.selected ⟨.aaveV3, 100⟩)
    | .ask (.getGasPrice _) => .ok 10
    | .ask (.buildTransaction route) => .ok ⟨⟨7, 0⟩, [], route.provider, none⟩
    | .ask (.estimateGas _) => .ok 500000
    | .ask (.quoteExecutionGasCap _ _) => .ok 20
    | .ask (.rejectBeforePreview _) => .ok none
    | .ask (.buildFlashLoanPreviewTransaction route) => .ok ⟨⟨7, 0⟩, [], route.provider, none⟩
    | .ask (.simulateContract _ _) => .ok .success
    | .ask (.rejectBeforeBroadcast _) => .ok none
    | .ask (.assess _ _) => .ok 0
    | .ask (.send _ _ _ _) => .ok 1
    | .ask (.waitForReceipt _) => .ok .included

/-- The same, except that one kind of call throws. -/
def failing (fails : Collaborator → Bool) : ExecutorOracle where
  reachesNode := false
  answer := fun op => match op with
    | .memory op => willing.answer (.memory op)
    | .ask op => if fails op then .error ⟨false⟩ else willing.answer (.ask op)

/-- A new manager at a node that has accepted some transactions. -/
def start (acceptedBefore : Nat) : NonceWorld := ⟨.initial, acceptedBefore, []⟩

end NonceWorld

namespace SafeTransactionExecutor

/-- The executor's defaults, without optional collaborators. -/
def plainConfig (dryRunMode : Bool) : SafeTransactionExecutorConfig where
  replacementBumpBps := 1250
  privateBundleRiskThresholdBps := 7000
  privateFirstChains := []
  competitorModel := false
  bundleRouter := false
  allowPublicFallbackAfterBundleFailure := false
  dryRunMode := dryRunMode
  rejectBeforePreview := false
  rejectBeforeBroadcast := false
  quoteExecutionGasCap := false

/-- A direct transaction of the wallet on Base. -/
def plainRequest : SafeExecutionRequest where
  chain := .base
  account := ⟨9, 0⟩
  opportunityId := .custom 0
  gasProfileKey := .custom 0
  routeInputChain := .base
  gasLimitHint := none
  buildsFlashLoanPreview := false

end SafeTransactionExecutor

end LiquidationBot
