import LiquidationBot.Library.Async
import LiquidationBot.NonceManager

/-!
# The safe transaction executor

`execute` checks, simulates and submits one transaction. It is a program over
the calls it makes to its collaborators, so that a property of it can speak of
every pattern of answers and exceptions. Clocks, logging and metrics are left
out.

Three promises of the preflight are awaited together: the reservation, the route
and the gas price. The program awaits them one after the other, reservation
first. Neither of the other two touches the nonces, so where their answers fall
makes no difference to them.
-/

namespace LiquidationBot

/-- `FlashLoanProviderId`. -/
inductive FlashLoanProviderId where
  | aaveV3
  | balancer
  | uniswapV3
deriving DecidableEq

/-- `CircuitBreakerStatus`. -/
inductive CircuitBreakerStatus where
  | closed
  | open
  | half_open
deriving DecidableEq

/-- The selected route, with its net profit in units of 1e-8 dollars. -/
structure SelectedRoute where
  provider : FlashLoanProviderId
  netProfitRaw : Int
deriving DecidableEq

/-- `RouteSelectionResult`; the reason of a rejection is not read here. -/
inductive RouteSelectionResult where
  | selected (route : SelectedRoute)
  | rejected
deriving DecidableEq

/-- `TransactionEnvelope`; `target` is its `to`. The executor reads the provider
and hands the rest on; a contract call is given by the bytes that it encodes to. -/
structure TransactionEnvelope where
  target : Address
  data : List UInt8
  provider : FlashLoanProviderId
  contractCall : Option (List UInt8)
deriving DecidableEq

structure TransactionOverrides where
  gas : Nat
  gasPrice : Nat
  nonce : Nat
deriving DecidableEq

/-- `FinalSimulationResult`. -/
inductive FinalSimulationResult where
  | success
  | failure
deriving DecidableEq

/-- The status of an `ExecutionReceipt`. -/
inductive ExecutionReceipt where
  | included
  | underpriced
  | reorged
  | reverted
deriving DecidableEq

/-- The reasons of `rejectBeforePreview` that the executor tells apart. -/
inductive PreviewRejectReason where
  | borrower_cooldown
  | dust
  | other
deriving DecidableEq

/-- The reasons of `rejectBeforeBroadcast`. -/
inductive BroadcastRejectReason where
  | detection_block_stale
  | hf_not_liquidatable
  | other
deriving DecidableEq

inductive RejectReason where
  | route_rejected
  | route_transaction_mismatch
  | final_simulation_failed
  | execution_circuit_open
  | dust_filtered
  | borrower_cooldown
deriving DecidableEq

inductive FailReason where
  | receipt_reorged
  | receipt_reverted
  | send_failed
deriving DecidableEq

/-- Transaction hashes are compared only. -/
abbrev Hash := Nat

/-- `SafeExecutionResult`. -/
inductive SafeExecutionResult where
  | sent (txHash : Hash)
  | simulated
  | rejected (reason : RejectReason)
  | failed (reason : FailReason)
deriving DecidableEq

/-- `BundleSubmissionRoute` is always the private one where it is given; a
submission goes to the bundle router or to the public client. -/
inductive SubmissionRoute where
  | public_rpc
  | private_bundle
deriving DecidableEq

structure GasLimitHint where
  collateralAsset : Address
  debtAsset : Address
  usesFlashWrapper : Bool
deriving DecidableEq

/-- `gasProfileKey` of a liquidation; other requests have keys of their own. -/
inductive GasProfileKey where
  | liq (collateralAsset debtAsset : Address)
  | custom (key : Nat)
deriving DecidableEq

/-- `opportunityId`: chain, account and debt asset as spelled; other requests
have ids of their own. -/
inductive OpportunityId where
  | liquidation (chain : SupportedChain) (account debtAsset : Address)
  | custom (id : Nat)
deriving DecidableEq

/-- `SafeExecutionRequest`. Of the route input only the chain is read here, and
of the optional preview builder whether there is one. -/
structure SafeExecutionRequest where
  chain : SupportedChain
  account : Address
  opportunityId : OpportunityId
  gasProfileKey : GasProfileKey
  routeInputChain : SupportedChain
  gasLimitHint : Option GasLimitHint
  buildsFlashLoanPreview : Bool
deriving DecidableEq

/-- `SafeTransactionExecutorConfig`, with its defaults filled in. Optional
collaborators are given by whether they are there. -/
structure SafeTransactionExecutorConfig where
  replacementBumpBps : Nat
  privateBundleRiskThresholdBps : Nat
  privateFirstChains : List SupportedChain
  competitorModel : Bool
  bundleRouter : Bool
  allowPublicFallbackAfterBundleFailure : Bool
  dryRunMode : Bool
  rejectBeforePreview : Bool
  rejectBeforeBroadcast : Bool
  quoteExecutionGasCap : Bool
deriving DecidableEq

/-- Calls to objects in memory: the chain registry, the nonce manager and the
cache of gas limits. -/
inductive MemoryOp where
  | executionBreaker (chain : SupportedChain)
  | lookup (key : NonceKey)
  | initialized (key : NonceKey) (ref : Nat) (answer : Except Thrown Nat)
  | takeFrom (ref : Nat)
  | release (key : NonceKey) (nonce : Nat)
  | resync (key : NonceKey) (nextNonce : Nat)
  | gasProfile (key : GasProfileKey)
  | setGasProfile (key : GasProfileKey) (gasLimit : Nat)
deriving DecidableEq

@[reducible] def MemoryOp.Answer : MemoryOp → Type
  | .executionBreaker _ => Except Thrown CircuitBreakerStatus
  | .lookup _ => Nat × Bool
  | .initialized _ _ _ => Unit
  | .takeFrom _ => Except Thrown Nat
  | .release _ _ => Unit
  | .resync _ _ => Unit
  | .gasProfile _ => Option Nat
  | .setGasProfile _ _ => Unit

/-- Calls to injected collaborators. Each may throw. -/
inductive Collaborator where
  | getPendingNonce (key : NonceKey)
  | selectBestRoute (opportunityId : OpportunityId)
  | getGasPrice (chain : SupportedChain)
  | buildTransaction (route : SelectedRoute)
  | estimateGas (transaction : TransactionEnvelope)
  | quoteExecutionGasCap (expectedProfitRaw : Int) (gasLimit : Nat)
  | rejectBeforePreview (request : SafeExecutionRequest)
  | buildFlashLoanPreviewTransaction (route : SelectedRoute)
  | simulateContract (transaction : TransactionEnvelope) (overrides : TransactionOverrides)
  | rejectBeforeBroadcast (request : SafeExecutionRequest)
  | assess (request : SafeExecutionRequest) (overrides : TransactionOverrides)
  | send (route : SubmissionRoute) (request : SafeExecutionRequest)
      (transaction : TransactionEnvelope) (overrides : TransactionOverrides)
  | waitForReceipt (hash : Hash)
deriving DecidableEq

@[reducible] def Collaborator.Result : Collaborator → Type
  | .getPendingNonce _ => Nat
  | .selectBestRoute _ => RouteSelectionResult
  | .getGasPrice _ => Nat
  | .buildTransaction _ => TransactionEnvelope
  | .estimateGas _ => Nat
  | .quoteExecutionGasCap _ _ => Nat
  | .rejectBeforePreview _ => Option PreviewRejectReason
  | .buildFlashLoanPreviewTransaction _ => TransactionEnvelope
  | .simulateContract _ _ => FinalSimulationResult
  | .rejectBeforeBroadcast _ => Option BroadcastRejectReason
  | .assess _ _ => Nat
  | .send _ _ _ _ => Hash
  | .waitForReceipt _ => ExecutionReceipt

/-- Any call of the executor. -/
inductive ExecutorOp where
  | memory (op : MemoryOp)
  | ask (op : Collaborator)
deriving DecidableEq

@[reducible] def ExecutorOp.Answer : ExecutorOp → Type
  | .memory op => op.Answer
  | .ask op => Except Thrown op.Result

/-- A part of the executor's program. -/
abbrev ExecutorM := Async ExecutorOp ExecutorOp.Answer Thrown

namespace SafeTransactionExecutor

/-- `pairOverrides`, the profiled gas limits of asset pairs. -/
def pairOverrides (hint : GasLimitHint) (provider : FlashLoanProviderId) : Option Nat :=
  if hint.collateralAsset.toLowerCase = ⟨0x4200000000000000000000000000000000000006, 0⟩ ∧
      hint.debtAsset.toLowerCase = ⟨0x833589fcd6ede6e08f4c7c32d4f71b54bda02913, 0⟩ then
    match provider with
    | .aaveV3 => some 1100000
    | .balancer => some 1200000
    | .uniswapV3 => none
  else none

/-- The gas limit of `resolveLiquidationGasLimit`. -/
def resolveLiquidationGasLimit (hint : GasLimitHint) (provider : FlashLoanProviderId) : Nat :=
  match pairOverrides hint provider with
  | some gasLimit => gasLimit
  | none =>
      if provider = .balancer then 1250000
      else if hint.usesFlashWrapper then 1150000
      else 650000

def bumpGasPrice (gasPrice bumpBps : Nat) : Nat := gasPrice + (gasPrice * bumpBps) / 10000

/-- The account whose nonces a request uses. -/
def keyOf (request : SafeExecutionRequest) : NonceKey := nonceKey request.chain request.account

/-- A call to an object in memory. -/
def memory (op : MemoryOp) : ExecutorM op.Answer := .call (.memory op) .pure

/-- An awaited call to a collaborator. -/
def ask (op : Collaborator) : ExecutorM op.Result := .call (.ask op) Async.orThrow

/-- The same without passing an exception on. -/
def tryAsk (op : Collaborator) : ExecutorM (Except Thrown op.Result) := .call (.ask op) .pure

section Protocol

variable {Phase : Type} {next : Phase → (op : ExecutorOp) → op.Answer → Option Phase} {phase : Phase}

theorem conforms_memory {op : MemoryOp} {accept : Phase → Except Thrown op.Answer → Prop} :
    Async.Conforms next accept phase (memory op) ↔
      ∀ answer, ∃ after, next phase (.memory op) answer = some after ∧
        accept after (.ok answer) := Iff.rfl

/-- An awaited call is judged on its results and its exceptions. -/
theorem conforms_ask {op : Collaborator} {accept : Phase → Except Thrown op.Result → Prop}
    (returned : ∀ value, ∃ after, next phase (.ask op) (.ok value) = some after ∧
      accept after (.ok value))
    (thrown : ∀ error, ∃ after, next phase (.ask op) (.error error) = some after ∧
      accept after (.error error)) :
    Async.Conforms next accept phase (ask op) := by
  rintro (error | value)
  · exact thrown error
  · exact returned value

theorem conforms_orThrow {α : Type} {accept : Phase → Except Thrown α → Prop}
    {answer : Except Thrown α} :
    Async.Conforms next accept phase (Async.orThrow answer : ExecutorM α) ↔
      accept phase answer := by
  cases answer with
  | ok value => exact Iff.rfl
  | error error => exact Iff.rfl

end Protocol

/-- `reserve`, with the read that `createState` starts. -/
def reserve (request : SafeExecutionRequest) : ExecutorM Nat := do
  let (ref, created) ← memory (.lookup (keyOf request))
  if created then
    let answer ← tryAsk (.getPendingNonce (keyOf request))
    memory (.initialized (keyOf request) ref answer)
  let taken ← memory (.takeFrom ref)
  Async.orThrow taken

def releaseNonce (request : SafeExecutionRequest) (nonce : Nat) : ExecutorM Unit :=
  memory (.release (keyOf request) nonce)

def resyncNonce (request : SafeExecutionRequest) : ExecutorM Unit := do
  let nextNonce ← ask (.getPendingNonce (keyOf request))
  memory (.resync (keyOf request) nextNonce)

/-- The other two promises of the preflight. -/
def routeAndGasPrice (request : SafeExecutionRequest) :
    ExecutorM (RouteSelectionResult × Nat) := do
  let route ← ask (.selectBestRoute request.opportunityId)
  let gasPrice ← ask (.getGasPrice request.chain)
  pure (route, gasPrice)

/-- `runPreflight`: if the route or the gas price throws, the reservation is
released and the exception passed on. -/
def runPreflight (request : SafeExecutionRequest) :
    ExecutorM (RouteSelectionResult × Nat × Nat) := do
  let nonce ← reserve request
  let (route, gasPrice) ← (routeAndGasPrice request).handle (fun error => do
    releaseNonce request nonce
    .throw error)
  pure (route, gasPrice, nonce)

/-- `getGasLimit`: cached, from the table, or estimated. -/
def getGasLimit (request : SafeExecutionRequest) (transaction : TransactionEnvelope) :
    ExecutorM Nat := do
  match ← memory (.gasProfile request.gasProfileKey) with
  | some gasLimit => pure gasLimit
  | none =>
      match request.gasLimitHint with
      | some hint =>
          let gasLimit := resolveLiquidationGasLimit hint transaction.provider
          memory (.setGasProfile request.gasProfileKey gasLimit)
          pure gasLimit
      | none =>
          let gasLimit ← ask (.estimateGas transaction)
          memory (.setGasProfile request.gasProfileKey gasLimit)
          pure gasLimit

/-- `assessCompetitorRisk`: a failed assessment counts as none. -/
def assessCompetitorRisk (config : SafeTransactionExecutorConfig) (request : SafeExecutionRequest)
    (overrides : TransactionOverrides) : ExecutorM (Option Nat) :=
  if !config.competitorModel then pure none
  else do
    match ← tryAsk (.assess request overrides) with
    | .ok riskBps => pure (some riskBps)
    | .error _ => pure none

/-- The bundle router's submission, with `handleBundleFailure`. -/
def sendPrivate (config : SafeTransactionExecutorConfig) (request : SafeExecutionRequest)
    (transaction : TransactionEnvelope) (overrides : TransactionOverrides) : ExecutorM Hash :=
  (ask (.send .private_bundle request transaction overrides)).handle (fun error =>
    if config.allowPublicFallbackAfterBundleFailure then
      ask (.send .public_rpc request transaction overrides)
    else .throw error)

/-- `sendTransaction`. -/
def sendTransaction (config : SafeTransactionExecutorConfig) (request : SafeExecutionRequest)
    (transaction : TransactionEnvelope) (overrides : TransactionOverrides) : ExecutorM Hash :=
  if config.bundleRouter && config.privateFirstChains.contains request.chain then
    sendPrivate config request transaction overrides
  else do
    let risk ← assessCompetitorRisk config request overrides
    if config.bundleRouter &&
        risk.any (fun riskBps => decide (riskBps ≥ config.privateBundleRiskThresholdBps)) then
      sendPrivate config request transaction overrides
    else ask (.send .public_rpc request transaction overrides)

/-- `sendReplacement`: any failure resynchronises. -/
def sendReplacement (config : SafeTransactionExecutorConfig) (request : SafeExecutionRequest)
    (transaction : TransactionEnvelope) (overrides : TransactionOverrides) :
    ExecutorM (Option Hash) :=
  ((sendTransaction config request transaction overrides).bind (fun hash => pure (some hash))).handle
    (fun _ => do
      resyncNonce request
      pure none)

/-- `sendOrReplaceUnderpriced`: an underpriced send is repeated with a bumped gas
price, any other failure resynchronises. -/
def sendOrReplaceUnderpriced (config : SafeTransactionExecutorConfig)
    (request : SafeExecutionRequest) (transaction : TransactionEnvelope)
    (overrides : TransactionOverrides) : ExecutorM (Option Hash) :=
  ((sendTransaction config request transaction overrides).bind (fun hash => pure (some hash))).handle
    (fun error =>
      if !error.underpriced then do
        resyncNonce request
        pure none
      else
        sendReplacement config request transaction
          { overrides with gasPrice := bumpGasPrice overrides.gasPrice config.replacementBumpBps })

/-- `toFailedReceipt`. -/
def toFailedReceipt : ExecutionReceipt → SafeExecutionResult
  | .reorged => .failed .receipt_reorged
  | _ => .failed .receipt_reverted

/-- `submitWithReplacement`. -/
def submitWithReplacement (config : SafeTransactionExecutorConfig) (request : SafeExecutionRequest)
    (transaction : TransactionEnvelope) (overrides : TransactionOverrides) :
    ExecutorM SafeExecutionResult := do
  match ← sendOrReplaceUnderpriced config request transaction overrides with
  | none => pure (.failed .send_failed)
  | some firstHash =>
      match ← ask (.waitForReceipt firstHash) with
      | .included => pure (.sent firstHash)
      | .underpriced =>
          let bumpedOverrides :=
            { overrides with gasPrice := bumpGasPrice overrides.gasPrice config.replacementBumpBps }
          match ← sendReplacement config request transaction bumpedOverrides with
          | none => pure (.failed .send_failed)
          | some replacementHash =>
              match ← ask (.waitForReceipt replacementHash) with
              | .included => pure (.sent replacementHash)
              | receipt => pure (toFailedReceipt receipt)
      | receipt => pure (toFailedReceipt receipt)

/-- The overrides of `execute`: the gas price is capped by the quote. -/
def quoteOverrides (config : SafeTransactionExecutorConfig) (route : SelectedRoute)
    (gas gasPrice nonce : Nat) : ExecutorM TransactionOverrides :=
  if !config.quoteExecutionGasCap then pure ⟨gas, gasPrice, nonce⟩
  else do
    let maxFeePerGas : Nat ← ask (.quoteExecutionGasCap route.netProfitRaw gas)
    pure ⟨gas, if gasPrice < maxFeePerGas then gasPrice else maxFeePerGas, nonce⟩

/-- An optional hook of `execute`; an absent one rejects nothing. -/
def previewRejectReason (config : SafeTransactionExecutorConfig) (request : SafeExecutionRequest) :
    ExecutorM (Option PreviewRejectReason) :=
  if config.rejectBeforePreview then ask (.rejectBeforePreview request) else pure none

@[inherit_doc previewRejectReason]
def broadcastRejectReason (config : SafeTransactionExecutorConfig)
    (request : SafeExecutionRequest) : ExecutorM (Option BroadcastRejectReason) :=
  if config.rejectBeforeBroadcast then ask (.rejectBeforeBroadcast request) else pure none

/-- The preview part of `execute`: the result it ends with, if it does. -/
def runPreview (config : SafeTransactionExecutorConfig) (request : SafeExecutionRequest)
    (route : SelectedRoute) (overrides : TransactionOverrides) :
    ExecutorM (Option SafeExecutionResult) :=
  if !request.buildsFlashLoanPreview then pure none
  else do
    match ← previewRejectReason config request with
    | some reason =>
        releaseNonce request overrides.nonce
        match reason with
        | .borrower_cooldown => pure (some (.rejected .borrower_cooldown))
        | .dust => pure (some (.rejected .dust_filtered))
        | .other => pure (some (.rejected .final_simulation_failed))
    | none =>
        let previewTx ← ask (.buildFlashLoanPreviewTransaction route)
        match ← ask (.simulateContract previewTx overrides) with
        | .success => pure none
        | .failure =>
            releaseNonce request overrides.nonce
            pure (some (.rejected .final_simulation_failed))

/-- The rest of `execute` after the preview. -/
def simulateAndSubmit (config : SafeTransactionExecutorConfig) (request : SafeExecutionRequest)
    (transaction : TransactionEnvelope) (overrides : TransactionOverrides) :
    ExecutorM SafeExecutionResult := do
  match ← ask (.simulateContract transaction overrides) with
  | .failure =>
      releaseNonce request overrides.nonce
      pure (.rejected .final_simulation_failed)
  | .success =>
      if config.dryRunMode then
        releaseNonce request overrides.nonce
        pure .simulated
      else
        match ← broadcastRejectReason config request with
        | some _ =>
            releaseNonce request overrides.nonce
            pure (.rejected .final_simulation_failed)
        | none => submitWithReplacement config request transaction overrides

/-- `execute` once a route is selected. -/
def prepareAndSubmit (config : SafeTransactionExecutorConfig) (request : SafeExecutionRequest)
    (route : SelectedRoute) (gasPrice nonce : Nat) : ExecutorM SafeExecutionResult := do
  let transaction ← ask (.buildTransaction route)
  if route.provider ≠ transaction.provider then
    releaseNonce request nonce
    pure (.rejected .route_transaction_mismatch)
  else
    let gas ← getGasLimit request transaction
    let overrides ← quoteOverrides config route gas gasPrice nonce
    match ← runPreview config request route overrides with
    | some result => pure result
    | none => simulateAndSubmit config request transaction overrides

/-- `execute` after its guards. -/
def preflightAndSubmit (config : SafeTransactionExecutorConfig) (request : SafeExecutionRequest) :
    ExecutorM SafeExecutionResult := do
  let (selection, gasPrice, nonce) ← runPreflight request
  match selection with
  | .rejected =>
      releaseNonce request nonce
      pure (.rejected .route_rejected)
  | .selected route => prepareAndSubmit config request route gasPrice nonce

/-- `execute`. -/
def execute (config : SafeTransactionExecutorConfig) (request : SafeExecutionRequest) :
    ExecutorM SafeExecutionResult :=
  if request.chain ≠ request.routeInputChain then .throw ⟨false⟩
  else do
    let breaker ← (memory (.executionBreaker request.chain)).bind Async.orThrow
    if breaker = .open then pure (.rejected .execution_circuit_open)
    else preflightAndSubmit config request

end SafeTransactionExecutor

end LiquidationBot
