import LiquidationBot.SafeTransactionExecutor

/-!
# Requests and transactions in an execution

Whatever an execution hands to a hook, to the assessment or to a sender is handed
over with the request that is being executed. What is true of the request is then
true of everything the execution broadcasts.

Nothing is sent before the submission begins, and the submission sends one
transaction only, with one gas limit and one nonce. Its gas price is the one thing
that changes from send to send.
-/

namespace LiquidationBot

namespace SafeTransactionExecutor

/-- The request that a call passes on. -/
def passedRequest : ExecutorOp → Option SafeExecutionRequest
  | .ask (.rejectBeforePreview request) => some request
  | .ask (.rejectBeforeBroadcast request) => some request
  | .ask (.assess request _) => some request
  | .ask (.send _ request _ _) => some request
  | _ => none

/-- A call that passes a request on passes on this one. -/
def Concerns (request : SafeExecutionRequest) (op : ExecutorOp) : Prop :=
  (passedRequest op).all (· = request) = true

instance (request : SafeExecutionRequest) (op : ExecutorOp) : Decidable (Concerns request op) :=
  inferInstanceAs (Decidable (_ = true))

theorem concerns_iff (request : SafeExecutionRequest) (op : ExecutorOp) :
    Concerns request op ↔ ∀ passed, passedRequest op = some passed → passed = request := by
  simp [Concerns, Option.all_eq_true]

theorem concerns_passed {request : SafeExecutionRequest} {op : ExecutorOp}
    (passes : passedRequest op = some request) : Concerns request op := by
  rw [concerns_iff, passes]
  rintro _ ⟨⟩
  rfl

/-- The call hands a transaction to a sender or waits for its receipt. -/
def submits : ExecutorOp → Bool
  | .ask (.send _ _ _ _) => true
  | .ask (.waitForReceipt _) => true
  | _ => false

/-- The call asks for one of the two figures that make the gas price. -/
def prices : ExecutorOp → Bool
  | .ask (.getGasPrice _) => true
  | .ask (.quoteExecutionGasCap _ _) => true
  | _ => false

/-- A call that is made before the submission. -/
def Precedes (request : SafeExecutionRequest) (op : ExecutorOp) : Prop :=
  submits op = false ∧ Concerns request op

/-- A call that is made before the submission and prices nothing. -/
def Prepares (request : SafeExecutionRequest) (op : ExecutorOp) : Prop :=
  prices op = false ∧ Precedes request op

/-- A call that sends anything sends this transaction, with this gas limit and
nonce. -/
def Carries (transaction : TransactionEnvelope) (overrides : TransactionOverrides) :
    ExecutorOp → Prop
  | .ask (.send _ _ sent given) =>
      sent = transaction ∧ given.gas = overrides.gas ∧ given.nonce = overrides.nonce
  | _ => True

/-- A call of the submission. -/
def Delivers (request : SafeExecutionRequest) (transaction : TransactionEnvelope)
    (overrides : TransactionOverrides) (op : ExecutorOp) : Prop :=
  prices op = false ∧ Concerns request op ∧ Carries transaction overrides op

section Preparation

variable {request : SafeExecutionRequest} {config : SafeTransactionExecutorConfig}

theorem prepares_memory (op : MemoryOp) : (memory op).Uses (Prepares request) :=
  ⟨⟨rfl, rfl, rfl⟩, fun answer => Async.uses_pure answer⟩

theorem prepares_ask {op : Collaborator} (preparing : Prepares request (.ask op)) :
    (ask op).Uses (Prepares request) :=
  ⟨preparing, fun answer => Async.uses_orThrow answer⟩

theorem precedes_ask {op : Collaborator} (preceding : Precedes request (.ask op)) :
    (ask op).Uses (Precedes request) :=
  ⟨preceding, fun answer => Async.uses_orThrow answer⟩

/-- A part that prices nothing is a part before the submission. -/
theorem Prepares.precedes {α : Type} {program : ExecutorM α}
    (uses : program.Uses (Prepares request)) : program.Uses (Precedes request) :=
  uses.mono (fun _ preparing => preparing.2)

theorem reserve_prepares : (reserve request).Uses (Prepares request) := by
  refine (prepares_memory _).bind ?_
  rintro ⟨ref, created⟩
  have taken : ((memory (.takeFrom ref)).bind Async.orThrow).Uses (Prepares request) :=
    (prepares_memory _).bind (fun answer => Async.uses_orThrow answer)
  dsimp only
  split
  · have read : (tryAsk (.getPendingNonce (keyOf request))).Uses (Prepares request) :=
      ⟨⟨rfl, rfl, rfl⟩, fun answer => Async.uses_pure answer⟩
    exact read.bind (fun _ => (prepares_memory _).bind (fun _ => taken))
  · exact taken

theorem routeAndGasPrice_precedes : (routeAndGasPrice request).Uses (Precedes request) := by
  refine (precedes_ask (by exact ⟨rfl, rfl⟩)).bind ?_
  intro route
  exact (precedes_ask (by exact ⟨rfl, rfl⟩)).bind (fun _ => trivial)

theorem runPreflight_precedes : (runPreflight request).Uses (Precedes request) := by
  refine (Prepares.precedes reserve_prepares).bind ?_
  intro nonce
  refine (routeAndGasPrice_precedes.handle (fun _ => ?_)).bind (fun _ => trivial)
  exact (Prepares.precedes (prepares_memory _)).bind (fun _ => trivial)

theorem getGasLimit_prepares (transaction : TransactionEnvelope) :
    (getGasLimit request transaction).Uses (Prepares request) := by
  refine (prepares_memory _).bind ?_
  rintro (_ | gasLimit)
  · dsimp only
    split
    · exact (prepares_memory _).bind (fun _ => trivial)
    · refine (prepares_ask (by exact ⟨rfl, rfl, rfl⟩)).bind ?_
      intro gasLimit
      exact (prepares_memory _).bind (fun _ => trivial)
  · trivial

theorem quoteOverrides_precedes (route : SelectedRoute) (gas gasPrice nonce : Nat) :
    (quoteOverrides config route gas gasPrice nonce).Uses (Precedes request) := by
  unfold quoteOverrides
  split
  · trivial
  · exact (precedes_ask (by exact ⟨rfl, rfl⟩)).bind (fun _ => trivial)

theorem runPreview_prepares (route : SelectedRoute) (overrides : TransactionOverrides) :
    (runPreview config request route overrides).Uses (Prepares request) := by
  have hook : (previewRejectReason config request).Uses (Prepares request) := by
    unfold previewRejectReason
    split
    · exact prepares_ask ⟨rfl, rfl, concerns_passed rfl⟩
    · trivial
  unfold runPreview
  split
  · trivial
  · refine hook.bind ?_
    rintro (_ | reason)
    · refine (prepares_ask (by exact ⟨rfl, rfl, rfl⟩)).bind ?_
      intro previewTx
      refine (prepares_ask (by exact ⟨rfl, rfl, rfl⟩)).bind ?_
      rintro (_ | _)
      · trivial
      · exact (prepares_memory _).bind (fun _ => trivial)
    · refine (prepares_memory _).bind ?_
      intro _
      cases reason with
      | borrower_cooldown => trivial
      | dust => trivial
      | other => trivial

theorem broadcastRejectReason_prepares :
    (broadcastRejectReason config request).Uses (Prepares request) := by
  unfold broadcastRejectReason
  split
  · exact prepares_ask ⟨rfl, rfl, concerns_passed rfl⟩
  · trivial

end Preparation

section Submission

variable {request : SafeExecutionRequest} {config : SafeTransactionExecutorConfig}
  {transaction : TransactionEnvelope} {overrides : TransactionOverrides}

theorem delivers_ask {op : Collaborator} (delivering : Delivers request transaction overrides
    (.ask op)) : (ask op).Uses (Delivers request transaction overrides) :=
  ⟨delivering, fun answer => Async.uses_orThrow answer⟩

/-- A send with another gas price is a call of the submission. -/
theorem delivers_send {route : SubmissionRoute} {gasPrice : Nat} :
    (ask (.send route request transaction { overrides with gasPrice := gasPrice })).Uses
      (Delivers request transaction overrides) :=
  delivers_ask ⟨rfl, concerns_passed rfl, rfl, rfl, rfl⟩

theorem sendPrivate_delivers {gasPrice : Nat} :
    (sendPrivate config request transaction { overrides with gasPrice := gasPrice }).Uses
      (Delivers request transaction overrides) := by
  refine Async.Uses.handle delivers_send ?_
  intro error
  split
  · exact delivers_send
  · trivial

theorem assessCompetitorRisk_delivers {given : TransactionOverrides} :
    (assessCompetitorRisk config request given).Uses
      (Delivers request transaction overrides) := by
  have assess : (tryAsk (.assess request given)).Uses (Delivers request transaction overrides) :=
    ⟨⟨rfl, concerns_passed rfl, trivial⟩, fun answer => Async.uses_pure answer⟩
  unfold assessCompetitorRisk
  split
  · trivial
  · refine Async.Uses.bind assess ?_
    rintro (error | riskBps)
    · trivial
    · trivial

theorem sendTransaction_delivers {gasPrice : Nat} :
    (sendTransaction config request transaction { overrides with gasPrice := gasPrice }).Uses
      (Delivers request transaction overrides) := by
  unfold sendTransaction
  split
  · exact sendPrivate_delivers
  · refine assessCompetitorRisk_delivers.bind ?_
    intro risk
    split
    · exact sendPrivate_delivers
    · exact delivers_send

theorem hashOf_delivers {gasPrice : Nat} :
    ((sendTransaction config request transaction { overrides with gasPrice := gasPrice }).bind
      (fun hash => .pure (some hash))).Uses (Delivers request transaction overrides) :=
  sendTransaction_delivers.bind (fun _ => trivial)

theorem giveUp_delivers :
    ((resyncNonce request).bind (fun _ => (.pure none : ExecutorM (Option Hash)))).Uses
      (Delivers request transaction overrides) := by
  have resync : (resyncNonce request).Uses (Delivers request transaction overrides) := by
    refine (delivers_ask (by exact ⟨rfl, rfl, trivial⟩)).bind (fun nextNonce => ?_)
    exact ⟨⟨rfl, rfl, trivial⟩, fun answer => Async.uses_pure answer⟩
  exact resync.bind (fun _ => trivial)

theorem sendReplacement_delivers {gasPrice : Nat} :
    (sendReplacement config request transaction { overrides with gasPrice := gasPrice }).Uses
      (Delivers request transaction overrides) :=
  hashOf_delivers.handle (fun _ => giveUp_delivers)

theorem sendOrReplaceUnderpriced_delivers :
    (sendOrReplaceUnderpriced config request transaction overrides).Uses
      (Delivers request transaction overrides) := by
  refine hashOf_delivers.handle ?_
  intro error
  split
  · exact giveUp_delivers
  · exact sendReplacement_delivers

theorem submitWithReplacement_delivers :
    (submitWithReplacement config request transaction overrides).Uses
      (Delivers request transaction overrides) := by
  refine sendOrReplaceUnderpriced_delivers.bind ?_
  rintro (_ | firstHash)
  · trivial
  · refine (delivers_ask (by exact ⟨rfl, rfl, trivial⟩)).bind ?_
    rintro (_ | _ | _ | _)
    · trivial
    · refine sendReplacement_delivers.bind ?_
      rintro (_ | replacementHash)
      · trivial
      · refine (delivers_ask (by exact ⟨rfl, rfl, trivial⟩)).bind ?_
        rintro (_ | _ | _ | _) <;> trivial
    · trivial
    · trivial

end Submission

section Concerns

variable {request : SafeExecutionRequest} {config : SafeTransactionExecutorConfig}

/-- A part before the submission passes on this request only. -/
theorem Precedes.concerns {α : Type} {program : ExecutorM α}
    (uses : program.Uses (Precedes request)) : program.Uses (Concerns request) :=
  uses.mono (fun _ preceding => preceding.2)

@[inherit_doc Precedes.concerns]
theorem Prepares.concerns {α : Type} {program : ExecutorM α}
    (uses : program.Uses (Prepares request)) : program.Uses (Concerns request) :=
  Precedes.concerns (Prepares.precedes uses)

theorem release_concerns {nonce : Nat} : (releaseNonce request nonce).Uses (Concerns request) :=
  Prepares.concerns (prepares_memory _)

theorem simulateAndSubmit_concerns (transaction : TransactionEnvelope)
    (overrides : TransactionOverrides) :
    (simulateAndSubmit config request transaction overrides).Uses (Concerns request) := by
  refine (Prepares.concerns (prepares_ask (by exact ⟨rfl, rfl, rfl⟩))).bind ?_
  rintro (_ | _)
  · dsimp only
    split
    · exact release_concerns.bind (fun _ => trivial)
    · refine (Prepares.concerns broadcastRejectReason_prepares).bind ?_
      rintro (_ | reason)
      · exact submitWithReplacement_delivers.mono (fun _ delivering => delivering.2.1)
      · exact release_concerns.bind (fun _ => trivial)
  · exact release_concerns.bind (fun _ => trivial)

theorem prepareAndSubmit_concerns (route : SelectedRoute) (gasPrice nonce : Nat) :
    (prepareAndSubmit config request route gasPrice nonce).Uses (Concerns request) := by
  refine (Prepares.concerns (prepares_ask (by exact ⟨rfl, rfl, rfl⟩))).bind ?_
  intro transaction
  split
  · exact release_concerns.bind (fun _ => trivial)
  · refine (Prepares.concerns (getGasLimit_prepares transaction)).bind ?_
    intro gas
    refine (Precedes.concerns (quoteOverrides_precedes route gas gasPrice nonce)).bind ?_
    intro overrides
    refine (Prepares.concerns (runPreview_prepares route overrides)).bind ?_
    rintro (_ | result)
    · exact simulateAndSubmit_concerns transaction overrides
    · trivial

/-- An execution passes on its own request only. -/
theorem execute_concerns (config : SafeTransactionExecutorConfig) (request : SafeExecutionRequest) :
    (execute config request).Uses (Concerns request) := by
  have guarded : ((memory (.executionBreaker request.chain)).bind Async.orThrow).Uses
      (Concerns request) :=
    (Prepares.concerns (prepares_memory _)).bind (fun answer => Async.uses_orThrow answer)
  unfold execute
  split
  · trivial
  · refine guarded.bind ?_
    intro breaker
    split
    · trivial
    · refine (Precedes.concerns runPreflight_precedes).bind ?_
      rintro ⟨selection, gasPrice, nonce⟩
      cases selection with
      | rejected => exact release_concerns.bind (fun _ => trivial)
      | selected route => exact prepareAndSubmit_concerns route gasPrice nonce

end Concerns

end SafeTransactionExecutor

end LiquidationBot
