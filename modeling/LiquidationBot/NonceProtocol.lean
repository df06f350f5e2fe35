import LiquidationBot.SafeTransactionExecutor

/-!
# What an execution does with its nonce

One execution's calls are read as a protocol on the nonce it works with: it
reserves at most one, and then releases it, hands it to a send, or abandons it
when a call made to prepare the transaction throws. The program of `execute`
follows this protocol on every path. What the protocol says is all that the
results about nonces use of the program.
-/

namespace LiquidationBot

/-- Where an execution stands with its nonce. -/
inductive NoncePhase where
  | idle
  | creating (ref : Nat)
  | waiting (ref : Nat)
  | refused
  | holding (nonce : Nat)
  | abandoned (nonce : Nat)
  | released (nonce : Nat)
  | sending (nonce : Nat)
  | resynced (nonce : Nat)
deriving DecidableEq

namespace NoncePhase

/-- The nonce reserved on the way to a phase. -/
def reserved? : NoncePhase → Option Nat
  | .holding nonce => some nonce
  | .abandoned nonce => some nonce
  | .released nonce => some nonce
  | .sending nonce => some nonce
  | .resynced nonce => some nonce
  | _ => none

/-- The nonce handed to a send on the way to a phase. -/
def sent? : NoncePhase → Option Nat
  | .sending nonce => some nonce
  | .resynced nonce => some nonce
  | _ => none

def isResynced : NoncePhase → Bool
  | .resynced _ => true
  | _ => false

def isAbandoned : NoncePhase → Bool
  | .abandoned _ => true
  | _ => false

def isReleased : NoncePhase → Bool
  | .released _ => true
  | _ => false

/-- A reservation has begun. -/
def hasLooked : NoncePhase → Bool
  | .idle => false
  | _ => true

/-- A reservation has ended. -/
def hasTaken : NoncePhase → Bool
  | .idle => false
  | .creating _ => false
  | .waiting _ => false
  | _ => true

end NoncePhase

namespace SafeTransactionExecutor

/-- Calls between the preflight and the submission; `execute` passes their
exceptions on without a handler. -/
def prepares : Collaborator → Bool
  | .buildTransaction _ => true
  | .estimateGas _ => true
  | .quoteExecutionGasCap _ _ => true
  | .rejectBeforePreview _ => true
  | .buildFlashLoanPreviewTransaction _ => true
  | .simulateContract _ _ => true
  | .rejectBeforeBroadcast _ => true
  | _ => false

/-- The phase after a call to an object in memory. -/
def memoryPhase (key : NonceKey) : NoncePhase → (op : MemoryOp) → op.Answer → Option NoncePhase
  | phase, .executionBreaker _, _ => some phase
  | phase, .gasProfile _, _ => some phase
  | phase, .setGasProfile _ _, _ => some phase
  | .idle, .lookup other, (ref, created) =>
      if other = key then some (if created then .creating ref else .waiting ref) else none
  | .creating ref, .initialized other tested _, _ =>
      if other = key ∧ tested = ref then some (.waiting ref) else none
  | .waiting ref, .takeFrom tested, .ok nonce =>
      if tested = ref then some (.holding nonce) else none
  | .waiting ref, .takeFrom tested, .error _ => if tested = ref then some .refused else none
  | .holding nonce, .release other tested, _ =>
      if other = key ∧ tested = nonce then some (.released nonce) else none
  | .sending nonce, .resync other _, _ =>
      if other = key then some (.resynced nonce) else none
  | _, _, _ => none

/-- The nonce is held or was handed to a send. -/
def Submitting (nonce : Nat) (phase : NoncePhase) : Prop :=
  phase = .holding nonce ∨ phase = .sending nonce

instance (nonce : Nat) (phase : NoncePhase) : Decidable (Submitting nonce phase) :=
  inferInstanceAs (Decidable (_ ∨ _))

/-- The phase after a call to a collaborator. -/
def askPhase (phase : NoncePhase) (op : Collaborator) (failed : Bool) : Option NoncePhase :=
  if prepares op then
    match phase with
    | .holding nonce => some (if failed then .abandoned nonce else .holding nonce)
    | _ => none
  else
    match op with
    | .send _ _ _ overrides =>
        if Submitting overrides.nonce phase then some (.sending overrides.nonce) else none
    | _ => some phase

/-- The answer is an exception. -/
def threw {α : Type} : Except Thrown α → Bool
  | .ok _ => false
  | .error _ => true

/-- The protocol of one execution on the nonces of an account. -/
def noncePhase (key : NonceKey) (phase : NoncePhase) :
    (op : ExecutorOp) → op.Answer → Option NoncePhase
  | .memory op, answer => memoryPhase key phase op answer
  | .ask op, answer => askPhase phase op (threw answer)

section Parts

variable {key : NonceKey} {nonce : Nat}

/-- A preparing call keeps the nonce if it answers and abandons it if it throws. -/
theorem ask_prepares {op : Collaborator} (preparing : prepares op = true)
    {accept : NoncePhase → Except Thrown op.Result → Prop}
    (returned : ∀ value, accept (.holding nonce) (.ok value))
    (thrown : ∀ error, accept (.abandoned nonce) (.error error)) :
    Async.Conforms (noncePhase key) accept (.holding nonce) (ask op) := by
  have kept : ∀ failed, askPhase (.holding nonce) op failed =
      some (if failed then .abandoned nonce else .holding nonce) := fun _ => if_pos preparing
  apply conforms_ask
  · intro value
    exact ⟨_, kept false, returned value⟩
  · intro error
    exact ⟨_, kept true, thrown error⟩

/-- A release of the held nonce. -/
theorem releaseNonce_conforms {request : SafeExecutionRequest} (same : keyOf request = key)
    {accept : NoncePhase → Except Thrown Unit → Prop} (done : accept (.released nonce) (.ok ())) :
    Async.Conforms (noncePhase key) accept (.holding nonce) (releaseNonce request nonce) := by
  subst same
  intro answer
  exact ⟨.released nonce, by simp [noncePhase, memoryPhase], done⟩

/-- A reservation ends holding a nonce, or refused with an exception. -/
theorem reserve_conforms {request : SafeExecutionRequest} (same : keyOf request = key) :
    Async.Conforms (noncePhase key) (fun phase result => match result with
      | .ok nonce => phase = .holding nonce
      | .error _ => phase = .refused) .idle (reserve request) := by
  subst same
  have taken : ∀ ref, Async.Conforms (noncePhase (keyOf request)) (fun phase result =>
      match result with
      | .ok nonce => phase = .holding nonce
      | .error _ => phase = .refused) (.waiting ref)
      ((memory (.takeFrom ref)).bind Async.orThrow) := by
    intro ref
    rw [Async.conforms_bind, conforms_memory]
    rintro (error | nonce)
    · exact ⟨.refused, by simp [noncePhase, memoryPhase], rfl⟩
    · exact ⟨.holding nonce, by simp [noncePhase, memoryPhase], rfl⟩
  rintro ⟨ref, created⟩
  cases created with
  | false => exact ⟨.waiting ref, by simp [noncePhase, memoryPhase], taken ref⟩
  | true =>
    refine ⟨.creating ref, by simp [noncePhase, memoryPhase], ?_⟩
    intro answer
    refine ⟨.creating ref, rfl, ?_⟩
    intro _
    exact ⟨.waiting ref, by simp [noncePhase, memoryPhase], taken ref⟩

/-- Whatever the route and the gas price answer, the nonce stays held. -/
theorem routeAndGasPrice_conforms {request : SafeExecutionRequest} :
    Async.Conforms (noncePhase key) (fun phase _ => phase = .holding nonce) (.holding nonce)
      (routeAndGasPrice request) := by
  rw [routeAndGasPrice, Async.bind_eq, Async.conforms_bind]
  apply conforms_ask
  · intro route
    refine ⟨.holding nonce, rfl, ?_⟩
    dsimp only
    rw [Async.bind_eq, Async.conforms_bind]
    apply conforms_ask
    · intro gasPrice
      exact ⟨.holding nonce, rfl, rfl⟩
    · intro error
      exact ⟨.holding nonce, rfl, rfl⟩
  · intro error
    exact ⟨.holding nonce, rfl, rfl⟩

/-- The preflight ends holding the nonce it reports; an exception leaves nothing
held. -/
theorem runPreflight_conforms {request : SafeExecutionRequest} (same : keyOf request = key) :
    Async.Conforms (noncePhase key) (fun phase result => match result with
      | .ok (_, _, nonce) => phase = .holding nonce
      | .error _ => phase = .refused ∨ ∃ nonce, phase = .released nonce) .idle
      (runPreflight request) := by
  rw [runPreflight, Async.bind_eq, Async.conforms_bind]
  refine (reserve_conforms same).mono ?_
  rintro phase (error | nonce) held
  · exact Or.inl held
  · subst held
    dsimp only
    rw [Async.bind_eq, Async.conforms_bind, Async.conforms_handle]
    refine routeAndGasPrice_conforms.mono ?_
    rintro phase (error | quoted) held
    · subst held
      dsimp only
      rw [Async.bind_eq, Async.conforms_bind]
      exact releaseNonce_conforms same (Or.inr ⟨nonce, rfl⟩)
    · exact held

/-- The gas limit is read or estimated while the nonce is held. -/
theorem getGasLimit_conforms {request : SafeExecutionRequest} {transaction : TransactionEnvelope} :
    Async.Conforms (noncePhase key) (fun phase result => match result with
      | .ok _ => phase = .holding nonce
      | .error _ => phase = .abandoned nonce) (.holding nonce)
      (getGasLimit request transaction) := by
  rw [getGasLimit, Async.bind_eq, Async.conforms_bind, conforms_memory]
  rintro (_ | cached)
  · refine ⟨.holding nonce, rfl, ?_⟩
    dsimp only
    cases request.gasLimitHint with
    | some hint =>
      intro _
      exact ⟨.holding nonce, rfl, rfl⟩
    | none =>
      dsimp only
      rw [Async.bind_eq, Async.conforms_bind]
      apply ask_prepares rfl
      · intro gasLimit _
        exact ⟨.holding nonce, rfl, rfl⟩
      · intro error
        rfl
  · exact ⟨.holding nonce, rfl, rfl⟩

/-- The overrides carry the held nonce. -/
theorem quoteOverrides_conforms {config : SafeTransactionExecutorConfig} {route : SelectedRoute}
    {gas gasPrice : Nat} :
    Async.Conforms (noncePhase key) (fun phase result => match result with
      | .ok overrides => phase = .holding nonce ∧ overrides.nonce = nonce
      | .error _ => phase = .abandoned nonce) (.holding nonce)
      (quoteOverrides config route gas gasPrice nonce) := by
  unfold quoteOverrides
  split
  · exact ⟨rfl, rfl⟩
  · rw [Async.bind_eq, Async.conforms_bind]
    apply ask_prepares rfl
    · intro maxFeePerGas
      exact ⟨rfl, rfl⟩
    · intro error
      rfl

/-- An optional hook is a preparing call or none. -/
theorem previewRejectReason_conforms {config : SafeTransactionExecutorConfig}
    {request : SafeExecutionRequest} :
    Async.Conforms (noncePhase key) (fun phase result => match result with
      | .ok _ => phase = .holding nonce
      | .error _ => phase = .abandoned nonce) (.holding nonce)
      (previewRejectReason config request) := by
  unfold previewRejectReason
  split
  · exact ask_prepares rfl (fun _ => rfl) (fun _ => rfl)
  · exact rfl

@[inherit_doc previewRejectReason_conforms]
theorem broadcastRejectReason_conforms {config : SafeTransactionExecutorConfig}
    {request : SafeExecutionRequest} :
    Async.Conforms (noncePhase key) (fun phase result => match result with
      | .ok _ => phase = .holding nonce
      | .error _ => phase = .abandoned nonce) (.holding nonce)
      (broadcastRejectReason config request) := by
  unfold broadcastRejectReason
  split
  · exact ask_prepares rfl (fun _ => rfl) (fun _ => rfl)
  · exact rfl

/-- The preview goes on with the nonce, ends with it released, or abandons it. -/
theorem runPreview_conforms {config : SafeTransactionExecutorConfig}
    {request : SafeExecutionRequest} {route : SelectedRoute} {overrides : TransactionOverrides}
    (same : keyOf request = key) (own : overrides.nonce = nonce) :
    Async.Conforms (noncePhase key) (fun phase result => match result with
      | .ok none => phase = .holding nonce
      | .ok (some _) => phase = .released nonce
      | .error _ => phase = .abandoned nonce) (.holding nonce)
      (runPreview config request route overrides) := by
  subst own
  unfold runPreview
  split
  · exact rfl
  · rw [Async.bind_eq, Async.conforms_bind]
    refine previewRejectReason_conforms.mono ?_
    rintro phase (error | reason) held
    · exact held
    · subst held
      cases reason with
      | some reason =>
        dsimp only
        rw [Async.bind_eq, Async.conforms_bind]
        apply releaseNonce_conforms same
        cases reason with
        | borrower_cooldown => exact rfl
        | dust => exact rfl
        | other => exact rfl
      | none =>
        dsimp only
        rw [Async.bind_eq, Async.conforms_bind]
        apply ask_prepares rfl
        · intro previewTx
          dsimp only
          rw [Async.bind_eq, Async.conforms_bind]
          apply ask_prepares rfl
          · intro simulated
            cases simulated with
            | success => exact rfl
            | failure =>
              dsimp only
              rw [Async.bind_eq, Async.conforms_bind]
              exact releaseNonce_conforms same rfl
          · intro error
            rfl
        · intro error
          rfl

/-- A send of the own nonce, whatever it answers, hands the nonce over. -/
theorem send_conforms {route : SubmissionRoute} {request : SafeExecutionRequest}
    {transaction : TransactionEnvelope} {overrides : TransactionOverrides} {phase : NoncePhase}
    (own : overrides.nonce = nonce) (submitting : Submitting nonce phase) :
    Async.Conforms (noncePhase key) (fun after _ => after = .sending nonce) phase
      (ask (.send route request transaction overrides)) := by
  have handed : ∀ failed, askPhase phase (.send route request transaction overrides) failed =
      some (.sending nonce) := by
    intro failed
    subst own
    exact if_pos submitting
  apply conforms_ask
  · intro hash
    exact ⟨_, handed false, rfl⟩
  · intro error
    exact ⟨_, handed true, rfl⟩

theorem sendPrivate_conforms {config : SafeTransactionExecutorConfig}
    {request : SafeExecutionRequest} {transaction : TransactionEnvelope}
    {overrides : TransactionOverrides} {phase : NoncePhase} (own : overrides.nonce = nonce)
    (submitting : Submitting nonce phase) :
    Async.Conforms (noncePhase key) (fun after _ => after = .sending nonce) phase
      (sendPrivate config request transaction overrides) := by
  rw [sendPrivate, Async.conforms_handle]
  refine (send_conforms own submitting).mono ?_
  rintro after (error | hash) rfl
  · dsimp only
    split
    · exact send_conforms own (Or.inr rfl)
    · exact rfl
  · exact rfl

/-- An assessment leaves the nonce where it is. -/
theorem assessCompetitorRisk_conforms {config : SafeTransactionExecutorConfig}
    {request : SafeExecutionRequest} {overrides : TransactionOverrides} {phase : NoncePhase} :
    Async.Conforms (noncePhase key) (fun after result => after = phase ∧ ∃ risk, result = .ok risk)
      phase (assessCompetitorRisk config request overrides) := by
  unfold assessCompetitorRisk
  split
  · exact ⟨rfl, none, rfl⟩
  · intro answer
    refine ⟨phase, rfl, ?_⟩
    cases answer with
    | ok riskBps => exact ⟨rfl, some riskBps, rfl⟩
    | error error => exact ⟨rfl, none, rfl⟩

theorem sendTransaction_conforms {config : SafeTransactionExecutorConfig}
    {request : SafeExecutionRequest} {transaction : TransactionEnvelope}
    {overrides : TransactionOverrides} {phase : NoncePhase} (own : overrides.nonce = nonce)
    (submitting : Submitting nonce phase) :
    Async.Conforms (noncePhase key) (fun after _ => after = .sending nonce) phase
      (sendTransaction config request transaction overrides) := by
  unfold sendTransaction
  split
  · exact sendPrivate_conforms own submitting
  · rw [Async.bind_eq, Async.conforms_bind]
    refine assessCompetitorRisk_conforms.mono ?_
    rintro after result ⟨rfl, risk, rfl⟩
    dsimp only
    split
    · exact sendPrivate_conforms own submitting
    · exact send_conforms own submitting

/-- A resynchronisation gives the nonce up, unless the node's answer fails. -/
theorem resyncNonce_conforms {request : SafeExecutionRequest} (same : keyOf request = key) :
    Async.Conforms (noncePhase key) (fun phase result => match result with
      | .ok _ => phase = .resynced nonce
      | .error _ => phase = .sending nonce) (.sending nonce) (resyncNonce request) := by
  subst same
  rw [resyncNonce, Async.bind_eq, Async.conforms_bind]
  apply conforms_ask
  · intro nextNonce
    refine ⟨.sending nonce, rfl, ?_⟩
    intro _
    exact ⟨.resynced nonce, by simp [noncePhase, memoryPhase], rfl⟩
  · intro error
    exact ⟨.sending nonce, rfl, rfl⟩

/-- The nonce was handed to a send, and given up exactly when no hash came of
it. -/
def Submitted (nonce : Nat) (phase : NoncePhase) : Except Thrown (Option Hash) → Prop
  | .ok none => phase = .resynced nonce
  | _ => phase = .sending nonce

theorem giveUp_conforms {request : SafeExecutionRequest} (same : keyOf request = key) :
    Async.Conforms (noncePhase key) (Submitted nonce) (.sending nonce)
      ((resyncNonce request).bind (fun _ => .pure none)) := by
  rw [Async.conforms_bind]
  refine (resyncNonce_conforms same).mono ?_
  rintro phase (error | _) stands
  · exact stands
  · exact stands

theorem sendReplacement_conforms {config : SafeTransactionExecutorConfig}
    {request : SafeExecutionRequest} {transaction : TransactionEnvelope}
    {overrides : TransactionOverrides} {phase : NoncePhase} (same : keyOf request = key)
    (own : overrides.nonce = nonce) (submitting : Submitting nonce phase) :
    Async.Conforms (noncePhase key) (Submitted nonce) phase
      (sendReplacement config request transaction overrides) := by
  rw [sendReplacement, Async.conforms_handle, Async.conforms_bind]
  refine (sendTransaction_conforms own submitting).mono ?_
  rintro after (error | hash) rfl
  · exact giveUp_conforms same
  · exact rfl

theorem sendOrReplaceUnderpriced_conforms {config : SafeTransactionExecutorConfig}
    {request : SafeExecutionRequest} {transaction : TransactionEnvelope}
    {overrides : TransactionOverrides} {phase : NoncePhase} (same : keyOf request = key)
    (own : overrides.nonce = nonce) (submitting : Submitting nonce phase) :
    Async.Conforms (noncePhase key) (Submitted nonce) phase
      (sendOrReplaceUnderpriced config request transaction overrides) := by
  rw [sendOrReplaceUnderpriced, Async.conforms_handle, Async.conforms_bind]
  refine (sendTransaction_conforms own submitting).mono ?_
  rintro after (error | hash) rfl
  · dsimp only
    split
    · exact giveUp_conforms same
    · exact sendReplacement_conforms same own (Or.inr rfl)
  · exact rfl

/-- A submission ends with its nonce handed to a send, and perhaps given up. -/
def Handed (nonce : Nat) (phase : NoncePhase) : Prop :=
  phase = .sending nonce ∨ phase = .resynced nonce

/-- Waiting for a receipt leaves the nonce with its send; what follows the receipt decides. -/
theorem waitForReceipt_conforms {α : Type} {hash : Hash}
    {accept : NoncePhase → Except Thrown α → Prop}
    (thrown : ∀ error, accept (.sending nonce) (.error error))
    {following : ExecutionReceipt → ExecutorM α}
    (continues : ∀ receipt,
      Async.Conforms (noncePhase key) accept (.sending nonce) (following receipt)) :
    Async.Conforms (noncePhase key) accept (.sending nonce)
      ((ask (.waitForReceipt hash)).bind following) := by
  rw [Async.conforms_bind]
  exact conforms_ask (fun receipt => ⟨.sending nonce, rfl, continues receipt⟩)
    (fun error => ⟨.sending nonce, rfl, thrown error⟩)

/-- The bumped replacement still carries the own nonce. -/
theorem submitWithReplacement_conforms {config : SafeTransactionExecutorConfig}
    {request : SafeExecutionRequest} {transaction : TransactionEnvelope}
    {overrides : TransactionOverrides} (same : keyOf request = key)
    (own : overrides.nonce = nonce) :
    Async.Conforms (noncePhase key) (fun phase _ => Handed nonce phase) (.holding nonce)
      (submitWithReplacement config request transaction overrides) := by
  have bumped : ∀ gasPrice, { overrides with gasPrice := gasPrice }.nonce = nonce := fun _ => own
  rw [submitWithReplacement, Async.bind_eq, Async.conforms_bind]
  refine (sendOrReplaceUnderpriced_conforms same own (Or.inl rfl)).mono ?_
  rintro phase (error | (_ | firstHash)) submitted
  · exact Or.inl submitted
  · exact Or.inr submitted
  · obtain rfl : phase = .sending nonce := submitted
    dsimp only
    rw [Async.bind_eq]
    refine waitForReceipt_conforms (fun _ => Or.inl rfl) (fun receipt => ?_)
    cases receipt with
    | included => exact Or.inl rfl
    | reorged => exact Or.inl rfl
    | reverted => exact Or.inl rfl
    | underpriced =>
      dsimp only
      rw [Async.bind_eq, Async.conforms_bind]
      refine (sendReplacement_conforms same (bumped _) (Or.inr rfl)).mono ?_
      rintro phase (error | (_ | replacementHash)) submitted
      · exact Or.inl submitted
      · exact Or.inr submitted
      · obtain rfl : phase = .sending nonce := submitted
        dsimp only
        rw [Async.bind_eq]
        refine waitForReceipt_conforms (fun _ => Or.inl rfl) (fun receipt => ?_)
        cases receipt with
        | included => exact Or.inl rfl
        | underpriced => exact Or.inl rfl
        | reorged => exact Or.inl rfl
        | reverted => exact Or.inl rfl

/-- Where an execution can end: it reserved nothing, released its nonce, handed
it over, or abandoned it with an exception. -/
def Ended (phase : NoncePhase) : Except Thrown SafeExecutionResult → Prop := fun result =>
  phase = .idle ∨ phase = .refused ∨ (∃ nonce, phase = .released nonce) ∨
    (∃ nonce, Handed nonce phase) ∨ ∃ nonce error, phase = .abandoned nonce ∧ result = .error error

theorem simulateAndSubmit_conforms {config : SafeTransactionExecutorConfig}
    {request : SafeExecutionRequest} {transaction : TransactionEnvelope}
    {overrides : TransactionOverrides} (same : keyOf request = key)
    (own : overrides.nonce = nonce) :
    Async.Conforms (noncePhase key) Ended (.holding nonce)
      (simulateAndSubmit config request transaction overrides) := by
  subst own
  have released : ∀ result, Ended (.released overrides.nonce) result := fun result =>
    Or.inr (Or.inr (Or.inl ⟨_, rfl⟩))
  have abandoned : ∀ error, Ended (.abandoned overrides.nonce) (.error error) := fun error =>
    Or.inr (Or.inr (Or.inr (Or.inr ⟨_, error, rfl, rfl⟩)))
  rw [simulateAndSubmit, Async.bind_eq, Async.conforms_bind]
  apply ask_prepares rfl
  · intro simulated
    cases simulated with
    | failure =>
      dsimp only
      rw [Async.bind_eq, Async.conforms_bind]
      exact releaseNonce_conforms same (released _)
    | success =>
      dsimp only
      split
      · rw [Async.bind_eq, Async.conforms_bind]
        exact releaseNonce_conforms same (released _)
      · rw [Async.bind_eq, Async.conforms_bind]
        refine broadcastRejectReason_conforms.mono ?_
        rintro phase (error | (_ | reason)) held
        · obtain rfl : phase = .abandoned overrides.nonce := held
          exact abandoned error
        · obtain rfl : phase = .holding overrides.nonce := held
          refine (submitWithReplacement_conforms same rfl).mono ?_
          intro phase result handed
          exact Or.inr (Or.inr (Or.inr (Or.inl ⟨_, handed⟩)))
        · obtain rfl : phase = .holding overrides.nonce := held
          dsimp only
          rw [Async.bind_eq, Async.conforms_bind]
          exact releaseNonce_conforms same (released _)
  · exact abandoned

theorem prepareAndSubmit_conforms {config : SafeTransactionExecutorConfig}
    {request : SafeExecutionRequest} {route : SelectedRoute} {gasPrice : Nat}
    (same : keyOf request = key) :
    Async.Conforms (noncePhase key) Ended (.holding nonce)
      (prepareAndSubmit config request route gasPrice nonce) := by
  have released : ∀ result, Ended (.released nonce) result := fun result =>
    Or.inr (Or.inr (Or.inl ⟨_, rfl⟩))
  have abandoned : ∀ error, Ended (.abandoned nonce) (.error error) := fun error =>
    Or.inr (Or.inr (Or.inr (Or.inr ⟨_, error, rfl, rfl⟩)))
  rw [prepareAndSubmit, Async.bind_eq, Async.conforms_bind]
  apply ask_prepares rfl
  · intro transaction
    dsimp only
    split
    · rw [Async.bind_eq, Async.conforms_bind]
      exact releaseNonce_conforms same (released _)
    · rw [Async.bind_eq, Async.conforms_bind]
      refine getGasLimit_conforms.mono ?_
      rintro phase (error | gas) held
      · obtain rfl : phase = .abandoned nonce := held
        exact abandoned error
      obtain rfl : phase = .holding nonce := held
      dsimp only
      rw [Async.bind_eq, Async.conforms_bind]
      refine quoteOverrides_conforms.mono ?_
      rintro phase (error | overrides) held
      · obtain rfl : phase = .abandoned nonce := held
        exact abandoned error
      obtain ⟨rfl, own⟩ : phase = .holding nonce ∧ overrides.nonce = nonce := held
      dsimp only
      rw [Async.bind_eq, Async.conforms_bind]
      refine (runPreview_conforms same own).mono ?_
      rintro phase (error | (_ | result)) held
      · obtain rfl : phase = .abandoned nonce := held
        exact abandoned error
      · obtain rfl : phase = .holding nonce := held
        exact simulateAndSubmit_conforms same own
      · obtain rfl : phase = .released nonce := held
        exact released _
  · exact abandoned

end Parts

/-- Every path of `execute` follows the protocol, and none ends still holding
its nonce. -/
theorem execute_conforms (config : SafeTransactionExecutorConfig) (request : SafeExecutionRequest) :
    Async.Conforms (noncePhase (keyOf request)) Ended .idle (execute config request) := by
  unfold execute
  split
  · exact Or.inl rfl
  · rw [Async.bind_eq, Async.conforms_bind, Async.conforms_bind, conforms_memory]
    intro breaker
    refine ⟨.idle, rfl, ?_⟩
    dsimp only
    rw [conforms_orThrow]
    cases breaker with
    | error error => exact Or.inl rfl
    | ok breaker =>
      dsimp only
      split
      · exact Or.inl rfl
      · rw [preflightAndSubmit, Async.bind_eq, Async.conforms_bind]
        refine (runPreflight_conforms rfl).mono ?_
        rintro phase (error | ⟨selection, gasPrice, nonce⟩) held
        · rcases held with rfl | ⟨nonce, rfl⟩
          · exact Or.inr (Or.inl rfl)
          · exact Or.inr (Or.inr (Or.inl ⟨nonce, rfl⟩))
        · obtain rfl : phase = .holding nonce := held
          cases selection with
          | rejected =>
            dsimp only
            rw [Async.bind_eq, Async.conforms_bind]
            exact releaseNonce_conforms rfl (Or.inr (Or.inr (Or.inl ⟨nonce, rfl⟩)))
          | selected route => exact prepareAndSubmit_conforms rfl

/-! ## What a step can do -/

/-- Calls to memory that have nothing to do with nonces. -/
def neutral : MemoryOp → Bool
  | .executionBreaker _ => true
  | .gasProfile _ => true
  | .setGasProfile _ _ => true
  | _ => false

def isSend : Collaborator → Bool
  | .send _ _ _ _ => true
  | _ => false

/-- All steps of the protocol. -/
inductive NonceStep (key : NonceKey) :
    NoncePhase → (op : ExecutorOp) → op.Answer → NoncePhase → Prop where
  | memory (phase : NoncePhase) (op : MemoryOp) (answer : op.Answer) (apart : neutral op = true) :
      NonceStep key phase (.memory op) answer phase
  | looked (ref : Nat) : NonceStep key .idle (.memory (.lookup key)) (ref, false) (.waiting ref)
  | created (ref : Nat) : NonceStep key .idle (.memory (.lookup key)) (ref, true) (.creating ref)
  | initialized (ref : Nat) (read : Except Thrown Nat) (answer : Unit) :
      NonceStep key (.creating ref) (.memory (.initialized key ref read)) answer (.waiting ref)
  | taken (ref nonce : Nat) :
      NonceStep key (.waiting ref) (.memory (.takeFrom ref)) (.ok nonce) (.holding nonce)
  | refused (ref : Nat) (error : Thrown) :
      NonceStep key (.waiting ref) (.memory (.takeFrom ref)) (.error error) .refused
  | released (nonce : Nat) (answer : Unit) :
      NonceStep key (.holding nonce) (.memory (.release key nonce)) answer (.released nonce)
  | resynced (nonce nextNonce : Nat) (answer : Unit) :
      NonceStep key (.sending nonce) (.memory (.resync key nextNonce)) answer (.resynced nonce)
  | asked (phase : NoncePhase) (op : Collaborator) (answer : Except Thrown op.Result)
      (prepared : prepares op = false) (sent : isSend op = false) :
      NonceStep key phase (.ask op) answer phase
  | prepared (nonce : Nat) (op : Collaborator) (value : op.Result) (preparing : prepares op = true) :
      NonceStep key (.holding nonce) (.ask op) (.ok value) (.holding nonce)
  | threw (nonce : Nat) (op : Collaborator) (error : Thrown) (preparing : prepares op = true) :
      NonceStep key (.holding nonce) (.ask op) (.error error) (.abandoned nonce)
  | sent (phase : NoncePhase) (route : SubmissionRoute) (request : SafeExecutionRequest)
      (transaction : TransactionEnvelope) (overrides : TransactionOverrides)
      (answer : Except Thrown Hash) (submitting : Submitting overrides.nonce phase) :
      NonceStep key phase (.ask (.send route request transaction overrides)) answer
        (.sending overrides.nonce)

theorem memoryPhase_cases {key : NonceKey} {phase after : NoncePhase} {op : MemoryOp}
    {answer : op.Answer} (stepped : memoryPhase key phase op answer = some after) :
    NonceStep key phase (.memory op) answer after := by
  unfold memoryPhase at stepped
  split at stepped
  · cases stepped
    exact .memory _ _ _ rfl
  · cases stepped
    exact .memory _ _ _ rfl
  · cases stepped
    exact .memory _ _ _ rfl
  next other ref created =>
    split at stepped
    next same =>
      subst same
      cases created with
      | false =>
        cases stepped
        exact .looked ref
      | true =>
        cases stepped
        exact .created ref
    next => cases stepped
  next ref other tested read answer =>
    split at stepped
    next same =>
      obtain ⟨rfl, rfl⟩ := same
      cases stepped
      exact .initialized _ _ _
    next => cases stepped
  next ref tested nonce =>
    split at stepped
    next same =>
      subst same
      cases stepped
      exact .taken _ _
    next => cases stepped
  next ref tested error =>
    split at stepped
    next same =>
      subst same
      cases stepped
      exact .refused _ _
    next => cases stepped
  next nonce other tested answer =>
    split at stepped
    next same =>
      obtain ⟨rfl, rfl⟩ := same
      cases stepped
      exact .released _ _
    next => cases stepped
  next nonce other nextNonce answer =>
    split at stepped
    next same =>
      subst same
      cases stepped
      exact .resynced _ _ _
    next => cases stepped
  · cases stepped

theorem askPhase_cases {key : NonceKey} {phase after : NoncePhase} {op : Collaborator}
    {answer : Except Thrown op.Result}
    (stepped : askPhase phase op (threw answer) = some after) :
    NonceStep key phase (.ask op) answer after := by
  unfold askPhase at stepped
  split at stepped
  next preparing =>
    split at stepped
    next nonce =>
      cases answer with
      | ok value =>
        cases stepped
        exact .prepared nonce op value preparing
      | error error =>
        cases stepped
        exact .threw nonce op error preparing
    next => cases stepped
  next others =>
    have apart : prepares op = false := Bool.eq_false_iff.mpr others
    split at stepped
    next route request transaction overrides =>
      split at stepped
      next submitting =>
        cases stepped
        exact .sent phase route request transaction overrides answer submitting
      next => cases stepped
    next notSend =>
      cases stepped
      refine .asked phase op answer apart ?_
      cases op with
      | send route request transaction overrides => exact absurd rfl (notSend _ _ _ _)
      | _ => rfl

/-- Whatever the protocol allows is one of its steps. -/
theorem noncePhase_cases {key : NonceKey} {phase after : NoncePhase} {op : ExecutorOp}
    {answer : op.Answer} (stepped : noncePhase key phase op answer = some after) :
    NonceStep key phase op answer after := by
  cases op with
  | memory op => exact memoryPhase_cases stepped
  | ask op => exact askPhase_cases stepped

/-! ## Reading a record of calls -/

/-- A call of an execution with its answer. -/
abbrev ExecutorEvent := Async.Event ExecutorOp ExecutorOp.Answer

/-- The nonce a call reserves. -/
def reservedNonce : ExecutorEvent → Option Nat
  | ⟨.memory (.takeFrom _), .ok nonce⟩ => some nonce
  | _ => none

/-- The nonce a call hands to a send. -/
def sentNonce : ExecutorEvent → Option Nat
  | ⟨.ask (.send _ _ _ overrides), _⟩ => some overrides.nonce
  | _ => none

/-- The call begins a reservation. -/
def isLookup : ExecutorEvent → Bool
  | ⟨.memory (.lookup _), _⟩ => true
  | _ => false

/-- The call ends a reservation, with a nonce or an exception. -/
def isTake : ExecutorEvent → Bool
  | ⟨.memory (.takeFrom _), _⟩ => true
  | _ => false

def isRelease : ExecutorEvent → Bool
  | ⟨.memory (.release _ _), _⟩ => true
  | _ => false

/-- The call resynchronises the manager. -/
def isResync : ExecutorEvent → Bool
  | ⟨.memory (.resync _ _), _⟩ => true
  | _ => false

/-- The call prepares the transaction and throws. -/
def preparationThrew : ExecutorEvent → Bool
  | ⟨.ask op, .error _⟩ => prepares op
  | _ => false

/-- What a phase says about the calls that led to it. -/
structure Records (phase : NoncePhase) (events : List ExecutorEvent) : Prop where
  reserved : ∀ nonce, (∃ event ∈ events, reservedNonce event = some nonce) ↔
    phase.reserved? = some nonce
  sent : ∀ nonce, (∃ event ∈ events, sentNonce event = some nonce) ↔ phase.sent? = some nonce
  looked : (∃ event ∈ events, isLookup event = true) ↔ phase.hasLooked = true
  took : (∃ event ∈ events, isTake event = true) ↔ phase.hasTaken = true
  released : (∃ event ∈ events, isRelease event = true) ↔ phase.isReleased = true
  resynced : (∃ event ∈ events, isResync event = true) ↔ phase.isResynced = true
  threw : (∃ event ∈ events, preparationThrew event = true) ↔ phase.isAbandoned = true

theorem sentNonce_asked {op : Collaborator} {answer : Except Thrown op.Result}
    (sent : isSend op = false) : sentNonce ⟨.ask op, answer⟩ = none := by
  cases op with
  | send => cases sent
  | _ => rfl

theorem preparationThrew_asked {op : Collaborator} {answer : Except Thrown op.Result}
    (prepared : prepares op = false) : preparationThrew ⟨.ask op, answer⟩ = false := by
  cases answer with
  | ok value => rfl
  | error error => exact prepared

theorem classified_neutral {op : MemoryOp} {answer : op.Answer} (apart : neutral op = true) :
    reservedNonce ⟨.memory op, answer⟩ = none ∧ isLookup ⟨.memory op, answer⟩ = false ∧
      isTake ⟨.memory op, answer⟩ = false ∧ isRelease ⟨.memory op, answer⟩ = false ∧
      isResync ⟨.memory op, answer⟩ = false := by
  cases op <;> first | exact ⟨rfl, rfl, rfl, rfl, rfl⟩ | cases apart

theorem isSend_of_prepares {op : Collaborator} (preparing : prepares op = true) :
    isSend op = false := by
  cases op with
  | send => cases preparing
  | _ => rfl

section Steps

variable {key : NonceKey} {phase after : NoncePhase} {op : ExecutorOp} {answer : op.Answer}

theorem reserved_step (stepped : NonceStep key phase op answer after) (nonce : Nat) :
    after.reserved? = some nonce ↔
      phase.reserved? = some nonce ∨ reservedNonce ⟨op, answer⟩ = some nonce := by
  cases stepped with
  | memory _ op answer apart => simp [(classified_neutral apart).1]
  | sent _ _ _ _ overrides _ submitting =>
    rcases submitting with rfl | rfl
    · simp [NoncePhase.reserved?, reservedNonce]
    · simp [NoncePhase.reserved?, reservedNonce]
  | _ => simp [NoncePhase.reserved?, reservedNonce]

theorem sent_step (stepped : NonceStep key phase op answer after) (nonce : Nat) :
    after.sent? = some nonce ↔
      phase.sent? = some nonce ∨ sentNonce ⟨op, answer⟩ = some nonce := by
  cases stepped with
  | asked _ op answer prepared sent => simp [sentNonce_asked sent]
  | prepared _ op value preparing =>
    simp [sentNonce_asked (isSend_of_prepares preparing), NoncePhase.sent?]
  | threw _ op error preparing =>
    simp [sentNonce_asked (isSend_of_prepares preparing), NoncePhase.sent?]
  | sent _ _ _ _ overrides _ submitting =>
    rcases submitting with rfl | rfl
    · simp [NoncePhase.sent?, sentNonce]
    · simp [NoncePhase.sent?, sentNonce]
  | _ => simp [NoncePhase.sent?, sentNonce]

theorem looked_step (stepped : NonceStep key phase op answer after) :
    after.hasLooked = true ↔ phase.hasLooked = true ∨ isLookup ⟨op, answer⟩ = true := by
  cases stepped with
  | memory _ op answer apart => simp [(classified_neutral apart).2.1]
  | sent _ _ _ _ overrides _ submitting =>
    rcases submitting with rfl | rfl
    · simp [NoncePhase.hasLooked]
    · simp [NoncePhase.hasLooked]
  | _ => simp [NoncePhase.hasLooked, isLookup]

theorem took_step (stepped : NonceStep key phase op answer after) :
    after.hasTaken = true ↔ phase.hasTaken = true ∨ isTake ⟨op, answer⟩ = true := by
  cases stepped with
  | memory _ op answer apart => simp [(classified_neutral apart).2.2.1]
  | sent _ _ _ _ overrides _ submitting =>
    rcases submitting with rfl | rfl
    · simp [NoncePhase.hasTaken]
    · simp [NoncePhase.hasTaken]
  | _ => simp [NoncePhase.hasTaken, isTake]

theorem released_step (stepped : NonceStep key phase op answer after) :
    after.isReleased = true ↔ phase.isReleased = true ∨ isRelease ⟨op, answer⟩ = true := by
  cases stepped with
  | memory _ op answer apart => simp [(classified_neutral apart).2.2.2.1]
  | sent _ _ _ _ overrides _ submitting =>
    rcases submitting with rfl | rfl
    · simp [NoncePhase.isReleased, isRelease]
    · simp [NoncePhase.isReleased, isRelease]
  | _ => simp [NoncePhase.isReleased, isRelease]

theorem resynced_step (stepped : NonceStep key phase op answer after) :
    after.isResynced = true ↔ phase.isResynced = true ∨ isResync ⟨op, answer⟩ = true := by
  cases stepped with
  | memory _ op answer apart => simp [(classified_neutral apart).2.2.2.2]
  | sent _ _ _ _ overrides _ submitting =>
    rcases submitting with rfl | rfl
    · simp [NoncePhase.isResynced, isResync]
    · simp [NoncePhase.isResynced, isResync]
  | _ => simp [NoncePhase.isResynced, isResync]

theorem abandoned_step (stepped : NonceStep key phase op answer after) :
    after.isAbandoned = true ↔
      phase.isAbandoned = true ∨ preparationThrew ⟨op, answer⟩ = true := by
  cases stepped with
  | asked _ op answer prepared sent => simp [preparationThrew_asked prepared]
  | threw _ op error preparing => simp [NoncePhase.isAbandoned, preparationThrew, preparing]
  | sent _ _ _ _ overrides answer submitting =>
    rw [preparationThrew_asked rfl]
    rcases submitting with rfl | rfl
    · simp [NoncePhase.isAbandoned]
    · simp [NoncePhase.isAbandoned]
  | _ => simp [NoncePhase.isAbandoned, preparationThrew]

end Steps

theorem exists_snoc (holds : ExecutorEvent → Prop) (events : List ExecutorEvent)
    (last : ExecutorEvent) :
    (∃ event ∈ events ++ [last], holds event) ↔ (∃ event ∈ events, holds event) ∨ holds last := by
  simp [or_and_right, exists_or]

theorem records_step {key : NonceKey} {phase after : NoncePhase} {op : ExecutorOp}
    {answer : op.Answer} {events : List ExecutorEvent} (records : Records phase events)
    (stepped : NonceStep key phase op answer after) :
    Records after (events ++ [⟨op, answer⟩]) where
  reserved := fun nonce => by
    rw [exists_snoc, records.reserved, reserved_step stepped]
  sent := fun nonce => by
    rw [exists_snoc, records.sent, sent_step stepped]
  looked := by
    rw [exists_snoc, records.looked, looked_step stepped]
  took := by
    rw [exists_snoc, records.took, took_step stepped]
  released := by
    rw [exists_snoc, records.released, released_step stepped]
  resynced := by
    rw [exists_snoc, records.resynced, resynced_step stepped]
  threw := by
    rw [exists_snoc, records.threw, abandoned_step stepped]

/-- The calls that replay to a phase are as the phase says. -/
theorem records_replay {key : NonceKey} (events : List ExecutorEvent) {phase : NoncePhase}
    (replayed : Async.replay (noncePhase key) .idle events = some phase) :
    Records phase events := by
  induction events using List.reverseRecOn generalizing phase with
  | nil =>
    cases replayed
    constructor
    · simp [NoncePhase.reserved?]
    · simp [NoncePhase.sent?]
    · simp [NoncePhase.hasLooked]
    · simp [NoncePhase.hasTaken]
    · simp [NoncePhase.isReleased]
    · simp [NoncePhase.isResynced]
    · simp [NoncePhase.isAbandoned]
  | append_singleton events event inductionHypothesis =>
    rw [Async.replay_append] at replayed
    obtain ⟨before, earlier, last⟩ := Option.bind_eq_some_iff.mp replayed
    obtain ⟨here, stepped, rfl⟩ : ∃ here, noncePhase key before event.1 event.2 = some here ∧
        phase = here := by
      obtain ⟨here, stepped, done⟩ := Option.bind_eq_some_iff.mp last
      exact ⟨here, stepped, (Option.some.inj done).symm⟩
    exact records_step (inductionHypothesis earlier) (noncePhase_cases stepped)

end SafeTransactionExecutor

end LiquidationBot
