import LiquidationBot.PipelineProtocol

/-!
# A cycle on its way to an account

Seen from one account on one chain, a live cycle looks for it until it hands it to
the gate, or is excused because the execution breaker is open or the sequencer is
down, or loses it: the staleness guard ends the chain, the fallback poll fails or
finds nothing fresh, the cache does not list the account, or an exception ends
the cycle. A cycle that has gone over the chain never ends still looking.

Exceptions of the two cost reads end a cycle inside the gate, and are caught where
a request is built. The gate's check of a borrower, which precedes every such
build, tells the two apart.
-/

namespace LiquidationBot

namespace PipelineOrchestrator

/-- How far a cycle has come with the account; `gating` while the reads that
follow belong to the gate. -/
inductive SearchPhase where
  | seeking (gating : Bool)
  | settled
  | lost
deriving DecidableEq

namespace SearchPhase

/-- The cycle no longer looks for the account. -/
def ended : SearchPhase → Bool
  | .seeking _ => false
  | _ => true

end SearchPhase

/-- A candidate of the account. -/
def isOf (account : Address) (candidate : LiquidationCandidate) : Bool :=
  candidate.account.value = account.value

/-- The gate gets the account, or the cycle is excused from it. -/
def settles (chain : SupportedChain) (account : Address) : (op : PipelineOp) → op.Answer → Bool
  | .memory (.filterCandidates tested candidates), _ =>
      tested = chain && candidates.any (isOf account)
  | .memory (.executionBreaker tested), status => tested = chain && status = .open
  | .ask (.isUp tested), .ok up => tested = chain && !up
  | _, _ => false

/-- An answer of a collaborator that ends the search. -/
def askLoses (chain : SupportedChain) (gating : Bool) :
    (op : PipelineCollaborator) → Except Thrown op.Result → Bool
  | .pollFallback tested, answer => tested = chain && !answer.isOk
  | .resolveGasCostUsd, answer => gating && !answer.isOk
  | .resolveFlashFeeBps, answer => gating && !answer.isOk
  | .watchlistSweep _, _ => false
  | .rank _ _, _ => false
  | .recordOutcome _ _, _ => false
  | _, answer => !answer.isOk

/-- The cycle loses the account. -/
def loses (chain : SupportedChain) (account : Address) (gating : Bool) :
    (op : PipelineOp) → op.Answer → Bool
  | .memory .stalenessCheck, status => status = .critical
  | .memory (.hasFreshCache tested), fresh => tested = chain && !fresh
  | .memory (.listCandidates tested _), candidates =>
      tested = chain && !candidates.any (isOf account)
  | .ask op, answer => askLoses chain gating op answer
  | _, _ => false

/-- Whether the reads that follow a call belong to the gate. -/
def gatingAfter (gating : Bool) : PipelineOp → Bool
  | .memory (.filterCandidates _ _) => true
  | .memory (.isBorrowerBlocked _ _) => false
  | _ => gating

/-- The protocol of the search. -/
def searchPhase (chain : SupportedChain) (account : Address) :
    SearchPhase → (op : PipelineOp) → op.Answer → Option SearchPhase
  | .seeking gating, op, answer =>
      if settles chain account op answer then some .settled
      else if loses chain account gating op answer then some .lost
      else some (.seeking (gatingAfter gating op))
  | phase, _, _ => some phase

section Rules

variable {chain : SupportedChain} {account : Address} {α β : Type}

/-- The search is over, or the program returns a value with the property. -/
def Passes (property : α → Prop) (phase : SearchPhase) (result : Except Thrown α) : Prop :=
  phase.ended = true ∨ ∃ value, result = .ok value ∧ property value

/-- From any phase, the program ends the search or returns such a value; it throws
only if the search is over. -/
def Guarded (chain : SupportedChain) (account : Address) (property : α → Prop)
    (program : PipelineM α) : Prop :=
  ∀ phase, Async.Conforms (searchPhase chain account) (Passes property) phase program

/-- A search that is over stays over. -/
theorem conforms_ended {accept : SearchPhase → Except Thrown α → Prop} {phase : SearchPhase}
    (ended : phase.ended = true) (program : PipelineM α) (accepted : ∀ result, accept phase result) :
    Async.Conforms (searchPhase chain account) accept phase program := by
  induction program with
  | pure value => exact accepted _
  | throw error => exact accepted _
  | call op resume inductionHypothesis =>
    intro answer
    refine ⟨phase, ?_, inductionHypothesis answer⟩
    cases phase with
    | seeking gating => cases ended
    | settled => rfl
    | lost => rfl

/-- The protocol forbids nothing. -/
theorem conforms_any (phase : SearchPhase) (program : PipelineM α) :
    Async.Conforms (searchPhase chain account) (fun _ _ => True) phase program := by
  induction program generalizing phase with
  | pure value => trivial
  | throw error => trivial
  | call op resume inductionHypothesis =>
    intro answer
    have allowed : ∃ after, searchPhase chain account phase op answer = some after := by
      unfold searchPhase
      split
      · split
        · exact ⟨_, rfl⟩
        · split
          · exact ⟨_, rfl⟩
          · exact ⟨_, rfl⟩
      · exact ⟨_, rfl⟩
    obtain ⟨after, allowed⟩ := allowed
    exact ⟨after, allowed, inductionHypothesis answer after⟩

/-- Only phases of the search need a proof. -/
theorem guarded_of_seeking {property : α → Prop} {program : PipelineM α}
    (seeking : ∀ gating, Async.Conforms (searchPhase chain account) (Passes property)
      (.seeking gating) program) : Guarded chain account property program := by
  intro phase
  cases phase with
  | seeking gating => exact seeking gating
  | settled => exact conforms_ended rfl program (fun _ => Or.inl rfl)
  | lost => exact conforms_ended rfl program (fun _ => Or.inl rfl)

theorem guarded_pure {property : α → Prop} {value : α} (here : property value) :
    Guarded chain account property (.pure value) :=
  fun _ => Or.inr ⟨value, rfl, here⟩

theorem Guarded.mono {property weaker : α → Prop} {program : PipelineM α}
    (guarded : Guarded chain account property program)
    (implied : ∀ value, property value → weaker value) : Guarded chain account weaker program := by
  intro phase
  refine (guarded phase).mono ?_
  rintro after result (ended | ⟨value, rfl, here⟩)
  · exact Or.inl ended
  · exact Or.inr ⟨value, rfl, implied value here⟩

/-- Sequencing passes on what the first part has returned. -/
theorem Guarded.bind {property : β → Prop} {later : α → Prop} {program : PipelineM β}
    {rest : β → PipelineM α} (guarded : Guarded chain account property program)
    (next : ∀ value, property value → Guarded chain account later (rest value)) :
    Guarded chain account later (program.bind rest) := by
  intro phase
  rw [Async.conforms_bind]
  refine (guarded phase).mono ?_
  rintro after (error | value) (ended | ⟨returned, same, here⟩)
  · exact Or.inl ended
  · cases same
  · exact conforms_ended ended (rest value) (fun _ => Or.inl ended)
  · cases same
    exact next value here after

/-- A caught program throws nothing. -/
theorem guarded_attempt (program : PipelineM α) :
    Guarded chain account (fun _ => True) program.attempt := by
  intro phase
  rw [Async.conforms_attempt]
  exact (conforms_any phase program).mono (fun _ result _ => Or.inr ⟨result, rfl, trivial⟩)

/-- An answer that ends the search. -/
def Ends (chain : SupportedChain) (account : Address) (op : PipelineOp) (answer : op.Answer) :
    Prop :=
  ∀ gating, settles chain account op answer = true ∨ loses chain account gating op answer = true

theorem ended_of_ends {op : PipelineOp} {answer : op.Answer} (ends : Ends chain account op answer)
    (gating : Bool) : ∃ after, searchPhase chain account (.seeking gating) op answer = some after ∧
      after.ended = true := by
  unfold searchPhase
  dsimp only
  split
  · exact ⟨.settled, rfl, rfl⟩
  next unsettled =>
    rw [if_pos ((ends gating).resolve_left unsettled)]
    exact ⟨.lost, rfl, rfl⟩

/-- One call: every answer ends the search, or is one to go on with. -/
theorem guarded_call {op : PipelineOp} {resume : op.Answer → PipelineM α} {property : α → Prop}
    (answered : ∀ answer, Ends chain account op answer ∨
      Guarded chain account property (resume answer)) :
    Guarded chain account property (.call op resume) := by
  apply guarded_of_seeking
  intro gating answer
  rcases answered answer with ends | later
  · obtain ⟨after, stepped, ended⟩ := ended_of_ends ends gating
    exact ⟨after, stepped, conforms_ended ended _ (fun _ => Or.inl ended)⟩
  · have allowed : Async.Conforms (searchPhase chain account) (fun _ _ => True) (.seeking gating)
        (.call op resume) := conforms_any _ _
    obtain ⟨after, stepped, _⟩ := allowed answer
    exact ⟨after, stepped, later after⟩

theorem guarded_memory {op : PipelineMemory} {property : op.Answer → Prop}
    (answered : ∀ answer, Ends chain account (.memory op) answer ∨ property answer) :
    Guarded chain account property (memory op) :=
  guarded_call (fun answer => (answered answer).imp_right guarded_pure)

theorem guarded_tryAsk {op : PipelineCollaborator} {property : Except Thrown op.Result → Prop}
    (answered : ∀ answer, Ends chain account (.ask op) answer ∨ property answer) :
    Guarded chain account property (tryAsk op) :=
  guarded_call (fun answer => (answered answer).imp_right guarded_pure)

/-- An awaited call whose exceptions end the cycle. -/
theorem guarded_ask {op : PipelineCollaborator} {property : op.Result → Prop}
    (thrown : ∀ error gating, askLoses chain gating op (.error error) = true)
    (returned : ∀ value, Ends chain account (.ask op) (.ok value) ∨ property value) :
    Guarded chain account property (ask op) := by
  apply guarded_call
  rintro (error | value)
  · exact Or.inl (fun gating => Or.inr (thrown error gating))
  · exact (returned value).imp_right guarded_pure

theorem guarded_anyMemory (op : PipelineMemory) :
    Guarded chain account (fun _ => True) (memory op) :=
  guarded_memory (fun _ => Or.inr trivial)

theorem guarded_anyTryAsk (op : PipelineCollaborator) :
    Guarded chain account (fun _ => True) (tryAsk op) :=
  guarded_tryAsk (fun _ => Or.inr trivial)

theorem guarded_anyAsk {op : PipelineCollaborator}
    (thrown : ∀ error gating, askLoses chain gating op (.error error) = true) :
    Guarded chain account (fun _ => True) (ask op) :=
  guarded_ask thrown (fun _ => Or.inr trivial)

end Rules

section Walk

variable {config : PipelineOrchestratorConfig} {chain tested : SupportedChain} {account : Address}

theorem keepCandidates_guarded (candidates : List LiquidationCandidate) :
    Guarded chain account (fun _ => True) (keepCandidates tested candidates) := by
  induction candidates with
  | nil => exact guarded_pure trivial
  | cons candidate rest inductionHypothesis =>
    refine (guarded_anyMemory _).bind ?_
    intro blocked _
    split
    · exact inductionHypothesis
    · refine (guarded_anyAsk (fun _ _ => rfl)).bind ?_
      intro repayValueUsd _
      refine inductionHypothesis.bind ?_
      intro kept _
      cases repayValueUsd with
      | none => exact guarded_pure trivial
      | some repayValueUsd => exact guarded_pure trivial

/-- A cost read of the gate loses the account if it throws. -/
theorem conforms_cost {α : Type} {op : PipelineCollaborator} {rest : op.Result → PipelineM α}
    {property : α → Prop}
    (cost : ∀ gating answer, askLoses chain gating op answer = (gating && !answer.isOk))
    (apart : ∀ answer, settles chain account (.ask op) answer = false)
    (later : ∀ value, Async.Conforms (searchPhase chain account) (Passes property) (.seeking true)
      (rest value)) :
    Async.Conforms (searchPhase chain account) (Passes property) (.seeking true)
      ((ask op).bind rest) := by
  have stepped : ∀ answer, searchPhase chain account (.seeking true) (.ask op) answer =
      if answer.isOk then some (.seeking true) else some .lost := by
    intro answer
    simp only [searchPhase, apart, loses, cost]
    cases answer with
    | ok value => rfl
    | error error => rfl
  rintro (error | value)
  · exact ⟨.lost, stepped _, conforms_ended rfl _ (fun _ => Or.inl rfl)⟩
  · exact ⟨.seeking true, stepped _, later value⟩

/-- Whoever is among the candidates is handed to the gate. -/
theorem filterCandidates_guarded (candidates : List LiquidationCandidate) :
    Guarded chain account (fun _ => tested = chain → candidates.any (isOf account) = false)
      (filterCandidates tested candidates) := by
  apply guarded_of_seeking
  intro gating answer
  by_cases handed : (decide (tested = chain) && candidates.any (isOf account)) = true
  · exact ⟨.settled, if_pos handed, conforms_ended rfl _ (fun _ => Or.inl rfl)⟩
  · refine ⟨.seeking true, if_neg handed, ?_⟩
    refine conforms_cost (fun _ _ => rfl) (fun _ => rfl) (fun _ => ?_)
    refine conforms_cost (fun _ _ => rfl) (fun _ => rfl) (fun _ => ?_)
    refine (keepCandidates_guarded candidates).mono ?_ (.seeking true)
    rintro kept - same
    simpa [same] using handed

/-- With a gate, the base candidates of the account's own chain end the search. -/
theorem baseCandidates_guarded (gate : config.liquidationGate = true) (degraded : Bool) :
    Guarded chain account (fun _ => tested ≠ chain) (baseCandidates config tested degraded) := by
  have listed : Guarded chain account
      (fun candidates => tested = chain → candidates.any (isOf account) = true)
      (memory (.listCandidates tested degraded)) := by
    apply guarded_memory
    intro candidates
    by_cases found : tested = chain → candidates.any (isOf account) = true
    · exact Or.inr found
    · refine Or.inl (fun gating => Or.inr ?_)
      simpa [loses] using found
  refine listed.bind ?_
  intro candidates found
  rw [if_pos gate]
  refine (filterCandidates_guarded candidates).mono ?_
  intro kept missing same
  rw [found same] at missing
  cases missing same

theorem collectExtraOpportunities_guarded :
    Guarded chain account (fun _ => True) (collectExtraOpportunities config tested) := by
  unfold collectExtraOpportunities
  split
  · exact guarded_anyAsk (fun _ _ => rfl)
  · exact guarded_pure trivial

theorem buildExecutionPlans_guarded (opportunities : List Opportunity)
    (summary : PipelineRunSummary) :
    Guarded chain account (fun _ => True)
      (buildExecutionPlans config tested opportunities summary) := by
  induction opportunities generalizing summary with
  | nil => exact guarded_pure trivial
  | cons opportunity rest inductionHypothesis =>
    have checked : Guarded chain account (fun _ => True)
        (isOpportunityBlocked config tested opportunity) := by
      cases opportunity with
      | arbitrage opportunity => exact guarded_pure trivial
      | liquidation candidate =>
        dsimp only [isOpportunityBlocked]
        split
        · exact guarded_anyMemory _
        · exact guarded_pure trivial
    refine checked.bind ?_
    intro blocked _
    split
    · exact inductionHypothesis summary
    · refine (guarded_attempt _).bind ?_
      rintro (error | (_ | request)) _
      · refine (guarded_anyMemory _).bind ?_
        exact fun _ _ => inductionHypothesis _
      · exact inductionHypothesis summary
      · exact (inductionHypothesis summary).bind (fun _ _ => guarded_pure trivial)

theorem rankPlans_guarded (plans : List PipelineExecutionPlan) :
    Guarded chain account (fun _ => True) (rankPlans config tested plans) := by
  unfold rankPlans
  split
  · refine (guarded_anyTryAsk _).bind ?_
    rintro (error | order) _
    · exact guarded_pure trivial
    · exact guarded_pure trivial
  · exact guarded_pure trivial

theorem executePlans_guarded (plans : List PipelineExecutionPlan) (summary : PipelineRunSummary) :
    Guarded chain account (fun _ => True) (executePlans config plans summary) := by
  induction plans generalizing summary with
  | nil => exact guarded_pure trivial
  | cons plan rest inductionHypothesis =>
    have observed : ∀ outcome, Guarded chain account (fun _ => True)
        (recordLearningOutcome config plan outcome) := by
      intro outcome
      unfold recordLearningOutcome
      split
      · refine (guarded_anyTryAsk _).bind ?_
        exact fun _ _ => guarded_pure trivial
      · exact guarded_pure trivial
    have executed : Guarded chain account (fun _ => True) (executePlan config plan summary) := by
      refine (guarded_anyMemory _).bind ?_
      intro started _
      split
      · refine (guarded_attempt _).bind ?_
        intro result _
        refine (guarded_anyMemory _).bind ?_
        exact fun _ _ => (observed _).bind (fun _ _ => guarded_pure trivial)
      · exact guarded_pure trivial
    exact executed.bind (fun after _ => inductionHypothesis after)

/-- Past the breakers, the account's own chain ends the search. -/
theorem evaluateChain_guarded (gate : config.liquidationGate = true) (degraded : Bool)
    (summary : PipelineRunSummary) :
    Guarded chain account (fun _ => tested ≠ chain)
      (evaluateChain config tested degraded summary) := by
  refine (baseCandidates_guarded gate degraded).bind ?_
  intro candidates other
  refine collectExtraOpportunities_guarded.bind ?_
  intro extraOpportunities _
  refine (buildExecutionPlans_guarded _ summary).bind ?_
  rintro ⟨plans, after⟩ _
  refine (rankPlans_guarded plans).bind ?_
  intro ranked _
  exact (executePlans_guarded ranked _).mono (fun _ _ => other)

theorem refreshDegraded_guarded :
    Guarded chain account (fun refreshed => tested = chain → refreshed = true)
      (refreshDegraded tested) := by
  have polled : Guarded chain account (fun answer => tested = chain → answer.isOk = true)
      (tryAsk (.pollFallback tested)) := by
    apply guarded_tryAsk
    intro answer
    by_cases fine : tested = chain → answer.isOk = true
    · exact Or.inr fine
    · refine Or.inl (fun gating => Or.inr ?_)
      simpa [loses, askLoses] using fine
  refine polled.bind ?_
  rintro (error | value) fine
  · refine guarded_pure ?_
    intro same
    cases fine same
  · apply guarded_memory
    intro fresh
    by_cases found : tested = chain → fresh = true
    · exact Or.inr found
    · refine Or.inl (fun gating => Or.inr ?_)
      simpa [loses] using found

theorem runOpenChain_guarded (gate : config.liquidationGate = true) (summary : PipelineRunSummary) :
    Guarded chain account (fun _ => tested ≠ chain) (runOpenChain config tested summary) := by
  have breaker : Guarded chain account (fun status => tested = chain → status ≠ .open)
      (memory (.executionBreaker tested)) := by
    apply guarded_memory
    intro status
    by_cases closed : tested = chain → status ≠ .open
    · exact Or.inr closed
    · refine Or.inl (fun gating => Or.inl ?_)
      simpa [settles] using closed
  have degradation : Guarded chain account (fun _ => True) (isDegraded tested) := by
    refine (guarded_anyMemory _).bind ?_
    intro rpc _
    split
    · exact guarded_pure trivial
    · refine (guarded_anyMemory _).bind ?_
      exact fun _ _ => guarded_pure trivial
  refine breaker.bind ?_
  intro status closed
  split
  next opened => exact guarded_pure (fun same => closed same opened)
  next =>
    refine degradation.bind ?_
    intro degraded _
    split
    · refine refreshDegraded_guarded.bind ?_
      intro refreshed fine
      split
      next => exact evaluateChain_guarded gate true summary
      next failed => exact guarded_pure (fun same => failed (fine same))
    · exact evaluateChain_guarded gate false summary

/-- A chain that a cycle has gone over is not the account's, unless the search is
over. -/
theorem runChain_guarded (gate : config.liquidationGate = true) (summary : PipelineRunSummary) :
    Guarded chain account (fun _ => tested ≠ chain) (runChain config tested summary) := by
  have swept : Guarded chain account (fun _ => True) (sweepWatchlist config tested) := by
    unfold sweepWatchlist
    split
    · refine (guarded_anyTryAsk _).bind ?_
      exact fun _ _ => guarded_pure trivial
    · exact guarded_pure trivial
  have guarded : Guarded chain account (fun staleness => staleness ≠ .critical)
      (checkStaleness config) := by
    unfold checkStaleness
    split
    · apply guarded_memory
      intro staleness
      by_cases critical : staleness = .critical
      · refine Or.inl (fun gating => Or.inr ?_)
        simpa [loses] using critical
      · exact Or.inr critical
    · exact guarded_pure nofun
  have sequencer : Guarded chain account (fun up => tested = chain → up = true)
      (isSequencerUp config tested) := by
    unfold isSequencerUp
    split
    · refine guarded_ask (fun _ _ => rfl) ?_
      intro up
      by_cases running : tested = chain → up = true
      · exact Or.inr running
      · refine Or.inl (fun gating => Or.inl ?_)
        simpa [settles] using running
    · exact guarded_pure (fun _ => rfl)
  refine swept.bind ?_
  intro _ _
  refine guarded.bind ?_
  intro staleness bearable
  split
  next critical => exact absurd critical bearable
  next =>
    refine sequencer.bind ?_
    intro up running
    split
    next => exact runOpenChain_guarded gate summary
    next down => exact guarded_pure (fun same => down (running same))

theorem runChains_guarded (gate : config.liquidationGate = true) (chains : List SupportedChain)
    (summary : PipelineRunSummary) :
    Guarded chain account (fun _ => chain ∉ chains) (runChains config chains summary) := by
  induction chains generalizing summary with
  | nil => exact guarded_pure List.not_mem_nil
  | cons first rest inductionHypothesis =>
    have sampled : Guarded chain account (fun _ => True) (sampleDiagnostics config first) := by
      unfold sampleDiagnostics
      split
      · exact guarded_anyAsk (fun _ _ => rfl)
      · exact guarded_pure trivial
    have visited : Guarded chain account (fun _ => first ≠ chain) (runChain config first summary) :=
      runChain_guarded gate summary
    refine visited.bind ?_
    intro after other
    refine sampled.bind ?_
    intro _ _
    refine (inductionHypothesis after).mono ?_
    intro _ absent member
    rcases List.mem_cons.mp member with same | later
    · exact other same.symm
    · exact absent later

/-- No cycle over the account's chain returns while it looks for the account. -/
theorem runOnce_guarded (gate : config.liquidationGate = true) (listed : chain ∈ config.chains) :
    Guarded chain account (fun _ => False) (runOnce config) := by
  refine (runChains_guarded gate config.chains .empty).bind ?_
  intro summary absent
  exact absurd listed absent

/-- Every trigger of live cycles comes over the account's chain. -/
theorem trigger_guarded (purity : EventPurityConfig) (live : purity.enableLiveTx = true)
    (notSimulated : purity.simulationMode = false) (gate : config.liquidationGate = true)
    (listed : chain ∈ config.chains) (trigger : CycleTrigger) :
    Guarded chain account (fun _ => False) (trigger.program purity config) := by
  have cycle : Guarded chain account (fun _ => False) (runOnce config) := runOnce_guarded gate listed
  have thenDone : Guarded chain account (fun _ => False)
      ((runOnce config).bind (fun _ => .pure ())) :=
    cycle.bind (fun _ impossible => impossible.elim)
  cases trigger with
  | pollingRound =>
    have caught : Guarded chain account (fun _ => False) (runOnce config).attempt := by
      intro phase
      rw [Async.conforms_attempt]
      refine (cycle phase).mono ?_
      rintro after result (ended | ⟨_, _, impossible⟩)
      · exact Or.inl ended
      · cases impossible
    exact caught.bind (fun _ impossible => impossible.elim)
  | liquidatableCandidate candidate =>
    refine (guarded_anyMemory _).bind ?_
    intro _ _
    rw [live, notSimulated]
    exact thenDone
  | urgentAccounts accounts =>
    refine (guarded_anyAsk (fun _ _ => rfl)).bind ?_
    exact fun _ _ => thenDone

/-- Whatever starts a live cycle, it ends with the search over. -/
theorem trigger_searches (purity : EventPurityConfig) (live : purity.enableLiveTx = true)
    (notSimulated : purity.simulationMode = false) (gate : config.liquidationGate = true)
    (listed : chain ∈ config.chains) (trigger : CycleTrigger) :
    Async.Conforms (searchPhase chain account) (fun phase _ => phase.ended = true)
      (.seeking false) (trigger.program purity config) := by
  refine (trigger_guarded purity live notSimulated gate listed trigger (.seeking false)).mono ?_
  rintro after result (ended | ⟨_, _, impossible⟩)
  · exact ended
  · cases impossible

end Walk

end PipelineOrchestrator

end LiquidationBot
