import LiquidationBot.ExecutorRequests
import LiquidationBot.PipelineOrchestrator

/-!
# The shape of a cycle

A cycle executes its plans one after the other: between the beginning of an
execution and its settlement it makes only the executor's calls, for the same
plan, and every plan it begins carries the request built for its opportunity.
Everything else in a cycle stays between executions.
-/

namespace LiquidationBot

namespace PipelineOrchestrator

/-- Calls that belong to an execution. -/
def isExecution : PipelineOp → Bool
  | .memory (.beginExecution _) => true
  | .memory (.settleExecution _ _) => true
  | .executor _ _ => true
  | _ => false

/-- The program makes no execution calls. -/
def Quiet {α : Type} (program : PipelineM α) : Prop :=
  program.Uses (fun op => isExecution op = false)

/-- Calls that belong neither to an execution nor to the dead letters. -/
def isPlain : PipelineOp → Bool
  | .memory (.deadLetterOpportunity _ _) => false
  | op => !isExecution op

/-- The program makes plain calls only. -/
def Plain {α : Type} (program : PipelineM α) : Prop :=
  program.Uses (fun op => isPlain op = true)

section Quiet

variable {config : PipelineOrchestratorConfig} {chain : SupportedChain}

theorem quiet_memory {op : PipelineMemory} (apart : isExecution (.memory op) = false) :
    Quiet (memory op) :=
  ⟨apart, fun answer => Async.uses_pure answer⟩

theorem plain_memory {op : PipelineMemory} (apart : isPlain (.memory op) = true) :
    Plain (memory op) :=
  ⟨apart, fun answer => Async.uses_pure answer⟩

theorem plain_ask (op : PipelineCollaborator) : Plain (ask op) :=
  ⟨rfl, fun answer => Async.uses_orThrow answer⟩

theorem plain_tryAsk (op : PipelineCollaborator) : Plain (tryAsk op) :=
  ⟨rfl, fun answer => Async.uses_pure answer⟩

theorem Plain.bind {α β : Type} {program : PipelineM β} {rest : β → PipelineM α}
    (plain : Plain program) (later : ∀ value, Plain (rest value)) : Plain (program.bind rest) :=
  Async.Uses.bind plain later

theorem Plain.quiet {α : Type} {program : PipelineM α} (plain : Plain program) : Quiet program := by
  refine Async.Uses.mono plain ?_
  intro op apart
  unfold isPlain at apart
  split at apart
  · cases apart
  · simpa using apart

theorem keepCandidates_plain (candidates : List LiquidationCandidate) :
    Plain (keepCandidates chain candidates) := by
  induction candidates with
  | nil => trivial
  | cons candidate rest inductionHypothesis =>
    refine (plain_memory rfl).bind ?_
    intro blocked
    split
    · exact inductionHypothesis
    · refine (plain_ask _).bind ?_
      intro repayValueUsd
      refine inductionHypothesis.bind ?_
      intro kept
      cases repayValueUsd with
      | none => trivial
      | some repayValueUsd => trivial

theorem filterCandidates_plain (candidates : List LiquidationCandidate) :
    Plain (filterCandidates chain candidates) :=
  (plain_memory rfl).bind (fun _ => (plain_ask _).bind (fun _ => (plain_ask _).bind
    (fun _ => keepCandidates_plain candidates)))

theorem baseCandidates_plain (degraded : Bool) : Plain (baseCandidates config chain degraded) := by
  refine (plain_memory rfl).bind ?_
  intro rawCandidates
  split
  · exact filterCandidates_plain rawCandidates
  · trivial

theorem collectExtraOpportunities_plain : Plain (collectExtraOpportunities config chain) := by
  unfold collectExtraOpportunities
  split
  · exact plain_ask _
  · trivial

theorem isOpportunityBlocked_plain (opportunity : Opportunity) :
    Plain (isOpportunityBlocked config chain opportunity) := by
  cases opportunity with
  | liquidation candidate =>
    dsimp only [isOpportunityBlocked]
    split
    · exact plain_memory rfl
    · trivial
  | arbitrage opportunity => trivial

theorem recordLearningOutcome_plain (plan : PipelineExecutionPlan)
    (outcome : PipelineObservedOutcome) : Plain (recordLearningOutcome config plan outcome) := by
  unfold recordLearningOutcome
  split
  · exact (plain_tryAsk _).bind (fun _ => trivial)
  · trivial

theorem sweepWatchlist_plain : Plain (sweepWatchlist config chain) := by
  unfold sweepWatchlist
  split
  · exact (plain_tryAsk _).bind (fun _ => trivial)
  · trivial

theorem checkStaleness_plain : Plain (checkStaleness config) := by
  unfold checkStaleness
  split
  · exact plain_memory rfl
  · trivial

theorem isSequencerUp_plain : Plain (isSequencerUp config chain) := by
  unfold isSequencerUp
  split
  · exact plain_ask _
  · trivial

theorem isDegraded_plain : Plain (isDegraded chain) := by
  refine (plain_memory rfl).bind ?_
  intro rpc
  split
  · trivial
  · exact (plain_memory rfl).bind (fun _ => trivial)

theorem refreshDegraded_plain : Plain (refreshDegraded chain) := by
  refine (plain_tryAsk _).bind ?_
  rintro (error | _)
  · trivial
  · exact plain_memory rfl

theorem sampleDiagnostics_plain : Plain (sampleDiagnostics config chain) := by
  unfold sampleDiagnostics
  split
  · exact plain_ask _
  · trivial

end Quiet

/-! ## Executions -/

/-- The plan carries the request built for its opportunity. -/
def WellBuilt (config : PipelineOrchestratorConfig) (plan : PipelineExecutionPlan) : Prop :=
  requestOf config plan.opportunity = .ok (some plan.request)

instance (config : PipelineOrchestratorConfig) (plan : PipelineExecutionPlan) :
    Decidable (WellBuilt config plan) := inferInstanceAs (Decidable (_ = _))

/-- Where a cycle stands: between executions, or in one, which may have handed
out a transaction. -/
inductive CyclePhase where
  | between
  | executing (plan : PipelineExecutionPlan) (sent : Bool)
deriving DecidableEq

/-- The executor's call hands out a transaction. -/
def handsOut : ExecutorOp → Bool
  | .ask (.send _ _ _ _) => true
  | _ => false

/-- The protocol of a cycle's executions. -/
def cyclePhase (config : PipelineOrchestratorConfig) :
    CyclePhase → (op : PipelineOp) → op.Answer → Option CyclePhase
  | .between, .memory (.beginExecution plan), started =>
      if WellBuilt config plan then some (if started then .executing plan false else .between)
      else none
  | .executing plan _, .memory (.settleExecution tested _), _ =>
      if tested = plan ∧ WellBuilt config plan then some .between else none
  | .executing plan sent, .executor tested op, _ =>
      if tested = plan ∧ WellBuilt config plan ∧
          SafeTransactionExecutor.Concerns plan.request op then
        some (.executing plan (sent || handsOut op))
      else none
  | .between, op, _ => if isExecution op then none else some .between
  | _, _, _ => none

section Executions

variable {config : PipelineOrchestratorConfig} {chain : SupportedChain}

/-- Other calls stay between executions. -/
theorem cyclePhase_quiet {op : PipelineOp} (quiet : isExecution op = false) (answer : op.Answer) :
    cyclePhase config .between op answer = some .between := by
  cases op with
  | executor plan op => cases quiet
  | ask op => rfl
  | memory op =>
    cases op with
    | beginExecution plan => cases quiet
    | settleExecution plan result => cases quiet
    | _ => rfl

/-- A quiet program stays between executions, whatever it returns. -/
theorem Quiet.conforms {α : Type} {program : PipelineM α} (quiet : Quiet program)
    {accept : CyclePhase → Except Thrown α → Prop} (accepted : ∀ result, accept .between result) :
    Async.Conforms (cyclePhase config) accept .between program :=
  Async.Uses.conforms quiet (fun _ here answer => cyclePhase_quiet here answer) accepted

/-- Quiet programs in sequence with a conforming rest. -/
theorem Quiet.conforms_bind {α β : Type} {program : PipelineM β} (quiet : Quiet program)
    {rest : β → PipelineM α} {accept : CyclePhase → Except Thrown α → Prop}
    (thrown : ∀ error, accept .between (.error error))
    (later : ∀ value, Async.Conforms (cyclePhase config) accept .between (rest value)) :
    Async.Conforms (cyclePhase config) accept .between (program.bind rest) := by
  rw [Async.conforms_bind]
  apply quiet.conforms
  rintro (error | value)
  · exact thrown error
  · exact later value

/-- Where a cycle can end. -/
def Between {α : Type} (phase : CyclePhase) (_ : Except Thrown α) : Prop := phase = .between

/-- A request comes from the builder. -/
theorem buildExecutionRequest_conforms (opportunity : Opportunity) :
    Async.Conforms (cyclePhase config) (fun phase result => phase = .between ∧
        ∀ request, result = .ok (some request) →
          requestOf config opportunity = .ok (some request)) .between
      (buildExecutionRequest config opportunity) := by
  -- an exception carries no request
  have thrown (error : Thrown) : CyclePhase.between = .between ∧
      ∀ request, (.error error : Except Thrown (Option SafeExecutionRequest)) =
          .ok (some request) → requestOf config opportunity = .ok (some request) := by
    simp
  have built : Async.Conforms (cyclePhase config) (fun phase result => phase = .between ∧
        ∀ request, result = .ok (some request) →
          requestOf config opportunity = .ok (some request)) .between
      (Async.orThrow (requestOf config opportunity)) := by
    cases requestOf config opportunity with
    | ok request =>
      refine ⟨rfl, ?_⟩
      rintro request ⟨⟩
      rfl
    | error error => exact ⟨rfl, by simp⟩
  cases opportunity with
  | liquidation candidate =>
    unfold buildExecutionRequest
    refine Quiet.conforms_bind (plain_ask _).quiet thrown (fun _ => ?_)
    exact Quiet.conforms_bind (plain_ask _).quiet thrown (fun _ => built)
  | arbitrage opportunity =>
    unfold buildExecutionRequest
    exact built

/-- Every plan carries the request built for its opportunity. -/
theorem buildExecutionPlans_conforms (opportunities : List Opportunity)
    (summary : PipelineRunSummary) :
    Async.Conforms (cyclePhase config) (fun phase result => phase = .between ∧
        ∀ plans after, result = .ok (plans, after) → ∀ plan ∈ plans, WellBuilt config plan)
      .between (buildExecutionPlans config chain opportunities summary) := by
  induction opportunities generalizing summary with
  | nil =>
    refine ⟨rfl, ?_⟩
    rintro plans after ⟨⟩
    simp
  | cons opportunity rest inductionHypothesis =>
    refine Quiet.conforms_bind (isOpportunityBlocked_plain opportunity).quiet
      (fun _ => ⟨rfl, nofun⟩) ?_
    intro blocked
    split
    · exact inductionHypothesis summary
    · rw [Async.bind_eq, Async.conforms_bind, Async.conforms_attempt]
      refine (buildExecutionRequest_conforms opportunity).mono ?_
      rintro phase result ⟨rfl, built⟩
      rcases result with error | (_ | request)
      · exact Quiet.conforms_bind (quiet_memory rfl) (fun _ => ⟨rfl, nofun⟩)
          (fun _ => inductionHypothesis _)
      · exact inductionHypothesis summary
      · dsimp only
        rw [Async.bind_eq, Async.conforms_bind]
        refine (inductionHypothesis summary).mono ?_
        rintro phase (error | ⟨plans, after⟩) ⟨rfl, wellBuilt⟩
        · exact ⟨rfl, nofun⟩
        · refine ⟨rfl, ?_⟩
          rintro _ _ ⟨⟩ plan member
          rcases List.mem_cons.mp member with rfl | earlier
          · exact built request rfl
          · exact wellBuilt plans after rfl plan earlier

/-- Ranking invents no plan. -/
theorem rankPlans_conforms (plans : List PipelineExecutionPlan) :
    Async.Conforms (cyclePhase config) (fun phase result => phase = .between ∧
        ∀ ranked, result = .ok ranked → ∀ plan ∈ ranked, plan ∈ plans) .between
      (rankPlans config chain plans) := by
  unfold rankPlans
  split
  · rw [Async.bind_eq, Async.conforms_bind]
    apply Quiet.conforms (plain_tryAsk _).quiet
    rintro (error | (failure | order))
    · exact ⟨rfl, nofun⟩
    · refine ⟨rfl, ?_⟩
      rintro ranked ⟨⟩ plan member
      exact member
    · refine ⟨rfl, ?_⟩
      rintro ranked ⟨⟩ plan member
      obtain ⟨place, _, found⟩ := List.mem_filterMap.mp member
      exact List.mem_of_getElem? found
  · refine ⟨rfl, ?_⟩
    rintro ranked ⟨⟩ plan member
    exact member

/-- The executor's calls stay in their execution. -/
theorem executeRequest_conforms (plan : PipelineExecutionPlan) (sent : Bool)
    (wellBuilt : WellBuilt config plan) :
    Async.Conforms (cyclePhase config) (fun phase _ => ∃ after, phase = .executing plan after)
      (.executing plan sent) (executeRequest config plan) := by
  have stays : ∀ (program : ExecutorM SafeExecutionResult) (sent : Bool),
      program.Uses (SafeTransactionExecutor.Concerns plan.request) →
      Async.Conforms (cyclePhase config) (fun phase _ => ∃ after, phase = .executing plan after)
        (.executing plan sent)
        (program.translate (PipelineOp.executor plan) (fun _ answer => answer)) := by
    intro program
    induction program with
    | pure value => exact fun sent _ => ⟨sent, rfl⟩
    | throw error => exact fun sent _ => ⟨sent, rfl⟩
    | call op resume inductionHypothesis =>
      intro sent concerned answer
      exact ⟨.executing plan (sent || handsOut op), if_pos ⟨rfl, wellBuilt, concerned.1⟩,
        inductionHypothesis answer _ (concerned.2 answer)⟩
  exact stays _ sent (SafeTransactionExecutor.execute_concerns config.executor plan.request)

/-- An execution that begins is settled. -/
theorem executePlan_conforms (plan : PipelineExecutionPlan) (summary : PipelineRunSummary)
    (wellBuilt : WellBuilt config plan) :
    Async.Conforms (cyclePhase config) Between .between (executePlan config plan summary) := by
  intro started
  cases started with
  | false => exact ⟨.between, if_pos wellBuilt, rfl⟩
  | true =>
    refine ⟨.executing plan false, if_pos wellBuilt, ?_⟩
    have settled : ∀ result, Async.Conforms (cyclePhase config) Between .between
        ((recordLearningOutcome config plan (toLearningOutcome result)).bind
          (fun _ => .pure (summary.count result))) := fun result =>
      Quiet.conforms_bind (recordLearningOutcome_plain plan _).quiet (fun _ => rfl)
        (fun _ => rfl)
    have executed : Async.Conforms (cyclePhase config) Between (.executing plan false)
        ((executeRequest config plan).attempt.bind (fun result =>
          (memory (.settleExecution plan result)).bind (fun _ =>
            (recordLearningOutcome config plan (toLearningOutcome result)).bind
              (fun _ => .pure (summary.count result))))) := by
      rw [Async.conforms_bind, Async.conforms_attempt]
      refine (executeRequest_conforms plan false wellBuilt).mono ?_
      rintro phase result ⟨sent, rfl⟩ answer
      exact ⟨.between, if_pos ⟨rfl, wellBuilt⟩, settled result⟩
    exact executed

theorem executePlans_conforms (plans : List PipelineExecutionPlan) (summary : PipelineRunSummary)
    (wellBuilt : ∀ plan ∈ plans, WellBuilt config plan) :
    Async.Conforms (cyclePhase config) Between .between (executePlans config plans summary) := by
  induction plans generalizing summary with
  | nil => exact rfl
  | cons plan rest inductionHypothesis =>
    rw [executePlans, Async.bind_eq, Async.conforms_bind]
    refine (executePlan_conforms plan summary (wellBuilt plan List.mem_cons_self)).mono ?_
    rintro phase (error | after) rfl
    · exact rfl
    · exact inductionHypothesis after (fun later member =>
        wellBuilt later (List.mem_cons_of_mem plan member))

theorem evaluateChain_conforms (degraded : Bool) (summary : PipelineRunSummary) :
    Async.Conforms (cyclePhase config) Between .between
      (evaluateChain config chain degraded summary) := by
  refine (baseCandidates_plain degraded).quiet.conforms_bind (fun _ => rfl) ?_
  intro candidates
  refine collectExtraOpportunities_plain.quiet.conforms_bind (fun _ => rfl) ?_
  intro extraOpportunities
  rw [Async.bind_eq, Async.conforms_bind]
  refine (buildExecutionPlans_conforms _ summary).mono ?_
  rintro phase (error | ⟨plans, summary⟩) ⟨rfl, wellBuilt⟩
  · exact rfl
  · dsimp only
    rw [Async.bind_eq, Async.conforms_bind]
    refine (rankPlans_conforms plans).mono ?_
    rintro phase (error | ranked) ⟨rfl, among⟩
    · exact rfl
    · apply executePlans_conforms
      intro plan member
      exact wellBuilt plans summary rfl plan (among ranked rfl plan member)

theorem runOpenChain_conforms (summary : PipelineRunSummary) :
    Async.Conforms (cyclePhase config) Between .between (runOpenChain config chain summary) := by
  refine Quiet.conforms_bind (quiet_memory rfl) (fun _ => rfl) ?_
  intro breaker
  split
  · exact rfl
  · refine isDegraded_plain.quiet.conforms_bind (fun _ => rfl) ?_
    intro degraded
    split
    · refine refreshDegraded_plain.quiet.conforms_bind (fun _ => rfl) ?_
      intro refreshed
      split
      · exact evaluateChain_conforms true summary
      · exact rfl
    · exact evaluateChain_conforms false summary

theorem runChain_conforms (summary : PipelineRunSummary) :
    Async.Conforms (cyclePhase config) Between .between (runChain config chain summary) := by
  refine sweepWatchlist_plain.quiet.conforms_bind (fun _ => rfl) ?_
  intro _
  refine checkStaleness_plain.quiet.conforms_bind (fun _ => rfl) ?_
  intro staleness
  split
  · exact rfl
  · refine isSequencerUp_plain.quiet.conforms_bind (fun _ => rfl) ?_
    intro sequencerUp
    split
    · exact runOpenChain_conforms summary
    · exact rfl

theorem runChains_conforms (chains : List SupportedChain) (summary : PipelineRunSummary) :
    Async.Conforms (cyclePhase config) Between .between (runChains config chains summary) := by
  induction chains generalizing summary with
  | nil => exact rfl
  | cons chain rest inductionHypothesis =>
    rw [runChains, Async.bind_eq, Async.conforms_bind]
    refine (runChain_conforms summary).mono ?_
    rintro phase (error | after) rfl
    · exact rfl
    · exact sampleDiagnostics_plain.quiet.conforms_bind (fun _ => rfl)
        (fun _ => inductionHypothesis after)

/-- Every path of a cycle executes its plans one after the other. -/
theorem runOnce_conforms (config : PipelineOrchestratorConfig) :
    Async.Conforms (cyclePhase config) Between .between (runOnce config) := by
  rw [runOnce, Async.bind_eq, Async.conforms_bind]
  refine (runChains_conforms config.chains .empty).mono ?_
  rintro phase (error | summary) rfl
  · exact rfl
  · dsimp only
    split
    · exact Quiet.conforms_bind (plain_ask _).quiet (fun _ => rfl) (fun _ => rfl)
    · exact rfl

theorem runOnce_then_conforms :
    Async.Conforms (cyclePhase config) Between .between
      ((runOnce config).bind (fun _ => .pure ())) := by
  rw [Async.conforms_bind]
  refine (runOnce_conforms config).mono ?_
  rintro phase (error | summary) rfl
  · exact rfl
  · exact rfl

/-- Whatever starts a cycle. -/
theorem trigger_conforms (purity : EventPurityConfig) (config : PipelineOrchestratorConfig)
    (trigger : CycleTrigger) :
    Async.Conforms (cyclePhase config) Between .between (trigger.program purity config) := by
  cases trigger with
  | pollingRound =>
    unfold CycleTrigger.program
    rw [pollingRound, Async.conforms_bind, Async.conforms_attempt]
    exact (runOnce_conforms config).mono (fun _ _ ended => ended)
  | liquidatableCandidate account =>
    refine Quiet.conforms_bind (quiet_memory rfl) (fun _ => rfl) ?_
    intro _
    split
    · exact runOnce_then_conforms
    · exact rfl
  | urgentAccounts accounts =>
    exact Quiet.conforms_bind (plain_ask _).quiet (fun _ => rfl) (fun _ => runOnce_then_conforms)

end Executions

/-! ## What one call does -/

/-- The steps of a cycle's protocol. -/
inductive CycleStep (config : PipelineOrchestratorConfig) :
    CyclePhase → (op : PipelineOp) → op.Answer → CyclePhase → Prop where
  | quiet (op : PipelineOp) (answer : op.Answer) (apart : isExecution op = false) :
      CycleStep config .between op answer .between
  | started (plan : PipelineExecutionPlan) (wellBuilt : WellBuilt config plan) :
      CycleStep config .between (.memory (.beginExecution plan)) true (.executing plan false)
  | skipped (plan : PipelineExecutionPlan) (wellBuilt : WellBuilt config plan) :
      CycleStep config .between (.memory (.beginExecution plan)) false .between
  | executed (plan : PipelineExecutionPlan) (sent : Bool) (op : ExecutorOp) (answer : op.Answer)
      (wellBuilt : WellBuilt config plan)
      (concerned : SafeTransactionExecutor.Concerns plan.request op) :
      CycleStep config (.executing plan sent) (.executor plan op) answer
        (.executing plan (sent || handsOut op))
  | settled (plan : PipelineExecutionPlan) (sent : Bool)
      (result : Except Thrown SafeExecutionResult) (wellBuilt : WellBuilt config plan) :
      CycleStep config (.executing plan sent) (.memory (.settleExecution plan result)) () .between

/-- Whatever the protocol allows is one of its steps. -/
theorem cyclePhase_cases {config : PipelineOrchestratorConfig} {phase after : CyclePhase}
    {op : PipelineOp} {answer : op.Answer}
    (stepped : cyclePhase config phase op answer = some after) :
    CycleStep config phase op answer after := by
  unfold cyclePhase at stepped
  split at stepped
  next plan started =>
    obtain ⟨wellBuilt, same⟩ := Option.ite_none_right_eq_some.mp stepped
    cases started with
    | false =>
      cases same
      exact .skipped plan wellBuilt
    | true =>
      cases same
      exact .started plan wellBuilt
  next plan sent tested result answer =>
    obtain ⟨⟨rfl, wellBuilt⟩, same⟩ := Option.ite_none_right_eq_some.mp stepped
    cases same
    exact .settled tested sent result wellBuilt
  next plan sent tested op answer =>
    obtain ⟨⟨rfl, wellBuilt, concerned⟩, same⟩ := Option.ite_none_right_eq_some.mp stepped
    cases same
    exact .executed tested sent op answer wellBuilt concerned
  next =>
    obtain ⟨others, same⟩ := Option.ite_none_left_eq_some.mp stepped
    cases same
    exact .quiet _ _ (Bool.eq_false_iff.mpr others)
  next => cases stepped

end PipelineOrchestrator

end LiquidationBot
