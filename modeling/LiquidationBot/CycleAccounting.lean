import LiquidationBot.Library.AsyncRuns
import LiquidationBot.PipelineWorld

/-!
# What a cycle reports

A cycle returns its counters. The ledger of a run is read off its calls: the
executions that began, the results they were settled with, the requests that
could not be built. The counters agree with the ledger, whatever is answered.

The reported dead letters are computed from two of the counters and not taken
from the queue. Results that a guard produced are counted and not queued, so the
two numbers differ by exactly those.
-/

namespace LiquidationBot

namespace PipelineOrchestrator

/-- What the calls of a cycle amount to. An execution that began is one call of
the executor. -/
structure CycleLedger where
  executions : Nat
  results : List (Except Thrown SafeExecutionResult)
  builderFailures : Nat

namespace CycleLedger

def empty : CycleLedger := ⟨0, [], 0⟩

def advance (ledger : CycleLedger) : (op : PipelineOp) → op.Answer → CycleLedger
  | .memory (.beginExecution _), started =>
      if started then { ledger with executions := ledger.executions + 1 } else ledger
  | .memory (.settleExecution _ result), _ =>
      { ledger with results := ledger.results ++ [result] }
  | .memory (.deadLetterOpportunity _ _), _ =>
      { ledger with builderFailures := ledger.builderFailures + 1 }
  | _, _ => ledger

/-- The ledger after a run's calls. -/
def ofRun (events : List (Async.Event PipelineOp PipelineOp.Answer)) : CycleLedger :=
  events.foldl (fun ledger event => ledger.advance event.1 event.2) empty

/-- The entries that were queued. -/
def enqueued (ledger : CycleLedger) : Nat :=
  ledger.builderFailures + ledger.results.countP (fun result => (deadLetterReason result).isSome)

end CycleLedger

/-- What a result is counted as. -/
inductive ResultKind where
  | sent
  | simulated
  | rejected
  | failed
deriving DecidableEq

def kindOf : Except Thrown SafeExecutionResult → ResultKind
  | .ok (.sent _) => .sent
  | .ok .simulated => .simulated
  | .ok (.rejected _) => .rejected
  | .ok (.failed _) => .failed
  | .error _ => .failed

/-- A guard skipped the execution: it is counted as rejected and not queued. -/
def guardSkipped : Except Thrown SafeExecutionResult → Bool
  | .ok (.rejected .dust_filtered) => true
  | .ok (.rejected .borrower_cooldown) => true
  | _ => false

/-- The results of a kind. -/
def ofKind (results : List (Except Thrown SafeExecutionResult)) (kind : ResultKind) : Nat :=
  results.countP (fun result => decide (kindOf result = kind))

/-- The counters of a cycle agree with its ledger. -/
structure Reconciled (ledger : CycleLedger) (summary : PipelineRunSummary) : Prop where
  attempted : summary.attempted = ledger.executions
  settled : ledger.results.length = ledger.executions
  sent : summary.sent = ofKind ledger.results .sent
  simulated : summary.simulated = ofKind ledger.results .simulated
  rejected : summary.rejected = ofKind ledger.results .rejected
  failed : summary.failed = ofKind ledger.results .failed + ledger.builderFailures

/-! ## Counting results -/

section Counting

variable (results : List (Except Thrown SafeExecutionResult))

theorem ofKind_append (result : Except Thrown SafeExecutionResult) (kind : ResultKind) :
    ofKind (results ++ [result]) kind =
      ofKind results kind + if kindOf result = kind then 1 else 0 := by
  simp [ofKind, List.countP_append, List.countP_singleton]

/-- Every result is of one kind. -/
theorem length_eq_kinds :
    results.length = ofKind results .sent + ofKind results .simulated +
      ofKind results .rejected + ofKind results .failed := by
  induction results using List.reverseRecOn with
  | nil => rfl
  | append_singleton results result inductionHypothesis =>
    simp only [ofKind_append, List.length_append, List.length_singleton]
    cases kind : kindOf result <;> simp <;> omega

/-- A rejected or failed result was queued, unless a guard skipped it. -/
theorem queued_add_skipped :
    results.countP (fun result => (deadLetterReason result).isSome) + results.countP guardSkipped =
      ofKind results .rejected + ofKind results .failed := by
  induction results using List.reverseRecOn with
  | nil => rfl
  | append_singleton results result inductionHypothesis =>
    simp only [ofKind_append, List.countP_append, List.countP_singleton]
    have one : (if (deadLetterReason result).isSome then 1 else 0) +
        (if guardSkipped result then 1 else 0) =
        (if kindOf result = .rejected then 1 else 0) +
          (if kindOf result = .failed then 1 else 0) := by
      match result with
      | .error error => rfl
      | .ok (.sent hash) => rfl
      | .ok .simulated => rfl
      | .ok (.failed reason) => rfl
      | .ok (.rejected reason) => cases reason <;> rfl
    omega

end Counting

/-! ## One execution and one failed builder -/

section Steps

variable {ledger : CycleLedger} {summary : PipelineRunSummary}

theorem Reconciled.scanned (reconciled : Reconciled ledger summary) (scanned : Nat) :
    Reconciled ledger { summary with scanned := scanned } :=
  ⟨reconciled.attempted, reconciled.settled, reconciled.sent, reconciled.simulated,
    reconciled.rejected, reconciled.failed⟩

theorem Reconciled.builderFailed (reconciled : Reconciled ledger summary) :
    Reconciled { ledger with builderFailures := ledger.builderFailures + 1 }
      { summary with failed := summary.failed + 1 } where
  attempted := reconciled.attempted
  settled := reconciled.settled
  sent := reconciled.sent
  simulated := reconciled.simulated
  rejected := reconciled.rejected
  failed := by
    dsimp only
    rw [reconciled.failed, Nat.add_assoc]

/-- An execution with its result moves one counter beside the attempts. -/
theorem Reconciled.count (reconciled : Reconciled ledger summary)
    (result : Except Thrown SafeExecutionResult) :
    Reconciled
      { ledger with
        executions := ledger.executions + 1
        results := ledger.results ++ [result] }
      (summary.count result) := by
  have counted : (summary.count result).attempted = summary.attempted + 1 ∧
      (summary.count result).sent =
        summary.sent + (if kindOf result = .sent then 1 else 0) ∧
      (summary.count result).simulated =
        summary.simulated + (if kindOf result = .simulated then 1 else 0) ∧
      (summary.count result).rejected =
        summary.rejected + (if kindOf result = .rejected then 1 else 0) ∧
      (summary.count result).failed =
        summary.failed + (if kindOf result = .failed then 1 else 0) := by
    match result with
    | .error error => exact ⟨rfl, rfl, rfl, rfl, rfl⟩
    | .ok (.sent hash) => exact ⟨rfl, rfl, rfl, rfl, rfl⟩
    | .ok .simulated => exact ⟨rfl, rfl, rfl, rfl, rfl⟩
    | .ok (.rejected reason) => exact ⟨rfl, rfl, rfl, rfl, rfl⟩
    | .ok (.failed reason) => exact ⟨rfl, rfl, rfl, rfl, rfl⟩
  obtain ⟨attempted, sent, simulated, rejected, failed⟩ := counted
  constructor
  · rw [attempted, reconciled.attempted]
  · simp [reconciled.settled]
  · rw [sent, reconciled.sent, ofKind_append]
  · rw [simulated, reconciled.simulated, ofKind_append]
  · rw [rejected, reconciled.rejected, ofKind_append]
  · rw [failed, reconciled.failed, ofKind_append, Nat.add_right_comm]

end Steps

/-! ## The ledger along a cycle -/

/-- The ledger as a protocol, which forbids nothing. -/
def ledgerPhase (ledger : CycleLedger) (op : PipelineOp) (answer : op.Answer) :
    Option CycleLedger :=
  some (ledger.advance op answer)

theorem replay_ledgerPhase (ledger : CycleLedger)
    (events : List (Async.Event PipelineOp PipelineOp.Answer)) :
    Async.replay ledgerPhase ledger events =
      some (events.foldl (fun ledger event => ledger.advance event.1 event.2) ledger) := by
  induction events generalizing ledger with
  | nil => rfl
  | cons event rest inductionHypothesis => exact inductionHypothesis _

/-- A summary that is returned agrees with the ledger. -/
def Balanced (ledger : CycleLedger) (result : Except Thrown PipelineRunSummary) : Prop :=
  ∀ summary, result = .ok summary → Reconciled ledger summary

section Ledger

variable {config : PipelineOrchestratorConfig} {chain : SupportedChain} {ledger : CycleLedger}
  {summary : PipelineRunSummary}

theorem balanced_error (error : Thrown) : Balanced ledger (.error error) := nofun

theorem balanced_ok (reconciled : Reconciled ledger summary) : Balanced ledger (.ok summary) := by
  rintro _ ⟨⟩
  exact reconciled

theorem advance_plain {op : PipelineOp} (plain : isPlain op = true) (answer : op.Answer) :
    ledgerPhase ledger op answer = some ledger := by
  cases op with
  | executor plan op => cases plain
  | ask op => rfl
  | memory op =>
    cases op with
    | beginExecution plan => cases plain
    | settleExecution plan result => cases plain
    | deadLetterOpportunity chain opportunity => cases plain
    | _ => rfl

/-- Plain calls before a program that returns a summary. -/
theorem Plain.balanced_bind {α : Type} {program : PipelineM α}
    {rest : α → PipelineM PipelineRunSummary} (plain : Plain program)
    (later : ∀ value, Async.Conforms ledgerPhase Balanced ledger (rest value)) :
    Async.Conforms ledgerPhase Balanced ledger (program.bind rest) := by
  rw [Async.conforms_bind]
  refine Async.Uses.conforms plain (fun op here answer => advance_plain here answer) ?_
  rintro (error | value)
  · exact balanced_error error
  · exact later value

theorem buildExecutionRequest_plain (opportunity : Opportunity) :
    Plain (buildExecutionRequest config opportunity) := by
  unfold buildExecutionRequest
  cases opportunity with
  | liquidation candidate =>
    exact (plain_ask _).bind (fun _ => (plain_ask _).bind (fun _ => Async.uses_orThrow _))
  | arbitrage opportunity => exact Async.uses_orThrow (requestOf config (.arbitrage opportunity))

theorem rankPlans_plain (plans : List PipelineExecutionPlan) :
    Plain (rankPlans config chain plans) := by
  unfold rankPlans
  split
  · refine (plain_tryAsk _).bind ?_
    rintro (error | order)
    · trivial
    · trivial
  · trivial

/-- Building the plans counts the requests that could not be built. Induct on the
opportunities that are left. -/
theorem buildExecutionPlans_reconciled (opportunities : List Opportunity)
    (reconciled : Reconciled ledger summary) :
    Async.Conforms ledgerPhase
      (fun after result => ∀ plans summary, result = .ok (plans, summary) →
        Reconciled after summary) ledger
      (buildExecutionPlans config chain opportunities summary) := by
  induction opportunities generalizing ledger summary with
  | nil =>
    rintro plans summary ⟨⟩
    exact reconciled
  | cons opportunity rest inductionHypothesis =>
    rw [buildExecutionPlans, Async.bind_eq, Async.conforms_bind]
    refine Async.Uses.conforms (isOpportunityBlocked_plain opportunity)
      (fun op here answer => advance_plain here answer) ?_
    rintro (error | blocked)
    · exact nofun
    · dsimp only
      split
      · exact inductionHypothesis reconciled
      · rw [Async.bind_eq, Async.conforms_bind, Async.conforms_attempt]
        refine Async.Uses.conforms (buildExecutionRequest_plain opportunity)
          (fun op here answer => advance_plain here answer) ?_
        rintro (error | _ | request)
        · intro answer
          exact ⟨_, rfl, inductionHypothesis reconciled.builderFailed⟩
        · exact inductionHypothesis reconciled
        · dsimp only
          rw [Async.bind_eq, Async.conforms_bind]
          refine (inductionHypothesis reconciled).mono ?_
          rintro after (error | ⟨plans, later⟩) kept
          · exact nofun
          · rintro _ _ ⟨⟩
            exact kept plans later rfl

/-- The executor's own calls are not in the ledger. -/
theorem executeRequest_ledger (plan : PipelineExecutionPlan) :
    Async.Conforms ledgerPhase (fun after _ => after = ledger) ledger
      (executeRequest config plan) := by
  have uses : (executeRequest config plan).Uses (fun op => ∃ inner, op = .executor plan inner) :=
    Async.uses_translate _ _ (fun op => ⟨op, rfl⟩) _
  refine uses.conforms ?_ (fun _ => rfl)
  rintro _ ⟨inner, rfl⟩ answer
  rfl

theorem executePlan_balanced (plan : PipelineExecutionPlan)
    (reconciled : Reconciled ledger summary) :
    Async.Conforms ledgerPhase Balanced ledger (executePlan config plan summary) := by
  intro started
  cases started with
  | false => exact ⟨ledger, rfl, balanced_ok reconciled⟩
  | true =>
    refine ⟨{ ledger with executions := ledger.executions + 1 }, rfl, ?_⟩
    have executed : Async.Conforms ledgerPhase Balanced
        { ledger with executions := ledger.executions + 1 }
        ((executeRequest config plan).attempt.bind (fun result =>
          (memory (.settleExecution plan result)).bind (fun _ =>
            (recordLearningOutcome config plan (toLearningOutcome result)).bind
              (fun _ => .pure (summary.count result))))) := by
      rw [Async.conforms_bind, Async.conforms_attempt]
      refine (executeRequest_ledger plan).mono ?_
      rintro after result rfl answer
      exact ⟨_, rfl, (recordLearningOutcome_plain plan _).balanced_bind
        (fun _ => balanced_ok (reconciled.count result))⟩
    exact executed

theorem executePlans_balanced (plans : List PipelineExecutionPlan)
    (reconciled : Reconciled ledger summary) :
    Async.Conforms ledgerPhase Balanced ledger (executePlans config plans summary) := by
  induction plans generalizing ledger summary with
  | nil => exact balanced_ok reconciled
  | cons plan rest inductionHypothesis =>
    rw [executePlans, Async.bind_eq, Async.conforms_bind]
    refine (executePlan_balanced plan reconciled).mono ?_
    rintro after (error | summary) balanced
    · exact balanced_error error
    · exact inductionHypothesis (balanced summary rfl)

theorem evaluateChain_balanced (degraded : Bool) (reconciled : Reconciled ledger summary) :
    Async.Conforms ledgerPhase Balanced ledger (evaluateChain config chain degraded summary) := by
  refine (baseCandidates_plain degraded).balanced_bind ?_
  intro candidates
  refine collectExtraOpportunities_plain.balanced_bind ?_
  intro extraOpportunities
  rw [Async.bind_eq, Async.conforms_bind]
  refine (buildExecutionPlans_reconciled _ reconciled).mono ?_
  rintro after (error | ⟨plans, built⟩) kept
  · exact balanced_error error
  · exact (rankPlans_plain plans).balanced_bind
      (fun ranked => executePlans_balanced ranked ((kept plans built rfl).scanned _))

theorem runOpenChain_balanced (reconciled : Reconciled ledger summary) :
    Async.Conforms ledgerPhase Balanced ledger (runOpenChain config chain summary) := by
  refine Plain.balanced_bind (plain_memory rfl) ?_
  intro breaker
  split
  · exact balanced_ok reconciled
  · refine isDegraded_plain.balanced_bind ?_
    intro degraded
    split
    · refine refreshDegraded_plain.balanced_bind ?_
      intro refreshed
      split
      · exact evaluateChain_balanced true reconciled
      · exact balanced_ok reconciled
    · exact evaluateChain_balanced false reconciled

theorem runChain_balanced (reconciled : Reconciled ledger summary) :
    Async.Conforms ledgerPhase Balanced ledger (runChain config chain summary) := by
  refine sweepWatchlist_plain.balanced_bind ?_
  intro _
  refine checkStaleness_plain.balanced_bind ?_
  intro staleness
  split
  · exact balanced_ok reconciled
  · refine isSequencerUp_plain.balanced_bind ?_
    intro sequencerUp
    split
    · exact runOpenChain_balanced reconciled
    · exact balanced_ok reconciled

/-- The counters go from chain to chain. Induct on the chains that are left. -/
theorem runChains_balanced (chains : List SupportedChain)
    (reconciled : Reconciled ledger summary) :
    Async.Conforms ledgerPhase Balanced ledger (runChains config chains summary) := by
  induction chains generalizing ledger summary with
  | nil => exact balanced_ok reconciled
  | cons chain rest inductionHypothesis =>
    rw [runChains, Async.bind_eq, Async.conforms_bind]
    refine (runChain_balanced reconciled).mono ?_
    rintro after (error | summary) balanced
    · exact balanced_error error
    · exact sampleDiagnostics_plain.balanced_bind
        (fun _ => inductionHypothesis (balanced summary rfl))

theorem runOnce_balanced (config : PipelineOrchestratorConfig) :
    Async.Conforms ledgerPhase Balanced .empty (runOnce config) := by
  rw [runOnce, Async.bind_eq, Async.conforms_bind]
  refine (runChains_balanced config.chains ⟨rfl, rfl, rfl, rfl, rfl, rfl⟩).mono ?_
  rintro after (error | summary) balanced
  · exact balanced_error error
  · dsimp only
    split
    · exact Plain.balanced_bind (plain_ask _) (fun _ => balanced)
    · exact balanced

/-- A cycle that returns reports what its calls amount to. -/
theorem runOnce_reconciled {events : List (Async.Event PipelineOp PipelineOp.Answer)}
    (run : Async.Runs (runOnce config) events (.ok summary)) :
    Reconciled (.ofRun events) summary := by
  obtain ⟨after, replayed, balanced⟩ := (runOnce_balanced config).replay run
  rw [replay_ledgerPhase] at replayed
  cases replayed
  exact balanced summary rfl

end Ledger

/-- The reported figures are those of the run's calls, the dead letters exactly
when no guard skipped an execution. -/
theorem cycle_accounted_iff (config : PipelineOrchestratorConfig)
    (events : List (Async.Event PipelineOp PipelineOp.Answer)) (summary : PipelineRunSummary)
    (run : Async.Runs (runOnce config) events (.ok summary)) :
    (summary.attempted = (CycleLedger.ofRun events).executions ∧
        summary.attempted = summary.sent + summary.simulated + summary.rejected +
          (summary.failed - (CycleLedger.ofRun events).builderFailures) ∧
        summary.deadLetters = (CycleLedger.ofRun events).enqueued) ↔
      ∀ result ∈ (CycleLedger.ofRun events).results, guardSkipped result = false := by
  have reconciled := runOnce_reconciled run
  have kinds := length_eq_kinds (CycleLedger.ofRun events).results
  have queued := queued_add_skipped (CycleLedger.ofRun events).results
  have unskipped : (∀ result ∈ (CycleLedger.ofRun events).results, guardSkipped result = false) ↔
      (CycleLedger.ofRun events).results.countP guardSkipped = 0 := by
    simp [List.countP_eq_zero]
  obtain ⟨attempted, settled, sent, simulated, rejected, failed⟩ := reconciled
  rw [unskipped, PipelineRunSummary.deadLetters, CycleLedger.enqueued]
  constructor
  · rintro ⟨_, _, reported⟩
    omega
  · intro none
    refine ⟨attempted, ?_, ?_⟩
    · omega
    · omega

/-- Turns of the calm world, with one borrower at risk in the cache from the first
on; the hook before the preview answers `reason`. -/
def hookedTurns (reason : Option PreviewRejectReason) : List PipelineOracle :=
  { calm with deliveries := [snapshotAtRisk ⟨1, 0⟩] } ::
    List.replicate 40 { calm with
      executor := { NonceWorld.willing with answer := fun op => match op with
        | .ask (.rejectBeforePreview _) => .ok reason
        | op => NonceWorld.willing.answer op } }

/-- One cycle alone in that world. -/
def hookedCycle (reason : Option PreviewRejectReason) :
    Option (AloneRun PipelineWorld PipelineOp PipelineOp.Answer Thrown PipelineRunSummary) :=
  runAlone (PipelineWorld.serve (baseConfig ⟨9, 0⟩)) (hookedTurns reason) (.start 0 60000 none 5)
    (runOnce (baseConfig ⟨9, 0⟩))

theorem runs_hookedCycle {reason : Option PreviewRejectReason}
    {run : AloneRun PipelineWorld PipelineOp PipelineOp.Answer Thrown PipelineRunSummary}
    (ran : hookedCycle reason = some run) :
    Async.Runs (runOnce (baseConfig ⟨9, 0⟩)) run.events run.result :=
  (alone_of_runAlone ran).runs

/-- Nothing is hooked: the borrower's execution is sent. -/
def sentCycle : AloneRun PipelineWorld PipelineOp PipelineOp.Answer Thrown PipelineRunSummary :=
  (hookedCycle none).get (by decide +kernel)

/-- The hook finds dust. -/
def dustCycle : AloneRun PipelineWorld PipelineOp PipelineOp.Answer Thrown PipelineRunSummary :=
  (hookedCycle (some .dust)).get (by decide +kernel)

theorem runs_sentCycle :
    Async.Runs (runOnce (baseConfig ⟨9, 0⟩)) sentCycle.events (.ok ⟨1, 1, 1, 0, 0, 0⟩) := by
  have result : sentCycle.result = .ok ⟨1, 1, 1, 0, 0, 0⟩ := by decide +kernel
  rw [← result]
  exact runs_hookedCycle (Option.some_get _).symm

theorem runs_dustCycle :
    Async.Runs (runOnce (baseConfig ⟨9, 0⟩)) dustCycle.events (.ok ⟨1, 1, 0, 0, 1, 0⟩) := by
  have result : dustCycle.result = .ok ⟨1, 1, 0, 0, 1, 0⟩ := by decide +kernel
  rw [← result]
  exact runs_hookedCycle (Option.some_get _).symm

/-- One execution, sent; nothing skipped and nothing queued. -/
theorem cycle_accounted_iff_sent :
    ((1 : Nat) = (CycleLedger.ofRun sentCycle.events).executions ∧
        (1 : Nat) = 1 + 0 + 0 + (0 - (CycleLedger.ofRun sentCycle.events).builderFailures) ∧
        PipelineRunSummary.deadLetters ⟨1, 1, 1, 0, 0, 0⟩ =
          (CycleLedger.ofRun sentCycle.events).enqueued) ↔
      ∀ result ∈ (CycleLedger.ofRun sentCycle.events).results, guardSkipped result = false :=
  cycle_accounted_iff (baseConfig ⟨9, 0⟩) sentCycle.events ⟨1, 1, 1, 0, 0, 0⟩ runs_sentCycle

/-- A dust rejection is reported as a dead letter, and the queue stays empty. -/
theorem skipped_reported_dead :
    dustCycle.after.deadLetters.entries = [] ∧
      ¬ ∀ (config : PipelineOrchestratorConfig)
        (events : List (Async.Event PipelineOp PipelineOp.Answer)) (summary : PipelineRunSummary),
        Async.Runs (runOnce config) events (.ok summary) →
        summary.attempted = (CycleLedger.ofRun events).executions ∧
          summary.attempted = summary.sent + summary.simulated + summary.rejected +
            (summary.failed - (CycleLedger.ofRun events).builderFailures) ∧
          summary.deadLetters = (CycleLedger.ofRun events).enqueued := by
  constructor
  · decide +kernel
  · intro claim
    obtain ⟨_, _, reported⟩ := claim (baseConfig ⟨9, 0⟩) dustCycle.events ⟨1, 1, 0, 0, 1, 0⟩
      runs_dustCycle
    have queued : (CycleLedger.ofRun dustCycle.events).enqueued = 0 := by decide +kernel
    rw [queued] at reported
    cases reported

/-! ## The queue behind the ledger -/

/-- All entries that the queue ever took. -/
def taken (queue : PipelineDeadLetterQueue) : Nat := queue.entries.length + queue.dropped

theorem taken_enqueue (queue : PipelineDeadLetterQueue) (entry : PipelineDeadLetter) :
    taken (queue.enqueue entry) = taken queue + 1 := by
  have := queue.positive
  have := queue.bounded
  simp only [taken, PipelineDeadLetterQueue.enqueue, List.length_append, List.length_drop,
    List.length_singleton]
  omega

namespace CycleLedger

/-- A call adds to the entries what it adds to an empty ledger. -/
theorem enqueued_advance (ledger : CycleLedger) (op : PipelineOp) (answer : op.Answer) :
    (ledger.advance op answer).enqueued = ledger.enqueued + (empty.advance op answer).enqueued := by
  cases op with
  | executor plan op => rfl
  | ask op => rfl
  | memory op =>
    cases op with
    | beginExecution plan =>
      cases answer with
      | true => rfl
      | false => rfl
    | settleExecution plan result =>
      simp [advance, enqueued, empty, List.countP_append, Nat.add_assoc]
    | deadLetterOpportunity chain opportunity =>
      simp [advance, enqueued, empty, Nat.add_right_comm]
    | _ => rfl

/-- The entries that one call adds. -/
def entries (event : Async.Event PipelineOp PipelineOp.Answer) : Nat :=
  (empty.advance event.1 event.2).enqueued

theorem enqueued_foldl (ledger : CycleLedger)
    (events : List (Async.Event PipelineOp PipelineOp.Answer)) :
    (events.foldl (fun ledger event => ledger.advance event.1 event.2) ledger).enqueued =
      ledger.enqueued + (events.map entries).sum := by
  induction events generalizing ledger with
  | nil => rfl
  | cons event rest inductionHypothesis =>
    rw [List.foldl_cons, inductionHypothesis, enqueued_advance, List.map_cons, List.sum_cons,
      Nat.add_assoc]
    rfl

theorem enqueued_ofRun (events : List (Async.Event PipelineOp PipelineOp.Answer)) :
    (ofRun events).enqueued = (events.map entries).sum := by
  rw [ofRun, enqueued_foldl]
  exact Nat.zero_add _

end CycleLedger

section Queue

variable {config : PipelineOrchestratorConfig} {oracle : PipelineOracle}
  {world after : PipelineWorld}

theorem deadLetters_recordDeadLetter (chain : SupportedChain) (account : Address)
    (reason : DeadLetterReason) :
    (world.recordDeadLetter config chain account reason).deadLetters = world.deadLetters := by
  unfold PipelineWorld.recordDeadLetter
  split
  · rfl
  · rfl

theorem deadLetters_beginExecution (plan : PipelineExecutionPlan) :
    (world.beginExecution config plan).1.deadLetters = world.deadLetters := by
  unfold PipelineWorld.beginExecution
  split
  · split
    · dsimp only
      split
      · rfl
      · rfl
    · rfl
  · rfl

theorem taken_settleExecution (plan : PipelineExecutionPlan)
    (result : Except Thrown SafeExecutionResult) :
    taken (world.settleExecution config plan result).deadLetters =
      taken world.deadLetters + (if (deadLetterReason result).isSome then 1 else 0) := by
  unfold PipelineWorld.settleExecution
  cases deadLetterReason result with
  | none => rfl
  | some reason =>
    refine (taken_enqueue _ _).trans ?_
    rw [deadLetters_recordDeadLetter]
    rfl

theorem taken_deadLetterOpportunity (chain : SupportedChain) (opportunity : Opportunity) :
    taken (world.deadLetterOpportunity config chain opportunity).deadLetters =
      taken world.deadLetters + 1 := by
  cases opportunity with
  | liquidation candidate =>
    refine (taken_enqueue _ _).trans ?_
    rw [deadLetters_recordDeadLetter]
  | arbitrage opportunity => exact taken_enqueue _ _

/-- The queue takes what a call adds to the ledger. -/
theorem taken_serve {op : PipelineOp} {answer : op.Answer}
    (served : PipelineWorld.serve config oracle world op = some (after, answer)) :
    taken after.deadLetters =
      taken world.deadLetters + CycleLedger.entries ⟨op, answer⟩ := by
  cases op with
  | ask op =>
    rw [← (PipelineWorld.serve_ask_eq_some served).1]
    rfl
  | executor plan op =>
    rcases PipelineWorld.serve_executor_eq_some served with ⟨request, rfl, rfl⟩ | ⟨nonces, rfl⟩
    · unfold PipelineWorld.rejectBeforePreview
      dsimp only
      split
      · rfl
      · split
        · rfl
        · rfl
    · rfl
  | memory op =>
    rw [← (PipelineWorld.serve_memory_eq_some served).1]
    cases op with
    | beginExecution plan =>
      refine (congrArg taken (deadLetters_beginExecution plan)).trans ?_
      cases answer with
      | true => rfl
      | false => rfl
    | settleExecution plan result =>
      refine (taken_settleExecution plan result).trans ?_
      simp [CycleLedger.entries, CycleLedger.advance, CycleLedger.enqueued, CycleLedger.empty,
        List.countP_singleton, PipelineWorld.elapse]
    | deadLetterOpportunity chain opportunity => exact taken_deadLetterOpportunity chain opportunity
    | _ => rfl

end Queue

/-- In every interleaving of cycles the queue has taken exactly what their ledgers
say. -/
theorem taken_run {config : PipelineOrchestratorConfig} {world : PipelineWorld} {pool : CyclePool}
    {allowed : CyclePool → CycleAct → Prop}
    (run : Pool.Run (PipelineWorld.serve config) allowed (Pool.initial world) pool) :
    taken pool.shared.deadLetters = taken world.deadLetters +
      (pool.threads.map (fun thread => (CycleLedger.ofRun thread.log).enqueued)).sum := by
  have sums : (fun thread : CycleThread => (CycleLedger.ofRun thread.log).enqueued) =
      Pool.logTotal CycleLedger.entries :=
    funext (fun thread => CycleLedger.enqueued_ofRun thread.log)
  rw [sums]
  exact run.total (fun world => taken world.deadLetters) CycleLedger.entries
    (fun _ _ _ _ _ served => taken_serve served)

/-- One cycle whose execution is rejected before the preview, for a reason that is queued. -/
def rejectedPool : CyclePool :=
  (Pool.execute (PipelineWorld.serve (baseConfig ⟨9, 0⟩)) (fun _ _ => true)
    (Pool.initial (.start 0 60000 none 5))
    (.start ((runOnce (baseConfig ⟨9, 0⟩)).bind (fun _ => .pure ())) ::
      ((hookedTurns (some .other)).take 29).map (.run 0))).get (by decide +kernel)

/-- The queue has taken the entry of the one cycle. -/
theorem taken_run_rejected :
    (rejectedPool.threads.map (fun thread => (CycleLedger.ofRun thread.log).enqueued)).sum = 1 := by
  have run : Pool.Run (PipelineWorld.serve (baseConfig ⟨9, 0⟩)) (fun _ _ => True)
      (Pool.initial (.start 0 60000 none 5)) rejectedPool :=
    Pool.run_of_execute .refl (fun _ _ _ _ => trivial) (Option.some_get _).symm
  have accounted := taken_run run
  have one : taken rejectedPool.shared.deadLetters = 1 := by decide +kernel
  rw [one] at accounted
  exact (Nat.zero_add _).symm.trans accounted.symm

end PipelineOrchestrator

end LiquidationBot
