import LiquidationBot.Library.Apart
import LiquidationBot.PipelineWorld

/-!
# Overlapping broadcasts

Cycles are started from three places and wait at every await, so two of them can
execute the same opportunity at a time and each broadcast a transaction for it.
Nothing but the order of the turns prevents this. If no execution begins while
another one of its opportunity is still going on, executions of one opportunity
never overlap, and neither do their broadcasts.
-/

namespace LiquidationBot

namespace PipelineOrchestrator

open PipelineWorld

/-- An opportunity on a chain. -/
abbrev OpportunityKey := SupportedChain × OpportunityId

def opportunityKey (request : SafeExecutionRequest) : OpportunityKey :=
  (request.chain, request.opportunityId)

/-- What a call hands out a transaction for. -/
def sendsFor : ExecutorOp → Option OpportunityKey
  | .ask (.send _ request _ _) => some (opportunityKey request)
  | _ => none

/-- The opportunity that the thread is executing. -/
def executing (thread : CycleThread) : Option OpportunityKey :=
  match pendingCall thread with
  | some (.executor plan _) => some (opportunityKey plan.request)
  | _ => none

/-- The opportunity that the thread is handing out a transaction for. -/
def handing (thread : CycleThread) : Option OpportunityKey :=
  match pendingCall thread with
  | some (.executor _ op) => sendsFor op
  | _ => none

/-- What the current execution has handed out a transaction for, call by call. -/
def handedAfter (handed : Option OpportunityKey) (event : PipelineEvent) : Option OpportunityKey :=
  match event.1 with
  | .memory (.beginExecution _) => none
  | .memory (.settleExecution _ _) => none
  | .executor _ op => (sendsFor op).or handed
  | _ => handed

/-- The opportunity for which the thread's unfinished execution has handed out a
transaction, or is handing one out. -/
def broadcasting (thread : CycleThread) : Option OpportunityKey :=
  match pendingCall thread with
  | some (.executor _ op) => (sendsFor op).or (thread.log.foldl handedAfter none)
  | _ => none

/-- While one execution has a transaction out for an opportunity, no other one
hands out a transaction for it. -/
def OneBroadcast (pool : CyclePool) : Prop :=
  Apart (fun first second => ∀ key, broadcasting first = some key → handing second ≠ some key)
    pool.threads

/-- The turn begins no execution of an opportunity that another thread is
executing. -/
def beginsApart (config : PipelineOrchestratorConfig) (pool : CyclePool) : CycleAct → Bool
  | .start _ => true
  | .run index oracle =>
      match (pool.threads[index]?).bind pendingCall with
      | some (.memory (.beginExecution plan)) =>
          !((pool.shared.elapse oracle).beginExecution config plan).2 ||
            (pool.threads.eraseIdx index).all
              (fun other => executing other ≠ some (opportunityKey plan.request))
      | _ => true

/-- The two threads are not executing one opportunity. -/
def Exclusive (first second : CycleThread) : Prop :=
  ∀ key, executing first = some key → executing second ≠ some key

theorem Exclusive.symm {first second : CycleThread} (exclusive : Exclusive first second) :
    Exclusive second first :=
  fun key here there => exclusive key there here

section Phases

variable {config : PipelineOrchestratorConfig} {phase : CyclePhase} {thread : CycleThread}
variable {key : OpportunityKey}

/-- A call about a request hands out transactions for its opportunity only. -/
theorem sendsFor_eq {request : SafeExecutionRequest} {op : ExecutorOp}
    (concerned : SafeTransactionExecutor.Concerns request op) :
    sendsFor op = if handsOut op then some (opportunityKey request) else none := by
  cases op with
  | memory op => rfl
  | ask op =>
    cases op with
    | send route passed transaction overrides =>
      have same := (SafeTransactionExecutor.concerns_iff _ _).mp concerned passed rfl
      rw [← same]
      rfl
    | _ => rfl

/-- A thread that waits for the executor is in an execution of that plan. -/
theorem executing_phase {plan : PipelineExecutionPlan} {op : ExecutorOp}
    (conforms : Async.Conforms (cyclePhase config) Between phase thread.program)
    (waits : pendingCall thread = some (.executor plan op)) :
    (∃ sent, phase = .executing plan sent) ∧
      SafeTransactionExecutor.Concerns plan.request op := by
  obtain ⟨program, log⟩ := thread
  cases program with
  | pure value => cases waits
  | throw error => cases waits
  | call pending resume =>
    cases waits
    obtain ⟨after, stepped, _⟩ := conforms (NonceWorld.willing.answer op)
    cases cyclePhase_cases stepped with
    | executed _ sent _ _ wellBuilt concerned => exact ⟨⟨sent, rfl⟩, concerned⟩
    | quiet _ _ apart => cases apart

/-- Between executions a thread executes nothing. -/
theorem executing_eq_none
    (conforms : Async.Conforms (cyclePhase config) Between .between thread.program) :
    executing thread = none := by
  unfold executing
  split
  next plan op waits =>
    obtain ⟨⟨sent, other⟩, _⟩ := executing_phase conforms waits
    cases other
  next => rfl

/-- What the current execution has handed out, by its phase. -/
def handedIn : CyclePhase → Option OpportunityKey
  | .executing plan true => some (opportunityKey plan.request)
  | _ => none

theorem handedAfter_phase {after : CyclePhase} {op : PipelineOp} {answer : op.Answer}
    (stepped : cyclePhase config phase op answer = some after) :
    handedAfter (handedIn phase) ⟨op, answer⟩ = handedIn after := by
  cases cyclePhase_cases stepped with
  | started plan wellBuilt => rfl
  | skipped plan wellBuilt => rfl
  | settled plan sent result wellBuilt => rfl
  | executed plan sent op answer wellBuilt concerned =>
    dsimp only [handedAfter]
    rw [sendsFor_eq concerned]
    cases handsOut op <;> cases sent <;> rfl
  | quiet op answer apart =>
    cases op with
    | executor plan op => cases apart
    | ask op => rfl
    | memory op =>
      cases op with
      | beginExecution plan => cases apart
      | settleExecution plan result => cases apart
      | _ => rfl

/-- The log tells what the phase tells. -/
theorem foldl_handedAfter {first : CyclePhase} (log : List PipelineEvent)
    (replayed : Async.replay (cyclePhase config) first log = some phase) :
    log.foldl handedAfter (handedIn first) = handedIn phase := by
  induction log generalizing first with
  | nil =>
    cases replayed
    rfl
  | cons event rest inductionHypothesis =>
    obtain ⟨middle, stepped, remaining⟩ := Option.bind_eq_some_iff.mp replayed
    rw [List.foldl_cons, handedAfter_phase stepped]
    exact inductionHypothesis remaining

/-- Whoever hands out a transaction is executing its opportunity. -/
theorem executing_of_handing
    (conforms : Async.Conforms (cyclePhase config) Between phase thread.program)
    (hands : handing thread = some key) : executing thread = some key := by
  unfold handing at hands
  split at hands
  next plan op waits =>
    obtain ⟨_, concerned⟩ := executing_phase conforms waits
    rw [sendsFor_eq concerned] at hands
    rw [executing, waits]
    split at hands
    · exact hands
    · cases hands
  next => cases hands

/-- Whoever has a transaction out is executing its opportunity. -/
theorem executing_of_broadcasting
    (tracks : Pool.ThreadTracks (cyclePhase config) Between .between thread phase)
    (out : broadcasting thread = some key) : executing thread = some key := by
  obtain ⟨replayed, conforms⟩ := tracks
  unfold broadcasting at out
  split at out
  next plan op waits =>
    obtain ⟨⟨sent, rfl⟩, concerned⟩ := executing_phase conforms waits
    have handed : thread.log.foldl handedAfter none = handedIn (.executing plan sent) :=
      foldl_handedAfter thread.log replayed
    rw [sendsFor_eq concerned, handed] at out
    rw [executing, waits]
    cases sent with
    | true =>
      cases sends : handsOut op with
      | true =>
        rw [sends] at out
        exact out
      | false =>
        rw [sends] at out
        exact out
    | false =>
      cases sends : handsOut op with
      | true =>
        rw [sends] at out
        exact out
      | false =>
        rw [sends] at out
        cases out
  next => cases out

/-- A thread executes an opportunity after a turn if it did before, or if the turn
has begun the execution. -/
theorem executing_after {phase there : CyclePhase} {op : PipelineOp} {answer : op.Answer}
    {resume : op.Answer → PipelineM Unit} {log : List PipelineEvent} {moved : CycleThread}
    (stepped : cyclePhase config phase op answer = some there)
    (conforms : Async.Conforms (cyclePhase config) Between there moved.program)
    (executes : executing moved = some key) :
    executing ⟨.call op resume, log⟩ = some key ∨
      ∃ plan, key = opportunityKey plan.request ∧
        (⟨op, answer⟩ : PipelineEvent) = ⟨.memory (.beginExecution plan), true⟩ := by
  unfold executing at executes
  split at executes
  next plan pending waits =>
    obtain ⟨⟨sent, rfl⟩, _⟩ := executing_phase conforms waits
    cases executes
    cases cyclePhase_cases stepped with
    | started plan wellBuilt => exact Or.inr ⟨plan, rfl, rfl⟩
    | executed plan sent op answer wellBuilt concerned => exact Or.inl rfl
  next => cases executes

end Phases

/-- No two threads execute one opportunity, in every run whose executions begin
apart. -/
theorem exclusive_run {purity : EventPurityConfig} {config : PipelineOrchestratorConfig}
    {world : PipelineWorld} {pool : CyclePool}
    (run : Pool.Run (serve config)
      (fun pool act => Triggers purity config act ∧ beginsApart config pool act = true)
      (Pool.initial world) pool) :
    ∃ phases, Pool.Tracks (cyclePhase config) Between .between pool phases ∧
      Apart Exclusive pool.threads := by
  apply run.invariant (fun pool _ => Apart Exclusive pool.threads)
  · exact ⟨[], .nil, Apart.nil⟩
  · rintro before phases program _ exclusive ⟨⟨trigger, rfl⟩, _⟩
    have conforms := trigger_conforms purity config trigger
    refine ⟨conforms, exclusive.snoc ?_⟩
    intro index thread _
    have idle : Exclusive ⟨trigger.program purity config, []⟩ thread := by
      intro key executes
      rw [executing_eq_none conforms] at executes
      cases executes
    exact ⟨idle, idle.symm⟩
  · intro before phases index oracle op resume log shared answer phase after _ exclusive
      ⟨_, apart⟩ found served located stepped tracks
    apply exclusive.set
    intro other thread different foundOther
    have moved : Exclusive ⟨resume answer, log ++ [⟨op, answer⟩]⟩ thread := by
      intro key executes
      have inside : index < before.threads.length := (List.getElem?_eq_some_iff.mp found).1
      obtain ⟨there, locatedThere, _, conforms⟩ := tracks.thread (List.getElem?_set_self inside)
      have same : there = after := by
        rcases getElem?_set_cases locatedThere with ⟨_, same⟩ | ⟨elsewhere, _⟩
        · exact same
        · exact absurd rfl elsewhere
      subst same
      have source : executing ⟨.call op resume, log⟩ = some key ∨ _ :=
        executing_after stepped conforms executes
      rcases source with earlier | ⟨plan, rfl, begun⟩
      · exact exclusive index other _ thread different.symm found foundOther key earlier
      · cases begun
        have starts := (serve_memory_eq_some served).2
        have member : thread ∈ before.threads.eraseIdx index :=
          List.mem_eraseIdx_iff_getElem?.mpr ⟨other, different, foundOther⟩
        have waits : (before.threads[index]?).bind pendingCall =
            some (.memory (.beginExecution plan)) := by
          rw [found]
          rfl
        simp only [beginsApart, waits, Bool.or_eq_true, Bool.not_eq_true', List.all_eq_true,
          decide_eq_true_eq] at apart
        rcases apart with skipped | apart
        · cases starts.symm.trans skipped
        · exact apart thread member
    exact ⟨moved, moved.symm⟩

/-- In every run in which no execution begins while another thread is executing its
opportunity, no transaction is handed out for an opportunity while another
execution has one out for it. -/
theorem one_broadcast (purity : EventPurityConfig) (config : PipelineOrchestratorConfig)
    (world : PipelineWorld) (pool : CyclePool)
    (run : Pool.Run (serve config)
      (fun pool act => Triggers purity config act ∧ beginsApart config pool act = true)
      (Pool.initial world) pool) : OneBroadcast pool := by
  obtain ⟨phases, tracks, exclusive⟩ := exclusive_run run
  intro index other first second different foundFirst foundSecond key out hands
  obtain ⟨here, _, tracked⟩ := tracks.thread foundFirst
  obtain ⟨there, _, _, conforms⟩ := tracks.thread foundSecond
  exact exclusive index other first second different foundFirst foundSecond key
    (executing_of_broadcasting tracked out) (executing_of_handing conforms hands)

/-! ## Two cycles over one borrower -/

def pollsOnce : CycleAct :=
  .start (CycleTrigger.pollingRound.program liveTx (baseConfig ⟨9, 0⟩))

def reactsToBorrowerOne : CycleAct :=
  .start ((CycleTrigger.liquidatableCandidate ⟨1, 0⟩).program liveTx (baseConfig ⟨9, 0⟩))

/-- A round of the loop delivers borrower one and takes some turns; then a cycle
for the same borrower starts. -/
def overlapSchedule (first second : Nat) : List CycleAct :=
  [pollsOnce, .run 0 { calm with deliveries := [snapshotAtRisk ⟨1, 0⟩] }] ++ turns 0 first calm ++
    [reactsToBorrowerOne] ++ turns 1 second calm

theorem triggers_overlapSchedule {first second : Nat} :
    ∀ act ∈ overlapSchedule first second, Triggers liveTx (baseConfig ⟨9, 0⟩) act := by
  intro act member
  simp only [overlapSchedule, List.mem_append, List.mem_cons, List.not_mem_nil, or_false] at member
  rcases member with (((rfl | rfl) | turn) | rfl) | turn
  · exact ⟨.pollingRound, rfl⟩
  · trivial
  · exact triggers_turns turn
  · exact ⟨.liquidatableCandidate ⟨1, 0⟩, rfl⟩
  · exact triggers_turns turn

/-- The second cycle begins its execution after the first one has ended. -/
def successivePool : CyclePool :=
  (Pool.execute (serve (baseConfig ⟨9, 0⟩)) (beginsApart (baseConfig ⟨9, 0⟩))
    (Pool.initial (start 0 60000 none 5)) (overlapSchedule 35 30)).get (by decide +kernel)

/-- Both executions have broadcast, one after the other. -/
theorem one_broadcast_successive :
    OneBroadcast successivePool ∧ successivePool.shared.nonces.accepted = [5, 6] := by
  constructor
  · exact one_broadcast liveTx (baseConfig ⟨9, 0⟩) (start 0 60000 none 5) successivePool
      (Pool.run_of_execute .refl
        (fun act member _ passed => ⟨triggers_overlapSchedule act member, passed⟩)
        (Option.some_get _).symm)
  · decide +kernel

/-- The first execution waits for its receipt while the second one hands out. -/
def overlapPool : CyclePool :=
  (Pool.execute (serve (baseConfig ⟨9, 0⟩)) (fun _ _ => true)
    (Pool.initial (start 0 60000 none 5)) (overlapSchedule 30 29)).get (by decide +kernel)

theorem overlapPool_started : 1 < overlapPool.threads.length := by decide +kernel

/-- Both cycles have a transaction out for the same opportunity, and the node
takes both. -/
theorem two_broadcasts_overlap :
    Pool.Run (serve (baseConfig ⟨9, 0⟩)) (fun _ act => Triggers liveTx (baseConfig ⟨9, 0⟩) act)
        (Pool.initial (start 0 60000 none 5)) overlapPool ∧
      ¬ OneBroadcast overlapPool ∧
      (overlapPool.step (serve (baseConfig ⟨9, 0⟩)) (.run 1 calm)).map
        (fun pool => pool.shared.nonces.accepted) = some [5, 6] := by
  refine ⟨?_, ?_, ?_⟩
  · exact Pool.run_of_execute .refl (fun act member _ _ => triggers_overlapSchedule act member)
      (Option.some_get _).symm
  · intro one
    have first := List.getElem?_eq_getElem (lt_trans Nat.one_pos overlapPool_started)
    have second := List.getElem?_eq_getElem overlapPool_started
    refine one 0 1 _ _ Nat.zero_ne_one first second
      (.base, .liquidation .base ⟨1, 0⟩ ⟨3, 0⟩) ?_ ?_
    · decide +kernel
    · decide +kernel
  · decide +kernel

end PipelineOrchestrator

end LiquidationBot
