import LiquidationBot.Library.InsertionMap
import LiquidationBot.Library.Prefixes
import LiquidationBot.PipelineOrchestrator
import LiquidationBot.SimFailureCircuitBreaker
import Mathlib.Data.Rat.Defs

/-!
# The breakers of the detection pipeline

The registry has three breakers for each chain. The detection pipeline copies their
states when it is constructed, and from then on its own failures are recorded in the
copies only. The monitor of round-trip times and the breaker of failed simulations
write to the registry, whose entries are replaced and not shared.

The orchestrator reads the breakers of detection from the copies and that of
execution from the registry.
-/

namespace LiquidationBot

/-- `CircuitBreakerName` of the registry: a breaker of detection or `execution`. -/
inductive RegistryBreaker where
  | detection (name : CircuitBreakerName)
  | execution
deriving DecidableEq

/-- The `circuitBreakers` of a registered chain. -/
structure CircuitBreakers where
  rpc : CircuitBreakerState
  subgraph : CircuitBreakerState
  execution : CircuitBreakerState
deriving DecidableEq

namespace CircuitBreakers

def state (breakers : CircuitBreakers) : RegistryBreaker → CircuitBreakerState
  | .detection .rpc => breakers.rpc
  | .detection .subgraph => breakers.subgraph
  | .execution => breakers.execution

/-- `updateCircuitBreakerState`. -/
def update (breakers : CircuitBreakers) (state : CircuitBreakerState) :
    RegistryBreaker → CircuitBreakers
  | .detection .rpc => { breakers with rpc := state }
  | .detection .subgraph => { breakers with subgraph := state }
  | .execution => { breakers with execution := state }

theorem state_update (breakers : CircuitBreakers) (written : CircuitBreakerState)
    (breaker tested : RegistryBreaker) :
    (breakers.update written breaker).state tested =
      if tested = breaker then written else breakers.state tested := by
  match breaker, tested with
  | .execution, .execution => rfl
  | .execution, .detection .rpc => rfl
  | .execution, .detection .subgraph => rfl
  | .detection .rpc, .execution => rfl
  | .detection .rpc, .detection .rpc => rfl
  | .detection .rpc, .detection .subgraph => rfl
  | .detection .subgraph, .execution => rfl
  | .detection .subgraph, .detection .rpc => rfl
  | .detection .subgraph, .detection .subgraph => rfl

end CircuitBreakers

/-- The breakers of the chain registry. -/
abbrev ChainBreakers := InsertionMap SupportedChain CircuitBreakers

namespace ChainBreakers

/-- A breaker as `get` reads it; an unregistered chain throws. -/
def state (registry : ChainBreakers) (chain : SupportedChain) (breaker : RegistryBreaker) :
    Option CircuitBreakerState :=
  (registry.get? chain).map (fun breakers => breakers.state breaker)

/-- `setCircuitBreakerState`. -/
def setCircuitBreakerState (registry : ChainBreakers) (chain : SupportedChain)
    (breaker : RegistryBreaker) (written : CircuitBreakerState) : ChainBreakers :=
  match registry.get? chain with
  | none => registry
  | some breakers => registry.set chain (breakers.update written breaker)

/-- The chains of a registry with all breakers closed, as `createChainRegistry` makes it. -/
def create (chains : List SupportedChain) : ChainBreakers :=
  chains.foldl (fun registry chain =>
    registry.set chain ⟨⟨.closed, 0, none⟩, ⟨.closed, 0, none⟩, ⟨.closed, 0, none⟩⟩) .empty

theorem state_setCircuitBreakerState (registry : ChainBreakers) (chain tested : SupportedChain)
    (breaker read : RegistryBreaker) (written : CircuitBreakerState) :
    (registry.setCircuitBreakerState chain breaker written).state tested read =
      if tested = chain ∧ read = breaker then (registry.state tested read).map (fun _ => written)
      else registry.state tested read := by
  unfold setCircuitBreakerState state
  by_cases same : tested = chain ∧ read = breaker
  · rw [if_pos same]
    obtain ⟨rfl, rfl⟩ := same
    cases found : registry.get? tested with
    | none => simp [found]
    | some breakers => simp [CircuitBreakers.state_update]
  · rw [if_neg same]
    cases found : registry.get? chain with
    | none => rfl
    | some breakers =>
      by_cases own : tested = chain
      · have another : read ≠ breaker := fun equal => same ⟨own, equal⟩
        simp [own, found, CircuitBreakers.state_update, another]
      · rw [InsertionMap.get?_set_other _ _ own]

end ChainBreakers

/-- `RpcHealthMonitor`: its samples with the moment of each, oldest first. -/
structure RpcHealthMonitor where
  samples : List (Int × Int)

namespace RpcHealthMonitor

/-- `prune`. -/
def prune (monitor : RpcHealthMonitor) (windowMs nowMs : Int) : RpcHealthMonitor :=
  ⟨monitor.samples.dropWhile (fun sample => windowMs < nowMs - sample.1)⟩

def observe (monitor : RpcHealthMonitor) (windowMs rttMs atMs : Int) : RpcHealthMonitor :=
  RpcHealthMonitor.prune ⟨monitor.samples ++ [(atMs, rttMs)]⟩ windowMs atMs

/-- `isSustainedHigh` of a monitor that has been pruned. -/
def isSustainedHigh (monitor : RpcHealthMonitor) (thresholdMs : Int) : Bool :=
  !monitor.samples.isEmpty && monitor.samples.all (fun sample => thresholdMs < sample.2)

end RpcHealthMonitor

/-- `RescanCircuitBreaker`; its timer is an event. -/
structure RescanCircuitBreaker where
  failures : Nat
  coolingDown : Bool
deriving DecidableEq

/-- What the pipeline and the monitor are configured with. Without a
`rescanThreshold` there is no `rescanBreaker`, and every poll gets one of its own. -/
structure HybridDetectionConfig where
  chain : SupportedChain
  failureThreshold : ℚ := 3
  rescanThreshold : Option ℚ := some 3
  reserveEventRefreshEnabled : Bool := true
  thresholdMs : Int := 200
  windowMs : Int := 30000

/-- The registry's breakers, the pipeline with its copies and its polls in progress,
and the monitor. -/
structure HybridDetectionPipeline where
  registry : ChainBreakers
  circuitBreakers : InsertionMap (SupportedChain × RegistryBreaker) CircuitBreakerState
  rescanBreaker : RescanCircuitBreaker
  polls : List SupportedChain
  monitor : RpcHealthMonitor

/-- What writes a breaker: `setCircuitBreakerState` of some caller, a probe of the
monitor, a failed refresh after a reserve event, an error of the event source, or
the end of a poll. -/
inductive DetectionBreakerEvent where
  | setCircuitBreakerState (chain : SupportedChain) (breaker : RegistryBreaker)
      (written : CircuitBreakerState)
  | probe (rttMs atMs nowMs : Int)
  | reserveUpdateFailed (chain : SupportedChain) (nowMs : Int)
  | eventSourceError (chain : SupportedChain) (nowMs : Int)
  | pollBegins (chain : SupportedChain)
  | pollEnds (chain : SupportedChain) (failed : Bool) (nowMs : Int)
  | cooldownOver

namespace HybridDetectionPipeline

/-- The constructor: the states of the listed chains are copied. -/
def create (registry : ChainBreakers) : HybridDetectionPipeline where
  registry := registry
  circuitBreakers := registry.entries.foldl (fun copies entry =>
    [.detection .rpc, .detection .subgraph, .execution].foldl
      (fun copies breaker => copies.set (entry.1, breaker) (entry.2.state breaker)) copies) .empty
  rescanBreaker := ⟨0, false⟩
  polls := []
  monitor := ⟨[]⟩

/-- `getCircuitBreakerState`, also through the orchestrator's adapter; it throws where
there is no copy. -/
def getCircuitBreakerState (pipeline : HybridDetectionPipeline) (chain : SupportedChain)
    (breaker : RegistryBreaker) : Option CircuitBreakerState :=
  pipeline.circuitBreakers.get? (chain, breaker)

/-- `recordFailure`. -/
def recordFailure (config : HybridDetectionConfig) (pipeline : HybridDetectionPipeline)
    (chain : SupportedChain) (name : CircuitBreakerName) (nowMs : Int) : HybridDetectionPipeline :=
  match pipeline.getCircuitBreakerState chain (.detection name) with
  | none => pipeline
  | some current =>
    let failures := current.failures + 1
    let nextState : CircuitBreakerState :=
      if config.failureThreshold ≤ failures then ⟨.open, failures, some nowMs⟩
      else ⟨current.status, failures, none⟩
    { pipeline with
      circuitBreakers := pipeline.circuitBreakers.set (chain, .detection name) nextState }

/-- The callback of a probe of the monitor. -/
def probe (config : HybridDetectionConfig) (pipeline : HybridDetectionPipeline)
    (rttMs atMs nowMs : Int) : HybridDetectionPipeline :=
  let monitor := (pipeline.monitor.observe config.windowMs rttMs atMs).prune config.windowMs nowMs
  let observed := { pipeline with monitor := monitor }
  if !monitor.isSustainedHigh config.thresholdMs then observed
  else
    match pipeline.registry.state config.chain (.detection .rpc) with
    | none => observed
    | some state =>
      { observed with
        registry := pipeline.registry.setCircuitBreakerState config.chain (.detection .rpc)
          ⟨.open, state.failures + 1, some nowMs⟩ }

/-- `pollFallback` up to its `await`. -/
def pollBegins (config : HybridDetectionConfig) (pipeline : HybridDetectionPipeline)
    (chain : SupportedChain) : HybridDetectionPipeline :=
  if !pipeline.registry.has chain then pipeline
  else if config.rescanThreshold.isSome && pipeline.rescanBreaker.coolingDown then pipeline
  else { pipeline with polls := chain :: pipeline.polls }

/-- `execute` of the rescan breaker after its `await`. -/
def pollEnds (config : HybridDetectionConfig) (pipeline : HybridDetectionPipeline)
    (chain : SupportedChain) (failed : Bool) (nowMs : Int) : HybridDetectionPipeline :=
  let ended := { pipeline with polls := pipeline.polls.erase chain }
  if chain ∉ pipeline.polls then pipeline
  else
    match failed, config.rescanThreshold with
    | false, none => ended
    | false, some _ =>
      { ended with rescanBreaker := { pipeline.rescanBreaker with failures := 0 } }
    | true, none => ended.recordFailure config chain .subgraph nowMs
    | true, some threshold =>
      let failures := pipeline.rescanBreaker.failures + 1
      let counted := { ended with
        rescanBreaker := ⟨failures, pipeline.rescanBreaker.coolingDown || threshold ≤ failures⟩ }
      if failures ≤ threshold then counted.recordFailure config chain .subgraph nowMs else counted

def step (config : HybridDetectionConfig) (pipeline : HybridDetectionPipeline) :
    DetectionBreakerEvent → HybridDetectionPipeline
  | .setCircuitBreakerState chain breaker written =>
    { pipeline with registry := pipeline.registry.setCircuitBreakerState chain breaker written }
  | .probe rttMs atMs nowMs => pipeline.probe config rttMs atMs nowMs
  | .reserveUpdateFailed chain nowMs =>
    if config.reserveEventRefreshEnabled then pipeline.recordFailure config chain .rpc nowMs
    else pipeline
  | .eventSourceError chain nowMs => pipeline.recordFailure config chain .rpc nowMs
  | .pollBegins chain => pipeline.pollBegins config chain
  | .pollEnds chain failed nowMs => pipeline.pollEnds config chain failed nowMs
  | .cooldownOver => { pipeline with rescanBreaker := ⟨0, false⟩ }

/-- The pipeline after a run of its events, from a registry in any state. -/
def after (config : HybridDetectionConfig) (registry : ChainBreakers)
    (run : List DetectionBreakerEvent) : HybridDetectionPipeline :=
  run.foldl (step config) (create registry)

/-- The orchestrator's reads of the breakers of detection are answered from the
copies. -/
def AnswersFrom (pipeline : HybridDetectionPipeline) (answer : (op : PipelineOp) → op.Answer) :
    Prop :=
  ∀ chain name state, pipeline.getCircuitBreakerState chain (.detection name) = some state →
    answer (.memory (.detectionBreaker chain name)) = state.status

/-- There is one state for each breaker of detection: the orchestrator reads what the
registry has, and an open `rpc` breaker of the registry makes the next cycle degraded. -/
structure OneState (pipeline : HybridDetectionPipeline) : Prop where
  same : ∀ chain name, pipeline.getCircuitBreakerState chain (.detection name) =
    pipeline.registry.state chain (.detection name)
  degrades : ∀ chain state answer, pipeline.registry.state chain (.detection .rpc) = some state →
    state.status = .open → pipeline.AnswersFrom answer →
    Async.evaluate answer (PipelineOrchestrator.isDegraded chain) = .ok true

/-- The event writes nothing new to a breaker of detection: a state of the registry is
written again, the round trips are not high throughout, and no failure is recorded. -/
def WritesNothingNew (config : HybridDetectionConfig) (pipeline : HybridDetectionPipeline) :
    DetectionBreakerEvent → Prop
  | .setCircuitBreakerState _ .execution _ => True
  | .setCircuitBreakerState chain (.detection name) written =>
    ∀ state, pipeline.registry.state chain (.detection name) = some state → written = state
  | .probe rttMs atMs nowMs =>
    pipeline.registry.has config.chain = true →
      ((pipeline.monitor.observe config.windowMs rttMs atMs).prune config.windowMs
        nowMs).isSustainedHigh config.thresholdMs = false
  | .reserveUpdateFailed chain _ =>
    config.reserveEventRefreshEnabled = true → pipeline.registry.has chain = false
  | .eventSourceError chain _ => pipeline.registry.has chain = false
  | .pollBegins _ => True
  | .pollEnds chain failed _ =>
    chain ∈ pipeline.polls → failed = true → pipeline.registry.has chain = true →
      ∃ threshold, config.rescanThreshold = some threshold ∧
        threshold < pipeline.rescanBreaker.failures + 1
  | .cooldownOver => True

section

variable {config : HybridDetectionConfig} {pipeline : HybridDetectionPipeline}

theorem oneState_iff : pipeline.OneState ↔
    ∀ chain name, pipeline.getCircuitBreakerState chain (.detection name) =
      pipeline.registry.state chain (.detection name) := by
  constructor
  · exact fun one => one.same
  · intro same
    refine ⟨same, ?_⟩
    intro chain state answer stored opened answers
    have read : answer (.memory (.detectionBreaker chain .rpc)) = .open :=
      (answers chain .rpc state ((same chain .rpc).trans stored)).trans opened
    simp [PipelineOrchestrator.isDegraded, PipelineOrchestrator.memory, Async.evaluate, read]

theorem has_eq_isSome_state (registry : ChainBreakers) (chain : SupportedChain)
    (breaker : RegistryBreaker) :
    registry.has chain = (registry.state chain breaker).isSome := by
  rw [ChainBreakers.state, Option.isSome_map]
  rfl

/-- Neither the polls nor the rescan breaker nor the monitor has a part in it. -/
theorem OneState.congr {other : HybridDetectionPipeline} (one : pipeline.OneState)
    (registry : other.registry = pipeline.registry)
    (copies : other.circuitBreakers = pipeline.circuitBreakers) : other.OneState := by
  refine oneState_iff.mpr (fun chain name => ?_)
  rw [getCircuitBreakerState, registry, copies]
  exact one.same chain name

theorem registry_recordFailure (chain : SupportedChain) (name : CircuitBreakerName) (nowMs : Int) :
    (pipeline.recordFailure config chain name nowMs).registry = pipeline.registry := by
  unfold recordFailure
  split
  · rfl
  · rfl

/-- A recorded failure is counted in the copy alone. -/
theorem oneState_recordFailure_iff (one : pipeline.OneState) (chain : SupportedChain)
    (name : CircuitBreakerName) (nowMs : Int) :
    (pipeline.recordFailure config chain name nowMs).OneState ↔
      pipeline.registry.has chain = false := by
  rw [has_eq_isSome_state pipeline.registry chain (.detection name), ← one.same chain name]
  cases copied : pipeline.getCircuitBreakerState chain (.detection name) with
  | none =>
    rw [recordFailure, copied]
    exact iff_of_true one rfl
  | some current =>
    refine iff_of_false (fun still => ?_) (by simp)
    have stored : pipeline.registry.state chain (.detection name) = some current :=
      (one.same chain name).symm.trans copied
    have counted := still.same chain name
    rw [registry_recordFailure, stored, recordFailure, copied, getCircuitBreakerState] at counted
    dsimp only at counted
    rw [InsertionMap.get?_set_same] at counted
    have failures := congrArg CircuitBreakerState.failures (Option.some.inj counted)
    split at failures
    · exact absurd failures (Nat.succ_ne_self _)
    · exact absurd failures (Nat.succ_ne_self _)

/-- A write to the registry is not copied. -/
theorem oneState_setCircuitBreakerState_iff (one : pipeline.OneState) (chain : SupportedChain)
    (name : CircuitBreakerName) (written : CircuitBreakerState) :
    OneState { pipeline with
        registry := pipeline.registry.setCircuitBreakerState chain (.detection name) written } ↔
      ∀ state, pipeline.registry.state chain (.detection name) = some state → written = state := by
  rw [oneState_iff]
  constructor
  · intro same state stored
    have here := same chain name
    rw [ChainBreakers.state_setCircuitBreakerState, if_pos ⟨rfl, rfl⟩, stored] at here
    have copied : pipeline.getCircuitBreakerState chain (.detection name) = some state :=
      (one.same chain name).trans stored
    exact Option.some.inj (here.symm.trans copied)
  · intro again tested read
    rw [ChainBreakers.state_setCircuitBreakerState]
    split
    next written =>
      obtain ⟨rfl, equal⟩ := written
      cases equal
      have before := one.same tested name
      cases stored : pipeline.registry.state tested (.detection name) with
      | none => exact before.trans stored
      | some state =>
        rw [again state stored]
        exact before.trans stored
    next => exact one.same tested read

/-! ## Every run -/

/-- The three copies of one chain. -/
theorem get?_copied (copies : InsertionMap (SupportedChain × RegistryBreaker) CircuitBreakerState)
    (entry : SupportedChain × CircuitBreakers) (chain : SupportedChain)
    (breaker : RegistryBreaker) :
    ([.detection .rpc, .detection .subgraph, .execution].foldl (fun copies breaker =>
        copies.set (entry.1, breaker) (entry.2.state breaker)) copies).get? (chain, breaker) =
      if chain = entry.1 then some (entry.2.state breaker) else copies.get? (chain, breaker) := by
  simp only [List.foldl_cons, List.foldl_nil, InsertionMap.get?_set, Prod.mk.injEq]
  by_cases own : chain = entry.1
  · match breaker with
    | .detection .rpc => simp [own]
    | .detection .subgraph => simp [own]
    | .execution => simp [own]
  · simp [own]

/-- The copies that the constructor makes, by induction on the entries of the registry:
a chain has one entry, so no later entry writes its copies again. -/
theorem get?_copies (entries : List (SupportedChain × CircuitBreakers))
    (distinct : (entries.map Prod.fst).Nodup)
    (copies : InsertionMap (SupportedChain × RegistryBreaker) CircuitBreakerState)
    (chain : SupportedChain) (breaker : RegistryBreaker) :
    (entries.foldl (fun copies entry =>
        [.detection .rpc, .detection .subgraph, .execution].foldl (fun copies breaker =>
          copies.set (entry.1, breaker) (entry.2.state breaker)) copies) copies).get?
        (chain, breaker) =
      match InsertionMap.lookup entries chain with
      | none => copies.get? (chain, breaker)
      | some breakers => some (breakers.state breaker) := by
  induction entries generalizing copies with
  | nil => rfl
  | cons entry rest inductionHypothesis =>
    obtain ⟨absent, restDistinct⟩ := List.nodup_cons.mp distinct
    rw [List.foldl_cons, inductionHypothesis restDistinct, get?_copied, InsertionMap.lookup]
    by_cases own : entry.1 = chain
    · have missing : InsertionMap.lookup rest chain = none :=
        (InsertionMap.lookup_eq_none_iff rest chain).mpr (own ▸ absent)
      rw [missing, if_pos own, if_pos own.symm]
    · rw [if_neg own, if_neg (Ne.symm own)]

theorem oneState_create (registry : ChainBreakers) : (create registry).OneState := by
  refine oneState_iff.mpr (fun chain name => ?_)
  refine (get?_copies registry.entries registry.distinct .empty chain (.detection name)).trans ?_
  change _ = (InsertionMap.lookup registry.entries chain).map _
  cases InsertionMap.lookup registry.entries chain with
  | none => rfl
  | some breakers => rfl

theorem oneState_probe_iff (one : pipeline.OneState) (rttMs atMs nowMs : Int) :
    (pipeline.probe config rttMs atMs nowMs).OneState ↔
      pipeline.WritesNothingNew config (.probe rttMs atMs nowMs) := by
  rw [WritesNothingNew, has_eq_isSome_state pipeline.registry config.chain (.detection .rpc), probe]
  generalize (pipeline.monitor.observe config.windowMs rttMs atMs).prune config.windowMs nowMs =
    monitor
  have observed : OneState { pipeline with monitor := monitor } := one.congr rfl rfl
  cases high : monitor.isSustainedHigh config.thresholdMs with
  | false => exact iff_of_true observed (fun _ => rfl)
  | true =>
    cases stored : pipeline.registry.state config.chain (.detection .rpc) with
    | none => exact iff_of_true observed (fun impossible => nomatch impossible)
    | some state =>
      have written := oneState_setCircuitBreakerState_iff observed config.chain .rpc
        ⟨.open, state.failures + 1, some nowMs⟩
      refine iff_of_false (fun still => ?_) (fun never => nomatch never rfl)
      have same := written.mp still state stored
      exact Nat.succ_ne_self _ (congrArg CircuitBreakerState.failures same)

theorem oneState_pollEnds_iff (one : pipeline.OneState) (chain : SupportedChain) (failed : Bool)
    (nowMs : Int) :
    (pipeline.pollEnds config chain failed nowMs).OneState ↔
      pipeline.WritesNothingNew config (.pollEnds chain failed nowMs) := by
  unfold WritesNothingNew pollEnds
  dsimp only
  by_cases polled : chain ∈ pipeline.polls
  · rw [if_neg (not_not.mpr polled)]
    cases failed with
    | false =>
      refine iff_of_true ?_ (fun _ impossible => nomatch impossible)
      cases config.rescanThreshold with
      | none => exact one.congr rfl rfl
      | some threshold => exact one.congr rfl rfl
    | true =>
      cases shared : config.rescanThreshold with
      | none =>
        have ended : OneState { pipeline with polls := pipeline.polls.erase chain } :=
          one.congr rfl rfl
        refine (oneState_recordFailure_iff ended chain .subgraph nowMs).trans ?_
        simp [polled]
      | some threshold =>
        have counted : ∀ rescanBreaker, OneState { pipeline with
            polls := pipeline.polls.erase chain, rescanBreaker := rescanBreaker } :=
          fun _ => one.congr rfl rfl
        by_cases within : ((pipeline.rescanBreaker.failures + 1 : Nat) : ℚ) ≤ threshold
        · simp only [within, if_true]
          refine (oneState_recordFailure_iff (counted _) chain .subgraph nowMs).trans ?_
          have above := not_lt.mpr within
          push_cast at above
          simp [polled, above]
        · simp only [within, if_false]
          have above := not_le.mp within
          push_cast at above
          exact iff_of_true (counted _) (fun _ _ _ => ⟨threshold, rfl, above⟩)
  · rw [if_pos polled]
    exact iff_of_true one (fun impossible => absurd impossible polled)

/-- One event leaves one state exactly when it writes nothing new. -/
theorem oneState_step_iff (one : pipeline.OneState) (event : DetectionBreakerEvent) :
    (pipeline.step config event).OneState ↔ pipeline.WritesNothingNew config event := by
  cases event with
  | setCircuitBreakerState chain breaker written =>
    cases breaker with
    | detection name => exact oneState_setCircuitBreakerState_iff one chain name written
    | execution =>
      refine iff_of_true (oneState_iff.mpr (fun tested read => ?_)) trivial
      rw [step, ChainBreakers.state_setCircuitBreakerState, if_neg (fun same => nomatch same.2)]
      exact one.same tested read
  | probe rttMs atMs nowMs => exact oneState_probe_iff one rttMs atMs nowMs
  | reserveUpdateFailed chain nowMs =>
    by_cases enabled : config.reserveEventRefreshEnabled = true
    · rw [step, if_pos enabled, oneState_recordFailure_iff one]
      exact ⟨fun unregistered _ => unregistered, fun unregistered => unregistered enabled⟩
    · rw [step, if_neg enabled]
      exact iff_of_true one (fun impossible => absurd impossible enabled)
  | eventSourceError chain nowMs => exact oneState_recordFailure_iff one chain .rpc nowMs
  | pollBegins chain =>
    refine iff_of_true ?_ trivial
    rw [step, pollBegins]
    split
    · exact one
    · split
      · exact one
      · exact one.congr rfl rfl
  | pollEnds chain failed nowMs => exact oneState_pollEnds_iff one chain failed nowMs
  | cooldownOver => exact iff_of_true (one.congr rfl rfl) trivial

end

/-- In every run of the writers, from a registry in any state, the orchestrator reads the
registry's breakers of detection throughout exactly when each event writes nothing new
to them. -/
theorem oneState_iff_writesNothingNew (config : HybridDetectionConfig) (registry : ChainBreakers)
    (run : List DetectionBreakerEvent) :
    Prefixes.Always (fun past => (after config registry past).OneState) run ↔
      Prefixes.EachStep (fun past event =>
        (after config registry past).WritesNothingNew config event) run := by
  apply Prefixes.always_iff_eachStep
  · exact oneState_create registry
  · intro past event _ one
    rw [after, List.foldl_append]
    exact oneState_step_iff one event

/-- One high round trip opens the `rpc` breaker of the registry, and the next cycle is
not degraded. -/
theorem opened_not_degraded :
    ((after { chain := .base } (ChainBreakers.create [.base])
        [.probe 250 0 0]).registry.state .base (.detection .rpc)).map CircuitBreakerState.status =
        some .open ∧
      ¬ (after { chain := .base } (ChainBreakers.create [.base]) [.probe 250 0 0]).OneState := by
  refine ⟨rfl, fun one => ?_⟩
  have same := one.same .base .rpc
  exact absurd same (by decide)

end HybridDetectionPipeline

end LiquidationBot
