import LiquidationBot.BorrowerCache
import LiquidationBot.HybridDetectionPipeline
import Mathlib.Tactic.Linarith

/-!
# What the breakers of detection count

A refresh after a reserve event, an error of the event source and the end of a
poll have outcomes for the `rpc` and the `subgraph` breaker of their chain. A
failure is counted. A success leaves the breaker alone: neither its count nor its
status is ever taken back, and failures that lie far apart add up.

The breakers count consecutive failures exactly in the runs in which no success
comes after a failure that its breaker has counted.
-/

namespace LiquidationBot

/-- The answers to a refresh after a reserve event: the cached borrowers, those of
the provider, the snapshots of `refreshBorrowersForDiagnostics` where there is one
and of `refreshBorrowers`, and the audit of the gate where there is one. -/
structure RefreshOutcome where
  cached : List Address
  borrowers : Except Thrown (List Address)
  diagnostics : Option (Except Thrown (List BorrowerSnapshot))
  snapshots : Except Thrown (List BorrowerSnapshot)
  audit : Option (Except Thrown Unit)

/-- The `try` block of `handleReserveUpdated`, up to the cache: whether borrowers
were refreshed. -/
def RefreshOutcome.attempt (refresh : RefreshOutcome) : Except Thrown Bool := do
  let targetBorrowers ← if refresh.cached ≠ [] then pure refresh.cached else refresh.borrowers
  if targetBorrowers = [] then return false
  let snapshots ← refresh.diagnostics.getD refresh.snapshots
  match refresh.audit with
  | none => pure ()
  | some audit => if snapshots ≠ [] then audit
  return true

/-- What happens to the pipeline: a refresh after a reserve event, or an event of
one of the other writers. -/
inductive DetectionCall where
  | reserveUpdated (chain : SupportedChain) (refresh : RefreshOutcome) (nowMs : Int)
  | written (event : DetectionBreakerEvent)

/-- An outcome of a chain for one of its breakers. -/
structure DetectionOutcome where
  chain : SupportedChain
  name : CircuitBreakerName
  succeeded : Bool
deriving DecidableEq

/-- How many of the last outcomes were failures. -/
def trailingFailures (outcomes : List Bool) : Nat :=
  (outcomes.reverse.takeWhile (fun succeeded => !succeeded)).length

@[simp] theorem trailingFailures_failed (outcomes : List Bool) :
    trailingFailures (outcomes ++ [false]) = trailingFailures outcomes + 1 := by
  simp [trailingFailures]

namespace HybridDetectionPipeline

/-- `handleReserveUpdated`. It throws before its `try` block where the chain is not
registered. -/
def handleReserveUpdated (config : HybridDetectionConfig) (pipeline : HybridDetectionPipeline)
    (chain : SupportedChain) (refresh : RefreshOutcome) (nowMs : Int) : HybridDetectionPipeline :=
  if !config.reserveEventRefreshEnabled then pipeline
  else if !pipeline.registry.has chain then pipeline
  else
    match refresh.attempt with
    | .ok _ => pipeline
    | .error _ => pipeline.recordFailure config chain .rpc nowMs

def call (config : HybridDetectionConfig) (pipeline : HybridDetectionPipeline) :
    DetectionCall → HybridDetectionPipeline
  | .reserveUpdated chain refresh nowMs => pipeline.handleReserveUpdated config chain refresh nowMs
  | .written event => pipeline.step config event

/-- The outcome of a call. A refresh that finds no borrowers has none, and neither
has a poll that the rescan breaker does not begin. -/
def outcome (config : HybridDetectionConfig) (pipeline : HybridDetectionPipeline) :
    DetectionCall → Option DetectionOutcome
  | .reserveUpdated chain refresh _ =>
    if !config.reserveEventRefreshEnabled then none
    else if !pipeline.registry.has chain then none
    else
      match refresh.attempt with
      | .ok true => some ⟨chain, .rpc, true⟩
      | .ok false => none
      | .error _ => some ⟨chain, .rpc, false⟩
  | .written (.reserveUpdateFailed chain _) =>
    if config.reserveEventRefreshEnabled then some ⟨chain, .rpc, false⟩ else none
  | .written (.eventSourceError chain _) => some ⟨chain, .rpc, false⟩
  | .written (.pollEnds chain failed _) =>
    if chain ∈ pipeline.polls then some ⟨chain, .subgraph, !failed⟩ else none
  | .written _ => none

/-- The pipeline with the outcomes so far, oldest first. -/
structure Observed where
  pipeline : HybridDetectionPipeline
  outcomes : List DetectionOutcome

namespace Observed

/-- The outcomes of a chain for one of its breakers. -/
def of (observed : Observed) (chain : SupportedChain) (name : CircuitBreakerName) : List Bool :=
  (observed.outcomes.filter (fun outcome => outcome.chain = chain ∧ outcome.name = name)).map
    DetectionOutcome.succeeded

def call (config : HybridDetectionConfig) (observed : Observed) (made : DetectionCall) :
    Observed where
  pipeline := observed.pipeline.call config made
  outcomes := observed.outcomes ++ (observed.pipeline.outcome config made).toList

/-- A pipeline on a new registry after calls. -/
def after (config : HybridDetectionConfig) (chains : List SupportedChain)
    (calls : List DetectionCall) : Observed :=
  calls.foldl (call config) ⟨create (ChainBreakers.create chains), []⟩

/-- The breakers of detection count consecutive failures: an open one has seen no
success among the last `failureThreshold` outcomes, and after a success a breaker is
closed and its count is 0. -/
structure CountsConsecutive (config : HybridDetectionConfig) (observed : Observed) : Prop where
  opened : ∀ chain name state,
    observed.pipeline.getCircuitBreakerState chain (.detection name) = some state →
      state.status = .open → config.failureThreshold ≤ trailingFailures (observed.of chain name)
  reset : ∀ chain name state,
    observed.pipeline.getCircuitBreakerState chain (.detection name) = some state →
      (observed.of chain name).getLast? = some true → state.status = .closed ∧ state.failures = 0

/-- A success of the call finds its breaker closed and with no failure counted. -/
def FindsReset (config : HybridDetectionConfig) (observed : Observed) (made : DetectionCall) :
    Prop :=
  ∀ chain name state, observed.pipeline.outcome config made = some ⟨chain, name, true⟩ →
    observed.pipeline.getCircuitBreakerState chain (.detection name) = some state →
      state.status = .closed ∧ state.failures = 0

/-- The invariant of the runs in which successes find their breakers reset: a count is
at most the number of the last failures. -/
structure Sound (config : HybridDetectionConfig) (observed : Observed) : Prop
    extends CountsConsecutive config observed where
  counted : ∀ chain name state,
    observed.pipeline.getCircuitBreakerState chain (.detection name) = some state →
      state.failures ≤ trailingFailures (observed.of chain name)

end Observed

/-! ## One call -/

section

variable {config : HybridDetectionConfig} {pipeline : HybridDetectionPipeline}

/-- The copies after a failure is recorded. -/
theorem recordFailure_state {chain tested : SupportedChain} {name read : CircuitBreakerName}
    {nowMs : Int} {state : CircuitBreakerState}
    (found : (pipeline.recordFailure config chain name nowMs).getCircuitBreakerState tested
      (.detection read) = some state) :
    (pipeline.getCircuitBreakerState tested (.detection read) = some state ∧
        (tested, read) ≠ (chain, name)) ∨
      (tested, read) = (chain, name) ∧ ∃ current,
        pipeline.getCircuitBreakerState tested (.detection read) = some current ∧
        state.failures = current.failures + 1 ∧
        (state.status = .open →
          config.failureThreshold ≤ state.failures ∨ current.status = .open) := by
  by_cases same : (tested, read) = (chain, name)
  · obtain ⟨rfl, rfl⟩ := Prod.mk.inj same
    refine .inr ⟨rfl, ?_⟩
    cases copied : pipeline.getCircuitBreakerState tested (.detection read) with
    | none =>
      rw [recordFailure, copied] at found
      exact absurd (copied.symm.trans found) (Option.some_ne_none state).symm
    | some current =>
      rw [recordFailure, copied, getCircuitBreakerState] at found
      dsimp only at found
      rw [InsertionMap.get?_set_same, Option.some.injEq] at found
      refine ⟨current, rfl, ?_⟩
      split at found
      next reached =>
        subst found
        exact ⟨rfl, fun _ => .inl reached⟩
      next =>
        subst found
        exact ⟨rfl, fun still => .inr still⟩
  · refine .inl ⟨?_, same⟩
    have apart : (tested, RegistryBreaker.detection read) ≠ (chain, .detection name) := by
      intro equal
      obtain ⟨rfl, named⟩ := Prod.mk.inj equal
      cases named
      exact same rfl
    unfold recordFailure at found
    split at found
    · exact found
    · simpa only [getCircuitBreakerState, InsertionMap.get?_set_other _ _ apart] using found

/-- Recording a failure reads and writes the copies only. -/
theorem recordFailure_copies {other : HybridDetectionPipeline}
    (copies : other.circuitBreakers = pipeline.circuitBreakers) (chain : SupportedChain)
    (name : CircuitBreakerName) (nowMs : Int) :
    (other.recordFailure config chain name nowMs).circuitBreakers =
      (pipeline.recordFailure config chain name nowMs).circuitBreakers := by
  have read : other.getCircuitBreakerState chain (.detection name) =
      pipeline.getCircuitBreakerState chain (.detection name) := by
    rw [getCircuitBreakerState, copies]
    rfl
  unfold recordFailure
  rw [read]
  cases pipeline.getCircuitBreakerState chain (.detection name) with
  | none => exact copies
  | some current =>
    dsimp only
    rw [copies]

/-- A failed poll is recorded unless its breaker has counted more than its threshold;
a successful one changes the rescan breaker at most. -/
theorem pollEnds_cases (config : HybridDetectionConfig) (pipeline : HybridDetectionPipeline)
    (chain : SupportedChain) (failed : Bool) (nowMs : Int) :
    (pipeline.pollEnds config chain failed nowMs).circuitBreakers = pipeline.circuitBreakers ∨
      ∃ polled name atMs, pipeline.outcome config (.written (.pollEnds chain failed nowMs)) =
          some ⟨polled, name, false⟩ ∧
        (pipeline.pollEnds config chain failed nowMs).circuitBreakers =
          (pipeline.recordFailure config polled name atMs).circuitBreakers := by
  simp only [pollEnds, outcome]
  by_cases polled : chain ∈ pipeline.polls
  · simp only [polled, not_true_eq_false, if_false, if_true]
    cases failed with
    | false =>
      left
      cases config.rescanThreshold <;> rfl
    | true =>
      cases config.rescanThreshold with
      | none =>
        refine .inr ⟨chain, .subgraph, nowMs, rfl, ?_⟩
        apply recordFailure_copies
        rfl
      | some threshold =>
        dsimp only
        split
        · refine .inr ⟨chain, .subgraph, nowMs, rfl, ?_⟩
          apply recordFailure_copies
          rfl
        · exact .inl rfl
  · simp only [polled, not_false_eq_true, if_true]
    exact .inl trivial

/-- What a call does to the copies: nothing, or it records a failure that is its
outcome. -/
theorem call_cases (config : HybridDetectionConfig) (pipeline : HybridDetectionPipeline)
    (made : DetectionCall) :
    (pipeline.call config made).circuitBreakers = pipeline.circuitBreakers ∨
      ∃ chain name nowMs, pipeline.outcome config made = some ⟨chain, name, false⟩ ∧
        (pipeline.call config made).circuitBreakers =
          (pipeline.recordFailure config chain name nowMs).circuitBreakers := by
  cases made with
  | reserveUpdated chain refresh nowMs =>
    simp only [call, handleReserveUpdated, outcome]
    cases config.reserveEventRefreshEnabled with
    | false => exact .inl rfl
    | true =>
      cases pipeline.registry.has chain with
      | false => exact .inl rfl
      | true =>
        cases refresh.attempt with
        | ok refreshed => exact .inl rfl
        | error thrown => exact .inr ⟨chain, .rpc, nowMs, rfl, rfl⟩
  | written event =>
    cases event with
    | setCircuitBreakerState chain breaker written => exact .inl rfl
    | probe rttMs atMs nowMs =>
      refine .inl ?_
      simp only [call, step, probe]
      split
      · rfl
      · split <;> rfl
    | reserveUpdateFailed chain nowMs =>
      simp only [call, step, outcome]
      cases config.reserveEventRefreshEnabled with
      | false => exact .inl rfl
      | true => exact .inr ⟨chain, .rpc, nowMs, rfl, rfl⟩
    | eventSourceError chain nowMs => exact .inr ⟨chain, .rpc, nowMs, rfl, rfl⟩
    | pollBegins chain =>
      refine .inl ?_
      simp only [call, step, pollBegins]
      split
      · rfl
      · split <;> rfl
    | pollEnds chain failed nowMs => exact pollEnds_cases config pipeline chain failed nowMs
    | cooldownOver => exact .inl rfl

end

/-! ## Every run -/

namespace Observed

variable {config : HybridDetectionConfig} {observed : Observed}

/-- The outcomes for a breaker grow by the outcome of the call, if it is for that
breaker. -/
theorem of_call_cases (config : HybridDetectionConfig) (observed : Observed)
    (made : DetectionCall) (chain : SupportedChain) (name : CircuitBreakerName) :
    (∃ succeeded, observed.pipeline.outcome config made = some ⟨chain, name, succeeded⟩ ∧
        (observed.call config made).of chain name = observed.of chain name ++ [succeeded]) ∨
      (∀ succeeded, observed.pipeline.outcome config made ≠ some ⟨chain, name, succeeded⟩) ∧
        (observed.call config made).of chain name = observed.of chain name := by
  simp only [of, call, List.filter_append, List.map_append]
  cases observed.pipeline.outcome config made with
  | none => exact .inr ⟨fun _ => (Option.some_ne_none _).symm, by simp⟩
  | some outcome =>
    obtain ⟨own, breaker, succeeded⟩ := outcome
    by_cases same : own = chain ∧ breaker = name
    · obtain ⟨rfl, rfl⟩ := same
      exact .inl ⟨succeeded, rfl, by simp⟩
    · refine .inr ⟨?_, by simp [same]⟩
      intro other equal
      cases equal
      exact same ⟨rfl, rfl⟩

/-- A copy after a call is the copy from before, or its breaker has counted the
failure that the call came to. -/
theorem state_call_cases {made : DetectionCall} {chain : SupportedChain}
    {name : CircuitBreakerName} {state : CircuitBreakerState}
    (found : (observed.call config made).pipeline.getCircuitBreakerState chain
      (.detection name) = some state) :
    observed.pipeline.getCircuitBreakerState chain (.detection name) = some state ∨
      observed.pipeline.outcome config made = some ⟨chain, name, false⟩ ∧ ∃ current,
        observed.pipeline.getCircuitBreakerState chain (.detection name) = some current ∧
        state.failures = current.failures + 1 ∧
        (state.status = .open →
          config.failureThreshold ≤ state.failures ∨ current.status = .open) := by
  rcases call_cases config observed.pipeline made with
    same | ⟨failed, breaker, nowMs, outcome, copies⟩
  · left
    rwa [call, getCircuitBreakerState, same] at found
  · rw [call, getCircuitBreakerState, copies] at found
    rcases recordFailure_state found with ⟨kept, _⟩ | ⟨own, counted⟩
    · exact .inl kept
    · obtain ⟨rfl, rfl⟩ := Prod.mk.inj own
      exact .inr ⟨outcome, counted⟩

/-- One breaker of a sound pipeline, with its own outcomes. -/
structure Fits (config : HybridDetectionConfig) (outcomes : List Bool)
    (state : CircuitBreakerState) : Prop where
  opened : state.status = .open → config.failureThreshold ≤ trailingFailures outcomes
  reset : outcomes.getLast? = some true → state.status = .closed ∧ state.failures = 0
  counted : state.failures ≤ trailingFailures outcomes

theorem sound_iff_fits : observed.Sound config ↔ ∀ chain name state,
    observed.pipeline.getCircuitBreakerState chain (.detection name) = some state →
      Fits config (observed.of chain name) state := by
  constructor
  · intro sound chain name state found
    exact ⟨sound.opened chain name state found, sound.reset chain name state found,
      sound.counted chain name state found⟩
  · intro each
    exact ⟨⟨fun chain name state found => (each chain name state found).opened,
      fun chain name state found => (each chain name state found).reset⟩,
      fun chain name state found => (each chain name state found).counted⟩

section Breaker

variable {outcomes : List Bool} {state : CircuitBreakerState}

/-- A breaker that is reset fits any outcomes. -/
theorem fits_reset (closed : state.status = .closed) (zero : state.failures = 0) :
    Fits config outcomes state where
  opened := by
    intro impossible
    rw [closed] at impossible
    cases impossible
  reset := fun _ => ⟨closed, zero⟩
  counted := zero.le.trans (Nat.zero_le _)

/-- A failure that is not counted. -/
theorem Fits.skipped (fits : Fits config outcomes state) :
    Fits config (outcomes ++ [false]) state where
  opened := by
    intro still
    have enough := fits.opened still
    rw [trailingFailures_failed]
    push_cast
    linarith
  reset := by simp
  counted := by
    rw [trailingFailures_failed]
    exact fits.counted.trans (Nat.le_succ _)

/-- A failure that is counted. -/
theorem Fits.failed (fits : Fits config outcomes state) {after : CircuitBreakerState}
    (counted : after.failures = state.failures + 1)
    (opened : after.status = .open →
      config.failureThreshold ≤ after.failures ∨ state.status = .open) :
    Fits config (outcomes ++ [false]) after where
  opened := by
    intro open'
    rcases opened open' with reached | already
    · have below : (state.failures : ℚ) ≤ trailingFailures outcomes := by
        exact_mod_cast fits.counted
      rw [counted] at reached
      rw [trailingFailures_failed]
      push_cast at reached ⊢
      linarith
    · exact fits.skipped.opened already
  reset := by simp
  counted := by
    rw [trailingFailures_failed, counted]
    exact Nat.succ_le_succ fits.counted

end Breaker

/-- A call that finds its breaker reset keeps the invariant. -/
theorem Sound.call (sound : observed.Sound config) {made : DetectionCall}
    (finds : observed.FindsReset config made) : (observed.call config made).Sound config := by
  have each := sound_iff_fits.mp sound
  refine sound_iff_fits.mpr ?_
  intro chain name state found
  have grows := of_call_cases config observed made chain name
  rcases state_call_cases found with before | ⟨outcome, current, before, counted, opened⟩
  · rcases grows with ⟨succeeded, outcome, grown⟩ | ⟨_, same⟩
    · cases succeeded with
      | true =>
        obtain ⟨closed, zero⟩ := finds chain name state outcome before
        exact fits_reset closed zero
      | false =>
        rw [grown]
        exact (each chain name state before).skipped
    · rw [same]
      exact each chain name state before
  · rcases grows with ⟨succeeded, own, grown⟩ | ⟨other, _⟩
    · rw [outcome] at own
      cases own
      rw [grown]
      exact (each chain name current before).failed counted opened
    · exact absurd outcome (other false)

/-- A success that finds its breaker not reset leaves it so. -/
theorem not_countsConsecutive_call {made : DetectionCall}
    (finds : ¬ observed.FindsReset config made) :
    ¬ (observed.call config made).CountsConsecutive config := by
  intro counts
  apply finds
  intro chain name state outcome before
  have kept : (observed.call config made).pipeline.getCircuitBreakerState chain
      (.detection name) = some state := by
    rcases call_cases config observed.pipeline made with same | ⟨_, _, _, failed, _⟩
    · rwa [call, getCircuitBreakerState, same]
    · rw [outcome] at failed
      cases failed
  rcases of_call_cases config observed made chain name with
    ⟨succeeded, own, grown⟩ | ⟨other, _⟩
  · rw [outcome] at own
    cases own
    apply counts.reset chain name state kept
    rw [grown, List.getLast?_append]
    rfl
  · exact absurd outcome (other true)

end Observed

end HybridDetectionPipeline

namespace ChainBreakers

/-- Registering chains with closed breakers, one after the other: by induction on the
chains. -/
theorem closed_foldl_set {chain : SupportedChain} {breaker : RegistryBreaker}
    (chains : List SupportedChain) (registry : ChainBreakers)
    (before : ∀ breakers, registry.get? chain = some breakers →
      breakers.state breaker = ⟨.closed, 0, none⟩) :
    ∀ breakers, (chains.foldl (fun registry chain =>
        registry.set chain ⟨⟨.closed, 0, none⟩, ⟨.closed, 0, none⟩, ⟨.closed, 0, none⟩⟩)
        registry).get? chain = some breakers → breakers.state breaker = ⟨.closed, 0, none⟩ := by
  induction chains generalizing registry with
  | nil => exact before
  | cons first chains inductionHypothesis =>
    apply inductionHypothesis
    intro breakers stored
    rcases InsertionMap.of_get?_set stored with ⟨_, rfl⟩ | earlier
    · match breaker with
      | .execution => rfl
      | .detection .rpc => rfl
      | .detection .subgraph => rfl
    · exact before breakers earlier

/-- Every breaker of a new registry is closed and has counted nothing. -/
theorem state_create {chains : List SupportedChain} {chain : SupportedChain}
    {breaker : RegistryBreaker} {read : CircuitBreakerState}
    (found : (create chains).state chain breaker = some read) : read = ⟨.closed, 0, none⟩ := by
  obtain ⟨breakers, stored, rfl⟩ := Option.map_eq_some_iff.mp found
  exact closed_foldl_set chains .empty (fun _ impossible => nomatch impossible) breakers stored

end ChainBreakers

namespace HybridDetectionPipeline.Observed

theorem sound_create (config : HybridDetectionConfig) (chains : List SupportedChain) :
    (⟨create (ChainBreakers.create chains), []⟩ : Observed).Sound config := by
  have new (chain : SupportedChain) (name : CircuitBreakerName) (state : CircuitBreakerState)
      (found : (create (ChainBreakers.create chains)).getCircuitBreakerState chain
        (.detection name) = some state) : state = ⟨.closed, 0, none⟩ := by
    rw [(oneState_create (ChainBreakers.create chains)).same chain name] at found
    exact ChainBreakers.state_create found
  refine sound_iff_fits.mpr ?_
  intro chain name state found
  rw [new chain name state found]
  exact fits_reset rfl rfl

/-- In every run the breakers of detection count consecutive failures throughout exactly
when every success finds its breaker closed and with no failure counted. -/
theorem countsConsecutive_iff (config : HybridDetectionConfig) (chains : List SupportedChain)
    (calls : List DetectionCall) :
    Prefixes.Always (fun past => (after config chains past).CountsConsecutive config) calls ↔
      Prefixes.EachStep (fun past made => (after config chains past).FindsReset config made)
        calls := by
  refine @Prefixes.always_iff_eachStep_of_invariant _
    (fun past => (after config chains past).Sound config) _ _ ?_ ?_ ?_ ?_ calls
  · exact sound_create config chains
  · exact fun past sound => sound.toCountsConsecutive
  · intro past made sound finds
    rw [after, List.foldl_append]
    exact Sound.call sound finds
  · intro past made _ finds
    rw [after, List.foldl_append]
    exact not_countsConsecutive_call finds

/-- Three errors of the event source open the `rpc` breaker, with a completed refresh
between any two of them. -/
theorem opened_by_glitches :
    ¬ Prefixes.Always (fun past => (after { chain := .base } [.base] past).CountsConsecutive
        { chain := .base })
      [.written (.eventSourceError .base 1),
        .reserveUpdated .base ⟨[ZERO_ADDRESS], .ok [], none, .ok [], none⟩ 2,
        .written (.eventSourceError .base 3),
        .reserveUpdated .base ⟨[ZERO_ADDRESS], .ok [], none, .ok [], none⟩ 4,
        .written (.eventSourceError .base 5)] := by
  intro always
  have last := (always _ List.prefix_rfl).opened .base .rpc ⟨.open, 3, some 5⟩ (by rfl) rfl
  revert last
  decide +kernel

end HybridDetectionPipeline.Observed

end LiquidationBot
