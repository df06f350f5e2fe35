import LiquidationBot.Library.InsertionMap
import LiquidationBot.Library.Prefixes
import LiquidationBot.SafeTransactionExecutor
import Mathlib.Algebra.Order.Floor.Semiring
import Mathlib.Data.Rat.Floor
import Mathlib.Tactic.Linarith

/-!
# The breaker of failed simulations

The orchestrator reports its results to one breaker. A failed final simulation is
counted, a simulated result resets the count, and at the threshold the breaker
opens the execution of its chain and arms a timer that closes it again.

A result that was sent has passed its simulation too, but it is not reported, and
failures of every chain are counted for the breaker's own. The timers keep what
they promise in every run.
-/

namespace LiquidationBot

/-- `CircuitBreakerState`. -/
structure CircuitBreakerState where
  status : CircuitBreakerStatus
  failures : Nat
  openedAtMs : Option Int
deriving DecidableEq

/-- The configuration of `SimFailureCircuitBreaker`, with its default threshold;
no hook is given. -/
structure SimFailureCircuitConfig where
  chain : SupportedChain
  threshold : ℚ := 3

/-- `SimFailureCircuitBreaker` with the registry's execution breakers and the armed
timers. A timer has the number of the opening that armed it. -/
structure SimFailureCircuitBreaker where
  consecutive : Nat
  reopenTimer : Option Nat
  execution : InsertionMap SupportedChain CircuitBreakerState
  timers : List Nat
  openings : Nat

namespace SimFailureCircuitBreaker

/-- The breaker beside a registry of chains. -/
def create (chains : List SupportedChain) : SimFailureCircuitBreaker where
  consecutive := 0
  reopenTimer := none
  execution := chains.foldl (fun registry chain => registry.set chain ⟨.closed, 0, none⟩) .empty
  timers := []
  openings := 0

/-- `clearTimeout` of the timer that is remembered. -/
def cleared (breaker : SimFailureCircuitBreaker) : List Nat :=
  match breaker.reopenTimer with
  | none => breaker.timers
  | some timer => breaker.timers.filter (· ≠ timer)

/-- `openCircuit`, which throws when the chain is not registered. -/
def openCircuit (config : SimFailureCircuitConfig) (breaker : SimFailureCircuitBreaker)
    (nowMs : Int) : SimFailureCircuitBreaker :=
  match breaker.execution.get? config.chain with
  | none => breaker
  | some state =>
      { breaker with
        execution := breaker.execution.set config.chain ⟨.open, state.failures + 1, some nowMs⟩
        timers := breaker.cleared ++ [breaker.openings + 1]
        reopenTimer := some (breaker.openings + 1)
        openings := breaker.openings + 1 }

/-- `recordSimFailure` of a final simulation; other reasons are passed over. -/
def recordSimFailure (config : SimFailureCircuitConfig) (breaker : SimFailureCircuitBreaker)
    (nowMs : Int) : SimFailureCircuitBreaker :=
  let counted := { breaker with consecutive := breaker.consecutive + 1 }
  if (counted.consecutive : ℚ) < config.threshold then counted
  else counted.openCircuit config nowMs

def recordSuccess (breaker : SimFailureCircuitBreaker) : SimFailureCircuitBreaker :=
  { breaker with consecutive := 0 }

/-- What `recordExecutionResult` reports; the chain of the request is not passed. -/
def recordExecutionResult (config : SimFailureCircuitConfig) (breaker : SimFailureCircuitBreaker)
    (nowMs : Int) : SafeExecutionResult → SimFailureCircuitBreaker
  | .sent _ => breaker
  | .simulated => breaker.recordSuccess
  | .rejected .final_simulation_failed => breaker.recordSimFailure config nowMs
  | .rejected _ => breaker
  | .failed _ => breaker

/-- The callback of a timer. -/
def onTimer (config : SimFailureCircuitConfig) (breaker : SimFailureCircuitBreaker) (timer : Nat) :
    SimFailureCircuitBreaker :=
  { breaker with
    execution := breaker.execution.modify config.chain (fun _ => ⟨.closed, 0, none⟩)
    timers := breaker.timers.filter (· ≠ timer)
    consecutive := 0 }

/-- What happens to the breaker: a result of some chain is reported, or a timer
comes due. -/
inductive BreakerEvent where
  | result (chain : SupportedChain) (result : SafeExecutionResult) (nowMs : Int)
  | timer (number : Nat)
deriving DecidableEq

/-- A timer that is not armed does nothing. -/
def step (config : SimFailureCircuitConfig) (breaker : SimFailureCircuitBreaker) :
    BreakerEvent → SimFailureCircuitBreaker
  | .result _ result nowMs => breaker.recordExecutionResult config nowMs result
  | .timer number => if number ∈ breaker.timers then breaker.onTimer config number else breaker

/-- The breaker after a run. -/
def after (config : SimFailureCircuitConfig) (chains : List SupportedChain)
    (run : List BreakerEvent) : SimFailureCircuitBreaker :=
  run.foldl (step config) (create chains)

/-- The status of a chain's execution breaker. -/
def status (breaker : SimFailureCircuitBreaker) (chain : SupportedChain) :
    Option CircuitBreakerStatus :=
  (breaker.execution.get? chain).map CircuitBreakerState.status

/-! ## Verdicts -/

/-- What a simulation says of an execution. -/
inductive Verdict where
  | passed
  | failed
deriving DecidableEq

/-- The verdict behind a result; what is sent or simulated has passed. -/
def verdictOf : SafeExecutionResult → Option Verdict
  | .sent _ => some .passed
  | .simulated => some .passed
  | .rejected .final_simulation_failed => some .failed
  | .rejected _ => none
  | .failed _ => none

/-- The verdicts of a chain, oldest first. -/
def verdicts (chain : SupportedChain) (run : List BreakerEvent) : List Verdict :=
  run.filterMap (fun event => match event with
    | .result other result _ => if other = chain then verdictOf result else none
    | .timer _ => none)

/-- The last verdicts were failures, that many of them. -/
def FailedInARow (count : Nat) (past : List Verdict) : Prop :=
  past.reverse.take count = List.replicate count .failed

/-- The verdicts that the threshold asks for. -/
def needed (config : SimFailureCircuitConfig) : Nat := ⌈config.threshold⌉₊

theorem failedInARow_zero (past : List Verdict) : FailedInARow 0 past := rfl

theorem FailedInARow.fewer {count fewer : Nat} {past : List Verdict}
    (failed : FailedInARow count past) (less : fewer ≤ count) : FailedInARow fewer past := by
  have both := congrArg (List.take fewer) failed
  rw [List.take_take, List.take_replicate, Nat.min_eq_left less] at both
  exact both

theorem FailedInARow.snoc {count : Nat} {past : List Verdict} (failed : FailedInARow count past) :
    FailedInARow (count + 1) (past ++ [.failed]) := by
  rw [FailedInARow, List.reverse_append, List.reverse_singleton, List.singleton_append,
    List.take_succ_cons, failed, List.replicate_succ]

/-! ## The timers, in every run -/

/-- The breaker is closed and no timer is armed, or it is open and the timer of its
latest opening is. No other chain's breaker is touched. -/
structure Timed (config : SimFailureCircuitConfig) (breaker : SimFailureCircuitBreaker) : Prop where
  others : ∀ chain, chain ≠ config.chain → breaker.status chain ≠ some .open
  armed : breaker.status config.chain ≠ some .open ∧ breaker.timers = [] ∨
    breaker.status config.chain = some .open ∧ breaker.reopenTimer = some breaker.openings ∧
      breaker.timers = [breaker.openings]

section Timed

variable {config : SimFailureCircuitConfig} {breaker : SimFailureCircuitBreaker}

theorem status_create (chains : List SupportedChain) (chain : SupportedChain) :
    (create chains).status chain ≠ some .open := by
  have closed : ∀ (chains : List SupportedChain)
      (registry : InsertionMap SupportedChain CircuitBreakerState),
      (∀ state, registry.get? chain = some state → state.status = .closed) →
      ∀ state, (chains.foldl (fun registry chain => registry.set chain ⟨.closed, 0, none⟩)
        registry).get? chain = some state → state.status = .closed := by
    intro chains
    induction chains with
    | nil => exact fun _ before => before
    | cons first rest inductionHypothesis =>
      intro registry before
      refine inductionHypothesis _ ?_
      intro state found
      rcases InsertionMap.of_get?_set found with ⟨_, rfl⟩ | earlier
      · rfl
      · exact before state earlier
  intro impossible
  obtain ⟨state, found, opened⟩ := Option.map_eq_some_iff.mp impossible
  have same := closed chains .empty nofun state found
  exact absurd (opened.symm.trans same) (by decide)

theorem timed_create (chains : List SupportedChain) : Timed config (create chains) where
  others chain _ := status_create chains chain
  armed := Or.inl ⟨status_create chains config.chain, rfl⟩

/-- The timer that an opening clears is the only one there can be. -/
theorem Timed.cleared_eq (timed : Timed config breaker) : breaker.cleared = [] := by
  unfold cleared
  rcases timed.armed with ⟨_, none⟩ | ⟨_, remembered, one⟩
  · rw [none]
    split
    · rfl
    · rfl
  · rw [remembered, one]
    simp

theorem Timed.openCircuit (timed : Timed config breaker) (nowMs : Int) :
    Timed config (breaker.openCircuit config nowMs) := by
  unfold SimFailureCircuitBreaker.openCircuit
  split
  next => exact timed
  next state found =>
    constructor
    · intro chain other
      rw [status, InsertionMap.get?_set_other _ _ other]
      exact timed.others chain other
    · refine Or.inr ⟨?_, rfl, ?_⟩
      · rw [status, InsertionMap.get?_set_same]
        rfl
      · rw [timed.cleared_eq]
        rfl

theorem Timed.recordExecutionResult (timed : Timed config breaker) (nowMs : Int)
    (result : SafeExecutionResult) :
    Timed config (breaker.recordExecutionResult config nowMs result) := by
  have counted : ∀ count, Timed config { breaker with consecutive := count } :=
    fun _ => ⟨timed.others, timed.armed⟩
  have failed : Timed config (breaker.recordSimFailure config nowMs) := by
    unfold recordSimFailure
    dsimp only
    split
    · exact counted _
    · exact (counted _).openCircuit nowMs
  cases result with
  | sent hash => exact timed
  | simulated => exact counted 0
  | failed reason => exact timed
  | rejected reason =>
    cases reason with
    | final_simulation_failed => exact failed
    | _ => exact timed

/-- A timer that fires is that of the latest opening, and closes the breaker. -/
theorem Timed.onTimer (timed : Timed config breaker) {number : Nat}
    (armed : number ∈ breaker.timers) :
    number = breaker.openings ∧ Timed config (breaker.onTimer config number) ∧
      (breaker.onTimer config number).status config.chain = some .closed := by
  rcases timed.armed with ⟨_, none⟩ | ⟨opened, _, one⟩
  · rw [none] at armed
    cases armed
  · rw [one] at armed
    obtain rfl := List.mem_singleton.mp armed
    have closes : (breaker.onTimer config breaker.openings).status config.chain = some .closed := by
      obtain ⟨state, found, _⟩ := Option.map_eq_some_iff.mp opened
      rw [SimFailureCircuitBreaker.onTimer, status, InsertionMap.get?_modify, if_pos rfl, found]
      rfl
    refine ⟨rfl, ⟨?_, Or.inl ⟨?_, ?_⟩⟩, closes⟩
    · intro chain other
      rw [SimFailureCircuitBreaker.onTimer, status, InsertionMap.get?_modify, if_neg other]
      exact timed.others chain other
    · rw [closes]
      decide
    · rw [SimFailureCircuitBreaker.onTimer, one]
      simp

theorem Timed.step (timed : Timed config breaker) (event : BreakerEvent) :
    Timed config (breaker.step config event) := by
  cases event with
  | result chain result nowMs => exact timed.recordExecutionResult nowMs result
  | timer number =>
    by_cases armed : number ∈ breaker.timers
    · rw [SimFailureCircuitBreaker.step, if_pos armed]
      exact (timed.onTimer armed).2.1
    · rw [SimFailureCircuitBreaker.step, if_neg armed]
      exact timed

theorem after_snoc (config : SimFailureCircuitConfig) (chains : List SupportedChain)
    (past : List BreakerEvent) (event : BreakerEvent) :
    after config chains (past ++ [event]) = (after config chains past).step config event := by
  rw [after, List.foldl_append]
  rfl

/-- Every run, by induction on its last event. -/
theorem timed_after (config : SimFailureCircuitConfig) (chains : List SupportedChain)
    (run : List BreakerEvent) : Timed config (after config chains run) := by
  induction run using List.reverseRecOn with
  | nil => exact timed_create chains
  | append_singleton past event inductionHypothesis =>
    rw [after_snoc]
    exact inductionHypothesis.step event

end Timed

/-! ## The count, where results are reported in full -/

/-- The event reports what the simulation said: a sent result meets no counted
failure of its chain, and a failure is the breaker's own chain's. -/
def Reports (config : SimFailureCircuitConfig) (chains : List SupportedChain)
    (past : List BreakerEvent) : BreakerEvent → Prop
  | .result chain (.sent _) _ =>
      chain = config.chain → (after config chains past).consecutive = 0
  | .result chain (.rejected .final_simulation_failed) _ => chain = config.chain
  | _ => True

section Count

variable {config : SimFailureCircuitConfig} {chains : List SupportedChain}
  {past : List BreakerEvent}

theorem verdicts_snoc (chain : SupportedChain) (past : List BreakerEvent) (event : BreakerEvent) :
    verdicts chain (past ++ [event]) = verdicts chain past ++ verdicts chain [event] :=
  List.filterMap_append

theorem consecutive_openCircuit (breaker : SimFailureCircuitBreaker) (nowMs : Int) :
    (breaker.openCircuit config nowMs).consecutive = breaker.consecutive := by
  unfold openCircuit
  split
  · rfl
  · rfl

theorem consecutive_recordSimFailure (breaker : SimFailureCircuitBreaker) (nowMs : Int) :
    (breaker.recordSimFailure config nowMs).consecutive = breaker.consecutive + 1 := by
  unfold recordSimFailure
  dsimp only
  split
  · rfl
  · exact consecutive_openCircuit _ nowMs

/-- Where every event reports in full, no more failures are counted than the
chain's verdicts end with. -/
theorem counted_step (event : BreakerEvent) (reports : Reports config chains past event)
    (counted : FailedInARow (after config chains past).consecutive (verdicts config.chain past)) :
    FailedInARow (after config chains (past ++ [event])).consecutive
      (verdicts config.chain (past ++ [event])) := by
  rw [after_snoc, verdicts_snoc]
  cases event with
  | timer number =>
    by_cases armed : number ∈ (after config chains past).timers
    · rw [step, if_pos armed]
      exact failedInARow_zero _
    · rw [step, if_neg armed]
      simpa [verdicts] using counted
  | result chain result nowMs =>
    cases result with
    | sent hash =>
      by_cases own : chain = config.chain
      · rw [step, recordExecutionResult, reports own]
        exact failedInARow_zero _
      · simpa [verdicts, own, step, recordExecutionResult] using counted
    | simulated => exact failedInARow_zero _
    | failed reason =>
      simpa [verdicts, verdictOf, step, recordExecutionResult] using counted
    | rejected reason =>
      cases reason with
      | final_simulation_failed =>
        have own : chain = config.chain := reports
        have one : verdicts config.chain [.result chain (.rejected .final_simulation_failed) nowMs] =
            [.failed] := by
          simp [verdicts, own, verdictOf]
        rw [one, step, recordExecutionResult, consecutive_recordSimFailure]
        exact counted.snoc
      | _ => simpa [verdicts, verdictOf, step, recordExecutionResult] using counted

/-- An event changes the breaker of a chain to open only at the threshold. -/
theorem needed_le_of_opened {breaker : SimFailureCircuitBreaker} {chain : SupportedChain}
    {event : BreakerEvent}
    (changed : (breaker.step config event).execution.get? chain ≠ breaker.execution.get? chain)
    (opened : (breaker.step config event).status chain = some .open) :
    chain = config.chain ∧ needed config ≤ (breaker.step config event).consecutive := by
  cases event with
  | timer number =>
    exfalso
    by_cases armed : number ∈ breaker.timers
    · rw [step, if_pos armed] at changed opened
      rw [onTimer, InsertionMap.get?_modify] at changed
      rw [onTimer, status, InsertionMap.get?_modify] at opened
      by_cases own : chain = config.chain
      · rw [if_pos own, Option.map_map] at opened
        obtain ⟨_, _, impossible⟩ := Option.map_eq_some_iff.mp opened
        cases impossible
      · rw [if_neg own] at changed
        exact changed rfl
    · rw [step, if_neg armed] at changed
      exact changed rfl
  | result other result nowMs =>
    cases result with
    | sent hash => exact absurd rfl changed
    | simulated => exact absurd rfl changed
    | failed reason => exact absurd rfl changed
    | rejected reason =>
      cases reason with
      | final_simulation_failed =>
        rw [step, recordExecutionResult, recordSimFailure] at changed
        rw [step, recordExecutionResult, consecutive_recordSimFailure]
        dsimp only at changed
        split at changed
        next => exact absurd rfl changed
        next reached =>
          refine ⟨?_, Nat.ceil_le.mpr (not_lt.mp reached)⟩
          by_contra other
          unfold openCircuit at changed
          split at changed
          next => exact changed rfl
          next => exact changed (InsertionMap.get?_set_other _ _ other)
      | _ => exact absurd rfl changed

/-- Only a timer takes a breaker out of the open state. -/
theorem timer_of_closed {breaker : SimFailureCircuitBreaker} (timed : Timed config breaker)
    {chain : SupportedChain} {event : BreakerEvent} (opened : breaker.status chain = some .open)
    (closed : (breaker.step config event).status chain ≠ some .open) :
    event = .timer breaker.openings := by
  cases event with
  | timer number =>
    by_cases armed : number ∈ breaker.timers
    · rw [(timed.onTimer armed).1]
    · rw [step, if_neg armed] at closed
      exact absurd opened closed
  | result other result nowMs =>
    cases result with
    | sent hash => exact absurd opened closed
    | simulated => exact absurd opened closed
    | failed reason => exact absurd opened closed
    | rejected reason =>
      cases reason with
      | final_simulation_failed =>
        rw [step, recordExecutionResult, recordSimFailure] at closed
        dsimp only at closed
        split at closed
        next => exact absurd opened closed
        next =>
          unfold openCircuit at closed
          split at closed
          next => exact absurd opened closed
          next =>
            rw [status, InsertionMap.get?_set] at closed
            split at closed
            next => exact absurd rfl closed
            next => exact absurd opened closed
      | _ => exact absurd opened closed

/-- The count never runs ahead of the verdicts. Induct on the last event. -/
theorem counted_after {run : List BreakerEvent}
    (reports : Prefixes.EachStep (Reports config chains) run) :
    FailedInARow (after config chains run).consecutive (verdicts config.chain run) := by
  induction run using List.reverseRecOn with
  | nil => exact failedInARow_zero _
  | append_singleton past event inductionHypothesis =>
    obtain ⟨earlier, here⟩ := (Prefixes.eachStep_snoc _ past event).mp reports
    exact counted_step event here (inductionHypothesis earlier)

end Count

/-- What is asked of the breaker at an event. A chain's breaker is opened only
after enough failures of that chain in a row; while it is open the timer of the
latest opening is armed, closes it, and is the only way to close it. -/
structure Sound (config : SimFailureCircuitConfig) (chains : List SupportedChain)
    (past : List BreakerEvent) (event : BreakerEvent) : Prop where
  opened : ∀ chain,
    (after config chains (past ++ [event])).execution.get? chain ≠
      (after config chains past).execution.get? chain →
    (after config chains (past ++ [event])).status chain = some .open →
    FailedInARow (needed config) (verdicts chain (past ++ [event]))
  armed : ∀ chain, (after config chains past).status chain = some .open →
    (after config chains past).timers = [(after config chains past).openings] ∧
      (after config chains (past ++ [.timer (after config chains past).openings])).status chain =
        some .closed
  closed : ∀ chain, (after config chains past).status chain = some .open →
    (after config chains (past ++ [event])).status chain ≠ some .open →
    event = .timer (after config chains past).openings

/-- In every run whose events report what the simulation said, the breaker opens
and closes as it should. -/
theorem breaker_sound (config : SimFailureCircuitConfig) (chains : List SupportedChain)
    (run : List BreakerEvent) (reports : Prefixes.EachStep (Reports config chains) run) :
    Prefixes.EachStep (Sound config chains) run := by
  intro past event initial
  have timed := timed_after config chains past
  have through : Prefixes.EachStep (Reports config chains) (past ++ [event]) :=
    fun earlier tested before => reports earlier tested (before.trans initial)
  constructor
  · intro chain changed opened
    rw [after_snoc] at changed opened
    obtain ⟨rfl, enough⟩ := needed_le_of_opened changed opened
    rw [← after_snoc] at enough
    exact (counted_after through).fewer enough
  · intro chain opened
    by_cases own : chain = config.chain
    · subst own
      rcases timed.armed with ⟨closed, _⟩ | ⟨_, _, one⟩
      · exact absurd opened closed
      · have member : (after config chains past).openings ∈ (after config chains past).timers := by
          rw [one]
          exact List.mem_singleton_self _
        rw [after_snoc, step, if_pos member]
        exact ⟨one, (timed.onTimer member).2.2⟩
    · exact absurd opened (timed.others chain own)
  · intro chain opened closed
    rw [after_snoc] at closed
    exact timer_of_closed timed opened closed

def failedOn (chain : SupportedChain) : BreakerEvent :=
  .result chain (.rejected .final_simulation_failed) 0

/-- A sent execution, three failures, and the timer. -/
theorem breaker_sound_base :
    Prefixes.EachStep (Sound { chain := .base } [.base])
      ([] ++ [.result .base (.sent 7) 0] ++ [failedOn .base] ++ [failedOn .base] ++
        [failedOn .base] ++ [.timer 1]) := by
  apply breaker_sound
  simp only [Prefixes.eachStep_snoc]
  refine ⟨⟨⟨⟨⟨?_, ?_⟩, rfl⟩, rfl⟩, rfl⟩, trivial⟩
  · intro past event impossible
    simp at impossible
  · intro _
    rfl

/-- A sent execution between the failures does not keep the breaker closed. -/
theorem opened_despite_sent :
    ¬ ∀ (config : SimFailureCircuitConfig) (chains : List SupportedChain)
      (run : List BreakerEvent), Prefixes.EachStep (Sound config chains) run := by
  intro claim
  have opened := (claim { chain := .base } [.base]
    ([failedOn .base, failedOn .base, .result .base (.sent 7) 0] ++ [failedOn .base]) _ _
    List.prefix_rfl).opened .base
  have needs : needed { chain := .base } = 3 := by
    norm_num [needed]
  have impossible : FailedInARow 3 [.failed, .failed, .passed, .failed] := by
    rw [← needs]
    exact opened (by decide +kernel) (by decide +kernel)
  exact absurd impossible (by unfold FailedInARow; decide)

end SimFailureCircuitBreaker

end LiquidationBot
