import LiquidationBot.ArbitrageScanner
import LiquidationBot.Library.InsertionMap
import LiquidationBot.Library.Prefixes

/-!
# The poll loops of the arbitrage scanner

A poll that ends sets the timer of the next one, and a map knows the last timer of each
chain. Stopping clears the timers that the map knows. A poll that is in flight then has
none: it ends later and sets its timer as ever. So stopping is final where no poll is in
flight, and a chain has one loop where none was alive when it was started.
-/

namespace LiquidationBot

open Prefixes

/-- The timers that are set, neither cleared nor fired, with the chains that they poll; the
polls in flight; and how many polls began between a stop and the next start. -/
structure ScannerPolling where
  timers : List (Nat × SupportedChain)
  activePolls : InsertionMap SupportedChain Nat
  inFlight : List SupportedChain
  nextTimer : Nat
  stopped : Bool
  begunStopped : Nat

/-- A call of `start` or `stop`, a timer that fires, or the end of a poll. -/
inductive PollStep where
  | start
  | stop
  | fired (timer : Nat × SupportedChain)
  | finished (chain : SupportedChain)
deriving DecidableEq

namespace ScannerPolling

def initial : ScannerPolling := ⟨[], .empty, [], 0, false, 0⟩

/-- `poll`, up to its first wait. -/
def poll (polling : ScannerPolling) (chain : SupportedChain) : ScannerPolling :=
  { polling with
    inFlight := chain :: polling.inFlight
    begunStopped := if polling.stopped then polling.begunStopped + 1 else polling.begunStopped }

/-- `start`, which polls each chain at once. -/
def start (chains : List SupportedChain) (polling : ScannerPolling) : ScannerPolling :=
  chains.foldl poll { polling with stopped := false }

def stop (polling : ScannerPolling) : ScannerPolling :=
  { polling with
    timers := polling.timers.filter (fun timer => !polling.activePolls.values.contains timer.1)
    activePolls := .empty
    stopped := true }

/-- The end of a poll, whatever became of it. -/
def reschedule (polling : ScannerPolling) (chain : SupportedChain) : ScannerPolling :=
  { polling with
    timers := (polling.nextTimer, chain) :: polling.timers
    activePolls := polling.activePolls.set chain polling.nextTimer
    inFlight := polling.inFlight.erase chain
    nextTimer := polling.nextTimer + 1 }

def step (chains : List SupportedChain) (polling : ScannerPolling) :
    PollStep → Option ScannerPolling
  | .start => some (polling.start chains)
  | .stop => some polling.stop
  | .fired timer =>
      if timer ∈ polling.timers then
        some (poll { polling with timers := polling.timers.erase timer } timer.2)
      else none
  | .finished chain =>
      if chain ∈ polling.inFlight then some (polling.reschedule chain) else none

/-- The state after a run, if each of its steps can happen. -/
def after (chains : List SupportedChain) (run : List PollStep) : Option ScannerPolling :=
  run.foldlM (step chains) initial

/-- The loops of a chain that are alive: the polls that wait for their timer, and those in
flight. -/
def alive (polling : ScannerPolling) (chain : SupportedChain) : Nat :=
  polling.timers.countP (fun timer => timer.2 = chain) + polling.inFlight.count chain

/-- No poll has begun between a stop and the next start, and a chain has one loop at most. -/
def StopIsFinal (polling : ScannerPolling) : Prop :=
  polling.begunStopped = 0 ∧ ∀ chain, polling.alive chain ≤ 1

/-- The scanner is stopped between polls, and started where no loop is alive. -/
def Orderly (chains : List SupportedChain) (polling : ScannerPolling) : PollStep → Prop
  | .start => ∀ chain ∈ chains, polling.alive chain = 0
  | .stop => polling.inFlight = []
  | .fired _ => True
  | .finished _ => True

/-- What an orderly run keeps: the map knows every timer that is set. -/
structure Kept (polling : ScannerPolling) : Prop where
  final : polling.StopIsFinal
  known : ∀ timer ∈ polling.timers, polling.activePolls.get? timer.2 = some timer.1
  idle : polling.stopped = true → polling.timers = [] ∧ polling.inFlight = []

section Steps

variable {chains : List SupportedChain} {polling : ScannerPolling}

theorem kept_initial : Kept initial where
  final := ⟨rfl, fun _ => Nat.zero_le 1⟩
  known := by simp [initial]
  idle := fun _ => ⟨rfl, rfl⟩

theorem alive_poll (polling : ScannerPolling) (chain tested : SupportedChain) :
    (polling.poll chain).alive tested = polling.alive tested + if chain = tested then 1 else 0 := by
  simp only [alive, poll, List.count_cons, beq_iff_eq]
  omega

/-- A poll of a chain without a loop, while the scanner is not stopped. -/
theorem kept_poll (kept : Kept polling) (running : polling.stopped = false)
    {chain : SupportedChain} (none : polling.alive chain = 0) : Kept (polling.poll chain) where
  final := by
    obtain ⟨begun, single⟩ := kept.final
    refine ⟨?_, ?_⟩
    · simpa [poll, running] using begun
    · intro tested
      rw [alive_poll]
      split
      next same =>
        rw [← same, none]
      next => exact single tested
  known := kept.known
  idle := by
    intro stopped
    rw [show (polling.poll chain).stopped = polling.stopped from rfl, running] at stopped
    cases stopped

/-- Starting polls each chain once. Induct on the chains. -/
theorem kept_polls (distinct : chains.Nodup) (kept : Kept polling)
    (running : polling.stopped = false) (none : ∀ chain ∈ chains, polling.alive chain = 0) :
    Kept (chains.foldl poll polling) := by
  induction chains generalizing polling with
  | nil => exact kept
  | cons chain rest inductionHypothesis =>
    obtain ⟨new, distinct⟩ := List.nodup_cons.mp distinct
    rw [List.foldl_cons]
    refine inductionHypothesis distinct
      (kept_poll kept running (none chain List.mem_cons_self)) running ?_
    intro tested member
    rw [alive_poll, none tested (List.mem_cons_of_mem _ member), if_neg]
    rintro rfl
    exact new member

theorem kept_start (distinct : chains.Nodup) (kept : Kept polling)
    (none : ∀ chain ∈ chains, polling.alive chain = 0) : Kept (polling.start chains) :=
  kept_polls distinct ⟨kept.final, kept.known, fun impossible => by cases impossible⟩ rfl none

/-- Between polls the map knows all that is left to clear. -/
theorem kept_stop (kept : Kept polling) (between : polling.inFlight = []) : Kept polling.stop := by
  have cleared : polling.stop.timers = [] := by
    apply List.filter_eq_nil_iff.mpr
    intro timer member
    have value : timer.1 ∈ polling.activePolls.values :=
      (polling.activePolls.mem_values_iff timer.1).mpr ⟨timer.2, kept.known timer member⟩
    simp [value]
  have flights : polling.stop.inFlight = [] := between
  refine ⟨⟨kept.final.1, ?_⟩, ?_, fun _ => ⟨cleared, flights⟩⟩
  · intro chain
    rw [alive, cleared, flights]
    exact Nat.zero_le 1
  · intro timer member
    rw [cleared] at member
    cases member

/-- A timer turns into a poll of its chain. -/
theorem kept_fired (kept : Kept polling) {timer : Nat × SupportedChain}
    (set : timer ∈ polling.timers) :
    Kept (poll { polling with timers := polling.timers.erase timer } timer.2) := by
  have counted (chain : SupportedChain) :
      polling.timers.countP (fun other => other.2 = chain) =
        (polling.timers.erase timer).countP (fun other => other.2 = chain) +
          if timer.2 = chain then 1 else 0 := by
    rw [(List.perm_cons_erase set).countP_eq, List.countP_cons]
    simp
  have running : polling.stopped = false := by
    rw [Bool.eq_false_iff]
    intro stopped
    rw [(kept.idle stopped).1] at set
    cases set
  have single := kept.final.2 timer.2
  have here := counted timer.2
  rw [if_pos rfl] at here
  apply kept_poll
  · refine ⟨⟨kept.final.1, ?_⟩, ?_, ?_⟩
    · intro chain
      have before := kept.final.2 chain
      have count := counted chain
      simp only [alive] at before ⊢
      omega
    · exact fun other member => kept.known other (List.mem_of_mem_erase member)
    · intro stopped
      rw [running] at stopped
      cases stopped
  · exact running
  · simp only [alive] at single ⊢
    omega

/-- A poll turns into the timer of the next one, and the map knows it. -/
theorem kept_finished (kept : Kept polling) {chain : SupportedChain}
    (polled : chain ∈ polling.inFlight) : Kept (polling.reschedule chain) := by
  have counted (tested : SupportedChain) : polling.inFlight.count tested =
      (polling.inFlight.erase chain).count tested + if chain = tested then 1 else 0 := by
    rw [(List.perm_cons_erase polled).count_eq, List.count_cons]
    simp
  have same (tested : SupportedChain) : (polling.reschedule chain).alive tested = polling.alive tested := by
    have count := counted tested
    simp only [alive, reschedule, List.countP_cons, decide_eq_true_eq]
    omega
  refine ⟨⟨kept.final.1, fun tested => (same tested).trans_le (kept.final.2 tested)⟩, ?_, ?_⟩
  · intro timer member
    rcases List.mem_cons.mp member with rfl | earlier
    · simp [reschedule]
    · have other : timer.2 ≠ chain := by
        rintro rfl
        have single := kept.final.2 timer.2
        have waiting : 0 < polling.timers.countP (fun other => other.2 = timer.2) :=
          List.countP_pos_iff.mpr ⟨timer, earlier, by simp⟩
        have flying : 0 < polling.inFlight.count timer.2 := List.count_pos_iff.mpr polled
        rw [alive] at single
        omega
      rw [reschedule, InsertionMap.get?_set_other _ _ other]
      exact kept.known timer earlier
  · intro stopped
    rw [(kept.idle stopped).2] at polled
    cases polled

/-- An orderly step keeps the state in order. -/
theorem kept_step (distinct : chains.Nodup) {taken : PollStep} {next : ScannerPolling}
    (kept : Kept polling) (orderly : Orderly chains polling taken)
    (stepped : polling.step chains taken = some next) : Kept next := by
  cases taken with
  | start =>
    cases stepped
    exact kept_start distinct kept orderly
  | stop =>
    cases stepped
    exact kept_stop kept orderly
  | fired timer =>
    obtain ⟨set, same⟩ := Option.ite_none_right_eq_some.mp stepped
    cases same
    exact kept_fired kept set
  | finished chain =>
    obtain ⟨polled, same⟩ := Option.ite_none_right_eq_some.mp stepped
    cases same
    exact kept_finished kept polled

end Steps

/-- While the scanner is stopped between polls only and started where no loop is alive, stopping
is final and a chain has one loop at most. -/
theorem stop_is_final (chains : List SupportedChain) (distinct : chains.Nodup) (run : List PollStep)
    (orderly : EachStep (fun past taken =>
      ∀ polling ∈ after chains past, Orderly chains polling taken) run) :
    Always (fun past => ∀ polling ∈ after chains past, polling.StopIsFinal) run := by
  have kept := orderly.keeps kept_initial
    (fun _ _ _ kept orderly stepped => kept_step distinct kept orderly stepped)
  exact fun past reached polling here => (kept past reached polling here).final

instance decideOrderly (chains : List SupportedChain) (polling : ScannerPolling) :
    (taken : PollStep) → Decidable (Orderly chains polling taken)
  | .start => inferInstanceAs (Decidable (∀ chain ∈ chains, polling.alive chain = 0))
  | .stop => inferInstanceAs (Decidable (polling.inFlight = []))
  | .fired _ => .isTrue trivial
  | .finished _ => .isTrue trivial

/-- A scanner that is stopped while it waits, and started again. -/
theorem stop_is_final_between :
    Always (fun past => ∀ polling ∈ after [.base, .optimism] past, polling.StopIsFinal)
      ([] ++ [PollStep.start] ++ [.finished .base] ++ [.fired (0, .base)] ++ [.finished .optimism] ++
        [.finished .base] ++ [.stop] ++ [.start]) := by
  apply stop_is_final [.base, .optimism] (by decide)
  simp only [eachStep_snoc]
  refine ⟨⟨⟨⟨⟨⟨⟨?_, ?_⟩, ?_⟩, ?_⟩, ?_⟩, ?_⟩, ?_⟩, ?_⟩
  · intro past taken impossible
    simp at impossible
  all_goals decide +kernel

/-- The scanner is stopped within a poll: the poll ends, and its timer fires. Started before
that, the scanner has two loops. -/
theorem poll_survives_stop :
    ¬ (∀ (chains : List SupportedChain) (run : List PollStep), chains.Nodup →
      Always (fun past => ∀ polling ∈ after chains past, polling.StopIsFinal) run) ∧
      ∃ polling ∈ after [.base] [.start, .stop, .start], polling.alive .base = 2 := by
  constructor
  · intro claim
    have final := claim [.base] [.start, .stop, .finished .base, .fired (0, .base)] (by decide) _
      List.prefix_rfl
    have none := fun polling here => (final polling here).1
    revert none
    decide +kernel
  · exact ⟨_, rfl, by decide +kernel⟩

end ScannerPolling

end LiquidationBot
