import LiquidationBot.HybridDetectionPipeline
import Mathlib.Data.List.DropRight

/-!
# Rescans after blocks

A block asks for a rescan of the watchlist. A debouncer holds the request back until its
interval since the last one is over, and a breaker that the rescans share with the fallback
polls sheds all of them for a while after failures in a row.

No block is forgotten and none is reported twice, in any order of blocks, timers and ends of
rescans that overlap; and nothing begins while the breaker cools down.
-/

namespace LiquidationBot

namespace BlockRescans

/-- The debounce interval, and the configuration of the breaker. -/
structure RescanConfig where
  debounceMs : Int
  threshold : ℚ := 3
  cooldownMs : Int := 30000

/-! ## The debouncer -/

/-- The state of `createDebouncedBlockRescan`; a pending timer by when it is due. -/
structure DebouncedBlockRescan where
  lastRunMs : Int := 0
  pending : Option Int := none
  pendingBlock : Option Nat := none

/-- The function that `createDebouncedBlockRescan` returns. -/
def DebouncedBlockRescan.onBlock (debouncer : DebouncedBlockRescan) (debounceMs nowMs : Int)
    (blockNumber : Nat) : DebouncedBlockRescan :=
  let elapsed := nowMs - debouncer.lastRunMs
  let delay := max 0 (debounceMs - elapsed)
  { debouncer with pendingBlock := some blockNumber, pending := some (nowMs + delay) }

/-- The callback of its timer, with the block that it triggers for. -/
def DebouncedBlockRescan.onTimer (debouncer : DebouncedBlockRescan) (nowMs : Int) :
    DebouncedBlockRescan × Option Nat :=
  match debouncer.pendingBlock with
  | none => ({ debouncer with pending := none }, none)
  | some blockNumber => (⟨nowMs, none, none⟩, some blockNumber)

/-! ## The breaker -/

/-- `RescanCircuitBreaker` with its timer. -/
structure RescanBreaker extends RescanCircuitBreaker where
  cooldownTimer : Option Int

namespace RescanBreaker

def new : RescanBreaker := ⟨⟨0, false⟩, none⟩

/-- `openCircuit`. -/
def openCircuit (breaker : RescanBreaker) (cooldownMs nowMs : Int) : RescanBreaker :=
  if breaker.coolingDown then breaker
  else { breaker with coolingDown := true, cooldownTimer := some (nowMs + cooldownMs) }

/-- What `execute` does once its function has returned or thrown. -/
def onEnd (config : RescanConfig) (breaker : RescanBreaker) (failed : Bool) (nowMs : Int) :
    RescanBreaker :=
  if failed then
    let counted := { breaker with failures := breaker.failures + 1 }
    if config.threshold ≤ counted.failures then counted.openCircuit config.cooldownMs nowMs
    else counted
  else { breaker with failures := 0 }

/-- `stop`, and the callback of the timer. -/
def close (_ : RescanBreaker) : RescanBreaker := new

end RescanBreaker

/-! ## Runs -/

/-- What happens, with its time: a block, the debouncer's timer, the start of the rescanner,
its interval, a fallback poll, the end of a rescan or a poll, the breaker's timer, and the
stop of the rescanner. -/
inductive RescanEvent where
  | block (nowMs : Int) (blockNumber : Nat)
  | debounced (nowMs : Int)
  | start (nowMs : Int)
  | interval (nowMs : Int)
  | poll (nowMs : Int)
  | ended (failed : Bool) (nowMs : Int)
  | cooledDown (nowMs : Int)
  | stop (nowMs : Int)

def RescanEvent.time : RescanEvent → Int
  | .block nowMs _ => nowMs
  | .debounced nowMs => nowMs
  | .start nowMs => nowMs
  | .interval nowMs => nowMs
  | .poll nowMs => nowMs
  | .ended _ nowMs => nowMs
  | .cooledDown nowMs => nowMs
  | .stop nowMs => nowMs

/-- A trigger of the debouncer, with how many blocks had been received. -/
structure Trigger where
  atMs : Int
  blockNumber : Nat
  received : Nat
deriving DecidableEq

/-- Something that began, with the openings of the breaker since it was last stopped. -/
structure Beginning where
  atMs : Int
  openings : List Int
deriving DecidableEq

/-- What the count of failures depends on: the ends of rescans and polls, and the resets of the
breaker. -/
inductive Ending where
  | failed
  | succeeded
  | reset
deriving DecidableEq

/-- A run so far: the state, how many rescans and polls are in progress, the blocks received and
what was triggered, the openings of the breaker since it was last stopped, what began, and the
endings. -/
structure Trace where
  debouncer : DebouncedBlockRescan
  breaker : RescanBreaker
  rescanner : Bool
  interval : Bool
  running : Nat
  blocks : List (Int × Nat)
  triggers : List Trigger
  openings : List Int
  begun : List Beginning
  endings : List Ending

namespace Trace

def new : Trace := ⟨{}, .new, false, false, 0, [], [], [], [], []⟩

/-- `execute` up to the call of its function. -/
def execute (trace : Trace) (nowMs : Int) : Trace :=
  if trace.breaker.coolingDown then trace
  else { trace with
    running := trace.running + 1
    begun := trace.begun ++ [⟨nowMs, trace.openings⟩] }

/-- The debouncer's trigger reaches the rescanner once that has been started. -/
def trigger (trace : Trace) (nowMs : Int) (blockNumber : Nat) : Trace :=
  let triggered := { trace with
    triggers := trace.triggers ++ [⟨nowMs, blockNumber, trace.blocks.length⟩] }
  if trace.rescanner then triggered.execute nowMs else triggered

/-- The end of something in progress. -/
def finish (config : RescanConfig) (trace : Trace) (failed : Bool) (nowMs : Int) : Trace :=
  let breaker := trace.breaker.onEnd config failed nowMs
  let opens := breaker.coolingDown && !trace.breaker.coolingDown
  { trace with
    breaker := breaker
    running := trace.running - 1
    openings := if opens then trace.openings ++ [nowMs] else trace.openings
    endings := trace.endings ++ [if failed then .failed else .succeeded] }

/-- The breaker is closed, by its timer or by the stop. -/
def reset (trace : Trace) : Trace :=
  { trace with breaker := trace.breaker.close, endings := trace.endings ++ [.reset] }

/-- A timer fires when it is due or later. -/
def step (config : RescanConfig) (trace : Trace) : RescanEvent → Option Trace
  | .block nowMs blockNumber =>
      some { trace with
        debouncer := trace.debouncer.onBlock config.debounceMs nowMs blockNumber
        blocks := trace.blocks ++ [(nowMs, blockNumber)] }
  | .debounced nowMs =>
      match trace.debouncer.pending with
      | none => none
      | some due =>
          if nowMs < due then none
          else
            match trace.debouncer.onTimer nowMs with
            | (debouncer, none) => some { trace with debouncer := debouncer }
            | (debouncer, some blockNumber) =>
                some ({ trace with debouncer := debouncer }.trigger nowMs blockNumber)
  | .start nowMs =>
      if trace.rescanner then none
      else some ({ trace with rescanner := true, interval := true }.execute nowMs)
  | .interval nowMs => if trace.interval then some (trace.execute nowMs) else none
  | .poll nowMs => some (trace.execute nowMs)
  | .ended failed nowMs =>
      if trace.running = 0 then none else some (trace.finish config failed nowMs)
  | .cooledDown nowMs =>
      match trace.breaker.cooldownTimer with
      | none => none
      | some due =>
          if nowMs < due then none
          else some trace.reset
  | .stop _ =>
      if trace.rescanner then some { trace.reset with interval := false, openings := [] }
      else none

end Trace

def run (config : RescanConfig) (events : List RescanEvent) : Option Trace :=
  events.foldlM (Trace.step config) .new

/-! ## No block is forgotten -/

section Debounced

variable {config : RescanConfig} {nowMs : Int} {debouncer : DebouncedBlockRescan}
  {blocks : List (Int × Nat)} {triggers : List Trigger}

/-- When the last trigger was. -/
def lastAt (triggers : List Trigger) : Int := (triggers.getLast?.map Trigger.atMs).getD 0

/-- How many blocks had been received by the last trigger. -/
def reported (triggers : List Trigger) : Nat := (triggers.getLast?.map Trigger.received).getD 0

/-- When the timer is due: once the interval is over, and not before the last block. -/
def dueAt (config : RescanConfig) (blocks : List (Int × Nat)) (triggers : List Trigger) :
    Option Int :=
  if reported triggers < blocks.length then
    blocks.getLast?.map (fun last => max last.1 (lastAt triggers + config.debounceMs))
  else none

/-- The triggers are apart, each for the last block received by then, and the timer is pending
exactly while a block is owed. -/
structure Debounced (config : RescanConfig) (debouncer : DebouncedBlockRescan)
    (blocks : List (Int × Nat)) (triggers : List Trigger) : Prop where
  spaced : triggers.Pairwise (fun earlier later =>
    earlier.received < later.received ∧ earlier.atMs + config.debounceMs ≤ later.atMs)
  latest : ∀ trigger ∈ triggers, trigger.received ≤ blocks.length ∧
    (blocks.take trigger.received).getLast?.map Prod.snd = some trigger.blockNumber
  pending : debouncer.pending = dueAt config blocks triggers

/-- What a run keeps of the debouncer. -/
structure DebounceKept (config : RescanConfig) (nowMs : Int) (debouncer : DebouncedBlockRescan)
    (blocks : List (Int × Nat)) (triggers : List Trigger) : Prop
    extends Debounced config debouncer blocks triggers where
  lastRun : debouncer.lastRunMs = lastAt triggers
  pendingBlock : debouncer.pendingBlock =
    if reported triggers < blocks.length then blocks.getLast?.map Prod.snd else none
  last : ∀ trigger ∈ triggers, trigger.atMs ≤ lastAt triggers ∧ trigger.received ≤ reported triggers
  past : ∀ trigger ∈ triggers, trigger.atMs ≤ nowMs

theorem reported_le (debounced : Debounced config debouncer blocks triggers) :
    reported triggers ≤ blocks.length := by
  rw [reported]
  cases latest : triggers.getLast? with
  | none => exact Nat.zero_le _
  | some trigger => exact (debounced.latest trigger (List.mem_of_getLast? latest)).1

namespace DebounceKept

theorem new (nowMs : Int) : DebounceKept config nowMs {} [] [] where
  spaced := .nil
  latest := nofun
  pending := rfl
  lastRun := rfl
  pendingBlock := rfl
  last := nofun
  past := nofun

theorem mono (kept : DebounceKept config nowMs debouncer blocks triggers) {later : Int}
    (rising : nowMs ≤ later) : DebounceKept config later debouncer blocks triggers :=
  { kept with past := fun trigger member => (kept.past trigger member).trans rising }

/-- A block makes the timer pending. -/
theorem onBlock (kept : DebounceKept config nowMs debouncer blocks triggers) (later : Int)
    (blockNumber : Nat) :
    DebounceKept config nowMs (debouncer.onBlock config.debounceMs later blockNumber)
      (blocks ++ [(later, blockNumber)]) triggers := by
  have owed : reported triggers < (blocks ++ [(later, blockNumber)]).length := by
    have := reported_le kept.toDebounced
    rw [List.length_append, List.length_singleton]
    omega
  refine { kept with latest := fun trigger member => ?_, pending := ?_, pendingBlock := ?_ }
  · obtain ⟨known, block⟩ := kept.latest trigger member
    rw [List.take_append_of_le_length known]
    exact ⟨by simp only [List.length_append]; omega, block⟩
  · rw [dueAt, if_pos owed, List.getLast?_concat, ← kept.lastRun]
    simp only [DebouncedBlockRescan.onBlock, Option.map_some, Option.some.injEq]
    omega
  · rw [if_pos owed, List.getLast?_concat]
    rfl

/-- The timer triggers for the last block, and nothing is owed then. -/
theorem onTimer (kept : DebounceKept config nowMs debouncer blocks triggers) {later due : Int}
    (rising : nowMs ≤ later) (pending : debouncer.pending = some due) (elapsed : due ≤ later) :
    ∃ blockNumber, debouncer.onTimer later = (⟨later, none, none⟩, some blockNumber) ∧
      DebounceKept config later ⟨later, none, none⟩ blocks
        (triggers ++ [⟨later, blockNumber, blocks.length⟩]) := by
  have timer := kept.pending.symm.trans pending
  rw [dueAt] at timer
  split at timer
  next owed =>
    obtain ⟨last, latest, rfl⟩ := Option.map_eq_some_iff.mp timer
    have block := kept.pendingBlock
    rw [if_pos owed, latest, Option.map_some] at block
    refine ⟨last.2, by rw [DebouncedBlockRescan.onTimer, block], ?_⟩
    have now : lastAt (triggers ++ [⟨later, last.2, blocks.length⟩]) = later := by
      simp [lastAt]
    have all : reported (triggers ++ [⟨later, last.2, blocks.length⟩]) = blocks.length := by
      simp [reported]
    have before : ∀ trigger ∈ triggers, trigger.atMs ≤ later :=
      fun trigger member => (kept.past trigger member).trans rising
    constructor
    · constructor
      · rw [List.pairwise_append]
        refine ⟨kept.spaced, List.pairwise_singleton _ _, fun trigger member _ fresh => ?_⟩
        obtain ⟨early, few⟩ := kept.last trigger member
        rw [List.mem_singleton.mp fresh]
        dsimp only
        omega
      · rw [List.forall_mem_append]
        refine ⟨kept.latest, fun trigger fresh => ?_⟩
        rw [List.mem_singleton.mp fresh, List.take_length, latest]
        exact ⟨le_rfl, rfl⟩
      · rw [dueAt, all, if_neg (lt_irrefl _)]
    · exact now.symm
    · rw [all, if_neg (lt_irrefl _)]
    · rw [now, all, List.forall_mem_append]
      refine ⟨fun trigger member => ⟨before trigger member, ?_⟩, by simp⟩
      exact (kept.latest trigger member).1
    · rw [List.forall_mem_append]
      exact ⟨before, by simp⟩
  next => cases timer

end DebounceKept

end Debounced

/-! ## Nothing begins while the breaker cools down -/

section Shedding

variable {config : RescanConfig} {nowMs : Int} {breaker : RescanBreaker} {openings : List Int}
  {begun : List Beginning} {endings : List Ending}

/-- The failures since the last end without one or reset. -/
def failedInRow (endings : List Ending) : Nat :=
  (endings.rtakeWhile (fun ending => decide (ending = .failed))).length

theorem failedInRow_snoc (endings : List Ending) (ending : Ending) :
    failedInRow (endings ++ [ending]) =
      if ending = .failed then failedInRow endings + 1 else 0 := by
  rw [failedInRow, List.rtakeWhile_concat]
  by_cases failed : ending = .failed
  · simp [failed, failedInRow]
  · simp [failed]

/-- What began did so when the cooldown of every opening before it was over, and the breaker is
open whenever the failures in a row have come to the threshold. -/
structure Shedding (config : RescanConfig) (breaker : RescanBreaker) (openings : List Int)
    (begun : List Beginning) (endings : List Ending) : Prop where
  shed : ∀ beginning ∈ begun, ∀ opening ∈ beginning.openings,
    opening + config.cooldownMs ≤ beginning.atMs
  timer : breaker.cooldownTimer =
    if breaker.coolingDown then openings.getLast?.map (· + config.cooldownMs) else none
  counted : breaker.failures = failedInRow endings
  opens : breaker.coolingDown = false → (failedInRow endings : ℚ) < config.threshold

/-- What a run keeps of the breaker. -/
structure BreakerKept (config : RescanConfig) (nowMs : Int) (breaker : RescanBreaker)
    (openings : List Int) (begun : List Beginning) (endings : List Ending) : Prop
    extends Shedding config breaker openings begun endings where
  cooled : breaker.coolingDown = false →
    ∀ opening ∈ openings, opening + config.cooldownMs ≤ nowMs
  before : ∀ opening ∈ openings.dropLast, opening + config.cooldownMs ≤ nowMs

namespace BreakerKept

theorem new (positive : 0 < config.threshold) (nowMs : Int) :
    BreakerKept config nowMs .new [] [] [] where
  shed := nofun
  timer := rfl
  counted := rfl
  opens := fun _ => by simpa [failedInRow] using positive
  cooled := nofun
  before := nofun

theorem mono (kept : BreakerKept config nowMs breaker openings begun endings) {later : Int}
    (rising : nowMs ≤ later) : BreakerKept config later breaker openings begun endings :=
  { kept with
    cooled := fun closed opening member => (kept.cooled closed opening member).trans rising
    before := fun opening member => (kept.before opening member).trans rising }

theorem begins (kept : BreakerKept config nowMs breaker openings begun endings)
    (closed : breaker.coolingDown = false) :
    BreakerKept config nowMs breaker openings (begun ++ [⟨nowMs, openings⟩]) endings := by
  refine { kept with shed := ?_ }
  rw [List.forall_mem_append]
  refine ⟨kept.shed, fun beginning fresh => ?_⟩
  rw [List.mem_singleton.mp fresh]
  exact kept.cooled closed

/-- The timer closes the breaker once the cooldown of its last opening is over. -/
theorem cooledDown (positive : 0 < config.threshold)
    (kept : BreakerKept config nowMs breaker openings begun endings) {due : Int}
    (pending : breaker.cooldownTimer = some due) (elapsed : due ≤ nowMs) :
    BreakerKept config nowMs breaker.close openings begun (endings ++ [.reset]) := by
  have none : failedInRow (endings ++ [.reset]) = 0 := failedInRow_snoc endings .reset
  have timer := kept.timer.symm.trans pending
  split at timer
  next =>
    obtain ⟨last, latest, rfl⟩ := Option.map_eq_some_iff.mp timer
    obtain ⟨earlier, rfl⟩ := List.getLast?_eq_some_iff.mp latest
    have before := kept.before
    rw [List.dropLast_concat] at before
    refine ⟨⟨kept.shed, rfl, none.symm, fun _ => by rw [none]; exact_mod_cast positive⟩,
      fun _ => ?_, ?_⟩
    · rw [List.forall_mem_append]
      exact ⟨before, by simpa using elapsed⟩
    · rwa [List.dropLast_concat]
  next => cases timer

/-- The stop closes the breaker and forgets its openings. -/
theorem stop (positive : 0 < config.threshold)
    (kept : BreakerKept config nowMs breaker openings begun endings) :
    BreakerKept config nowMs breaker.close [] begun (endings ++ [.reset]) := by
  have none : failedInRow (endings ++ [.reset]) = 0 := failedInRow_snoc endings .reset
  exact ⟨⟨kept.shed, rfl, none.symm, fun _ => by rw [none]; exact_mod_cast positive⟩, nofun, nofun⟩

theorem counted_failed (kept : BreakerKept config nowMs breaker openings begun endings) :
    breaker.failures + 1 = failedInRow (endings ++ [.failed]) := by
  have more : failedInRow (endings ++ [.failed]) = failedInRow endings + 1 :=
    failedInRow_snoc endings .failed
  rw [more, kept.counted]

/-- A failure that opens nothing, since the breaker is open or there are too few in a row. -/
theorem fails (kept : BreakerKept config nowMs breaker openings begun endings)
    (few : breaker.coolingDown = false → (breaker.failures : ℚ) + 1 < config.threshold) :
    BreakerKept config nowMs { breaker with failures := breaker.failures + 1 } openings begun
      (endings ++ [.failed]) where
  shed := kept.shed
  timer := kept.timer
  counted := kept.counted_failed
  opens := by
    intro closed
    rw [← kept.counted_failed]
    exact_mod_cast few closed
  cooled := kept.cooled
  before := kept.before

/-- A failure that opens the breaker, at the time from which the cooldown counts. -/
theorem opened (kept : BreakerKept config nowMs breaker openings begun endings)
    (closed : breaker.coolingDown = false) :
    BreakerKept config nowMs ⟨⟨breaker.failures + 1, true⟩, some (nowMs + config.cooldownMs)⟩
      (openings ++ [nowMs]) begun (endings ++ [.failed]) where
  shed := kept.shed
  timer := by simp
  counted := kept.counted_failed
  opens := nofun
  cooled := nofun
  before := by simpa using kept.cooled closed

/-- An end counts its failure, and opens the breaker when there are enough in a row. -/
theorem finish (positive : 0 < config.threshold)
    (kept : BreakerKept config nowMs breaker openings begun endings) (failed : Bool) :
    BreakerKept config nowMs (breaker.onEnd config failed nowMs)
      (if (breaker.onEnd config failed nowMs).coolingDown && !breaker.coolingDown then
        openings ++ [nowMs] else openings) begun
      (endings ++ [if failed then .failed else .succeeded]) := by
  cases failed with
  | false =>
    have none : failedInRow (endings ++ [.succeeded]) = 0 := failedInRow_snoc endings .succeeded
    have same : ((breaker.onEnd config false nowMs).coolingDown && !breaker.coolingDown) = false :=
      Bool.and_not_self _
    rw [same]
    exact ⟨⟨kept.shed, kept.timer, none.symm, fun _ => by
      simpa [none] using positive⟩, kept.cooled, kept.before⟩
  | true =>
    by_cases opens : breaker.coolingDown = false ∧ config.threshold ≤ (breaker.failures : ℚ) + 1
    · have ended : breaker.onEnd config true nowMs =
          ⟨⟨breaker.failures + 1, true⟩, some (nowMs + config.cooldownMs)⟩ := by
        simp [RescanBreaker.onEnd, RescanBreaker.openCircuit, opens.1, opens.2]
      rw [ended, opens.1]
      exact kept.opened opens.1
    · have few := fun closed => not_le.mp (fun enough => opens ⟨closed, enough⟩)
      have ended : breaker.onEnd config true nowMs =
          { breaker with failures := breaker.failures + 1 } := by
        cases cooling : breaker.coolingDown with
        | true => simp [RescanBreaker.onEnd, RescanBreaker.openCircuit, cooling]
        | false => simp [RescanBreaker.onEnd, not_le.mpr (few cooling), cooling]
      rw [ended, Bool.and_not_self]
      exact kept.fails few

end BreakerKept

end Shedding

/-! ## Whole runs -/

section Runs

variable {config : RescanConfig} {trace after : Trace} {nowMs : Int}

/-- What a run keeps. -/
structure Kept (config : RescanConfig) (nowMs : Int) (trace : Trace) : Prop where
  debounce : DebounceKept config nowMs trace.debouncer trace.blocks trace.triggers
  breaker : BreakerKept config nowMs trace.breaker trace.openings trace.begun trace.endings

theorem Kept.mono (kept : Kept config nowMs trace) {later : Int} (rising : nowMs ≤ later) :
    Kept config later trace :=
  ⟨kept.debounce.mono rising, kept.breaker.mono rising⟩

theorem Kept.execute (kept : Kept config nowMs trace) :
    Kept config nowMs (trace.execute nowMs) := by
  rw [Trace.execute]
  split
  next => exact kept
  next closed => exact ⟨kept.debounce, kept.breaker.begins (Bool.eq_false_iff.mpr closed)⟩

theorem Kept.step (positive : 0 < config.threshold) {event : RescanEvent}
    (kept : Kept config event.time trace) (stepped : trace.step config event = some after) :
    Kept config event.time after := by
  cases event with
  | block nowMs blockNumber =>
    cases stepped
    exact ⟨kept.debounce.onBlock nowMs blockNumber, kept.breaker⟩
  | debounced nowMs =>
    change Kept config nowMs trace at kept
    simp only [Trace.step] at stepped
    split at stepped
    next => cases stepped
    next due pending =>
      split at stepped
      next => cases stepped
      next elapsed =>
        obtain ⟨blockNumber, fired, debounce⟩ :=
          kept.debounce.onTimer le_rfl pending (not_lt.mp elapsed)
        rw [fired] at stepped
        cases stepped
        have triggered : Kept config nowMs { trace with
            debouncer := ⟨nowMs, none, none⟩
            triggers := trace.triggers ++ [⟨nowMs, blockNumber, trace.blocks.length⟩] } :=
          ⟨debounce, kept.breaker⟩
        rw [Trace.trigger]
        dsimp only
        split
        next => exact triggered.execute
        next => exact triggered
  | start nowMs =>
    simp only [Trace.step] at stepped
    split at stepped
    next => cases stepped
    next =>
      cases stepped
      exact Kept.execute ⟨kept.debounce, kept.breaker⟩
  | interval nowMs =>
    simp only [Trace.step] at stepped
    split at stepped
    next =>
      cases stepped
      exact kept.execute
    next => cases stepped
  | poll nowMs =>
    cases stepped
    exact kept.execute
  | ended failed nowMs =>
    simp only [Trace.step] at stepped
    split at stepped
    next => cases stepped
    next =>
      cases stepped
      exact ⟨kept.debounce, kept.breaker.finish positive failed⟩
  | cooledDown nowMs =>
    simp only [Trace.step] at stepped
    split at stepped
    next => cases stepped
    next due pending =>
      split at stepped
      next => cases stepped
      next elapsed =>
        cases stepped
        exact ⟨kept.debounce, kept.breaker.cooledDown positive pending (not_lt.mp elapsed)⟩
  | stop nowMs =>
    simp only [Trace.step] at stepped
    split at stepped
    next =>
      cases stepped
      exact ⟨kept.debounce, kept.breaker.stop positive⟩
    next => cases stepped

theorem kept_run (positive : 0 < config.threshold) {events : List RescanEvent}
    (rising : (events.map RescanEvent.time).Pairwise (· ≤ ·))
    (ran : run config events = some trace) (ends : ∀ event ∈ events, event.time ≤ nowMs) :
    Kept config nowMs trace := by
  induction events using List.reverseRecOn generalizing trace nowMs with
  | nil =>
    cases ran
    exact ⟨.new nowMs, .new positive nowMs⟩
  | append_singleton events event inductionHypothesis =>
    rw [run, List.foldlM_append, Option.bind_eq_bind] at ran
    obtain ⟨before, earlier, last⟩ := Option.bind_eq_some_iff.mp ran
    simp only [List.foldlM_cons, List.foldlM_nil, bind_pure] at last
    rw [List.map_append, List.pairwise_append] at rising
    have kept := inductionHypothesis rising.1 earlier (fun other member =>
      rising.2.2 other.time (List.mem_map_of_mem member) event.time (by simp))
    exact (kept.step positive last).mono (ends event (by simp))

end Runs

/-- Two blocks in a row and a third one later. A rescan fails, which opens the breaker, and the
trigger for the third block begins nothing. -/
def threeBlocks : List RescanEvent :=
  [.start 5000, .block 6000 7, .block 6500 8, .debounced 6500, .ended false 6900, .block 7000 9,
    .ended true 7100, .debounced 8600, .cooledDown 37100, .interval 40000]

end BlockRescans

end LiquidationBot
