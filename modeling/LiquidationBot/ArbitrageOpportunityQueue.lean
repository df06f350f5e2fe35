import LiquidationBot.ArbitrageScanner
import LiquidationBot.Library.Lately
import LiquidationBot.Library.Latest

/-!
# The queue between the scanner and the pipeline

The scanner pushes opportunities, the detection adapter drains them chain by chain. The
queue drops an opportunity whose identifier it took in a short while ago, and keeps at
most a fixed number for each chain, the latest ones. What it remembers of identifiers is
pruned at every push and by a timer.

Beside it stands a ledger that forgets nothing: all identifiers taken since the queue was
stopped last, and all opportunities taken since the chain was drained last. As long as the
clock does not go back, nobody can tell the queue from the last entries of the ledger.
-/

namespace LiquidationBot

open ArbitrageScanner (dollarOpportunity)

/-- `ArbitrageOpportunityQueueConfig`. -/
structure ArbitrageOpportunityQueueConfig where
  maxEntriesPerChain : Nat := 500
  dedupeWindowMs : Int := 60000

/-- `ArbitrageOpportunityQueue`; `timer` says whether `seenPruneTimer` is set. -/
structure ArbitrageOpportunityQueue where
  opportunities : InsertionMap SupportedChain (List ArbitrageScanner.ArbitrageOpportunity)
  seen : InsertionMap OpportunityId Int
  timer : Bool

namespace ArbitrageOpportunityQueue

variable (config : ArbitrageOpportunityQueueConfig)

/-- `new ArbitrageOpportunityQueue(config)`. -/
def new : ArbitrageOpportunityQueue := ⟨.empty, .empty, true⟩

/-- `pruneSeen`, at the time that its clock shows. -/
def pruneSeen (queue : ArbitrageOpportunityQueue) (nowMs : Int) : ArbitrageOpportunityQueue :=
  { queue with seen := Lately.prune config.dedupeWindowMs nowMs queue.seen }

/-- `push`, with one clock for the pruning and for the time that is stored. -/
def push (queue : ArbitrageOpportunityQueue) (nowMs : Int)
    (opportunity : ArbitrageScanner.ArbitrageOpportunity) : ArbitrageOpportunityQueue :=
  let pruned := pruneSeen config queue nowMs
  if pruned.seen.has opportunity.opportunityId then pruned
  else
    let waiting := (pruned.opportunities.get? opportunity.chain).getD [] ++ [opportunity]
    { pruned with
      seen := pruned.seen.set opportunity.opportunityId nowMs
      opportunities :=
        pruned.opportunities.set opportunity.chain
          (Latest.shiftOver config.maxEntriesPerChain waiting) }

/-- `drain`: what waits for the chain, which is taken out. -/
def drain (queue : ArbitrageOpportunityQueue) (chain : SupportedChain) :
    ArbitrageOpportunityQueue × List ArbitrageScanner.ArbitrageOpportunity :=
  ({ queue with opportunities := queue.opportunities.set chain [] },
    (queue.opportunities.get? chain).getD [])

/-- `stop`; pushes and drains after it work as before. -/
def stop (queue : ArbitrageOpportunityQueue) : ArbitrageOpportunityQueue :=
  { queue with seen := .empty, timer := false }

/-- What reaches the queue: calls, and its timer. -/
inductive Event where
  | push (nowMs : Int) (opportunity : ArbitrageScanner.ArbitrageOpportunity)
  | drain (chain : SupportedChain)
  | pruneTimer (nowMs : Int)
  | stop

/-- The clock that an event reads. -/
def Event.time : Event → Option Int
  | .push nowMs _ => some nowMs
  | .drain _ => none
  | .pruneTimer nowMs => some nowMs
  | .stop => none

/-- One event, with what a drain returns. A timer that is not set does not fire. -/
def step (queue : ArbitrageOpportunityQueue) :
    Event → ArbitrageOpportunityQueue × Option (List ArbitrageScanner.ArbitrageOpportunity)
  | .push nowMs opportunity => (push config queue nowMs opportunity, none)
  | .drain chain => ((drain queue chain).1, some (drain queue chain).2)
  | .pruneTimer nowMs => (if queue.timer then pruneSeen config queue nowMs else queue, none)
  | .stop => (stop queue, none)

/-- What the drains of a run return, in their order. -/
def drained (queue : ArbitrageOpportunityQueue) :
    List Event → List (List ArbitrageScanner.ArbitrageOpportunity)
  | [] => []
  | event :: later =>
      (step config queue event).2.toList ++ drained (step config queue event).1 later

end ArbitrageOpportunityQueue

/-! ## The ledger -/

/-- All that was taken: the identifiers with their times since the last stop, and for each
chain the opportunities since its last drain. -/
structure OpportunityLedger where
  taken : List (OpportunityId × Int)
  offered : SupportedChain → List ArbitrageScanner.ArbitrageOpportunity

namespace OpportunityLedger

open ArbitrageOpportunityQueue (Event)

variable (config : ArbitrageOpportunityQueueConfig)

def new : OpportunityLedger := ⟨[], fun _ => []⟩

/-- The identifier was taken within the window. -/
def Lately (ledger : OpportunityLedger) (nowMs : Int) (identifier : OpportunityId) : Prop :=
  ∃ entry ∈ ledger.taken, entry.1 = identifier ∧ nowMs - config.dedupeWindowMs ≤ entry.2

instance (ledger : OpportunityLedger) (nowMs : Int) (identifier : OpportunityId) :
    Decidable (ledger.Lately config nowMs identifier) :=
  inferInstanceAs (Decidable (∃ entry ∈ ledger.taken, _))

/-- The ledger after an event. -/
def step (ledger : OpportunityLedger) : Event → OpportunityLedger
  | .push nowMs opportunity =>
      if ledger.Lately config nowMs opportunity.opportunityId then ledger
      else
        { taken := ledger.taken ++ [(opportunity.opportunityId, nowMs)]
          offered := Function.update ledger.offered opportunity.chain
            (ledger.offered opportunity.chain ++ [opportunity]) }
  | .drain chain => { ledger with offered := Function.update ledger.offered chain [] }
  | .pruneTimer _ => ledger
  | .stop => { ledger with taken := [] }

/-- What the drains of a run return if each is given the last entries of the ledger. -/
def drained (ledger : OpportunityLedger) :
    List Event → List (List ArbitrageScanner.ArbitrageOpportunity)
  | [] => []
  | .drain chain :: later =>
      (ledger.offered chain).rtake config.maxEntriesPerChain ::
        drained (ledger.step config (.drain chain)) later
  | event :: later => drained (ledger.step config event) later

end OpportunityLedger

/-! ## The queue against the ledger -/

namespace ArbitrageOpportunityQueue

variable {config : ArbitrageOpportunityQueueConfig} {queue : ArbitrageOpportunityQueue}
  {ledger : OpportunityLedger} {clock : Option Int}

/-- The queue holds the last entries of the ledger, and from the clock on it remembers the
identifiers that the ledger has in its window. -/
structure Mirrors (config : ArbitrageOpportunityQueueConfig) (queue : ArbitrageOpportunityQueue)
    (ledger : OpportunityLedger) (clock : Option Int) : Prop where
  waiting : ∀ chain, (queue.opportunities.get? chain).getD [] =
    (ledger.offered chain).rtake config.maxEntriesPerChain
  remembered : ∀ identifier nowMs, (∀ shown ∈ clock, shown ≤ nowMs) →
    ((∃ since, queue.seen.get? identifier = some since ∧ nowMs - config.dedupeWindowMs ≤ since) ↔
      ledger.Lately config nowMs identifier)

theorem mirrors_new : Mirrors config new OpportunityLedger.new none where
  waiting := by simp [new, OpportunityLedger.new]
  remembered := by simp [new, OpportunityLedger.new, OpportunityLedger.Lately]

/-- Pruning forgets nothing that a later push could see. -/
theorem Mirrors.pruneSeen (mirrors : Mirrors config queue ledger clock) {nowMs : Int}
    (later : ∀ shown ∈ clock, shown ≤ nowMs) :
    Mirrors config (queue.pruneSeen config nowMs) ledger (some nowMs) where
  waiting := mirrors.waiting
  remembered := by
    intro identifier next order
    have after : nowMs ≤ next := order nowMs rfl
    rw [← mirrors.remembered identifier next (fun shown here => (later shown here).trans after)]
    simp only [ArbitrageOpportunityQueue.pruneSeen, Lately.get?_prune_eq_some_iff]
    constructor
    · rintro ⟨since, ⟨held, _⟩, inside⟩
      exact ⟨since, held, inside⟩
    · rintro ⟨since, held, inside⟩
      exact ⟨since, ⟨held, by omega⟩, inside⟩

/-- A push is dropped by the queue exactly if the ledger took its identifier lately. -/
theorem Mirrors.has_iff (mirrors : Mirrors config queue ledger clock) {nowMs : Int}
    (later : ∀ shown ∈ clock, shown ≤ nowMs) (identifier : OpportunityId) :
    (queue.pruneSeen config nowMs).seen.has identifier = true ↔
      ledger.Lately config nowMs identifier := by
  rw [← mirrors.remembered identifier nowMs later]
  exact Lately.has_prune_iff

/-- A new identifier goes into both. Whatever the ledger has of it is outside the window, and
stays there. -/
theorem Mirrors.take (mirrors : Mirrors config queue ledger clock) {nowMs : Int}
    (later : ∀ shown ∈ clock, shown ≤ nowMs) {opportunity : ArbitrageScanner.ArbitrageOpportunity}
    (fresh : ¬ ledger.Lately config nowMs opportunity.opportunityId) :
    Mirrors config (queue.push config nowMs opportunity)
      (ledger.step config (.push nowMs opportunity)) (some nowMs) := by
  have absent : (queue.pruneSeen config nowMs).seen.has opportunity.opportunityId = false :=
    Bool.not_eq_true _ ▸ mt (mirrors.has_iff later _).mp fresh
  have pruned := mirrors.pruneSeen later
  simp only [push, absent, Bool.false_eq_true, if_false, OpportunityLedger.step, fresh]
  constructor
  · intro chain
    simp only [InsertionMap.get?_set, Function.update_apply]
    split
    next same =>
      rw [Option.getD_some, Latest.shiftOver_eq, pruned.waiting, Latest.rtake_rtake_snoc]
    next other => exact pruned.waiting chain
  · intro identifier next order
    have after : nowMs ≤ next := order nowMs rfl
    have before := pruned.remembered identifier next order
    simp only [OpportunityLedger.Lately, List.mem_append, List.mem_singleton,
      InsertionMap.get?_set] at before ⊢
    split
    next same =>
      subst same
      constructor
      · rintro ⟨since, stored, inside⟩
        obtain rfl := Option.some.inj stored
        exact ⟨_, Or.inr rfl, rfl, inside⟩
      · rintro ⟨entry, old | rfl, named, inside⟩
        · exact absurd ⟨entry, old, named, by omega⟩ fresh
        · exact ⟨nowMs, rfl, inside⟩
    next other =>
      rw [before]
      constructor
      · rintro ⟨entry, old, named, inside⟩
        exact ⟨entry, Or.inl old, named, inside⟩
      · rintro ⟨entry, old | rfl, named, inside⟩
        · exact ⟨entry, old, named, inside⟩
        · exact absurd named.symm other

/-- Every event keeps the queue in step with the ledger, if the clock did not go back. -/
theorem Mirrors.step (mirrors : Mirrors config queue ledger clock) (event : Event)
    (later : ∀ shown ∈ clock, ∀ nowMs ∈ event.time, shown ≤ nowMs) :
    Mirrors config (step config queue event).1 (ledger.step config event)
      (event.time.or clock) := by
  cases event with
  | push nowMs opportunity =>
    have order : ∀ shown ∈ clock, shown ≤ nowMs := fun shown here => later shown here nowMs rfl
    by_cases lately : ledger.Lately config nowMs opportunity.opportunityId
    · have held := (mirrors.has_iff order opportunity.opportunityId).mpr lately
      simp only [ArbitrageOpportunityQueue.step, push, held, if_true, OpportunityLedger.step,
        lately]
      exact mirrors.pruneSeen order
    · exact mirrors.take order lately
  | drain chain =>
    refine ⟨fun tested => ?_, mirrors.remembered⟩
    simp only [ArbitrageOpportunityQueue.step, drain, OpportunityLedger.step,
      InsertionMap.get?_set, Function.update_apply]
    split
    next => simp
    next => exact mirrors.waiting tested
  | pruneTimer nowMs =>
    have order : ∀ shown ∈ clock, shown ≤ nowMs := fun shown here => later shown here nowMs rfl
    simp only [ArbitrageOpportunityQueue.step, OpportunityLedger.step]
    cases queue.timer with
    | true => exact mirrors.pruneSeen order
    | false =>
      refine ⟨mirrors.waiting, fun identifier next after => ?_⟩
      exact mirrors.remembered identifier next
        (fun shown here => (order shown here).trans (after nowMs rfl))
  | stop =>
    refine ⟨mirrors.waiting, fun identifier next _ => ?_⟩
    simp [ArbitrageOpportunityQueue.step, stop, OpportunityLedger.step, OpportunityLedger.Lately]

theorem Mirrors.drained (mirrors : Mirrors config queue ledger clock) (events : List Event)
    (rising : (clock.toList ++ events.filterMap Event.time).Pairwise (· ≤ ·)) :
    drained config queue events = ledger.drained config events := by
  induction events generalizing queue ledger clock with
  | nil => rfl
  | cons event events inductionHypothesis =>
    have later : ∀ shown ∈ clock, ∀ nowMs ∈ event.time, shown ≤ nowMs := by
      intro shown here nowMs read
      rw [Option.mem_def] at here read
      simp [here, read] at rising
      exact rising.1.1
    have onwards : ((event.time.or clock).toList ++ events.filterMap Event.time).Pairwise
        (· ≤ ·) := by
      cases read : event.time with
      | none => simpa [read] using rising
      | some nowMs =>
        refine rising.sublist ?_
        simp [read]
    have rest := inductionHypothesis (mirrors.step event later) onwards
    rw [ArbitrageOpportunityQueue.drained, rest]
    cases event with
    | drain chain =>
      simp only [ArbitrageOpportunityQueue.step, drain, OpportunityLedger.drained,
        mirrors.waiting, Option.toList_some, List.singleton_append]
    | push => rfl
    | pruneTimer => rfl
    | stop => rfl

end ArbitrageOpportunityQueue

end LiquidationBot
