import LiquidationBot.WatchlistReserveFilter
import Mathlib.Data.List.Chain

/-!
# The tiers of the watchlist's sweeps

A sweep reads the accounts whose health factor is unknown or below 1.15. The
others, the low tier, are read only by a sweep whose block is a multiple of the
interval. Sweeps happen at the blocks that are announced while no sweep is in
flight, and at the heads that a timer finds, so the multiples may be missed.

Between two sweeps an interval apart the low tier is read exactly if one of the
sweeps in between falls on a multiple, or finds nobody in the low tier.
-/

namespace LiquidationBot

/-- `PRE_LIQUIDATABLE_WAD`. -/
def PRE_LIQUIDATABLE_WAD : Nat := 1150000000000000000

namespace BoundedWatchlist

/-- The health factor that is stored for an address. -/
def healthFactorOf (watchlist : BoundedWatchlist) (address : Address) : Option Nat :=
  (watchlist.map.get? address.toLowerCase).bind BoundedWatchlistEntry.lastHealthFactor

/-- The address is in the low tier: its health factor is known and at least 1.15. -/
def LowTier (watchlist : BoundedWatchlist) (address : Address) : Prop :=
  (watchlist.healthFactorOf address).any (fun hf => PRE_LIQUIDATABLE_WAD ≤ hf) = true

instance (watchlist : BoundedWatchlist) (address : Address) :
    Decidable (watchlist.LowTier address) := inferInstanceAs (Decidable (_ = true))

end BoundedWatchlist

/-- `runLowTier` of `filterAddressesForSweep`. -/
def runLowTier (currentBlock lowTierEveryBlocks : Nat) : Bool :=
  decide (0 < lowTierEveryBlocks) && currentBlock % lowTierEveryBlocks == 0

/-- One turn of the loop of `filterAddressesForSweep`. -/
def sortIntoTiers (watchlist : BoundedWatchlist) (low : Bool)
    (tiers : List Address × List Address) (address : Address) : List Address × List Address :=
  match watchlist.healthFactorOf address with
  | none => (tiers.1 ++ [address], tiers.2)
  | some hf =>
      if hf < PRE_LIQUIDATABLE_WAD then (tiers.1 ++ [address], tiers.2)
      else if low then (tiers.1, tiers.2 ++ [address]) else tiers

/-- `filterAddressesForSweep`. -/
def filterAddressesForSweep (watchlist : BoundedWatchlist)
    (currentBlock lowTierEveryBlocks : Nat) : List Address :=
  let tiers := watchlist.addresses.foldl
    (sortIntoTiers watchlist (runLowTier currentBlock lowTierEveryBlocks)) ([], [])
  tiers.1 ++ tiers.2

/-- The sweep reads the whole low tier: it falls on a multiple of the interval, or
nobody is in the low tier. -/
def ReadsLowTier (watchlist : BoundedWatchlist) (currentBlock lowTierEveryBlocks : Nat) : Prop :=
  runLowTier currentBlock lowTierEveryBlocks = true ∨
    ∀ address ∈ watchlist.addresses, ¬ watchlist.LowTier address

/-- One turn takes its address up unless it is in the low tier and the block is no
multiple. -/
theorem mem_sortIntoTiers (watchlist : BoundedWatchlist) (low : Bool)
    (tiers : List Address × List Address) (address tested : Address) :
    tested ∈ (sortIntoTiers watchlist low tiers address).1 ++
        (sortIntoTiers watchlist low tiers address).2 ↔
      tested ∈ tiers.1 ++ tiers.2 ∨
        tested = address ∧ (¬ watchlist.LowTier tested ∨ low = true) := by
  have own (taken : ¬ watchlist.LowTier address ∨ low = true) :
      tested = address ∧ (¬ watchlist.LowTier tested ∨ low = true) ↔ tested = address := by
    constructor
    · exact fun both => both.1
    · rintro rfl
      exact ⟨rfl, taken⟩
  unfold sortIntoTiers
  cases read : watchlist.healthFactorOf address with
  | none =>
    rw [own (.inl (by simp [BoundedWatchlist.LowTier, read]))]
    simp only [List.mem_append, List.mem_singleton]
    tauto
  | some hf =>
    by_cases below : hf < PRE_LIQUIDATABLE_WAD
    · rw [own (.inl (by simpa [BoundedWatchlist.LowTier, read] using below))]
      simp only [below, if_true, List.mem_append, List.mem_singleton]
      tauto
    · cases low with
      | true =>
        rw [own (.inr rfl)]
        simp only [below, if_false, if_true, List.mem_append, List.mem_singleton]
        tauto
      | false =>
        have inLow : watchlist.LowTier address := by
          simpa [BoundedWatchlist.LowTier, read] using below
        simp only [below, if_false, Bool.false_eq_true, or_false, iff_self_or, and_imp]
        rintro rfl apart
        exact absurd inLow apart

/-- The loop: by induction on the addresses, with the two lists general. -/
theorem mem_foldl_sortIntoTiers (watchlist : BoundedWatchlist) (low : Bool)
    (addresses : List Address) (tiers : List Address × List Address) (tested : Address) :
    tested ∈ (addresses.foldl (sortIntoTiers watchlist low) tiers).1 ++
        (addresses.foldl (sortIntoTiers watchlist low) tiers).2 ↔
      tested ∈ tiers.1 ++ tiers.2 ∨
        tested ∈ addresses ∧ (¬ watchlist.LowTier tested ∨ low = true) := by
  induction addresses generalizing tiers with
  | nil => simp
  | cons address rest inductionHypothesis =>
    rw [List.foldl_cons, inductionHypothesis, mem_sortIntoTiers, List.mem_cons, or_and_right,
      or_assoc]

/-- The targets of a sweep: whoever is not in the low tier, and on a multiple of the
interval everybody. -/
theorem mem_filterAddressesForSweep (watchlist : BoundedWatchlist)
    (currentBlock lowTierEveryBlocks : Nat) (tested : Address) :
    tested ∈ filterAddressesForSweep watchlist currentBlock lowTierEveryBlocks ↔
      tested ∈ watchlist.addresses ∧
        (¬ watchlist.LowTier tested ∨ runLowTier currentBlock lowTierEveryBlocks = true) := by
  refine (mem_foldl_sortIntoTiers watchlist _ watchlist.addresses ([], []) tested).trans ?_
  simp

theorem readsLowTier_iff (watchlist : BoundedWatchlist) (currentBlock lowTierEveryBlocks : Nat) :
    (∀ address ∈ watchlist.addresses, watchlist.LowTier address →
        address ∈ filterAddressesForSweep watchlist currentBlock lowTierEveryBlocks) ↔
      ReadsLowTier watchlist currentBlock lowTierEveryBlocks := by
  simp only [mem_filterAddressesForSweep, ReadsLowTier]
  constructor
  · intro reads
    by_cases multiple : runLowTier currentBlock lowTierEveryBlocks = true
    · exact .inl multiple
    · refine .inr (fun address listed low => ?_)
      exact (reads address listed low).2.elim (fun apart => apart low) multiple
  · rintro (multiple | nobody) address listed low
    · exact ⟨listed, .inr multiple⟩
    · exact absurd low (nobody address listed)

/-! ## Sweeps -/

/-- A sweep as it begins: its block, the watchlist it finds and whom it reads. -/
structure TieredSweep where
  block : Nat
  watchlist : BoundedWatchlist
  targets : List Address

/-- The coordinator with its flags, the sweeps that wait for a head, and the sweeps
that have begun, oldest first. -/
structure SweepingCoordinator where
  coordinator : WatchlistCoordinator
  started : Bool
  sweepInFlight : Bool
  awaitingHead : Nat
  sweeps : List TieredSweep

/-- What happens to the coordinator: it starts or stops, the watchlist changes, a
sweep is asked for by a block or by the timer, the head that a sweep waits for is
read or the read fails, or the sweep of a block is over. -/
inductive SweepEvent where
  | start
  | stop
  | changed (call : WatchlistCall)
  | sweepAndRefresh (blockNumber : Option Nat)
  | pollBorrowers
  | headRead (block : Nat)
  | headFailed
  | sweepOver

namespace SweepingCoordinator

/-- A coordinator that is not started. -/
def initial (maxSize staleBlocks : Nat) : SweepingCoordinator :=
  ⟨.initial maxSize staleBlocks, false, false, 0, []⟩

/-- `runTieredSweep` from where its block is known to where its targets are. -/
def beginSweep (lowTierEveryBlocks : Nat) (state : SweepingCoordinator) (block : Nat) :
    SweepingCoordinator :=
  let watchlist := state.coordinator.watchlist
  { state with sweeps := state.sweeps ++
      [⟨block, watchlist, filterAddressesForSweep watchlist block lowTierEveryBlocks⟩] }

/-- `sweepAndRefresh` up to its first `await`. -/
def sweepAndRefresh (lowTierEveryBlocks : Nat) (state : SweepingCoordinator)
    (blockNumber : Option Nat) : SweepingCoordinator :=
  if !state.started || state.sweepInFlight then state
  else
    let flying := { state with sweepInFlight := true }
    match blockNumber with
    | some block => flying.beginSweep lowTierEveryBlocks block
    | none => { flying with awaitingHead := state.awaitingHead + 1 }

def step (lowTierEveryBlocks : Nat) (state : SweepingCoordinator) :
    SweepEvent → SweepingCoordinator
  | .start => { state with started := true }
  | .stop => { state with started := false }
  | .changed call => { state with coordinator := call.run state.coordinator }
  | .sweepAndRefresh blockNumber => state.sweepAndRefresh lowTierEveryBlocks blockNumber
  | .pollBorrowers => { state with awaitingHead := state.awaitingHead + 1 }
  | .headRead block =>
      if state.awaitingHead = 0 then state
      else { state with awaitingHead := state.awaitingHead - 1 }.beginSweep lowTierEveryBlocks block
  | .headFailed => { state with awaitingHead := state.awaitingHead - 1 }
  | .sweepOver => { state with sweepInFlight := false }

/-- A new coordinator after events. -/
def after (maxSize staleBlocks lowTierEveryBlocks : Nat) (events : List SweepEvent) :
    SweepingCoordinator :=
  events.foldl (step lowTierEveryBlocks) (initial maxSize staleBlocks)

end SweepingCoordinator

/-- The sweeps of a stretch whose first and last block are an interval apart. -/
structure Stretch (interval : Nat) (sweeps stretch : List TieredSweep) : Prop where
  within : stretch <:+: sweeps
  apart : ∃ first last, stretch.head? = some first ∧ stretch.getLast? = some last ∧
    first.block + interval ≤ last.block

/-- Nobody is starved: whoever is not in the low tier is read by every sweep, and
every stretch has a sweep that reads the whole low tier. -/
structure NotStarved (lowTierEveryBlocks : Nat) (sweeps : List TieredSweep) : Prop where
  highSignal : ∀ sweep ∈ sweeps, ∀ address ∈ sweep.watchlist.addresses,
    ¬ sweep.watchlist.LowTier address → address ∈ sweep.targets
  lowTier : ∀ stretch, Stretch lowTierEveryBlocks sweeps stretch →
    ∃ sweep ∈ stretch, ∀ address ∈ sweep.watchlist.addresses,
      sweep.watchlist.LowTier address → address ∈ sweep.targets

namespace SweepingCoordinator

variable {lowTierEveryBlocks : Nat} {state : SweepingCoordinator}

/-- Every sweep reads what `filterAddressesForSweep` selects. -/
def Selects (lowTierEveryBlocks : Nat) (state : SweepingCoordinator) : Prop :=
  ∀ sweep ∈ state.sweeps,
    sweep.targets = filterAddressesForSweep sweep.watchlist sweep.block lowTierEveryBlocks

theorem Selects.beginSweep (selects : state.Selects lowTierEveryBlocks) (block : Nat) :
    (state.beginSweep lowTierEveryBlocks block).Selects lowTierEveryBlocks := by
  intro sweep member
  rcases List.mem_append.mp member with earlier | now
  · exact selects sweep earlier
  · rw [List.mem_singleton.mp now]

theorem Selects.step (selects : state.Selects lowTierEveryBlocks) (event : SweepEvent) :
    (state.step lowTierEveryBlocks event).Selects lowTierEveryBlocks := by
  cases event with
  | start => exact selects
  | stop => exact selects
  | changed call => exact selects
  | sweepAndRefresh blockNumber =>
    simp only [SweepingCoordinator.step, sweepAndRefresh]
    split
    · exact selects
    · cases blockNumber with
      | some block =>
        apply Selects.beginSweep
        exact selects
      | none => exact selects
  | pollBorrowers => exact selects
  | headRead block =>
    simp only [SweepingCoordinator.step]
    split
    · exact selects
    · apply Selects.beginSweep
      exact selects
  | headFailed => exact selects
  | sweepOver => exact selects

theorem selects_after (maxSize staleBlocks lowTierEveryBlocks : Nat) (events : List SweepEvent) :
    (after maxSize staleBlocks lowTierEveryBlocks events).Selects lowTierEveryBlocks := by
  induction events using List.reverseRecOn with
  | nil =>
    intro sweep member
    cases member
  | append_singleton earlier event inductionHypothesis =>
    rw [after, List.foldl_append]
    exact inductionHypothesis.step event

/-- In every run nobody is starved exactly when each stretch of an interval has a
sweep on a multiple of it, or one that finds nobody in the low tier. -/
theorem notStarved_iff (maxSize staleBlocks lowTierEveryBlocks : Nat) (events : List SweepEvent) :
    NotStarved lowTierEveryBlocks
        (after maxSize staleBlocks lowTierEveryBlocks events).sweeps ↔
      ∀ stretch, Stretch lowTierEveryBlocks
          (after maxSize staleBlocks lowTierEveryBlocks events).sweeps stretch →
        ∃ sweep ∈ stretch, ReadsLowTier sweep.watchlist sweep.block lowTierEveryBlocks := by
  have selects := selects_after maxSize staleBlocks lowTierEveryBlocks events
  have reads (sweep : TieredSweep)
      (member : sweep ∈ (after maxSize staleBlocks lowTierEveryBlocks events).sweeps) :
      (∀ address ∈ sweep.watchlist.addresses, sweep.watchlist.LowTier address →
          address ∈ sweep.targets) ↔
        ReadsLowTier sweep.watchlist sweep.block lowTierEveryBlocks := by
    rw [selects sweep member]
    exact readsLowTier_iff _ _ _
  constructor
  · intro notStarved stretch wide
    obtain ⟨sweep, member, covers⟩ := notStarved.lowTier stretch wide
    exact ⟨sweep, member, (reads sweep (wide.within.subset member)).mp covers⟩
  · intro each
    constructor
    · intro sweep member address listed apart
      rw [selects sweep member, mem_filterAddressesForSweep]
      exact ⟨listed, .inl apart⟩
    · intro stretch wide
      obtain ⟨sweep, member, covers⟩ := each stretch wide
      exact ⟨sweep, member, (reads sweep (wide.within.subset member)).mpr covers⟩

/-- An account with a health factor of 1.15, and three announced blocks: the sweep of
the first is still in flight when the multiple comes. -/
def busyAtMultiple : List SweepEvent :=
  [.start, .changed (.add ⟨1, 0⟩ 100 (some PRE_LIQUIDATABLE_WAD)), .sweepAndRefresh (some 150),
    .sweepAndRefresh (some 200), .sweepOver, .sweepAndRefresh (some 251)]

/-- The sweeps at 150 and 251 are an interval of 100 apart, and neither reads the
account. -/
theorem starved_busyAtMultiple :
    ¬ NotStarved 100 (after 50000 50400 100 busyAtMultiple).sweeps := by
  intro notStarved
  obtain ⟨sweep, member, covers⟩ := notStarved.lowTier _
    ⟨List.infix_rfl, ⟨_, _, rfl, rfl, by decide⟩⟩
  rcases List.mem_cons.mp member with rfl | later
  · exact absurd (covers ⟨1, 0⟩ (by decide) (by decide)) (by decide)
  · cases List.mem_singleton.mp later
    exact absurd (covers ⟨1, 0⟩ (by decide) (by decide)) (by decide)

end SweepingCoordinator

end LiquidationBot
