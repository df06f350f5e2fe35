import LiquidationBot.EventDrivenWatchlist
import LiquidationBot.Library.Prefixes
import Mathlib.Data.Finset.Card

/-!
# The bound of the watchlist

A full watchlist makes room by forgetting its stale entries, and then stores the
added address whether or not room was made. The block an address was last seen at
is overwritten by whatever block the caller names, and the caller that registers
borrowers names none. That caller also tells new accounts by the size before and
after, which an eviction in between disturbs. So the list keeps its bound, its
blocks and its count along a run exactly as long as the adds of the run meet the
conditions below.
-/

namespace LiquidationBot

namespace BoundedWatchlist

def size (watchlist : BoundedWatchlist) : Nat := watchlist.map.size

def has (watchlist : BoundedWatchlist) (address : Address) : Bool :=
  watchlist.map.has address.toLowerCase

/-- `add` with its health factor; a missing one keeps the stored one. -/
def addHealth (watchlist : BoundedWatchlist) (address : Address) (blockNumber : Nat)
    (lastHealthFactor : Option Nat) : BoundedWatchlist :=
  let key := address.toLowerCase
  let kept := if watchlist.map.size ≥ watchlist.maxSize then watchlist.evictStale blockNumber
    else watchlist
  let hf := lastHealthFactor.or ((kept.map.get? key).bind BoundedWatchlistEntry.lastHealthFactor)
  { kept with map := kept.map.set key ⟨blockNumber, hf⟩, everAdded := kept.everAdded ++ [key] }

def updateHealthFactor (watchlist : BoundedWatchlist) (address : Address) (healthFactor : Nat) :
    BoundedWatchlist :=
  { watchlist with map := watchlist.map.modify address.toLowerCase (fun existing =>
      { existing with lastHealthFactor := some healthFactor }) }

def remove (watchlist : BoundedWatchlist) (address : Address) : BoundedWatchlist :=
  { watchlist with map := watchlist.map.delete address.toLowerCase }

/-- The entry is stale at a block. -/
def IsStale (watchlist : BoundedWatchlist) (blockNumber : Nat) (entry : BoundedWatchlistEntry) :
    Prop :=
  (blockNumber : Int) - entry.lastSeen > watchlist.staleBlocks

theorem add_eq_addHealth (watchlist : BoundedWatchlist) (address : Address) (blockNumber : Nat) :
    watchlist.add address blockNumber = watchlist.addHealth address blockNumber none := rfl

end BoundedWatchlist

/-- The watchlist with the coordinator's count of discovered borrowers. -/
structure WatchlistCoordinator where
  watchlist : BoundedWatchlist
  borrowersDiscovered : Nat

namespace WatchlistCoordinator

/-- The loop of `registerBorrowers`: the watchlist, and how often it has grown. -/
def registerEach (block : Nat) : BoundedWatchlist → List Address → BoundedWatchlist × Nat
  | watchlist, [] => (watchlist, 0)
  | watchlist, account :: rest =>
      let stored := watchlist.add account block
      let later := registerEach block stored rest
      (later.1, (if stored.size > watchlist.size then 1 else 0) + later.2)

/-- `registerBorrowers`. Metrics and logs are left out. -/
def registerBorrowers (coordinator : WatchlistCoordinator) (accounts : List Address)
    (blockNumber : Option Nat) : WatchlistCoordinator × Nat :=
  if accounts.isEmpty then (coordinator, 0)
  else
    let block := blockNumber.getD 0
    let registered := registerEach block coordinator.watchlist accounts
    (⟨registered.1, coordinator.borrowersDiscovered + registered.2⟩, registered.2)

end WatchlistCoordinator

/-- A call that changes the watchlist. -/
inductive WatchlistCall where
  | add (address : Address) (blockNumber : Nat) (lastHealthFactor : Option Nat)
  | updateHealthFactor (address : Address) (healthFactor : Nat)
  | remove (address : Address)
  | registerBorrowers (accounts : List Address) (blockNumber : Option Nat)

namespace WatchlistCall

/-- The coordinator after a call. -/
def run (coordinator : WatchlistCoordinator) : WatchlistCall → WatchlistCoordinator
  | .add address blockNumber lastHealthFactor =>
      { coordinator with
        watchlist := coordinator.watchlist.addHealth address blockNumber lastHealthFactor }
  | .updateHealthFactor address healthFactor =>
      { coordinator with
        watchlist := coordinator.watchlist.updateHealthFactor address healthFactor }
  | .remove address => { coordinator with watchlist := coordinator.watchlist.remove address }
  | .registerBorrowers accounts blockNumber =>
      (coordinator.registerBorrowers accounts blockNumber).1

end WatchlistCall

/-- A coordinator with an empty watchlist. -/
def WatchlistCoordinator.initial (maxSize staleBlocks : Nat) : WatchlistCoordinator :=
  ⟨⟨maxSize, staleBlocks, .empty, []⟩, 0⟩

/-- The coordinator after calls in order. -/
def WatchlistCoordinator.after (maxSize staleBlocks : Nat) (calls : List WatchlistCall) :
    WatchlistCoordinator :=
  calls.foldl WatchlistCall.run (.initial maxSize staleBlocks)

/-! ## One add -/

namespace BoundedWatchlist

/-- What an add starts from: the list, without its stale entries if it is full. -/
def kept (watchlist : BoundedWatchlist) (blockNumber : Nat) : BoundedWatchlist :=
  if watchlist.size ≥ watchlist.maxSize then watchlist.evictStale blockNumber else watchlist

/-- An add finds its address listed, or room, or a stale entry to make room. -/
def HasRoom (watchlist : BoundedWatchlist) (address : Address) (blockNumber : Nat) : Prop :=
  watchlist.has address = true ∨ watchlist.size < watchlist.maxSize ∨
    ∃ key entry, watchlist.map.get? key = some entry ∧ watchlist.IsStale blockNumber entry

/-- An add names no block before the one its address was last seen at. -/
def SeenBefore (watchlist : BoundedWatchlist) (address : Address) (blockNumber : Nat) : Prop :=
  ∀ entry, watchlist.map.get? address.toLowerCase = some entry → entry.lastSeen ≤ blockNumber

theorem get?_evictStale (watchlist : BoundedWatchlist) (blockNumber : Nat) (key : Address) :
    (watchlist.evictStale blockNumber).map.get? key =
      (watchlist.map.get? key).filter (fun entry =>
        decide ((blockNumber : Int) - entry.lastSeen ≤ watchlist.staleBlocks)) :=
  InsertionMap.get?_filter _ _ _

/-- What an add starts from has lost stale entries only, and those only if the
list was full. -/
theorem get?_kept {watchlist : BoundedWatchlist} {key : Address} {entry : BoundedWatchlistEntry}
    (blockNumber : Nat) (found : watchlist.map.get? key = some entry) :
    (watchlist.kept blockNumber).map.get? key = some entry ∨
      watchlist.size ≥ watchlist.maxSize ∧ watchlist.IsStale blockNumber entry ∧
        (watchlist.kept blockNumber).map.get? key = none := by
  unfold kept
  split
  next full =>
    rw [get?_evictStale, found, Option.filter_some]
    by_cases fresh : (blockNumber : Int) - entry.lastSeen ≤ watchlist.staleBlocks
    · exact Or.inl (by simp [fresh])
    · exact Or.inr ⟨full, by unfold IsStale; omega, by simp [fresh]⟩
  next => exact Or.inl found

theorem of_get?_kept {watchlist : BoundedWatchlist} {blockNumber : Nat} {key : Address}
    {entry : BoundedWatchlistEntry}
    (found : (watchlist.kept blockNumber).map.get? key = some entry) :
    watchlist.map.get? key = some entry := by
  unfold kept at found
  split at found
  next =>
    rw [get?_evictStale] at found
    exact (Option.filter_eq_some_iff.mp found).1
  next => exact found

theorem size_kept_le (watchlist : BoundedWatchlist) (blockNumber : Nat) :
    (watchlist.kept blockNumber).size ≤ watchlist.size := by
  unfold kept
  split
  · exact InsertionMap.size_filter_le _ _
  · exact Nat.le_refl _

theorem get?_addHealth (watchlist : BoundedWatchlist) (address : Address) (blockNumber : Nat)
    (lastHealthFactor : Option Nat) (key : Address) :
    ((watchlist.addHealth address blockNumber lastHealthFactor).map.get? key).map
        BoundedWatchlistEntry.lastSeen =
      if key = address.toLowerCase then some blockNumber
      else ((watchlist.kept blockNumber).map.get? key).map BoundedWatchlistEntry.lastSeen := by
  have stored : (watchlist.addHealth address blockNumber lastHealthFactor).map.get? key =
      if key = address.toLowerCase then some ⟨blockNumber, lastHealthFactor.or
        (((watchlist.kept blockNumber).map.get? address.toLowerCase).bind
          BoundedWatchlistEntry.lastHealthFactor)⟩
      else (watchlist.kept blockNumber).map.get? key := InsertionMap.get?_set _ _ _ _
  rw [stored]
  split <;> rfl

theorem size_addHealth (watchlist : BoundedWatchlist) (address : Address) (blockNumber : Nat)
    (lastHealthFactor : Option Nat) :
    (watchlist.addHealth address blockNumber lastHealthFactor).size =
      if (watchlist.kept blockNumber).has address then (watchlist.kept blockNumber).size
      else (watchlist.kept blockNumber).size + 1 :=
  InsertionMap.size_set _ _ _

/-- An add keeps the bound exactly when it has room. -/
theorem size_addHealth_le_iff {watchlist : BoundedWatchlist} (address : Address) (blockNumber : Nat)
    (lastHealthFactor : Option Nat) (bounded : watchlist.size ≤ watchlist.maxSize) :
    (watchlist.addHealth address blockNumber lastHealthFactor).size ≤ watchlist.maxSize ↔
      watchlist.HasRoom address blockNumber := by
  rw [size_addHealth]
  by_cases full : watchlist.size ≥ watchlist.maxSize
  · by_cases stale : ∃ key entry, watchlist.map.get? key = some entry ∧
        watchlist.IsStale blockNumber entry
    · have smaller : (watchlist.kept blockNumber).size < watchlist.size := by
        obtain ⟨key, entry, found, old⟩ := stale
        rw [kept, if_pos full]
        refine InsertionMap.size_filter_lt found ?_
        unfold IsStale at old
        simp
        omega
      refine iff_of_true ?_ (Or.inr (Or.inr stale))
      split <;> omega
    · have same : watchlist.kept blockNumber = watchlist := by
        rw [kept, if_pos full, evictStale, InsertionMap.filter_eq_self]
        intro key entry found
        have fresh : ¬ watchlist.IsStale blockNumber entry :=
          fun old => stale ⟨key, entry, found, old⟩
        unfold IsStale at fresh
        simp
        omega
      rw [same, HasRoom, or_iff_left stale, or_iff_left (by omega)]
      cases listed : watchlist.has address with
      | true => simpa using bounded
      | false =>
        simp
        omega
  · refine iff_of_true ?_ (Or.inr (Or.inl (by omega)))
    have small := watchlist.size_kept_le blockNumber
    split <;> omega

/-! ## What adds at one block forget -/

/-- The block an address was last seen at, while it is listed. -/
def lastSeenOf (watchlist : BoundedWatchlist) (key : Address) : Option Nat :=
  (watchlist.map.get? key).map BoundedWatchlistEntry.lastSeen

/-- A list changed by adds at one block: it forgets stale entries only, never
goes back to an earlier block, and stores no block but that of the adds. -/
structure Forgets (block : Nat) (before after : BoundedWatchlist) : Prop where
  maxSize : after.maxSize = before.maxSize
  staleBlocks : after.staleBlocks = before.staleBlocks
  stale : ∀ key seen, before.lastSeenOf key = some seen → after.lastSeenOf key = none →
    (block : Int) - seen > before.staleBlocks
  advances : ∀ key seen later, before.lastSeenOf key = some seen →
    after.lastSeenOf key = some later → seen ≤ later
  stores : ∀ key later, after.lastSeenOf key = some later →
    before.lastSeenOf key = some later ∨ later = block

theorem Forgets.refl (block : Nat) (watchlist : BoundedWatchlist) :
    Forgets block watchlist watchlist where
  maxSize := rfl
  staleBlocks := rfl
  stale := by
    intro key seen present absent
    rw [present] at absent
    cases absent
  advances := by
    intro key seen later present still
    rw [present] at still
    exact (Option.some.inj still).le
  stores := fun _ _ present => Or.inl present

theorem Forgets.trans {block : Nat} {before middle after : BoundedWatchlist}
    (first : Forgets block before middle) (second : Forgets block middle after) :
    Forgets block before after where
  maxSize := second.maxSize.trans first.maxSize
  staleBlocks := second.staleBlocks.trans first.staleBlocks
  stale := by
    intro key seen present absent
    cases between : middle.lastSeenOf key with
    | none => exact first.stale key seen present between
    | some later =>
      have old := second.stale key later between absent
      have grown := first.advances key seen later present between
      rw [first.staleBlocks] at old
      omega
  advances := by
    intro key seen later present still
    cases between : middle.lastSeenOf key with
    | some mid =>
      exact (first.advances key seen mid present between).trans
        (second.advances key mid later between still)
    | none =>
      -- forgotten as stale, and added again at the block that made it stale
      have old := first.stale key seen present between
      rcases second.stores key later still with earlier | rfl
      · rw [between] at earlier
        cases earlier
      · omega
  stores := by
    intro key later still
    rcases second.stores key later still with earlier | same
    · exact first.stores key later earlier
    · exact Or.inr same

theorem forgets_addHealth {watchlist : BoundedWatchlist} {address : Address} {blockNumber : Nat}
    (lastHealthFactor : Option Nat) (seenBefore : watchlist.SeenBefore address blockNumber) :
    Forgets blockNumber watchlist (watchlist.addHealth address blockNumber lastHealthFactor) := by
  have kept_settings : (watchlist.kept blockNumber).maxSize = watchlist.maxSize ∧
      (watchlist.kept blockNumber).staleBlocks = watchlist.staleBlocks := by
    unfold kept
    split <;> exact ⟨rfl, rfl⟩
  refine ⟨kept_settings.1, kept_settings.2, ?_, ?_, ?_⟩
  · intro key seen present absent
    rw [lastSeenOf, get?_addHealth] at absent
    split at absent
    · cases absent
    · obtain ⟨entry, found, rfl⟩ := Option.map_eq_some_iff.mp present
      rcases get?_kept blockNumber found with still | ⟨_, old, _⟩
      · rw [still] at absent
        cases absent
      · exact old
  · intro key seen later present still
    obtain ⟨entry, found, rfl⟩ := Option.map_eq_some_iff.mp present
    rw [lastSeenOf, get?_addHealth] at still
    split at still
    next here =>
      rw [← Option.some.inj still]
      exact seenBefore entry (here ▸ found)
    next =>
      obtain ⟨other, kept, rfl⟩ := Option.map_eq_some_iff.mp still
      have same := of_get?_kept kept
      rw [found] at same
      rw [Option.some.inj same]
  · intro key later still
    rw [lastSeenOf, get?_addHealth] at still
    split at still
    · exact Or.inr (Option.some.inj still).symm
    · obtain ⟨other, kept, rfl⟩ := Option.map_eq_some_iff.mp still
      exact Or.inl (by rw [lastSeenOf, of_get?_kept kept]; rfl)

/-! ## Registrations -/

/-- An add of a listed address does not make the list larger. -/
theorem size_add_listed {watchlist : BoundedWatchlist} {address : Address} (blockNumber : Nat)
    (listed : watchlist.has address = true) :
    (watchlist.add address blockNumber).size ≤ watchlist.size := by
  rw [add_eq_addHealth, size_addHealth]
  split
  next => exact watchlist.size_kept_le blockNumber
  next dropped =>
    obtain ⟨entry, found⟩ := Option.isSome_iff_exists.mp listed
    rcases get?_kept blockNumber found with still | ⟨full, old, _⟩
    · exact absurd (Option.isSome_iff_exists.mpr ⟨entry, still⟩) dropped
    · rw [kept, if_pos full]
      refine InsertionMap.size_filter_lt found ?_
      unfold IsStale at old
      simp
      omega

/-- An add of an address that is not listed, with room for it. -/
theorem size_add_new {watchlist : BoundedWatchlist} {address : Address} (blockNumber : Nat)
    (absent : watchlist.has address = false) (room : watchlist.size < watchlist.maxSize) :
    (watchlist.add address blockNumber).size = watchlist.size + 1 := by
  have same : watchlist.kept blockNumber = watchlist := if_neg (by omega)
  rw [add_eq_addHealth, size_addHealth, same, absent]
  rfl

/-- Each account of a registration is listed when it is added, or there is room
for it and it was not listed before the registration; and the block is not before
the one it was last seen at. -/
def AdmitsEach (before : BoundedWatchlist) (block : Nat) : BoundedWatchlist → List Address → Prop
  | _, [] => True
  | watchlist, account :: rest =>
      watchlist.SeenBefore account block ∧
        (watchlist.has account = true ∨
          watchlist.size < watchlist.maxSize ∧ before.has account = false) ∧
        AdmitsEach before block (watchlist.add account block) rest

/-- The accounts that are neither listed before nor among those added already. -/
def newAccounts (before : BoundedWatchlist) (added : List Address) (accounts : List Address) :
    Finset Address :=
  (accounts.map Address.toLowerCase).toFinset.filter (fun key =>
    before.map.has key = false ∧ key ∉ added)

end BoundedWatchlist

namespace WatchlistCoordinator

open BoundedWatchlist

variable {before watchlist : BoundedWatchlist} {block : Nat} {accounts added : List Address}

/-- A registration whose adds are admitted forgets no more than they do, and
keeps the bound. -/
theorem forgets_registerEach (admits : AdmitsEach before block watchlist accounts)
    (bounded : watchlist.size ≤ watchlist.maxSize) :
    Forgets block watchlist (registerEach block watchlist accounts).1 ∧
      (registerEach block watchlist accounts).1.size ≤ watchlist.maxSize := by
  induction accounts generalizing watchlist with
  | nil => exact ⟨.refl block watchlist, bounded⟩
  | cons account rest inductionHypothesis =>
    obtain ⟨seenBefore, listed, admits⟩ := admits
    have step : Forgets block watchlist (watchlist.add account block) :=
      forgets_addHealth none seenBefore
    have room : (watchlist.add account block).size ≤ watchlist.maxSize := by
      refine (size_addHealth_le_iff account block none bounded).mpr ?_
      exact listed.imp id (fun absent => Or.inl absent.1)
    obtain ⟨later, small⟩ := inductionHypothesis admits (by rw [step.maxSize]; exact room)
    rw [step.maxSize] at small
    exact ⟨step.trans later, small⟩

/-- The first account of a registration counts if it is new, and once. -/
theorem card_newAccounts_cons (account : Address) (rest : List Address) :
    (newAccounts before added (account :: rest)).card =
      (if before.has account = false ∧ account.toLowerCase ∉ added then 1 else 0) +
        (newAccounts before (account.toLowerCase :: added) rest).card := by
  have others : newAccounts before (account.toLowerCase :: added) rest =
      (newAccounts before added (account :: rest)).erase account.toLowerCase := by
    ext key
    simp only [newAccounts, List.map_cons, List.toFinset_cons, Finset.mem_filter, Finset.mem_erase,
      Finset.mem_insert, List.mem_cons, not_or]
    tauto
  rw [others]
  have here : account.toLowerCase ∈ newAccounts before added (account :: rest) ↔
      before.has account = false ∧ account.toLowerCase ∉ added := by
    simp [newAccounts, BoundedWatchlist.has]
  split
  next fresh =>
    have positive := Finset.card_pos.mpr ⟨_, here.mpr fresh⟩
    rw [Finset.card_erase_of_mem (here.mpr fresh)]
    omega
  next old =>
    rw [Finset.erase_eq_of_notMem (fun member => old (here.mp member)), Nat.zero_add]

/-- The accounts added so far are listed at the block of the registration, so no add
at that block forgets them; every other listed account was listed before. -/
structure Registering (before : BoundedWatchlist) (added : List Address) (block : Nat)
    (watchlist : BoundedWatchlist) : Prop where
  current : ∀ key ∈ added, watchlist.lastSeenOf key = some block
  origin : ∀ key, watchlist.map.has key = true → before.map.has key = true ∨ key ∈ added

theorem Registering.add (registering : Registering before added block watchlist)
    {account : Address} (seenBefore : watchlist.SeenBefore account block) :
    Registering before (account.toLowerCase :: added) block (watchlist.add account block) where
  current := by
    have step : Forgets block watchlist (watchlist.add account block) :=
      forgets_addHealth none seenBefore
    intro key earlier
    rcases List.mem_cons.mp earlier with rfl | earlier
    · rw [lastSeenOf, add_eq_addHealth, get?_addHealth, if_pos rfl]
    · cases still : (watchlist.add account block).lastSeenOf key with
      | none =>
        have old := step.stale key block (registering.current key earlier) still
        omega
      | some later =>
        rcases step.stores key later still with same | rfl
        · rw [← same]
          exact registering.current key earlier
        · rfl
  origin := by
    intro key present
    obtain ⟨entry, found⟩ := Option.isSome_iff_exists.mp present
    by_cases same : key = account.toLowerCase
    · exact Or.inr (same ▸ List.mem_cons_self)
    · have seen : (watchlist.add account block).lastSeenOf key = some entry.lastSeen := by
        rw [lastSeenOf, found]
        rfl
      rw [lastSeenOf, add_eq_addHealth, get?_addHealth, if_neg same] at seen
      obtain ⟨other, kept, _⟩ := Option.map_eq_some_iff.mp seen
      have listedBefore : watchlist.map.has key = true :=
        Option.isSome_iff_exists.mpr ⟨other, of_get?_kept kept⟩
      exact (registering.origin key listedBefore).imp id (List.mem_cons_of_mem _)

/-- The list grows with exactly the new accounts. -/
theorem Registering.grows (registering : Registering before added block watchlist)
    {account : Address} (listed : watchlist.has account = true ∨
      watchlist.size < watchlist.maxSize ∧ before.has account = false) :
    (if (watchlist.add account block).size > watchlist.size then 1 else 0) =
      if before.has account = false ∧ account.toLowerCase ∉ added then 1 else 0 := by
  cases present : watchlist.has account with
  | true =>
    have small := size_add_listed block present
    rw [if_neg (by omega), if_neg]
    rintro ⟨absentBefore, notAdded⟩
    rcases registering.origin _ present with earlier | earlier
    · rw [BoundedWatchlist.has, earlier] at absentBefore
      cases absentBefore
    · exact notAdded earlier
  | false =>
    obtain ⟨room, absentBefore⟩ := listed.resolve_left (by simp [present])
    have grown := size_add_new block present room
    rw [if_pos (by omega), if_pos]
    refine ⟨absentBefore, fun earlier => ?_⟩
    obtain ⟨entry, found, _⟩ := Option.map_eq_some_iff.mp (registering.current _ earlier)
    rw [BoundedWatchlist.has, InsertionMap.has, found] at present
    cases present

/-- An admitted registration counts the new accounts. -/
theorem count_registerEach (admits : AdmitsEach before block watchlist accounts)
    (registering : Registering before added block watchlist) :
    (registerEach block watchlist accounts).2 = (newAccounts before added accounts).card := by
  induction accounts generalizing watchlist added with
  | nil => rfl
  | cons account rest inductionHypothesis =>
    obtain ⟨seenBefore, listed, admits⟩ := admits
    rw [registerEach, card_newAccounts_cons, ← registering.grows listed]
    dsimp only
    rw [inductionHypothesis admits (registering.add seenBefore)]

end WatchlistCoordinator

/-! ## Runs -/

namespace WatchlistCall

open BoundedWatchlist WatchlistCoordinator Prefixes

/-- What a call may drop: an add or a registration a stale entry, a removal its
own. -/
def MayDrop (watchlist : BoundedWatchlist) (key : Address) (seen : Nat) : WatchlistCall → Prop
  | .add _ blockNumber _ => (blockNumber : Int) - seen > watchlist.staleBlocks
  | .registerBorrowers _ blockNumber =>
      ((blockNumber.getD 0 : Nat) : Int) - seen > watchlist.staleBlocks
  | .remove address => key = address.toLowerCase
  | .updateHealthFactor _ _ => False

/-- A call keeps the bound, drops only what it may, takes no listed address back
to an earlier block, and a registration answers the number of new accounts. -/
structure Keeps (coordinator : WatchlistCoordinator) (call : WatchlistCall) : Prop where
  bounded : (call.run coordinator).watchlist.size ≤ coordinator.watchlist.maxSize
  drops : ∀ key seen, coordinator.watchlist.lastSeenOf key = some seen →
    (call.run coordinator).watchlist.lastSeenOf key = none →
    call.MayDrop coordinator.watchlist key seen
  advances : ∀ key seen later, coordinator.watchlist.lastSeenOf key = some seen →
    (call.run coordinator).watchlist.lastSeenOf key = some later → seen ≤ later
  counts : ∀ accounts blockNumber, call = .registerBorrowers accounts blockNumber →
    (coordinator.registerBorrowers accounts blockNumber).2 =
      ((accounts.map Address.toLowerCase).toFinset.filter (fun key =>
        coordinator.watchlist.map.has key = false)).card

/-- An add has room and names no earlier block; a registration admits each of
its accounts. -/
def Admits (coordinator : WatchlistCoordinator) : WatchlistCall → Prop
  | .add address blockNumber _ =>
      coordinator.watchlist.HasRoom address blockNumber ∧
        coordinator.watchlist.SeenBefore address blockNumber
  | .registerBorrowers accounts blockNumber =>
      AdmitsEach coordinator.watchlist (blockNumber.getD 0) coordinator.watchlist accounts
  | _ => True

theorem lastSeenOf_updateHealthFactor (watchlist : BoundedWatchlist) (address : Address)
    (healthFactor : Nat) (key : Address) :
    (watchlist.updateHealthFactor address healthFactor).lastSeenOf key =
      watchlist.lastSeenOf key := by
  have stored : (watchlist.updateHealthFactor address healthFactor).map.get? key =
      if key = address.toLowerCase then (watchlist.map.get? address.toLowerCase).map (fun existing =>
        { existing with lastHealthFactor := some healthFactor }) else watchlist.map.get? key :=
    InsertionMap.get?_modify _ _ _ _
  rw [lastSeenOf, lastSeenOf, stored]
  split
  next same =>
    rw [Option.map_map, same]
    rfl
  next => rfl

theorem lastSeenOf_remove (watchlist : BoundedWatchlist) (address key : Address) :
    (watchlist.remove address).lastSeenOf key =
      if key = address.toLowerCase then none else watchlist.lastSeenOf key := by
  have stored : (watchlist.remove address).map.get? key =
      if key = address.toLowerCase then none else watchlist.map.get? key :=
    InsertionMap.get?_delete _ _ _
  rw [lastSeenOf, lastSeenOf, stored]
  split <;> rfl

theorem newAccounts_nil (watchlist : BoundedWatchlist) (accounts : List Address) :
    newAccounts watchlist [] accounts =
      (accounts.map Address.toLowerCase).toFinset.filter (fun key =>
        watchlist.map.has key = false) := by
  simp [newAccounts]

theorem registerBorrowers_eq (coordinator : WatchlistCoordinator) (accounts : List Address)
    (blockNumber : Option Nat) :
    (coordinator.registerBorrowers accounts blockNumber).1.watchlist =
        (registerEach (blockNumber.getD 0) coordinator.watchlist accounts).1 ∧
      (coordinator.registerBorrowers accounts blockNumber).2 =
        (registerEach (blockNumber.getD 0) coordinator.watchlist accounts).2 := by
  unfold WatchlistCoordinator.registerBorrowers
  cases accounts with
  | nil => exact ⟨rfl, rfl⟩
  | cons account rest => exact ⟨rfl, rfl⟩

/-- One admitted call of a list within its bound. -/
theorem keeps_of_admits {coordinator : WatchlistCoordinator} {call : WatchlistCall}
    (bounded : coordinator.watchlist.size ≤ coordinator.watchlist.maxSize)
    (admits : call.Admits coordinator) : call.Keeps coordinator := by
  cases call with
  | add address blockNumber lastHealthFactor =>
    have forgets := forgets_addHealth lastHealthFactor admits.2
    refine ⟨(size_addHealth_le_iff _ _ _ bounded).mpr admits.1, forgets.stale, forgets.advances, ?_⟩
    intro accounts block same
    cases same
  | updateHealthFactor address healthFactor =>
    have same := lastSeenOf_updateHealthFactor coordinator.watchlist address healthFactor
    refine ⟨?_, ?_, ?_, ?_⟩
    · exact le_of_eq_of_le (InsertionMap.size_modify _ _ _) bounded
    · intro key seen present absent
      rw [run, same, present] at absent
      cases absent
    · intro key seen later present still
      rw [run, same, present] at still
      exact (Option.some.inj still).le
    · intro accounts block same
      cases same
  | remove address =>
    have lookups := lastSeenOf_remove coordinator.watchlist address
    refine ⟨?_, ?_, ?_, ?_⟩
    · have shrunk := InsertionMap.size_delete coordinator.watchlist.map address.toLowerCase
      exact (Nat.le.intro shrunk).trans bounded
    · intro key seen present absent
      rw [run, lookups] at absent
      split at absent
      next same => exact same
      next =>
        rw [present] at absent
        cases absent
    · intro key seen later present still
      rw [run, lookups] at still
      split at still
      · cases still
      · rw [present] at still
        exact (Option.some.inj still).le
    · intro accounts block same
      cases same
  | registerBorrowers accounts blockNumber =>
    obtain ⟨after, answer⟩ := registerBorrowers_eq coordinator accounts blockNumber
    obtain ⟨forgets, small⟩ := forgets_registerEach admits bounded
    rw [← after] at forgets small
    refine ⟨small, forgets.stale, forgets.advances, ?_⟩
    rintro named block ⟨⟩
    rw [answer, ← newAccounts_nil]
    exact count_registerEach admits ⟨nofun, fun key present => Or.inl present⟩

theorem maxSize_run (coordinator : WatchlistCoordinator) (call : WatchlistCall) :
    (call.run coordinator).watchlist.maxSize = coordinator.watchlist.maxSize := by
  have kept_maxSize : ∀ (watchlist : BoundedWatchlist) (blockNumber : Nat),
      (watchlist.kept blockNumber).maxSize = watchlist.maxSize := by
    intro watchlist blockNumber
    unfold kept
    split <;> rfl
  cases call with
  | add address blockNumber lastHealthFactor => exact kept_maxSize _ _
  | updateHealthFactor address healthFactor => rfl
  | remove address => rfl
  | registerBorrowers accounts blockNumber =>
    rw [run, (registerBorrowers_eq coordinator accounts blockNumber).1]
    generalize coordinator.watchlist = watchlist
    induction accounts generalizing watchlist with
    | nil => rfl
    | cons account rest inductionHypothesis =>
      exact (inductionHypothesis _).trans (kept_maxSize _ _)

/-- After a run the list is within the bound it was made with. -/
def Within (maxSize staleBlocks : Nat) (past : List WatchlistCall) : Prop :=
  (WatchlistCoordinator.after maxSize staleBlocks past).watchlist.maxSize = maxSize ∧
    (WatchlistCoordinator.after maxSize staleBlocks past).watchlist.size ≤ maxSize

/-- An admitted call at the end of a run within the bound. -/
theorem Within.keeps {maxSize staleBlocks : Nat} {past : List WatchlistCall} {call : WatchlistCall}
    (within : Within maxSize staleBlocks past)
    (admits : call.Admits (.after maxSize staleBlocks past)) :
    call.Keeps (.after maxSize staleBlocks past) :=
  keeps_of_admits (by rw [within.1]; exact within.2) admits

theorem Within.snoc {maxSize staleBlocks : Nat} {past : List WatchlistCall} {call : WatchlistCall}
    (within : Within maxSize staleBlocks past)
    (admits : call.Admits (.after maxSize staleBlocks past)) :
    Within maxSize staleBlocks (past ++ [call]) := by
  have after : WatchlistCoordinator.after maxSize staleBlocks (past ++ [call]) =
      call.run (.after maxSize staleBlocks past) := List.foldl_append
  rw [Within, after, maxSize_run]
  exact ⟨within.1, (within.keeps admits).bounded.trans_eq within.1⟩

/-- In every run whose calls are all admitted the list stays within its bound,
and every call drops only what it may, takes no address back, and counts the new
accounts. -/
theorem watchlist_bounded (maxSize staleBlocks : Nat) (calls : List WatchlistCall)
    (admitted : EachStep (fun past call => call.Admits (.after maxSize staleBlocks past)) calls) :
    Always (fun past => (WatchlistCoordinator.after maxSize staleBlocks past).watchlist.size ≤
        maxSize) calls ∧
      EachStep (fun past call => call.Keeps (.after maxSize staleBlocks past)) calls := by
  have within : ∀ past, past <+: calls → Within maxSize staleBlocks past := by
    intro past initial
    have each : EachStep (fun past call =>
        WatchlistCall.Admits (.after maxSize staleBlocks past) call) past :=
      fun earlier call step => admitted earlier call (step.trans initial)
    have empty : Within maxSize staleBlocks [] := ⟨rfl, Nat.zero_le _⟩
    exact each.invariant empty (fun _ _ within admits => within.snoc admits)
  refine ⟨fun past initial => (within past initial).2, fun past call step => ?_⟩
  exact (within past ((List.prefix_append past [call]).trans step)).keeps
    (admitted past call step)

/-- A list of two with a stale entry. -/
def fullList : List WatchlistCall := [.add ⟨1, 0⟩ 1 none, .add ⟨2, 0⟩ 95 none]

/-- It takes a third address, once the first is stale. -/
def roomMade : List WatchlistCall := fullList ++ [.add ⟨3, 0⟩ 100 none]

/-- An add of an address that is not listed names no earlier block. -/
theorem seenBefore_of_absent {watchlist : BoundedWatchlist} {address : Address} {blockNumber : Nat}
    (absent : watchlist.map.get? address.toLowerCase = none) :
    watchlist.SeenBefore address blockNumber := by
  intro entry found
  rw [absent] at found
  cases found

theorem watchlist_bounded_roomMade :
    Always (fun past => (WatchlistCoordinator.after 2 10 past).watchlist.size ≤ 2) roomMade := by
  refine (watchlist_bounded 2 10 roomMade ?_).1
  have none : EachStep (fun past call =>
      WatchlistCall.Admits (.after 2 10 past) call) ([] : List WatchlistCall) :=
    fun past call step => by simp at step
  refine (eachStep_snoc _ fullList _).mpr ⟨?_, ?_⟩
  · refine (eachStep_snoc _ [WatchlistCall.add ⟨1, 0⟩ 1 .none] _).mpr ⟨?_, ?_⟩
    · refine (eachStep_snoc _ [] _).mpr ⟨none, ?_⟩
      exact ⟨Or.inr (Or.inl (by decide)), seenBefore_of_absent (by decide)⟩
    · exact ⟨Or.inr (Or.inl (by decide)), seenBefore_of_absent (by decide)⟩
  · refine ⟨Or.inr (Or.inr ⟨⟨1, 0⟩, ⟨1, .none⟩, by decide, ?_⟩), seenBefore_of_absent (by decide)⟩
    unfold IsStale
    decide

/-- Without the conditions: a full list of fresh entries takes a third, a
registration takes an address back to block zero, and one that makes room answers
that its account is not new. -/
theorem watchlist_unbounded :
    (WatchlistCoordinator.after 2 10
        [.add ⟨1, 0⟩ 100 none, .add ⟨2, 0⟩ 100 none, .add ⟨3, 0⟩ 100 none]).watchlist.size = 3 ∧
      (WatchlistCoordinator.after 2 10 [.add ⟨1, 0⟩ 100 none, .registerBorrowers [⟨1, 0⟩] none]
        ).watchlist.lastSeenOf ⟨1, 0⟩ = some 0 ∧
      ((WatchlistCoordinator.after 2 10 fullList).registerBorrowers [⟨3, 0⟩] (some 100)).2 = 0 ∧
      ¬ ∀ (maxSize staleBlocks : Nat) (calls : List WatchlistCall), 1 ≤ maxSize →
        Always (fun past => (WatchlistCoordinator.after maxSize staleBlocks past).watchlist.size ≤
          maxSize) calls ∧
        EachStep (fun past call => call.Keeps (.after maxSize staleBlocks past)) calls := by
  have third : (WatchlistCoordinator.after 2 10
      [.add ⟨1, 0⟩ 100 none, .add ⟨2, 0⟩ 100 none, .add ⟨3, 0⟩ 100 none]).watchlist.size = 3 := by
    decide
  refine ⟨third, by decide, by decide, fun holds => ?_⟩
  have small := (holds 2 10 _ (by decide)).1 _
    (List.prefix_refl [.add ⟨1, 0⟩ 100 none, .add ⟨2, 0⟩ 100 none, .add ⟨3, 0⟩ 100 none])
  dsimp only at small
  rw [third] at small
  exact absurd small (by decide)

end WatchlistCall

end LiquidationBot
