import LiquidationBot.CacheIndex
import LiquidationBot.Library.Prefixes
import LiquidationBot.Library.Recency

/-!
# Runs of the borrower cache

A pruning keeps the entries stored last of those that have not expired. The order
of the entries is the order in which borrowers were first stored, and upserting
one again does not move it. What the limit takes is therefore the snapshot
upserted least recently unless the entry at the front has been upserted again.
-/

namespace LiquidationBot

/-- A call of the cache, with the time of its pruning. -/
inductive CacheCall where
  | upsert (nowMs : Int) (snapshot : BorrowerSnapshot)
  | listSnapshots (nowMs : Int) (chain : SupportedChain)
  | listAccountsForReserve (nowMs : Int) (chain : SupportedChain) (reserve : Address)
deriving DecidableEq

namespace CacheCall

open ReserveAwareBorrowerCache Prefixes Recency

def nowMs : CacheCall → Int
  | .upsert nowMs _ => nowMs
  | .listSnapshots nowMs _ => nowMs
  | .listAccountsForReserve nowMs _ _ => nowMs

/-- The cache as a call leaves it. -/
def run (cache : ReserveAwareBorrowerCache) : CacheCall → ReserveAwareBorrowerCache
  | .upsert nowMs snapshot => cache.upsert nowMs snapshot
  | .listSnapshots nowMs _ => cache.prune nowMs
  | .listAccountsForReserve nowMs _ _ => cache.prune nowMs

/-- The cache that a call prunes. -/
def stored (cache : ReserveAwareBorrowerCache) : CacheCall → ReserveAwareBorrowerCache
  | .upsert _ snapshot => cache.storeSnapshot snapshot
  | .listSnapshots _ _ => cache
  | .listAccountsForReserve _ _ _ => cache

theorem run_eq (cache : ReserveAwareBorrowerCache) (call : CacheCall) :
    call.run cache = (call.stored cache).prune call.nowMs := by
  cases call with
  | upsert nowMs snapshot => exact upsert_eq_prune cache nowMs snapshot
  | listSnapshots nowMs chain => rfl
  | listAccountsForReserve nowMs chain reserve => rfl

/-- The key that a call upserts. -/
def upserted : CacheCall → Option CacheKey
  | .upsert _ snapshot => some snapshot.key
  | .listSnapshots _ _ => none
  | .listAccountsForReserve _ _ _ => none

/-- The keys upserted by a run, oldest first. -/
def upserts (calls : List CacheCall) : List CacheKey := calls.filterMap upserted

/-- The cache after a run. -/
def after (start : ReserveAwareBorrowerCache) (calls : List CacheCall) :
    ReserveAwareBorrowerCache :=
  calls.foldl run start

theorem after_snoc (start : ReserveAwareBorrowerCache) (calls : List CacheCall) (call : CacheCall) :
    after start (calls ++ [call]) = call.run (after start calls) := by
  rw [after, List.foldl_append]
  rfl

/-- What a call drops for the limit is less recent than all that stays. -/
def EvictsLeastRecent (start : ReserveAwareBorrowerCache) (past : List CacheCall)
    (call : CacheCall) : Prop :=
  ∀ evicted ∈ ((call.stored (after start past)).unexpired call.nowMs).map Prod.fst,
    (after start (past ++ [call])).snapshots.has evicted = false →
      ∀ other, (after start (past ++ [call])).snapshots.has other = true →
        LastBefore (upserts (past ++ [call])) evicted other

/-- A snapshot for a new borrower arrives at a full cache, and the entry stored
longest of those that have not expired was upserted again after another. -/
def MeetsRefreshed (past : List CacheCall) (cache : ReserveAwareBorrowerCache) : CacheCall → Prop
  | .upsert nowMs snapshot =>
      cache.snapshots.has snapshot.key = false ∧ cache.expired nowMs snapshot = false ∧
        ∃ oldest rest, cache.unexpired nowMs = oldest :: rest ∧ rest.length + 1 = cache.maxEntries ∧
          ∃ other ∈ rest, LastBefore (upserts past) other.1 oldest.1
  | .listSnapshots _ _ => False
  | .listAccountsForReserve _ _ _ => False

section Step

variable {start : ReserveAwareBorrowerCache} {past : List CacheCall} {call : CacheCall}

theorem maxEntries_stored (cache : ReserveAwareBorrowerCache) (call : CacheCall) :
    (call.stored cache).maxEntries = cache.maxEntries := by
  cases call with
  | upsert nowMs snapshot =>
    unfold stored storeSnapshot
    dsimp only
    cases cache.snapshots.get? (cacheKey snapshot.chain snapshot.account) with
    | none => rfl
    | some previous => rfl
  | listSnapshots nowMs chain => rfl
  | listAccountsForReserve nowMs chain reserve => rfl

theorem maxEntries_run (cache : ReserveAwareBorrowerCache) (call : CacheCall) :
    (call.run cache).maxEntries = cache.maxEntries := by
  rw [run_eq, (limits_prune_always _ _).1, maxEntries_stored]

theorem upserts_snoc (past : List CacheCall) (call : CacheCall) :
    upserts (past ++ [call]) = upserts past ++ call.upserted.toList := by
  rw [upserts, List.filterMap_append]
  rfl

/-- What every call leaves: maps in step, no more entries than the limit, and only
what was upserted. -/
structure Reached (past : List CacheCall) (cache : ReserveAwareBorrowerCache) : Prop where
  indexed : cache.Indexed
  limit : cache.snapshots.size ≤ cache.maxEntries
  known : ∀ key, cache.snapshots.has key = true → key ∈ upserts past

theorem reached_create (maxEntries : Option Nat) (ttlMs : Option Int) :
    Reached [] (create maxEntries ttlMs) where
  indexed := indexed_create maxEntries ttlMs
  limit := Nat.zero_le _
  known := nofun

/-- The keys that a call leaves. -/
theorem has_run_iff (cache : ReserveAwareBorrowerCache) (call : CacheCall) (key : CacheKey) :
    (call.run cache).snapshots.has key = true ↔
      key ∈ (((call.stored cache).unexpired call.nowMs).drop
        (((call.stored cache).unexpired call.nowMs).length - cache.maxEntries)).map Prod.fst := by
  rw [run_eq, ← InsertionMap.mem_keys_iff, InsertionMap.keys, entries_prune, maxEntries_stored]

/-- Every call keeps what the calls before it have left. -/
theorem Reached.run {cache : ReserveAwareBorrowerCache} (reached : Reached past cache)
    (call : CacheCall) : Reached (past ++ [call]) (call.run cache) := by
  have storedIndexed : (call.stored cache).Indexed := by
    cases call with
    | upsert nowMs snapshot => exact reached.indexed.storeSnapshot snapshot
    | listSnapshots nowMs chain => exact reached.indexed
    | listAccountsForReserve nowMs chain reserve => exact reached.indexed
  have storedKnown : ∀ key, (call.stored cache).snapshots.has key = true →
      key ∈ upserts (past ++ [call]) := by
    intro key present
    rw [upserts_snoc, List.mem_append]
    cases call with
    | upsert nowMs snapshot =>
      rw [stored, (snapshots_storeSnapshot cache snapshot).1, InsertionMap.has_set,
        Bool.or_eq_true, decide_eq_true_iff] at present
      rcases present with rfl | before
      · exact Or.inr (by simp [upserted])
      · exact Or.inl (reached.known key before)
    | listSnapshots nowMs chain => exact Or.inl (reached.known key present)
    | listAccountsForReserve nowMs chain reserve => exact Or.inl (reached.known key present)
  refine ⟨?_, ?_, ?_⟩
  · rw [run_eq]
    exact storedIndexed.prune call.nowMs
  · rw [maxEntries_run, run_eq, ← maxEntries_stored cache call]
    exact size_prune_le call.nowMs
  · intro key present
    apply storedKnown
    rw [has_run_iff] at present
    obtain ⟨entry, member, rfl⟩ := List.mem_map.mp present
    rw [← InsertionMap.mem_keys_iff]
    exact List.mem_map.mpr
      ⟨entry, List.mem_of_mem_filter (List.mem_of_mem_drop member), rfl⟩

theorem reached_after (maxEntries : Option Nat) (ttlMs : Option Int) (calls : List CacheCall) :
    Reached calls (after (create maxEntries ttlMs) calls) := by
  induction calls using List.reverseRecOn with
  | nil => exact reached_create maxEntries ttlMs
  | append_singleton past call inductionHypothesis =>
    rw [after_snoc]
    exact inductionHypothesis.run call

/-- A call that leaves room drops nothing for the limit. -/
theorem evictsLeastRecent_of_room
    (room : ((call.stored (after start past)).unexpired call.nowMs).length ≤
      (after start past).maxEntries) : EvictsLeastRecent start past call := by
  intro evicted member gone
  have kept : (after start (past ++ [call])).snapshots.has evicted = true := by
    rw [after_snoc, has_run_iff, Nat.sub_eq_zero_of_le room]
    exact member
  rw [kept] at gone
  cases gone

/-- A new borrower's snapshot comes last. -/
theorem unexpired_storeSnapshot {cache : ReserveAwareBorrowerCache} {snapshot : BorrowerSnapshot}
    (fresh : cache.snapshots.has snapshot.key = false) (nowMs : Int) :
    (cache.storeSnapshot snapshot).unexpired nowMs = cache.unexpired nowMs ++
      if cache.expired nowMs snapshot then [] else [(snapshot.key, snapshot)] := by
  obtain ⟨snapshots, ttl⟩ := snapshots_storeSnapshot cache snapshot
  have entries : (cache.storeSnapshot snapshot).snapshots.entries =
      cache.snapshots.entries ++ [(snapshot.key, snapshot)] := by
    rw [snapshots]
    exact InsertionMap.insert_of_absent snapshot ((InsertionMap.has_eq_false_iff _ _).mp fresh)
  have same : ∀ held, (cache.storeSnapshot snapshot).expired nowMs held =
      cache.expired nowMs held := by
    intro held
    rw [expired, expired, ttl]
  simp only [unexpired, entries, same, List.filter_append]
  congr 1
  cases old : cache.expired nowMs snapshot with
  | true => simp [old]
  | false => simp [old]

theorem length_unexpired_le (cache : ReserveAwareBorrowerCache) (nowMs : Int) :
    (cache.unexpired nowMs).length ≤ cache.snapshots.size :=
  List.length_filter_le _ _

theorem has_of_mem_unexpired {cache : ReserveAwareBorrowerCache} {nowMs : Int}
    {entry : CacheKey × BorrowerSnapshot} (member : entry ∈ cache.unexpired nowMs) :
    cache.snapshots.has entry.1 = true := by
  have found := (InsertionMap.mem_entries_iff _ _ _).mp (List.mem_of_mem_filter member)
  exact Option.isSome_iff_exists.mpr ⟨entry.2, found⟩

theorem nodup_unexpired (cache : ReserveAwareBorrowerCache) (nowMs : Int) :
    ((cache.unexpired nowMs).map Prod.fst).Nodup :=
  cache.snapshots.distinct.sublist (List.filter_sublist.map Prod.fst)

section Full

variable {nowMs : Int} {snapshot : BorrowerSnapshot} {oldest : CacheKey × BorrowerSnapshot}
  {rest : List (CacheKey × BorrowerSnapshot)}

/-- A new borrower's snapshot comes behind the entries that have not expired. -/
theorem unexpired_stored_upsert (fresh : (after start past).snapshots.has snapshot.key = false)
    (young : (after start past).expired nowMs snapshot = false)
    (live : (after start past).unexpired nowMs = oldest :: rest) :
    ((CacheCall.upsert nowMs snapshot).stored (after start past)).unexpired nowMs =
      oldest :: (rest ++ [(snapshot.key, snapshot)]) := by
  refine (unexpired_storeSnapshot fresh nowMs).trans ?_
  rw [live, young]
  rfl

/-- What is left of a full cache when it arrives. -/
theorem has_upsert_full_iff (fresh : (after start past).snapshots.has snapshot.key = false)
    (young : (after start past).expired nowMs snapshot = false)
    (live : (after start past).unexpired nowMs = oldest :: rest)
    (full : rest.length + 1 = (after start past).maxEntries) (key : CacheKey) :
    (after start (past ++ [.upsert nowMs snapshot])).snapshots.has key = true ↔
      key ∈ rest.map Prod.fst ∨ key = snapshot.key := by
  have one : (oldest :: (rest ++ [(snapshot.key, snapshot)])).length -
      (after start past).maxEntries = 1 := by
    rw [List.length_cons, List.length_append, List.length_singleton, ← full]
    omega
  have pruned : ((CacheCall.upsert nowMs snapshot).stored (after start past)).unexpired
      (CacheCall.upsert nowMs snapshot).nowMs = oldest :: (rest ++ [(snapshot.key, snapshot)]) :=
    unexpired_stored_upsert fresh young live
  rw [after_snoc, has_run_iff, pruned, one, List.drop_one, List.tail_cons, List.map_append,
    List.mem_append, List.map_singleton, List.mem_singleton]

/-- At a full cache a new borrower's snapshot takes the place of the entry stored
longest. -/
theorem evictsLeastRecent_full_iff (reached : Reached past (after start past))
    (fresh : (after start past).snapshots.has snapshot.key = false)
    (young : (after start past).expired nowMs snapshot = false)
    (live : (after start past).unexpired nowMs = oldest :: rest)
    (full : rest.length + 1 = (after start past).maxEntries) :
    EvictsLeastRecent start past (.upsert nowMs snapshot) ↔
      ∀ other ∈ rest, ¬ LastBefore (upserts past) other.1 oldest.1 := by
  have present : ∀ entry ∈ oldest :: rest, (after start past).snapshots.has entry.1 = true :=
    fun entry member => has_of_mem_unexpired (live ▸ member)
  have notNew : ∀ entry ∈ oldest :: rest, entry.1 ≠ snapshot.key := by
    intro entry member same
    rw [← same, present entry member] at fresh
    cases fresh
  have distinct := nodup_unexpired (after start past) nowMs
  rw [live, List.map_cons, List.nodup_cons] at distinct
  have kept := has_upsert_full_iff fresh young live full
  have order : ∀ other ∈ rest, LastBefore (upserts (past ++ [.upsert nowMs snapshot])) oldest.1
      other.1 ↔ ¬ LastBefore (upserts past) other.1 oldest.1 := by
    intro other member
    have different : oldest.1 ≠ other.1 := fun same =>
      distinct.1 (List.mem_map.mpr ⟨other, member, same.symm⟩)
    rw [upserts_snoc, upserted, Option.toList_some, lastBefore_snoc,
      and_iff_right (notNew oldest List.mem_cons_self),
      or_iff_right (notNew other (List.mem_cons_of_mem _ member))]
    apply lastBefore_iff_not different
    exact reached.known other.1 (present other (List.mem_cons_of_mem _ member))
  unfold EvictsLeastRecent
  dsimp only [CacheCall.nowMs]
  rw [unexpired_stored_upsert fresh young live]
  constructor
  · intro evicts other member
    rw [← order other member]
    refine evicts oldest.1 List.mem_cons_self ?_ other.1 ((kept other.1).mpr ?_)
    · rw [← Bool.not_eq_true, kept]
      rintro (inside | new)
      · exact distinct.1 inside
      · exact notNew oldest List.mem_cons_self new
    · exact Or.inl (List.mem_map.mpr ⟨other, member, rfl⟩)
  · intro safe evicted member gone other held
    rw [← Bool.not_eq_true, kept, not_or] at gone
    rw [List.map_cons, List.map_append, List.mem_cons, List.mem_append,
      List.map_singleton, List.mem_singleton] at member
    have first : evicted = oldest.1 := member.resolve_right (by tauto)
    subst first
    rcases (kept other).mp held with inside | rfl
    · obtain ⟨entry, listed, rfl⟩ := List.mem_map.mp inside
      exact (order entry listed).mpr (safe entry listed)
    · rw [upserts_snoc, upserted, Option.toList_some, lastBefore_snoc]
      exact ⟨notNew oldest List.mem_cons_self, Or.inl rfl⟩

end Full

/-- The least recent one is dropped exactly if it is not a refreshed one that a call
meets at the front. -/
theorem evictsLeastRecent_iff (reached : Reached past (after start past)) :
    EvictsLeastRecent start past call ↔ ¬ call.MeetsRefreshed past (after start past) := by
  have small := fun nowMs => (length_unexpired_le (after start past) nowMs).trans reached.limit
  cases call with
  | listSnapshots nowMs chain =>
    exact iff_of_true (evictsLeastRecent_of_room (small nowMs)) id
  | listAccountsForReserve nowMs chain reserve =>
    exact iff_of_true (evictsLeastRecent_of_room (small nowMs)) id
  | upsert nowMs snapshot =>
    rw [MeetsRefreshed]
    cases known : (after start past).snapshots.has snapshot.key with
    | true =>
      refine iff_of_true (evictsLeastRecent_of_room ?_) (fun both => by cases both.1)
      have size := InsertionMap.size_set (after start past).snapshots snapshot.key snapshot
      rw [if_pos known, ← (snapshots_storeSnapshot _ snapshot).1] at size
      exact (length_unexpired_le _ nowMs).trans (size.trans_le reached.limit)
    | false =>
      have live := unexpired_storeSnapshot known nowMs
      cases young : (after start past).expired nowMs snapshot with
      | true =>
        refine iff_of_true (evictsLeastRecent_of_room ?_) (fun both => by cases both.2.1)
        rw [young, if_pos rfl, List.append_nil] at live
        exact (congrArg List.length live).trans_le (small nowMs)
      | false =>
        rw [young, if_neg Bool.false_ne_true] at live
        have length := congrArg List.length live
        rw [List.length_append, List.length_singleton] at length
        have bound := small nowMs
        cases entries : (after start past).unexpired nowMs with
        | nil =>
          rw [entries, List.length_nil] at length
          refine iff_of_true ?_ ?_
          · by_cases room : 1 ≤ (after start past).maxEntries
            · exact evictsLeastRecent_of_room (length.trans_le room)
            · intro evicted _ _ other present
              rw [after_snoc, has_run_iff, show (after start past).maxEntries = 0 by omega,
                Nat.sub_zero, List.drop_length] at present
              cases present
          · rintro ⟨_, _, oldest, rest, same, _⟩
            cases same
        | cons oldest rest =>
          rw [entries, List.length_cons] at length bound
          by_cases full : rest.length + 1 = (after start past).maxEntries
          · rw [evictsLeastRecent_full_iff reached known young entries full]
            constructor
            · rintro safe ⟨_, _, first, others, same, _, other, member, before⟩
              cases same
              exact safe other member before
            · intro safe other member before
              exact safe ⟨rfl, rfl, oldest, rest, rfl, full, other, member, before⟩
          · refine iff_of_true (evictsLeastRecent_of_room ?_) ?_
            · exact length.trans_le (by omega)
            · rintro ⟨_, _, first, others, same, here, _⟩
              cases same
              exact full here

/-- In every run the lists, the counts and the limit of the cache are right, and
the limit takes the least recent one as long as no call meets a refreshed one at the
front of a full cache. -/
theorem index_consistent_and_evicts_iff (maxEntries : Option Nat) (ttlMs : Option Int)
    (calls : List CacheCall) :
    (Always (fun past => (after (create maxEntries ttlMs) past).Consistent) calls ∧
        EachStep (EvictsLeastRecent (create maxEntries ttlMs)) calls) ↔
      EachStep (fun past call =>
        ¬ call.MeetsRefreshed past (after (create maxEntries ttlMs) past)) calls := by
  have consistent : Always (fun past => (after (create maxEntries ttlMs) past).Consistent)
      calls := by
    intro past _
    have reached := reached_after maxEntries ttlMs past
    exact reached.indexed.consistent reached.limit
  rw [and_iff_right consistent]
  apply eachStep_congr
  intro past call _
  exact evictsLeastRecent_iff (reached_after maxEntries ttlMs past)

/-- A borrower that a full cache has met twice makes way for a new one, though
another has not been heard of since. -/
theorem refreshed_snapshot_evicted :
    let borrower (value : Nat) : BorrowerSnapshot := ⟨.base, ⟨value, 0⟩, WAD, [], 0⟩
    let calls := [borrower 1, borrower 2, borrower 1, borrower 3].map (CacheCall.upsert 0)
    ¬ (Always (fun past => (after (create (some 2) none) past).Consistent) calls ∧
      EachStep (EvictsLeastRecent (create (some 2) none)) calls) := by
  intro borrower calls both
  have first : LastBefore (upserts calls) (borrower 1).key (borrower 2).key :=
    both.2 ([borrower 1, borrower 2, borrower 1].map (CacheCall.upsert 0))
      (.upsert 0 (borrower 3)) List.prefix_rfl (borrower 1).key (by decide) (by decide)
      (borrower 2).key (by decide)
  refine lastBefore_asymm first ?_
  exact ⟨[(borrower 1).key, (borrower 2).key], [(borrower 1).key, (borrower 3).key], rfl,
    by decide, by decide⟩

end Step

end CacheCall

end LiquidationBot
