import LiquidationBot.BorrowerCache

/-!
# What the borrower cache holds

As long as the cache has room for what is delivered to it, it holds for every
borrower the snapshot delivered last, until that has expired. A borrower is then
among the candidates exactly if its last snapshot yields one.
-/

namespace LiquidationBot

/-- The key of a snapshot. -/
def BorrowerSnapshot.key (snapshot : BorrowerSnapshot) : CacheKey :=
  ReserveAwareBorrowerCache.cacheKey snapshot.chain snapshot.account

/-- The snapshot delivered last for a borrower. -/
def latest (delivered : List BorrowerSnapshot) (key : CacheKey) : Option BorrowerSnapshot :=
  delivered.foldl (fun found snapshot => if snapshot.key = key then some snapshot else found) none

theorem latest_snoc (delivered : List BorrowerSnapshot) (snapshot : BorrowerSnapshot)
    (key : CacheKey) :
    latest (delivered ++ [snapshot]) key =
      if snapshot.key = key then some snapshot else latest delivered key := by
  rw [latest, List.foldl_append]
  rfl

/-- It carries the key it is found by, and it was delivered. -/
theorem latest_eq_some {delivered : List BorrowerSnapshot} {key : CacheKey}
    {snapshot : BorrowerSnapshot} (found : latest delivered key = some snapshot) :
    snapshot.key = key ∧ snapshot ∈ delivered := by
  induction delivered using List.reverseRecOn with
  | nil => cases found
  | append_singleton delivered last inductionHypothesis =>
    rw [latest_snoc] at found
    split at found
    next same =>
      cases found
      exact ⟨same, by simp⟩
    next =>
      obtain ⟨same, member⟩ := inductionHypothesis found
      exact ⟨same, List.mem_append_left _ member⟩

/-- Whatever was delivered under a key, something is the last of it. -/
theorem latest_isSome {delivered : List BorrowerSnapshot} {snapshot : BorrowerSnapshot}
    (member : snapshot ∈ delivered) : ∃ last, latest delivered snapshot.key = some last := by
  induction delivered using List.reverseRecOn with
  | nil => cases member
  | append_singleton delivered last inductionHypothesis =>
    rw [latest_snoc]
    split
    next => exact ⟨last, rfl⟩
    next different =>
      rcases List.mem_append.mp member with earlier | here
      · exact inductionHypothesis earlier
      · rw [List.mem_singleton.mp here] at different
        exact absurd rfl different

namespace ReserveAwareBorrowerCache

/-- Delete the snapshots of a list. -/
def deleteAll (cache : ReserveAwareBorrowerCache) (entries : List (CacheKey × BorrowerSnapshot)) :
    ReserveAwareBorrowerCache :=
  entries.foldl (fun cache entry => cache.deleteSnapshot entry.1 entry.2) cache

section DeleteAll

variable (cache : ReserveAwareBorrowerCache) (entries : List (CacheKey × BorrowerSnapshot))

theorem get?_deleteAll (key : CacheKey) :
    (cache.deleteAll entries).snapshots.get? key =
      if key ∈ entries.map Prod.fst then none else cache.snapshots.get? key := by
  induction entries generalizing cache with
  | nil => rfl
  | cons entry rest inductionHypothesis =>
    have first : (cache.deleteSnapshot entry.1 entry.2).snapshots.get? key =
        if key = entry.1 then none else cache.snapshots.get? key :=
      InsertionMap.get?_delete _ _ _
    refine (inductionHypothesis (cache.deleteSnapshot entry.1 entry.2)).trans ?_
    rw [first]
    by_cases here : key = entry.1
    · rw [if_pos here, if_pos (List.mem_map.mpr ⟨entry, List.mem_cons_self, here.symm⟩)]
      split
      · rfl
      · rfl
    · rw [if_neg here]
      refine if_congr ?_ rfl rfl
      rw [List.map_cons, List.mem_cons]
      exact (or_iff_right here).symm

theorem size_deleteAll_le : (cache.deleteAll entries).snapshots.size ≤ cache.snapshots.size := by
  induction entries generalizing cache with
  | nil => exact le_refl _
  | cons entry rest inductionHypothesis =>
    refine (inductionHypothesis (cache.deleteSnapshot entry.1 entry.2)).trans ?_
    have removed := InsertionMap.size_delete cache.snapshots entry.1
    exact Nat.le.intro removed

theorem limits_deleteAll :
    (cache.deleteAll entries).maxEntries = cache.maxEntries ∧
      (cache.deleteAll entries).ttlMs = cache.ttlMs := by
  induction entries generalizing cache with
  | nil => exact ⟨rfl, rfl⟩
  | cons entry rest inductionHypothesis =>
    exact inductionHypothesis (cache.deleteSnapshot entry.1 entry.2)

end DeleteAll

section Prune

variable {cache : ReserveAwareBorrowerCache} {nowMs : Int}

/-- The expired entries. -/
def expiredEntries (cache : ReserveAwareBorrowerCache) (nowMs : Int) :
    List (CacheKey × BorrowerSnapshot) :=
  cache.snapshots.entries.filter (fun entry => cache.expired nowMs entry.2)

/-- A cache that is not too large loses expired snapshots only. -/
theorem prune_eq (fits : cache.snapshots.size ≤ cache.maxEntries) :
    cache.prune nowMs = cache.deleteAll (cache.expiredEntries nowMs) := by
  have limits := limits_deleteAll cache (cache.expiredEntries nowMs)
  have small := size_deleteAll_le cache (cache.expiredEntries nowMs)
  have nothing : (cache.deleteAll (cache.expiredEntries nowMs)).snapshots.size -
      (cache.deleteAll (cache.expiredEntries nowMs)).maxEntries = 0 := by
    rw [limits.1]
    omega
  have second : cache.prune nowMs = (cache.deleteAll (cache.expiredEntries nowMs)).deleteAll
      ((cache.deleteAll (cache.expiredEntries nowMs)).snapshots.entries.take
        ((cache.deleteAll (cache.expiredEntries nowMs)).snapshots.size -
          (cache.deleteAll (cache.expiredEntries nowMs)).maxEntries)) := rfl
  rw [second, nothing]
  rfl

theorem get?_prune (fits : cache.snapshots.size ≤ cache.maxEntries) (key : CacheKey) :
    (cache.prune nowMs).snapshots.get? key =
      (cache.snapshots.get? key).filter (fun snapshot => !cache.expired nowMs snapshot) := by
  have dropped : key ∈ (cache.expiredEntries nowMs).map Prod.fst ↔
      ∃ snapshot, cache.snapshots.get? key = some snapshot ∧
        cache.expired nowMs snapshot = true := by
    simp only [expiredEntries, List.mem_map, List.mem_filter, Prod.exists, exists_and_right,
      exists_eq_right, InsertionMap.mem_entries_iff]
  rw [prune_eq fits, get?_deleteAll]
  cases found : cache.snapshots.get? key with
  | none =>
    split
    · rfl
    · rfl
  | some snapshot =>
    cases old : cache.expired nowMs snapshot with
    | true =>
      rw [if_pos (dropped.mpr ⟨snapshot, found, old⟩), Option.filter_some, old]
      rfl
    | false =>
      have kept : ¬ key ∈ (cache.expiredEntries nowMs).map Prod.fst := by
        rintro member
        obtain ⟨other, stored, expired⟩ := dropped.mp member
        cases found.symm.trans stored
        rw [old] at expired
        cases expired
      rw [if_neg kept, Option.filter_some, old]
      rfl

theorem limits_prune (nowMs : Int) (fits : cache.snapshots.size ≤ cache.maxEntries) :
    (cache.prune nowMs).maxEntries = cache.maxEntries ∧ (cache.prune nowMs).ttlMs = cache.ttlMs ∧
      (cache.prune nowMs).snapshots.size ≤ cache.snapshots.size := by
  rw [prune_eq fits]
  obtain ⟨entries, ttl⟩ := limits_deleteAll cache (cache.expiredEntries nowMs)
  exact ⟨entries, ttl, size_deleteAll_le cache _⟩

/-- A snapshot that has not expired later has not expired before. -/
theorem not_expired_mono {later : Int} (order : nowMs ≤ later) {snapshot : BorrowerSnapshot}
    (young : cache.expired later snapshot = false) : cache.expired nowMs snapshot = false := by
  simp only [expired, Bool.and_eq_false_iff, decide_eq_false_iff_not] at young ⊢
  omega

end Prune

section Kept

variable (cache : ReserveAwareBorrowerCache)

theorem entries_deleteAll (gone : List (CacheKey × BorrowerSnapshot)) :
    (cache.deleteAll gone).snapshots.entries =
      cache.snapshots.entries.filter (fun entry => decide (entry.1 ∉ gone.map Prod.fst)) := by
  induction gone generalizing cache with
  | nil => simp [deleteAll]
  | cons entry rest inductionHypothesis =>
    have first : (cache.deleteSnapshot entry.1 entry.2).snapshots.entries =
        cache.snapshots.entries.filter (fun other => decide (other.1 ≠ entry.1)) := rfl
    refine (inductionHypothesis (cache.deleteSnapshot entry.1 entry.2)).trans ?_
    rw [first, List.filter_filter]
    refine List.filter_congr ?_
    intro other _
    rw [← Bool.decide_and, decide_eq_decide, List.map_cons, List.mem_cons, not_or, and_comm]

/-- The entries behind a prefix, found by their keys. -/
theorem filter_not_mem_take {entries : List (CacheKey × BorrowerSnapshot)}
    (distinct : (entries.map Prod.fst).Nodup) (count : Nat) :
    entries.filter (fun entry => decide (entry.1 ∉ (entries.take count).map Prod.fst)) =
      entries.drop count := by
  have apart : ((entries.take count ++ entries.drop count).map Prod.fst).Nodup := by
    rw [List.take_append_drop]
    exact distinct
  rw [List.map_append, List.nodup_append] at apart
  obtain ⟨_, _, disjoint⟩ := apart
  have front : (entries.take count).filter
      (fun entry => decide (entry.1 ∉ (entries.take count).map Prod.fst)) = [] := by
    refine List.filter_eq_nil_iff.mpr ?_
    intro entry member kept
    exact of_decide_eq_true kept (List.mem_map.mpr ⟨entry, member, rfl⟩)
  have back : (entries.drop count).filter
      (fun entry => decide (entry.1 ∉ (entries.take count).map Prod.fst)) =
      entries.drop count := by
    refine List.filter_eq_self.mpr ?_
    intro entry member
    refine decide_eq_true ?_
    intro earlier
    exact disjoint entry.1 earlier entry.1 (List.mem_map.mpr ⟨entry, member, rfl⟩) rfl
  calc entries.filter (fun entry => decide (entry.1 ∉ (entries.take count).map Prod.fst))
      = (entries.take count ++ entries.drop count).filter
          (fun entry => decide (entry.1 ∉ (entries.take count).map Prod.fst)) := by
        rw [List.take_append_drop]
    _ = entries.drop count := by rw [List.filter_append, front, back, List.nil_append]

/-- The entries that have not expired. -/
def unexpired (nowMs : Int) : List (CacheKey × BorrowerSnapshot) :=
  cache.snapshots.entries.filter (fun entry => !cache.expired nowMs entry.2)

/-- Pruning leaves the newest of the entries that have not expired. -/
theorem entries_prune (nowMs : Int) :
    (cache.prune nowMs).snapshots.entries =
      (cache.unexpired nowMs).drop ((cache.unexpired nowMs).length - cache.maxEntries) := by
  have young : (cache.deleteAll (cache.expiredEntries nowMs)).snapshots.entries =
      cache.unexpired nowMs := by
    rw [entries_deleteAll]
    refine List.filter_congr ?_
    intro entry member
    have here := (InsertionMap.mem_entries_iff _ entry.1 entry.2).mp member
    cases old : cache.expired nowMs entry.2 with
    | true =>
      have gone : entry.1 ∈ (cache.expiredEntries nowMs).map Prod.fst :=
        List.mem_map.mpr ⟨entry, List.mem_filter.mpr ⟨member, old⟩, rfl⟩
      simp [gone]
    | false =>
      have kept : entry.1 ∉ (cache.expiredEntries nowMs).map Prod.fst := by
        intro gone
        obtain ⟨⟨key, other⟩, expired, same⟩ := List.mem_map.mp gone
        obtain ⟨stored, old'⟩ := List.mem_filter.mp expired
        cases same
        cases here.symm.trans ((InsertionMap.mem_entries_iff _ _ _).mp stored)
        exact absurd (old.symm.trans old') (by decide)
      simp [kept]
  have limit := (limits_deleteAll cache (cache.expiredEntries nowMs)).1
  have second : cache.prune nowMs = (cache.deleteAll (cache.expiredEntries nowMs)).deleteAll
      ((cache.deleteAll (cache.expiredEntries nowMs)).snapshots.entries.take
        ((cache.deleteAll (cache.expiredEntries nowMs)).snapshots.size -
          (cache.deleteAll (cache.expiredEntries nowMs)).maxEntries)) := rfl
  rw [second, entries_deleteAll, filter_not_mem_take (InsertionMap.distinct _),
    InsertionMap.size, limit, young]

theorem size_prune_le {cache : ReserveAwareBorrowerCache} (nowMs : Int) :
    (cache.prune nowMs).snapshots.size ≤ cache.maxEntries := by
  rw [InsertionMap.size, entries_prune, List.length_drop]
  omega

theorem limits_prune_always (nowMs : Int) :
    (cache.prune nowMs).maxEntries = cache.maxEntries ∧
      (cache.prune nowMs).ttlMs = cache.ttlMs := by
  have second : cache.prune nowMs = (cache.deleteAll (cache.expiredEntries nowMs)).deleteAll
      ((cache.deleteAll (cache.expiredEntries nowMs)).snapshots.entries.take
        ((cache.deleteAll (cache.expiredEntries nowMs)).snapshots.size -
          (cache.deleteAll (cache.expiredEntries nowMs)).maxEntries)) := rfl
  rw [second]
  exact ⟨(limits_deleteAll _ _).1.trans (limits_deleteAll _ _).1,
    (limits_deleteAll _ _).2.trans (limits_deleteAll _ _).2⟩

end Kept

/-- The cache holds the last snapshot of every borrower until it has expired. -/
structure KeepsUp (cache : ReserveAwareBorrowerCache) (nowMs : Int)
    (delivered : List BorrowerSnapshot) : Prop where
  keyed : ∀ key snapshot, cache.snapshots.get? key = some snapshot → snapshot.key = key
  current : ∀ key snapshot, latest delivered key = some snapshot →
    cache.expired nowMs snapshot = false → cache.snapshots.get? key = some snapshot
  fits : cache.snapshots.size ≤ cache.maxEntries

section KeepsUp

variable {cache : ReserveAwareBorrowerCache} {nowMs : Int} {delivered : List BorrowerSnapshot}

theorem keepsUp_create (maxEntries : Option Nat) (ttlMs : Option Int) (nowMs : Int) :
    KeepsUp (create maxEntries ttlMs) nowMs [] where
  keyed := nofun
  current := nofun
  fits := Nat.zero_le _

theorem KeepsUp.wait (keepsUp : KeepsUp cache nowMs delivered) {later : Int}
    (order : nowMs ≤ later) : KeepsUp cache later delivered :=
  ⟨keepsUp.keyed, fun key snapshot found young =>
    keepsUp.current key snapshot found (not_expired_mono order young), keepsUp.fits⟩

/-- Listing drops what has expired, and nothing else. -/
theorem KeepsUp.prune (keepsUp : KeepsUp cache nowMs delivered) :
    KeepsUp (cache.prune nowMs) nowMs delivered := by
  obtain ⟨entries, ttl, smaller⟩ := limits_prune nowMs keepsUp.fits
  constructor
  · intro key snapshot found
    rw [get?_prune keepsUp.fits] at found
    exact keepsUp.keyed key snapshot (Option.eq_some_of_filter_eq_some found)
  · intro key snapshot found young
    have same : (cache.prune nowMs).expired nowMs snapshot = cache.expired nowMs snapshot := by
      rw [expired, expired, ttl]
    rw [same] at young
    rw [get?_prune keepsUp.fits, keepsUp.current key snapshot found young, Option.filter_some, young]
    rfl
  · rw [entries]
    exact smaller.trans keepsUp.fits

/-- An upsert stores the snapshot under its key, and then prunes. -/
theorem upsert_eq (cache : ReserveAwareBorrowerCache) (nowMs : Int) (snapshot : BorrowerSnapshot) :
    ∃ stored : ReserveAwareBorrowerCache, cache.upsert nowMs snapshot = stored.prune nowMs ∧
      stored.snapshots = cache.snapshots.set snapshot.key snapshot ∧
      stored.maxEntries = cache.maxEntries ∧ stored.ttlMs = cache.ttlMs := by
  refine ⟨_, rfl, ?_⟩
  cases cache.snapshots.get? (cacheKey snapshot.chain snapshot.account) with
  | none => exact ⟨rfl, rfl, rfl⟩
  | some previous => exact ⟨rfl, rfl, rfl⟩

/-- A delivery with room for it. -/
theorem KeepsUp.upsert (keepsUp : KeepsUp cache nowMs delivered) (snapshot : BorrowerSnapshot)
    (room : cache.snapshots.size < cache.maxEntries) :
    KeepsUp (cache.upsert nowMs snapshot) nowMs (delivered ++ [snapshot]) ∧
      (cache.upsert nowMs snapshot).snapshots.size ≤ cache.snapshots.size + 1 ∧
      (cache.upsert nowMs snapshot).maxEntries = cache.maxEntries ∧
      (cache.upsert nowMs snapshot).ttlMs = cache.ttlMs := by
  obtain ⟨stored, upserted, snapshots, entries, ttl⟩ := upsert_eq cache nowMs snapshot
  have size : stored.snapshots.size ≤ cache.snapshots.size + 1 := by
    rw [snapshots, InsertionMap.size_set]
    split
    · omega
    · omega
  have keepsUpStored : KeepsUp stored nowMs (delivered ++ [snapshot]) := by
    constructor
    · intro key held found
      rw [snapshots] at found
      rcases InsertionMap.of_get?_set found with ⟨same, rfl⟩ | before
      · exact same.symm
      · exact keepsUp.keyed key held before
    · intro key last found young
      rw [latest_snoc] at found
      rw [snapshots, InsertionMap.get?_set]
      split at found
      next same =>
        rw [if_pos same.symm]
        exact found
      next different =>
        have same : stored.expired nowMs last = cache.expired nowMs last := by
          rw [expired, expired, ttl]
        rw [if_neg (Ne.symm different)]
        exact keepsUp.current key last found (same.symm.trans young)
    · omega
  obtain ⟨sameEntries, sameTtl, smaller⟩ := limits_prune nowMs keepsUpStored.fits
  rw [upserted]
  exact ⟨keepsUpStored.prune, smaller.trans size, sameEntries.trans entries, sameTtl.trans ttl⟩

/-- Deliveries with room for all of them. -/
theorem KeepsUp.upsertAll (keepsUp : KeepsUp cache nowMs delivered)
    (snapshots : List BorrowerSnapshot)
    (room : cache.snapshots.size + snapshots.length ≤ cache.maxEntries) :
    KeepsUp (cache.upsertAll nowMs snapshots) nowMs (delivered ++ snapshots) ∧
      (cache.upsertAll nowMs snapshots).maxEntries = cache.maxEntries ∧
      (cache.upsertAll nowMs snapshots).ttlMs = cache.ttlMs := by
  induction snapshots generalizing cache delivered with
  | nil =>
    rw [List.append_nil]
    exact ⟨keepsUp, rfl, rfl⟩
  | cons snapshot rest inductionHypothesis =>
    rw [List.length_cons] at room
    obtain ⟨next, size, entries, ttl⟩ := keepsUp.upsert snapshot (by omega)
    obtain ⟨later, sameEntries, sameTtl⟩ := inductionHypothesis next (by omega)
    rw [← List.append_cons] at later
    exact ⟨later, sameEntries.trans entries, sameTtl.trans ttl⟩

/-- The last snapshot of a borrower is listed until it has expired. -/
theorem KeepsUp.listed (keepsUp : KeepsUp cache nowMs delivered) {key : CacheKey}
    {snapshot : BorrowerSnapshot} (found : latest delivered key = some snapshot)
    (young : cache.expired nowMs snapshot = false) :
    snapshot ∈ cache.listSnapshots nowMs snapshot.chain := by
  refine List.mem_filter.mpr ⟨?_, decide_eq_true rfl⟩
  rw [InsertionMap.mem_values_iff]
  refine ⟨key, ?_⟩
  rw [get?_prune keepsUp.fits, keepsUp.current key snapshot found young, Option.filter_some, young]
  rfl

/-- What is listed is stored under its own key. -/
theorem KeepsUp.stored_of_listed (keepsUp : KeepsUp cache nowMs delivered) {chain : SupportedChain}
    {snapshot : BorrowerSnapshot} (member : snapshot ∈ cache.listSnapshots nowMs chain) :
    cache.snapshots.get? snapshot.key = some snapshot := by
  obtain ⟨stored, _⟩ := List.mem_filter.mp member
  obtain ⟨key, found⟩ := (InsertionMap.mem_values_iff _ _).mp stored
  rw [get?_prune keepsUp.fits] at found
  have here := Option.eq_some_of_filter_eq_some found
  rw [keepsUp.keyed key snapshot here]
  exact here

/-- A list has at most as many snapshots as the cache has room for. -/
theorem KeepsUp.length_listSnapshots_le (keepsUp : KeepsUp cache nowMs delivered)
    (chain : SupportedChain) : (cache.listSnapshots nowMs chain).length ≤ cache.maxEntries := by
  obtain ⟨_, _, smaller⟩ := limits_prune nowMs keepsUp.fits
  refine (List.length_filter_le _ _).trans ?_
  rw [InsertionMap.values, List.length_map]
  exact smaller.trans keepsUp.fits

end KeepsUp

end ReserveAwareBorrowerCache

end LiquidationBot
