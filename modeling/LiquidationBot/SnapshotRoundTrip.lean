import LiquidationBot.CacheDeliveries
import LiquidationBot.DetectionAdapter

/-!
# From a candidate to the cache and back

A candidate is stored as a snapshot and made from the snapshot again. In a cache
that has been through any uses, the snapshot just stored is there unless the
cache has no room at all or the snapshot has expired. What comes back is the
candidate with its debt counted as dollars of six decimals.
-/

namespace LiquidationBot

namespace ReserveAwareBorrowerCache

/-- What is done with a cache: a snapshot is stored, or the snapshots are listed. -/
inductive CacheOp where
  | upsert (nowMs : Int) (snapshot : BorrowerSnapshot)
  | list (nowMs : Int)

def CacheOp.apply (cache : ReserveAwareBorrowerCache) : CacheOp → ReserveAwareBorrowerCache
  | .upsert nowMs snapshot => cache.upsert nowMs snapshot
  | .list nowMs => cache.prune nowMs

/-- A cache after its uses. -/
def used (maxEntries : Option Nat) (ttlMs : Option Int) (uses : List CacheOp) :
    ReserveAwareBorrowerCache :=
  uses.foldl CacheOp.apply (create maxEntries ttlMs)

/-! ## Any cache that was used -/

/-- Snapshots are stored under their own keys, and there are not too many. -/
structure WellKept (cache : ReserveAwareBorrowerCache) : Prop where
  keyed : ∀ key snapshot, cache.snapshots.get? key = some snapshot → snapshot.key = key
  fits : cache.snapshots.size ≤ cache.maxEntries

section WellKept

variable {cache : ReserveAwareBorrowerCache}

theorem get?_of_get?_prune {nowMs : Int} {key : CacheKey} {snapshot : BorrowerSnapshot}
    (found : (cache.prune nowMs).snapshots.get? key = some snapshot) :
    cache.snapshots.get? key = some snapshot ∧ cache.expired nowMs snapshot = false := by
  have member := (InsertionMap.mem_entries_iff _ _ _).mpr found
  rw [entries_prune] at member
  obtain ⟨stored, young⟩ := List.mem_filter.mp (List.mem_of_mem_drop member)
  exact ⟨(InsertionMap.mem_entries_iff _ _ _).mp stored, by simpa using young⟩

/-- Whatever the cache holds, pruning cuts it to size. -/
theorem wellKept_prune (nowMs : Int)
    (keyed : ∀ key snapshot, cache.snapshots.get? key = some snapshot → snapshot.key = key) :
    WellKept (cache.prune nowMs) where
  keyed key snapshot found := keyed key snapshot (get?_of_get?_prune found).1
  fits := by
    rw [(limits_prune_always cache nowMs).1]
    exact size_prune_le nowMs

theorem WellKept.upsert (wellKept : WellKept cache) (nowMs : Int) (snapshot : BorrowerSnapshot) :
    WellKept (cache.upsert nowMs snapshot) := by
  obtain ⟨stored, upserted, snapshots, _, _⟩ := upsert_eq cache nowMs snapshot
  rw [upserted]
  apply wellKept_prune
  intro key held found
  rw [snapshots] at found
  rcases InsertionMap.of_get?_set found with ⟨same, rfl⟩ | before
  · exact same.symm
  · exact wellKept.keyed key held before

/-- The use of a cache keeps it in order and leaves its limits alone. -/
theorem wellKept_apply (wellKept : WellKept cache) (use : CacheOp) :
    WellKept (use.apply cache) ∧ (use.apply cache).maxEntries = cache.maxEntries ∧
      (use.apply cache).ttlMs = cache.ttlMs := by
  cases use with
  | list nowMs =>
    exact ⟨wellKept_prune nowMs wellKept.keyed, limits_prune_always cache nowMs⟩
  | upsert nowMs snapshot =>
    obtain ⟨stored, upserted, _, entries, ttl⟩ := upsert_eq cache nowMs snapshot
    obtain ⟨sameEntries, sameTtl⟩ := limits_prune_always stored nowMs
    refine ⟨wellKept.upsert nowMs snapshot, ?_⟩
    rw [CacheOp.apply, upserted]
    exact ⟨sameEntries.trans entries, sameTtl.trans ttl⟩

/-- Every cache that was used. Induct on its uses. -/
theorem wellKept_used (maxEntries : Option Nat) (ttlMs : Option Int) (uses : List CacheOp) :
    WellKept (used maxEntries ttlMs uses) ∧
      (used maxEntries ttlMs uses).maxEntries = maxEntries.getD 50000 ∧
      (used maxEntries ttlMs uses).ttlMs = ttlMs.getD (30 * 60000) := by
  induction uses using List.reverseRecOn with
  | nil => exact ⟨⟨nofun, Nat.zero_le _⟩, rfl, rfl⟩
  | append_singleton uses use inductionHypothesis =>
    obtain ⟨wellKept, entries, ttl⟩ := inductionHypothesis
    obtain ⟨next, sameEntries, sameTtl⟩ := wellKept_apply wellKept use
    have last : used maxEntries ttlMs (uses ++ [use]) = use.apply (used maxEntries ttlMs uses) := by
      simp [used, List.foldl_append]
    rw [last]
    exact ⟨next, sameEntries.trans entries, sameTtl.trans ttl⟩

/-- The newest entry of a cache with room for one is never the one to go. -/
theorem mem_entries_upsert (wellKept : WellKept cache) {nowMs : Int} {snapshot : BorrowerSnapshot}
    (room : 1 ≤ cache.maxEntries) (young : cache.expired nowMs snapshot = false) :
    (snapshot.key, snapshot) ∈ (cache.upsert nowMs snapshot).snapshots.entries := by
  obtain ⟨stored, upserted, snapshots, entries, ttl⟩ := upsert_eq cache nowMs snapshot
  have fresh : stored.expired nowMs snapshot = false := by
    rw [← young, expired, expired, ttl]
  have member : (snapshot.key, snapshot) ∈ stored.unexpired nowMs := by
    refine List.mem_filter.mpr ⟨?_, by simp [fresh]⟩
    rw [InsertionMap.mem_entries_iff, snapshots, InsertionMap.get?_set_same]
  rw [upserted, entries_prune, entries]
  cases present : cache.snapshots.get? snapshot.key with
  | some previous =>
    -- overwriting adds no entry, so nothing is dropped for room
    have size : stored.snapshots.size = cache.snapshots.size := by
      rw [snapshots, InsertionMap.size_set, InsertionMap.has, present]
      rfl
    have few : (stored.unexpired nowMs).length ≤ cache.maxEntries :=
      (List.length_filter_le _ _).trans (size.le.trans wellKept.fits)
    rw [Nat.sub_eq_zero_of_le few]
    exact member
  | none =>
    have last : stored.snapshots.entries =
        cache.snapshots.entries ++ [(snapshot.key, snapshot)] := by
      rw [snapshots]
      exact InsertionMap.insert_of_absent snapshot present
    have behind : stored.unexpired nowMs =
        cache.snapshots.entries.filter (fun entry => !stored.expired nowMs entry.2) ++
          [(snapshot.key, snapshot)] := by
      rw [unexpired, last, List.filter_append]
      simp [fresh]
    rw [behind, List.length_append, List.length_singleton, List.drop_append_of_le_length (by omega)]
    exact List.mem_append_right _ List.mem_cons_self

/-- After an upsert the snapshot is there, unless there is no room for any or it
has expired. -/
theorem get?_upsert (wellKept : WellKept cache) (nowMs : Int) (snapshot : BorrowerSnapshot) :
    (cache.upsert nowMs snapshot).snapshots.get? snapshot.key =
      if 1 ≤ cache.maxEntries ∧ cache.expired nowMs snapshot = false then some snapshot
      else none := by
  obtain ⟨stored, upserted, snapshots, entries, ttl⟩ := upsert_eq cache nowMs snapshot
  split
  next kept =>
    exact (InsertionMap.mem_entries_iff _ _ _).mp (mem_entries_upsert wellKept kept.1 kept.2)
  next lost =>
    cases found : (cache.upsert nowMs snapshot).snapshots.get? snapshot.key with
    | none => rfl
    | some other =>
      rw [upserted] at found
      obtain ⟨held, young⟩ := get?_of_get?_prune found
      rw [snapshots, InsertionMap.get?_set_same] at held
      cases held
      refine absurd ⟨?_, ?_⟩ lost
      · have size : (stored.prune nowMs).snapshots.size ≤ stored.maxEntries := size_prune_le nowMs
        have some := (InsertionMap.mem_entries_iff _ _ _).mpr found
        have positive := List.length_pos_of_mem some
        rw [entries] at size
        exact le_trans positive size
      · rw [← young, expired, expired, ttl]

end WellKept

/-! ## Reading the candidate back -/

/-- The candidates that a read makes for an account, in any spelling. -/
def candidatesFor (cache : ReserveAwareBorrowerCache) (nowMs : Int) (chain : SupportedChain)
    (account : Address) : List LiquidationCandidate :=
  (cache.createReserveAwareCandidates nowMs chain).filter
    (fun candidate => decide (candidate.account.toLowerCase = account.toLowerCase))

/-- They are those of the snapshot stored for the account. -/
theorem candidatesFor_eq {cache : ReserveAwareBorrowerCache} (wellKept : WellKept cache)
    (nowMs : Int) (chain : SupportedChain) (account : Address) :
    candidatesFor cache nowMs chain account =
      ((cache.prune nowMs).snapshots.get? (cacheKey chain account)).toList.flatMap
        BorrowerSnapshot.toCandidates := by
  have pruned := wellKept_prune nowMs wellKept.keyed
  have ofAccount : ∀ snapshot : BorrowerSnapshot,
      snapshot.toCandidates.filter
          (fun candidate => decide (candidate.account.toLowerCase = account.toLowerCase)) =
        if snapshot.account.toLowerCase = account.toLowerCase then snapshot.toCandidates
        else [] := by
    intro snapshot
    split
    next same =>
      refine List.filter_eq_self.mpr ?_
      intro candidate member
      rw [(BorrowerSnapshot.account_of_mem_toCandidates member).1]
      exact decide_eq_true same
    next different =>
      refine List.filter_eq_nil_iff.mpr ?_
      intro candidate member
      rw [(BorrowerSnapshot.account_of_mem_toCandidates member).1]
      simpa using different
  have selected : ∀ snapshots : List BorrowerSnapshot,
      (snapshots.filter (fun snapshot => decide (snapshot.chain = chain))).flatMap
          (fun snapshot => snapshot.toCandidates.filter
            (fun candidate => decide (candidate.account.toLowerCase = account.toLowerCase))) =
        (snapshots.filter (fun snapshot => decide (snapshot.key = cacheKey chain account))).flatMap
          BorrowerSnapshot.toCandidates := by
    intro snapshots
    induction snapshots with
    | nil => rfl
    | cons snapshot rest inductionHypothesis =>
      have key : snapshot.key = cacheKey chain account ↔
          snapshot.chain = chain ∧ snapshot.account.toLowerCase = account.toLowerCase := by
        simp [BorrowerSnapshot.key, cacheKey, borrowerKey]
      by_cases here : snapshot.chain = chain
      · by_cases same : snapshot.account.toLowerCase = account.toLowerCase
        · rw [List.filter_cons_of_pos (by simp [here]),
            List.filter_cons_of_pos (by simp [key, here, same]), List.flatMap_cons,
            List.flatMap_cons, inductionHypothesis, ofAccount, if_pos same]
        · rw [List.filter_cons_of_pos (by simp [here]),
            List.filter_cons_of_neg (by simp [key, same]), List.flatMap_cons,
            inductionHypothesis, ofAccount, if_neg same, List.nil_append]
      · rw [List.filter_cons_of_neg (by simp [here]),
          List.filter_cons_of_neg (by simp [key, here]), inductionHypothesis]
  rw [← InsertionMap.filter_values_keyed _ pruned.keyed, ← selected, candidatesFor,
    createReserveAwareCandidates, List.filter_flatMap]
  rfl

/-- The snapshot of a candidate outlasts the store and the read: there is room for
it, and neither comes after its time. -/
def Outlasts (maxEntries : Option Nat) (ttlMs : Option Int) (builtMs storedMs readMs : Int) : Prop :=
  1 ≤ maxEntries.getD 50000 ∧ ∀ nowMs ∈ [storedMs, readMs],
    builtMs < ttlEligibleFloorMs ∨ nowMs - builtMs ≤ ttlMs.getD (30 * 60000)

/-- The same candidate, with the same dollars up to a unit of eight decimals. -/
structure Agrees (candidate found : LiquidationCandidate) : Prop where
  account : found.account = candidate.account
  collateralAsset : found.collateralAsset = candidate.collateralAsset
  debtAsset : found.debtAsset = candidate.debtAsset
  debtToCover : found.debtToCover = candidate.debtToCover
  liquidationBonusBps : found.liquidationBonusBps = candidate.liquidationBonusBps
  healthFactor : found.healthFactor = candidate.healthFactor
  repayValueUsd : |found.repayValueUsd - candidate.repayValueUsd| < 1 / 10 ^ 8

theorem agrees_readBack_iff (candidate : LiquidationCandidate) :
    Agrees candidate (CandidateSnapshot.readBack candidate) ↔
      |(candidate.debtToCover : ℚ) / 10 ^ 6 - candidate.repayValueUsd| < 1 / 10 ^ 8 := by
  constructor
  · intro agrees
    exact agrees.repayValueUsd
  · intro near
    exact ⟨rfl, rfl, rfl, rfl, rfl, rfl, near⟩

/-- What a read makes of a candidate just stored. -/
theorem candidatesFor_stored {cache : ReserveAwareBorrowerCache} (wellKept : WellKept cache)
    {snapshot : BorrowerSnapshot} (storedMs readMs : Int) :
    candidatesFor (cache.upsert storedMs snapshot) readMs snapshot.chain snapshot.account =
      if 1 ≤ cache.maxEntries ∧ cache.expired storedMs snapshot = false ∧
          cache.expired readMs snapshot = false then snapshot.toCandidates
      else [] := by
  obtain ⟨after, _, ttl⟩ : WellKept (cache.upsert storedMs snapshot) ∧
      (cache.upsert storedMs snapshot).maxEntries = cache.maxEntries ∧
      (cache.upsert storedMs snapshot).ttlMs = cache.ttlMs :=
    wellKept_apply wellKept (.upsert storedMs snapshot)
  have same : (cache.upsert storedMs snapshot).expired readMs snapshot =
      cache.expired readMs snapshot := by
    rw [expired, expired, ttl]
  have key : cacheKey snapshot.chain snapshot.account = snapshot.key := rfl
  rw [candidatesFor_eq after, key, get?_prune after.fits, get?_upsert wellKept]
  by_cases stored : 1 ≤ cache.maxEntries ∧ cache.expired storedMs snapshot = false
  · cases read : cache.expired readMs snapshot with
    | true => simp [stored, same, read, Option.filter]
    | false => simp [stored, same, read, Option.filter]
  · rw [if_neg stored, if_neg (fun kept => stored ⟨kept.1, kept.2.1⟩)]
    rfl

/-- Storing a liquidatable candidate in any cache that was used and reading it back
yields exactly that candidate, exactly when the snapshot outlasts both and the
candidate's dollars are those of its debt in units of six decimals. -/
theorem round_trip_iff (builder : SnapshotBuilder) (maxEntries : Option Nat) (ttlMs : Option Int)
    (uses : List CacheOp) (chain : SupportedChain) (candidate : LiquidationCandidate)
    (builtMs storedMs readMs : Int) (unhealthy : candidate.healthFactor < WAD)
    (owes : 0 < candidate.debtToCover) (bonus : 0 ≤ candidate.liquidationBonusBps) :
    ∃ snapshot, builder.toSnapshot chain candidate builtMs = .ok snapshot ∧
      ((∃ found, candidatesFor ((used maxEntries ttlMs uses).upsert storedMs snapshot) readMs chain
          candidate.account = [found] ∧ Agrees candidate found) ↔
        Outlasts maxEntries ttlMs builtMs storedMs readMs ∧
          |(candidate.debtToCover : ℚ) / 10 ^ 6 - candidate.repayValueUsd| < 1 / 10 ^ 8) := by
  obtain ⟨snapshot, built, rfl, account, updated, candidates⟩ :=
    CandidateSnapshot.toCandidates_toSnapshot chain builtMs unhealthy owes bonus
  obtain ⟨wellKept, entries, ttl⟩ := wellKept_used maxEntries ttlMs uses
  have lasts : (1 ≤ (used maxEntries ttlMs uses).maxEntries ∧
      (used maxEntries ttlMs uses).expired storedMs snapshot = false ∧
      (used maxEntries ttlMs uses).expired readMs snapshot = false) ↔
      Outlasts maxEntries ttlMs builtMs storedMs readMs := by
    have young : ∀ nowMs, (used maxEntries ttlMs uses).expired nowMs snapshot = false ↔
        builtMs < ttlEligibleFloorMs ∨ nowMs - builtMs ≤ ttlMs.getD (30 * 60000) := by
      intro nowMs
      rw [expired, updated, ttl, Bool.and_eq_false_iff, decide_eq_false_iff_not,
        decide_eq_false_iff_not, not_le, not_lt]
    rw [entries, young, young, Outlasts]
    simp
  refine ⟨snapshot, ?_, ?_⟩
  · rw [CandidateSnapshot.builder_toSnapshot]
    exact built
  · rw [← account, candidatesFor_stored wellKept, ← lasts, candidates, ← agrees_readBack_iff]
    split
    next kept =>
      constructor
      · rintro ⟨found, same, agrees⟩
        cases same
        exact ⟨kept, agrees⟩
      · rintro ⟨_, agrees⟩
        exact ⟨_, rfl, agrees⟩
    next lost =>
      constructor
      · rintro ⟨found, impossible, _⟩
        cases impossible
      · rintro ⟨kept, _⟩
        exact absurd kept lost

/-- Debt of a thousand dollars in a dollar token of six decimals. -/
def dollarDebt : LiquidationCandidate :=
  ⟨⟨1, 0⟩, ⟨0x4200000000000000000000000000000000000006, 0⟩, BASE_USDC, 1000000000, 1000, 500,
    900000000000000000⟩

/-- Debt of one ether at three thousand dollars. -/
def etherDebt : LiquidationCandidate :=
  ⟨⟨1, 0⟩, BASE_USDC, ⟨0x4200000000000000000000000000000000000006, 0⟩, 1000000000000000000, 3000,
    500, 900000000000000000⟩

theorem round_trip_iff_dollar :
    ∃ snapshot, SnapshotBuilder.detectionAdapter.toSnapshot .base dollarDebt 1700000000000 =
        .ok snapshot ∧
      ((∃ found, candidatesFor ((used none none []).upsert 1700000000000 snapshot) 1700000000000
          .base dollarDebt.account = [found] ∧ Agrees dollarDebt found) ↔
        Outlasts none none 1700000000000 1700000000000 1700000000000 ∧
          |(dollarDebt.debtToCover : ℚ) / 10 ^ 6 - dollarDebt.repayValueUsd| < 1 / 10 ^ 8) :=
  round_trip_iff .detectionAdapter none none [] .base dollarDebt 1700000000000 1700000000000
    1700000000000 (by decide) (by decide) (by decide)

/-- The ether comes back as a trillion dollars. -/
theorem ether_debt_inflated :
    ¬ ∀ (builder : SnapshotBuilder) (chain : SupportedChain) (candidate : LiquidationCandidate)
      (nowMs : Int), candidate.healthFactor < WAD → 0 < candidate.debtToCover →
      candidate.collateralAsset ≠ candidate.debtAsset → 0 ≤ candidate.liquidationBonusBps →
      ∃ snapshot, builder.toSnapshot chain candidate nowMs = .ok snapshot ∧
        ∃ found, candidatesFor ((used none none []).upsert nowMs snapshot) nowMs chain
          candidate.account = [found] ∧ Agrees candidate found := by
  intro claim
  obtain ⟨snapshot, built, back⟩ := claim .detectionAdapter .base etherDebt 1700000000000
    (by decide) (by decide) (by decide) (by decide)
  obtain ⟨_, same, onBase, account, _, candidates⟩ :=
    CandidateSnapshot.toCandidates_toSnapshot .base 1700000000000
      (show etherDebt.healthFactor < WAD by decide) (by decide) (by decide)
  cases built.symm.trans same
  obtain ⟨found, read, agrees⟩ := back
  rw [← account, ← onBase, candidatesFor_stored (wellKept_used none none []).1, candidates] at read
  split at read
  · cases read
    have near := (agrees_readBack_iff etherDebt).mp agrees
    norm_num [etherDebt] at near
  · cases read

end ReserveAwareBorrowerCache

end LiquidationBot
