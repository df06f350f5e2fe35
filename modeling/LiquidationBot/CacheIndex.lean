import LiquidationBot.CacheDeliveries

/-!
# The index of the borrower cache

Three maps are kept in step: the snapshots, the accounts of each reserve, and the
number of snapshots of each chain. An account is in the index of a reserve
exactly while a snapshot of it that lists the reserve is stored, through every
upsert and both stages of a pruning.
-/

namespace LiquidationBot

namespace ReserveAwareBorrowerCache

/-- What `upsert` stores, before it prunes. -/
def storeSnapshot (cache : ReserveAwareBorrowerCache) (snapshot : BorrowerSnapshot) :
    ReserveAwareBorrowerCache :=
  let key := cacheKey snapshot.chain snapshot.account
  let detached := match cache.snapshots.get? key with
    | some previous =>
        { cache with reserveToAccounts := detachReserveIndex cache.reserveToAccounts previous }
    | none =>
        { cache with
          chainCounts := cache.chainCounts.set snapshot.chain
            ((cache.chainCounts.get? snapshot.chain).getD 0 + 1) }
  { detached with
    snapshots := detached.snapshots.set key snapshot
    reserveToAccounts := attachReserveIndex detached.reserveToAccounts snapshot }

theorem upsert_eq_prune (cache : ReserveAwareBorrowerCache) (nowMs : Int)
    (snapshot : BorrowerSnapshot) :
    cache.upsert nowMs snapshot = (cache.storeSnapshot snapshot).prune nowMs := rfl

def size (cache : ReserveAwareBorrowerCache) (chain : SupportedChain) : Nat :=
  (cache.chainCounts.get? chain).getD 0

/-- The accounts that `listAccountsForReserve` returns; it leaves the cache
pruned. -/
def listAccountsForReserve (cache : ReserveAwareBorrowerCache) (nowMs : Int)
    (chain : SupportedChain) (reserve : Address) : List Address :=
  ((cache.prune nowMs).reserveToAccounts.get? (reserveKey chain reserve)).getD []

/-- The first stage of a pruning. -/
def dropExpired (cache : ReserveAwareBorrowerCache) (nowMs : Int) : ReserveAwareBorrowerCache :=
  cache.deleteAll (cache.expiredEntries nowMs)

/-- The entries that the limit takes away. -/
def overflow (cache : ReserveAwareBorrowerCache) : List (CacheKey × BorrowerSnapshot) :=
  cache.snapshots.entries.take (cache.snapshots.size - cache.maxEntries)

theorem prune_eq_deleteAll (cache : ReserveAwareBorrowerCache) (nowMs : Int) :
    cache.prune nowMs =
      (cache.dropExpired nowMs).deleteAll (cache.dropExpired nowMs).overflow := rfl

/-! ## The index of one snapshot -/

/-- The snapshot lists the reserve of a key. -/
def Lists (snapshot : BorrowerSnapshot) (rkey : CacheKey) : Prop :=
  ∃ reserve ∈ snapshot.reserves, reserveKey snapshot.chain reserve.assetAddress = rkey

/-- The accounts under a reserve's key. -/
def accountsAt (index : InsertionMap CacheKey (List Address)) (rkey : CacheKey) : List Address :=
  (index.get? rkey).getD []

theorem mem_attachReserveIndex (index : InsertionMap CacheKey (List Address))
    (snapshot : BorrowerSnapshot) (rkey : CacheKey) (account : Address) :
    account ∈ accountsAt (attachReserveIndex index snapshot) rkey ↔
      account ∈ accountsAt index rkey ∨ account = snapshot.account ∧ Lists snapshot rkey := by
  unfold attachReserveIndex Lists
  induction snapshot.reserves generalizing index with
  | nil => simp
  | cons reserve rest inductionHypothesis =>
    rw [List.foldl_cons, inductionHypothesis]
    have here : account ∈ accountsAt (index.set (reserveKey snapshot.chain reserve.assetAddress)
        (if snapshot.account ∈ (index.get? (reserveKey snapshot.chain reserve.assetAddress)).getD []
          then (index.get? (reserveKey snapshot.chain reserve.assetAddress)).getD []
          else (index.get? (reserveKey snapshot.chain reserve.assetAddress)).getD [] ++
            [snapshot.account])) rkey ↔
        account ∈ accountsAt index rkey ∨
          account = snapshot.account ∧ reserveKey snapshot.chain reserve.assetAddress = rkey := by
      rw [accountsAt, InsertionMap.get?_set]
      by_cases same : rkey = reserveKey snapshot.chain reserve.assetAddress
      · subst same
        rw [if_pos rfl, Option.getD_some, accountsAt]
        split
        next present =>
          simp only [and_true]
          exact (or_iff_left_of_imp (fun equal => equal ▸ present)).symm
        next => simp
      · rw [if_neg same, accountsAt]
        simp [Ne.symm same]
    rw [here]
    simp only [List.mem_cons, exists_eq_or_imp]
    tauto

theorem nodup_attachReserveIndex {index : InsertionMap CacheKey (List Address)}
    (distinct : ∀ rkey, (accountsAt index rkey).Nodup) (snapshot : BorrowerSnapshot)
    (rkey : CacheKey) : (accountsAt (attachReserveIndex index snapshot) rkey).Nodup := by
  unfold attachReserveIndex
  induction snapshot.reserves generalizing index with
  | nil => exact distinct rkey
  | cons reserve rest inductionHypothesis =>
    rw [List.foldl_cons]
    apply inductionHypothesis
    intro tested
    rw [accountsAt, InsertionMap.get?_set]
    split
    next same =>
      have before := distinct (reserveKey snapshot.chain reserve.assetAddress)
      rw [Option.getD_some]
      split
      next => exact before
      next fresh =>
        exact before.append (List.nodup_singleton _) (by simpa [accountsAt] using fresh)
    next => exact distinct tested

/-- One turn of `detachReserveIndex`. -/
def detachStep (account : Address) (index : InsertionMap CacheKey (List Address))
    (key : CacheKey) : InsertionMap CacheKey (List Address) :=
  match index.get? key with
  | none => index
  | some accounts =>
      let rest := accounts.filter (· ≠ account)
      if rest.isEmpty then index.delete key else index.set key rest

theorem accountsAt_detachStep (account : Address) (index : InsertionMap CacheKey (List Address))
    (key rkey : CacheKey) :
    accountsAt (detachStep account index key) rkey =
      if rkey = key then (accountsAt index key).filter (· ≠ account) else accountsAt index rkey := by
  unfold detachStep
  split
  next absent =>
    by_cases same : rkey = key
    · rw [if_pos same, same, accountsAt, absent]
      rfl
    · rw [if_neg same]
  next accounts found =>
    have here : accountsAt index key = accounts := by
      rw [accountsAt, found]
      rfl
    rw [here]
    dsimp only
    split
    next empty =>
      rw [accountsAt, InsertionMap.get?_delete, List.isEmpty_iff.mp empty]
      split <;> rfl
    next =>
      rw [accountsAt, InsertionMap.get?_set]
      split <;> rfl

theorem detachReserveIndex_eq (index : InsertionMap CacheKey (List Address))
    (snapshot : BorrowerSnapshot) :
    detachReserveIndex index snapshot = snapshot.reserves.foldl (fun index reserve =>
      detachStep snapshot.account index (reserveKey snapshot.chain reserve.assetAddress)) index :=
  rfl

theorem mem_detachReserveIndex (index : InsertionMap CacheKey (List Address))
    (snapshot : BorrowerSnapshot) (rkey : CacheKey) (account : Address) :
    account ∈ accountsAt (detachReserveIndex index snapshot) rkey ↔
      account ∈ accountsAt index rkey ∧ ¬ (account = snapshot.account ∧ Lists snapshot rkey) := by
  rw [detachReserveIndex_eq, Lists]
  induction snapshot.reserves generalizing index with
  | nil => simp
  | cons reserve rest inductionHypothesis =>
    rw [List.foldl_cons, inductionHypothesis, accountsAt_detachStep]
    simp only [List.mem_cons, exists_eq_or_imp]
    by_cases same : rkey = reserveKey snapshot.chain reserve.assetAddress
    · subst same
      simp
      tauto
    · simp [same, Ne.symm same]

theorem nodup_detachReserveIndex {index : InsertionMap CacheKey (List Address)}
    (distinct : ∀ rkey, (accountsAt index rkey).Nodup) (snapshot : BorrowerSnapshot)
    (rkey : CacheKey) : (accountsAt (detachReserveIndex index snapshot) rkey).Nodup := by
  rw [detachReserveIndex_eq]
  induction snapshot.reserves generalizing index with
  | nil => exact distinct rkey
  | cons reserve rest inductionHypothesis =>
    rw [List.foldl_cons]
    apply inductionHypothesis
    intro tested
    rw [accountsAt_detachStep]
    split
    · exact (distinct _).filter _
    · exact distinct tested

/-! ## The number of snapshots of a chain -/

/-- The number of stored keys of a chain. -/
def keysOf (snapshots : InsertionMap CacheKey BorrowerSnapshot) (chain : SupportedChain) : Nat :=
  (snapshots.filter (fun key _ => decide (key.chain = chain))).size

theorem has_filter_chain (snapshots : InsertionMap CacheKey BorrowerSnapshot)
    (chain : SupportedChain) (key : CacheKey) :
    (snapshots.filter (fun key _ => decide (key.chain = chain))).has key =
      (snapshots.has key && decide (key.chain = chain)) := by
  rw [InsertionMap.has, InsertionMap.get?_filter, InsertionMap.has]
  cases snapshots.get? key with
  | none => rfl
  | some snapshot => cases decide (key.chain = chain) <;> simp [Option.filter]

theorem keysOf_set (snapshots : InsertionMap CacheKey BorrowerSnapshot) (key : CacheKey)
    (snapshot : BorrowerSnapshot) (chain : SupportedChain) :
    keysOf (snapshots.set key snapshot) chain =
      if snapshots.has key = false ∧ key.chain = chain then keysOf snapshots chain + 1
      else keysOf snapshots chain := by
  have same : keysOf (snapshots.set key snapshot) chain =
      if key.chain = chain then
        ((snapshots.filter (fun key _ => decide (key.chain = chain))).set key snapshot).size
      else keysOf snapshots chain := by
    split
    next here =>
      apply InsertionMap.size_congr
      intro tested
      rw [has_filter_chain, InsertionMap.has_set, InsertionMap.has_set, has_filter_chain]
      by_cases equal : tested = key
      · simp [equal, here]
      · simp [equal]
    next here =>
      apply InsertionMap.size_congr
      intro tested
      rw [has_filter_chain, InsertionMap.has_set, has_filter_chain]
      by_cases equal : tested = key
      · simp [equal, here]
      · simp [equal]
  rw [same]
  split
  next here =>
    rw [InsertionMap.size_set, has_filter_chain]
    cases snapshots.has key <;> simp [here, keysOf]
  next here => simp [here]

theorem keysOf_delete (snapshots : InsertionMap CacheKey BorrowerSnapshot) (key : CacheKey)
    (chain : SupportedChain) :
    keysOf (snapshots.delete key) chain +
        (if snapshots.has key = true ∧ key.chain = chain then 1 else 0) =
      keysOf snapshots chain := by
  have same : keysOf (snapshots.delete key) chain =
      ((snapshots.filter (fun key _ => decide (key.chain = chain))).delete key).size := by
    apply InsertionMap.size_congr
    intro tested
    rw [has_filter_chain, InsertionMap.has, InsertionMap.has, InsertionMap.get?_delete,
      InsertionMap.get?_delete]
    by_cases equal : tested = key
    · simp [equal]
    · rw [if_neg equal, if_neg equal]
      exact (has_filter_chain snapshots chain tested).symm
  have shrunk := InsertionMap.size_delete
    (snapshots.filter (fun key _ => decide (key.chain = chain))) key
  rw [has_filter_chain, ← same] at shrunk
  rw [← keysOf] at shrunk
  simpa using shrunk

/-! ## The invariant -/

/-- The three maps of a cache are in step. -/
structure Indexed (cache : ReserveAwareBorrowerCache) : Prop where
  keyed : ∀ key snapshot, cache.snapshots.get? key = some snapshot → snapshot.key = key
  distinct : ∀ rkey, (accountsAt cache.reserveToAccounts rkey).Nodup
  indexed : ∀ rkey account, account ∈ accountsAt cache.reserveToAccounts rkey ↔
    ∃ key snapshot, cache.snapshots.get? key = some snapshot ∧ snapshot.account = account ∧
      Lists snapshot rkey
  counted : ∀ chain, cache.size chain = keysOf cache.snapshots chain

theorem indexed_create (maxEntries : Option Nat) (ttlMs : Option Int) :
    Indexed (create maxEntries ttlMs) where
  keyed := nofun
  distinct := fun _ => List.nodup_nil
  indexed := fun _ _ => iff_of_false List.not_mem_nil (by rintro ⟨key, snapshot, found, _⟩; cases found)
  counted := fun _ => rfl

/-- Two snapshots of an account that list a reserve are of one key. -/
theorem key_eq_of_lists {first second : BorrowerSnapshot} {rkey : CacheKey}
    (same : first.account = second.account) (one : Lists first rkey) (other : Lists second rkey) :
    first.key = second.key := by
  obtain ⟨reserve, _, rfl⟩ := one
  obtain ⟨tested, _, equal⟩ := other
  have chain : second.chain = first.chain := congrArg BorrowerKey.chain equal
  rw [BorrowerSnapshot.key, BorrowerSnapshot.key, same, chain]

/-- The index after the stored snapshot of a key was taken out of it. -/
theorem mem_detached {cache : ReserveAwareBorrowerCache} (indexed : cache.Indexed) {key : CacheKey}
    {previous : BorrowerSnapshot} (found : cache.snapshots.get? key = some previous)
    (rkey : CacheKey) (account : Address) :
    account ∈ accountsAt (detachReserveIndex cache.reserveToAccounts previous) rkey ↔
      ∃ other snapshot, other ≠ key ∧ cache.snapshots.get? other = some snapshot ∧
        snapshot.account = account ∧ Lists snapshot rkey := by
  rw [mem_detachReserveIndex, indexed.indexed]
  constructor
  · rintro ⟨⟨other, snapshot, stored, named, lists⟩, notPrevious⟩
    refine ⟨other, snapshot, ?_, stored, named, lists⟩
    rintro rfl
    rw [found, Option.some.injEq] at stored
    exact notPrevious ⟨by rw [← named, stored], stored ▸ lists⟩
  · rintro ⟨other, snapshot, different, stored, named, lists⟩
    refine ⟨⟨other, snapshot, stored, named, lists⟩, ?_⟩
    rintro ⟨same, previously⟩
    apply different
    rw [← indexed.keyed other snapshot stored, ← indexed.keyed key previous found]
    exact key_eq_of_lists (named.trans same) lists previously

/-- Deleting a stored snapshot takes one from the count of its chain. -/
theorem Indexed.size_deleteSnapshot {cache : ReserveAwareBorrowerCache} (indexed : cache.Indexed)
    {key : CacheKey} {snapshot : BorrowerSnapshot}
    (found : cache.snapshots.get? key = some snapshot) (chain : SupportedChain) :
    (cache.deleteSnapshot key snapshot).size chain =
      if chain = snapshot.chain then keysOf cache.snapshots snapshot.chain - 1
      else cache.size chain := by
  have present : cache.snapshots.has key = true := Option.isSome_iff_exists.mpr ⟨_, found⟩
  have sameChain : key.chain = snapshot.chain := by
    rw [← indexed.keyed key snapshot found]
    rfl
  have positive : 0 < keysOf cache.snapshots snapshot.chain := by
    have own := keysOf_delete cache.snapshots key snapshot.chain
    rw [if_pos ⟨present, sameChain⟩] at own
    omega
  have counted := indexed.counted snapshot.chain
  rw [size] at counted
  -- A chain with a snapshot has a count, so the default of the source is not taken.
  have known : (cache.chainCounts.get? snapshot.chain).getD 1 =
      keysOf cache.snapshots snapshot.chain := by
    cases stored : cache.chainCounts.get? snapshot.chain with
    | none =>
      rw [stored, Option.getD_none] at counted
      omega
    | some count =>
      rw [stored] at counted
      exact counted
  rw [size, ReserveAwareBorrowerCache.deleteSnapshot]
  dsimp only
  rw [known]
  split
  next last =>
    rw [InsertionMap.get?_delete]
    split
    · exact last.symm
    · rfl
  next =>
    rw [InsertionMap.get?_set]
    split <;> rfl

/-- Deleting a stored snapshot keeps the maps in step. -/
theorem Indexed.deleteSnapshot {cache : ReserveAwareBorrowerCache} (indexed : cache.Indexed)
    {key : CacheKey} {snapshot : BorrowerSnapshot}
    (found : cache.snapshots.get? key = some snapshot) :
    (cache.deleteSnapshot key snapshot).Indexed := by
  have lookups : ∀ tested, (cache.deleteSnapshot key snapshot).snapshots.get? tested =
      if tested = key then none else cache.snapshots.get? tested :=
    InsertionMap.get?_delete cache.snapshots key
  refine ⟨?_, nodup_detachReserveIndex indexed.distinct snapshot, ?_, ?_⟩
  · intro tested held stored
    rw [lookups] at stored
    split at stored
    · cases stored
    · exact indexed.keyed tested held stored
  · intro rkey account
    refine (mem_detached indexed found rkey account).trans ?_
    refine exists_congr (fun tested => exists_congr (fun held => ?_))
    rw [lookups]
    by_cases same : tested = key
    · simp [same]
    · simp [same]
  · intro chain
    have shrunk := keysOf_delete cache.snapshots key chain
    have present : cache.snapshots.has key = true := Option.isSome_iff_exists.mpr ⟨_, found⟩
    have sameChain : key.chain = snapshot.chain := congrArg BorrowerKey.chain
      (indexed.keyed key snapshot found).symm
    have snapshots : (cache.deleteSnapshot key snapshot).snapshots = cache.snapshots.delete key := rfl
    rw [indexed.size_deleteSnapshot found, snapshots]
    by_cases here : chain = snapshot.chain
    · rw [if_pos ⟨present, sameChain.trans here.symm⟩, here] at shrunk
      rw [if_pos here, here]
      omega
    · rw [if_neg (fun both => here (both.2.symm.trans sameChain))] at shrunk
      rw [if_neg here, indexed.counted]
      omega

theorem snapshots_storeSnapshot (cache : ReserveAwareBorrowerCache) (snapshot : BorrowerSnapshot) :
    (cache.storeSnapshot snapshot).snapshots = cache.snapshots.set snapshot.key snapshot ∧
      (cache.storeSnapshot snapshot).ttlMs = cache.ttlMs := by
  unfold storeSnapshot
  dsimp only
  cases cache.snapshots.get? (cacheKey snapshot.chain snapshot.account) with
  | none => exact ⟨rfl, rfl⟩
  | some previous => exact ⟨rfl, rfl⟩

/-- A new key counts for its chain. -/
theorem size_storeSnapshot (cache : ReserveAwareBorrowerCache) (snapshot : BorrowerSnapshot)
    (chain : SupportedChain) :
    (cache.storeSnapshot snapshot).size chain =
      if cache.snapshots.has snapshot.key = false ∧ snapshot.key.chain = chain
        then cache.size chain + 1 else cache.size chain := by
  unfold storeSnapshot InsertionMap.has
  dsimp only
  cases found : cache.snapshots.get? (cacheKey snapshot.chain snapshot.account) with
  | some previous =>
    rw [BorrowerSnapshot.key, found, if_neg (by simp)]
    rfl
  | none =>
    rw [BorrowerSnapshot.key, found, size]
    dsimp only
    rw [InsertionMap.get?_set]
    by_cases here : chain = snapshot.chain
    · subst here
      simp [size, cacheKey, borrowerKey]
    · simp [here, size, cacheKey, borrowerKey, Ne.symm here]

/-- A snapshot is attached to an index without its predecessor. -/
theorem Indexed.attached {cache : ReserveAwareBorrowerCache} (indexed : cache.Indexed)
    (snapshot : BorrowerSnapshot) :
    ∃ before, (∀ rkey, (accountsAt before rkey).Nodup) ∧
      (∀ rkey account, account ∈ accountsAt before rkey ↔ ∃ other held, other ≠ snapshot.key ∧
        cache.snapshots.get? other = some held ∧ held.account = account ∧ Lists held rkey) ∧
      (cache.storeSnapshot snapshot).reserveToAccounts = attachReserveIndex before snapshot := by
  unfold ReserveAwareBorrowerCache.storeSnapshot
  dsimp only
  cases found : cache.snapshots.get? (cacheKey snapshot.chain snapshot.account) with
  | some previous =>
    exact ⟨_, nodup_detachReserveIndex indexed.distinct previous, mem_detached indexed found, rfl⟩
  | none =>
    refine ⟨cache.reserveToAccounts, indexed.distinct, fun rkey account => ?_, rfl⟩
    rw [indexed.indexed]
    refine exists_congr (fun other => exists_congr (fun held => ?_))
    refine (and_iff_right_of_imp ?_).symm
    rintro ⟨stored, _⟩ rfl
    rw [BorrowerSnapshot.key, found] at stored
    cases stored

/-- Storing a snapshot keeps the maps in step: its predecessor leaves the index,
and a new key counts for its chain. -/
theorem Indexed.storeSnapshot {cache : ReserveAwareBorrowerCache} (indexed : cache.Indexed)
    (snapshot : BorrowerSnapshot) : (cache.storeSnapshot snapshot).Indexed := by
  have snapshots := (snapshots_storeSnapshot cache snapshot).1
  obtain ⟨before, distinct, members, attached⟩ := indexed.attached snapshot
  refine ⟨?_, ?_, ?_, ?_⟩
  · intro key held stored
    rw [snapshots] at stored
    rcases InsertionMap.of_get?_set stored with ⟨same, rfl⟩ | earlier
    · exact same.symm
    · exact indexed.keyed key held earlier
  · intro rkey
    rw [attached]
    exact nodup_attachReserveIndex distinct snapshot rkey
  · intro rkey account
    rw [attached, mem_attachReserveIndex, members]
    constructor
    · rintro (⟨other, held, different, stored, rest⟩ | ⟨same, lists⟩)
      · refine ⟨other, held, ?_, rest⟩
        rw [snapshots]
        exact (InsertionMap.get?_set_other _ _ different).trans stored
      · refine ⟨snapshot.key, snapshot, ?_, same.symm, lists⟩
        rw [snapshots, InsertionMap.get?_set_same]
    · rintro ⟨other, held, stored, named, lists⟩
      rw [snapshots, InsertionMap.get?_set] at stored
      split at stored
      next =>
        cases stored
        exact Or.inr ⟨named.symm, lists⟩
      next different => exact Or.inl ⟨other, held, different, stored, named, lists⟩
  · intro chain
    rw [size_storeSnapshot, snapshots, keysOf_set, indexed.counted]

/-- Deleting stored entries one after another keeps the maps in step. -/
theorem Indexed.deleteAll {cache : ReserveAwareBorrowerCache} (indexed : cache.Indexed)
    {entries : List (CacheKey × BorrowerSnapshot)} (distinct : (entries.map Prod.fst).Nodup)
    (stored : ∀ entry ∈ entries, cache.snapshots.get? entry.1 = some entry.2) :
    (cache.deleteAll entries).Indexed := by
  induction entries generalizing cache with
  | nil => exact indexed
  | cons entry rest inductionHypothesis =>
    rw [List.map_cons, List.nodup_cons] at distinct
    apply inductionHypothesis (indexed.deleteSnapshot (stored entry List.mem_cons_self)) distinct.2
    intro other member
    have different : other.1 ≠ entry.1 := fun same =>
      distinct.1 (List.mem_map.mpr ⟨other, member, same⟩)
    exact (InsertionMap.get?_delete_other _ different).trans
      (stored other (List.mem_cons_of_mem _ member))

section Prune

variable {cache : ReserveAwareBorrowerCache}

theorem Indexed.dropExpired (indexed : cache.Indexed) (nowMs : Int) :
    (cache.dropExpired nowMs).Indexed := by
  apply indexed.deleteAll
  · exact cache.snapshots.distinct.sublist (List.filter_sublist.map Prod.fst)
  · intro entry member
    exact (InsertionMap.mem_entries_iff _ _ _).mp (List.mem_of_mem_filter member)

/-- Pruning keeps the maps in step. -/
theorem Indexed.prune (indexed : cache.Indexed) (nowMs : Int) : (cache.prune nowMs).Indexed := by
  rw [prune_eq_deleteAll]
  apply (indexed.dropExpired nowMs).deleteAll
  · exact (cache.dropExpired nowMs).snapshots.distinct.sublist
      ((List.take_sublist _ _).map Prod.fst)
  · intro entry member
    exact (InsertionMap.mem_entries_iff _ _ _).mp (List.mem_of_mem_take member)

end Prune

/-! ## What the calls return -/

/-- The lists, the counts and the limit of a cache agree with what it stores. -/
structure Consistent (cache : ReserveAwareBorrowerCache) : Prop where
  accounts : ∀ nowMs chain reserve account,
    account ∈ cache.listAccountsForReserve nowMs chain reserve ↔
      ∃ snapshot ∈ (cache.prune nowMs).snapshots.values, snapshot.chain = chain ∧
        snapshot.account = account ∧ ∃ listed ∈ snapshot.reserves,
          listed.assetAddress.toLowerCase = reserve.toLowerCase
  once : ∀ nowMs chain reserve, (cache.listAccountsForReserve nowMs chain reserve).Nodup
  counts : ∀ chain, cache.size chain =
    (cache.snapshots.values.filter (fun snapshot => decide (snapshot.chain = chain))).length
  limit : cache.snapshots.size ≤ cache.maxEntries

theorem lists_reserveKey_iff (snapshot : BorrowerSnapshot) (chain : SupportedChain)
    (reserve : Address) :
    Lists snapshot (reserveKey chain reserve) ↔ snapshot.chain = chain ∧
      ∃ listed ∈ snapshot.reserves, listed.assetAddress.toLowerCase = reserve.toLowerCase := by
  simp only [Lists, reserveKey, borrowerKey, BorrowerKey.mk.injEq]
  tauto

/-- Snapshots under their own keys are as many of a chain as the keys are. -/
theorem length_values_of_chain {snapshots : InsertionMap CacheKey BorrowerSnapshot}
    (keyed : ∀ key snapshot, snapshots.get? key = some snapshot → snapshot.key = key)
    (chain : SupportedChain) :
    (snapshots.values.filter (fun snapshot => decide (snapshot.chain = chain))).length =
      keysOf snapshots chain := by
  rw [InsertionMap.values, List.filter_map, List.length_map]
  have same : snapshots.entries.filter ((fun snapshot => decide (snapshot.chain = chain)) ∘
      Prod.snd) = snapshots.entries.filter (fun entry => decide (entry.1.chain = chain)) := by
    apply List.filter_congr
    intro entry member
    rw [← keyed entry.1 entry.2 ((InsertionMap.mem_entries_iff _ _ _).mp member)]
    rfl
  rw [same]
  rfl

theorem Indexed.consistent {cache : ReserveAwareBorrowerCache} (indexed : cache.Indexed)
    (limit : cache.snapshots.size ≤ cache.maxEntries) : cache.Consistent where
  accounts := by
    intro nowMs chain reserve account
    refine ((indexed.prune nowMs).indexed (reserveKey chain reserve) account).trans ?_
    constructor
    · rintro ⟨key, snapshot, stored, named, lists⟩
      obtain ⟨chain, listed⟩ := (lists_reserveKey_iff snapshot _ _).mp lists
      exact ⟨snapshot, (InsertionMap.mem_values_iff _ _).mpr ⟨key, stored⟩, chain, named, listed⟩
    · rintro ⟨snapshot, member, chain, named, listed⟩
      obtain ⟨key, stored⟩ := (InsertionMap.mem_values_iff _ _).mp member
      exact ⟨key, snapshot, stored, named, (lists_reserveKey_iff snapshot _ _).mpr ⟨chain, listed⟩⟩
  once := fun nowMs chain reserve => (indexed.prune nowMs).distinct (reserveKey chain reserve)
  counts := by
    intro chain
    rw [indexed.counted, length_values_of_chain indexed.keyed]
  limit := limit

end ReserveAwareBorrowerCache

end LiquidationBot
