import LiquidationBot.BootstrapSweep
import LiquidationBot.WatchlistBounds

/-!
# Pruning the watchlist by reserves

The filter reads the reserves of every listed account, batch by batch, and names
the accounts it has seen in an allowlisted reserve. The pruner removes all
others. A row that fails names its account no more than a row without an
allowlisted reserve does, so what is removed has evidence against it exactly when
every listed account was read.
-/

namespace LiquidationBot

namespace WatchlistReserveFilter

/-- A row of a multicall of `getUserReservesData`; none if it failed. -/
abbrev ReserveRow := Option (List UserReserveData × Nat)

/-- The responses to the multicalls, by batch; none where the multicall is
rejected. The code does not rely on the number of rows. -/
abbrev Responses := Nat → Option (List ReserveRow)

/-- The row shows a balance in an allowlisted reserve: a debt, or a collateral
that is enabled. -/
def shows (allowlist : List Address) (row : List UserReserveData × Nat) : Bool :=
  EventPurityStack.reservesTouchAllowlist (BootstrapSweep.snapshotReserves row.1) allowlist

/-- One turn of the inner loop of `filterAccountsTouchingReserveAllowlist`. -/
def filterRow (allowlist allowed : List Address) (address : Address) (row : Option ReserveRow) :
    List Address :=
  match row with
  | some (some data) => if shows allowlist data then allowed ++ [address.toLowerCase] else allowed
  | _ => allowed

/-- The outer loop, from a batch on. -/
def filterBatches (allowlist : List Address) (responses : Responses) :
    Nat → List (List Address) → List Address → Option (List Address)
  | _, [], allowed => some allowed
  | index, batch :: rest, allowed =>
      (responses index).bind (fun reserveResults =>
        filterBatches allowlist responses (index + 1) rest
          (batch.zipIdx.foldl (fun allowed entry =>
            filterRow allowlist allowed entry.1 reserveResults[entry.2]?) allowed))

/-- `filterAccountsTouchingReserveAllowlist`; the set of accounts is a list. A
rejected multicall throws. -/
def filterAccountsTouchingReserveAllowlist (batchSize : BatchSize) (responses : Responses)
    (accounts allowlist : List Address) : Option (List Address) :=
  if allowlist.isEmpty then some (accounts.map Address.toLowerCase)
  else filterBatches allowlist responses 0 (Batches.batches batchSize.val accounts) []

/-- The removals of `pruneWatchlistByReserveAllowlist`. -/
def removeUnallowed (accounts allowed : List Address) (watchlist : BoundedWatchlist) :
    BoundedWatchlist :=
  accounts.foldl (fun watchlist account =>
    if allowed.contains account.toLowerCase then watchlist else watchlist.remove account) watchlist

/-- `pruneWatchlistByReserveAllowlist`, on the addresses listed when it starts
and the watchlist as it is when the reads have answered; none if it throws. -/
def pruneWatchlistByReserveAllowlist (allowlist : List Address) (batchSize : BatchSize)
    (responses : Responses) (accounts : List Address) (watchlist : BoundedWatchlist) :
    Option BoundedWatchlist :=
  if allowlist.isEmpty then some watchlist
  else if accounts.isEmpty then some watchlist
  else
    (filterAccountsTouchingReserveAllowlist batchSize responses accounts allowlist).map
      (fun allowed => removeUnallowed accounts allowed watchlist)

/-- The row of the account at a place among those read. -/
def ownRow (batchSize : BatchSize) (responses : Responses) (place : Nat) : ReserveRow :=
  (responses (place / batchSize.val)).bind (fun reserveResults =>
    reserveResults[place % batchSize.val]?.join)

/-! ## The filter -/

theorem mem_filterRow (allowlist allowed : List Address) (address : Address)
    (row : Option ReserveRow) (key : Address) :
    key ∈ filterRow allowlist allowed address row ↔
      key ∈ allowed ∨
        key = address.toLowerCase ∧ ∃ data, row.join = some data ∧ shows allowlist data = true := by
  unfold filterRow
  split
  next data =>
    cases shown : shows allowlist data with
    | true => simp [shown]
    | false => simp [shown]
  next failed =>
    have none : row.join = none := by
      match row, failed with
      | none, _ => rfl
      | some none, _ => rfl
      | some (some data), failed => exact absurd rfl (failed data)
    simp [none]

/-- A batch names the accounts whose rows show an allowlisted reserve. The fold
is over the batch's accounts from a place of the batch on. -/
theorem mem_filterBatch (allowlist : List Address) (rows : List ReserveRow) (batch : List Address)
    (start : Nat) (allowed : List Address) (key : Address) :
    key ∈ (batch.zipIdx start).foldl (fun allowed entry =>
        filterRow allowlist allowed entry.1 rows[entry.2]?) allowed ↔
      key ∈ allowed ∨ ∃ (place : Nat) (account : Address), batch[place]? = some account ∧
        key = account.toLowerCase ∧
        ∃ data, rows[start + place]?.join = some data ∧ shows allowlist data = true := by
  induction batch generalizing start allowed with
  | nil => simp
  | cons account rest inductionHypothesis =>
    rw [List.zipIdx_cons, List.foldl_cons, inductionHypothesis, mem_filterRow, or_assoc,
      Batches.exists_getElem?_cons account rest (fun place item => key = item.toLowerCase ∧
        ∃ data, rows[start + place]?.join = some data ∧ shows allowlist data = true)]
    simp only [Nat.add_zero, Nat.add_assoc, Nat.add_comm 1]

/-- The outer loop throws if a multicall is rejected; otherwise it names the
accounts whose rows show an allowlisted reserve. -/
theorem filterBatches_spec (allowlist : List Address) (responses : Responses)
    (batches : List (List Address)) (index : Nat) (allowed : List Address) :
    match filterBatches allowlist responses index batches allowed with
    | none => ∃ count < batches.length, responses (index + count) = none
    | some final =>
      (∀ count < batches.length, responses (index + count) ≠ none) ∧
        ∀ key, key ∈ final ↔ key ∈ allowed ∨
          ∃ (count : Nat) (batch : List Address), batches[count]? = some batch ∧
            ∃ rows, responses (index + count) = some rows ∧
              ∃ (place : Nat) (account : Address), batch[place]? = some account ∧
                key = account.toLowerCase ∧
                ∃ data, rows[place]?.join = some data ∧ shows allowlist data = true := by
  induction batches generalizing index allowed with
  | nil => simp [filterBatches]
  | cons batch rest inductionHypothesis =>
    rw [filterBatches]
    cases answered : responses index with
    | none => exact ⟨0, Nat.zero_lt_succ _, answered⟩
    | some rows =>
      rw [Option.bind_some]
      have later := inductionHypothesis (index + 1) (batch.zipIdx.foldl (fun allowed entry =>
        filterRow allowlist allowed entry.1 rows[entry.2]?) allowed)
      split at later
      next =>
        obtain ⟨count, inside, none⟩ := later
        exact ⟨count + 1, Nat.succ_lt_succ inside, by rw [← none]; congr 1; omega⟩
      next final =>
        refine ⟨?_, fun key => ?_⟩
        · rintro (_ | count) inside
          · rw [Nat.add_zero, answered]
            exact Option.some_ne_none rows
          · have := later.1 count (Nat.lt_of_succ_lt_succ inside)
            rwa [Nat.add_assoc, Nat.add_comm 1] at this
        · rw [later.2 key, mem_filterBatch, or_assoc, Batches.exists_getElem?_cons batch rest
            (fun count batch => ∃ rows, responses (index + count) = some rows ∧
              ∃ (place : Nat) (account : Address), batch[place]? = some account ∧
                key = account.toLowerCase ∧
                ∃ data, rows[place]?.join = some data ∧ shows allowlist data = true)]
          simp only [Nat.add_zero, Nat.zero_add, answered, Option.some.injEq, exists_eq_left',
            Nat.add_assoc, Nat.add_comm 1]

section Filter

variable {allowlist accounts : List Address} {batchSize : BatchSize} {responses : Responses}

/-- A multicall is rejected as a whole. -/
def RejectedCall (batchSize : BatchSize) (responses : Responses) (accounts : List Address) : Prop :=
  ∃ index, index * batchSize.val < accounts.length ∧ responses index = none

/-- The filter throws exactly where a multicall is rejected. -/
theorem filter_eq_none_iff (some_allowed : allowlist.isEmpty = false) :
    filterAccountsTouchingReserveAllowlist batchSize responses accounts allowlist = none ↔
      RejectedCall batchSize responses accounts := by
  have spec := filterBatches_spec allowlist responses (Batches.batches batchSize.val accounts) 0 []
  rw [filterAccountsTouchingReserveAllowlist, some_allowed, if_neg Bool.false_ne_true]
  simp only [Nat.zero_add, Batches.lt_length_batches_iff batchSize.property] at spec
  split at spec
  next rejected => exact iff_of_true rejected spec
  next final filtered =>
    rw [filtered]
    refine iff_of_false (Option.some_ne_none final) ?_
    rintro ⟨index, inside, none⟩
    exact spec.1 index inside none

/-- The accounts it names are those whose own rows show an allowlisted reserve. -/
theorem mem_filter (some_allowed : allowlist.isEmpty = false) {allowed : List Address}
    (filtered : filterAccountsTouchingReserveAllowlist batchSize responses accounts allowlist =
      some allowed) (key : Address) :
    key ∈ allowed ↔ ∃ (place : Nat) (account : Address), accounts[place]? = some account ∧
      key = account.toLowerCase ∧
      ∃ data, ownRow batchSize responses place = some data ∧ shows allowlist data = true := by
  have spec := filterBatches_spec allowlist responses (Batches.batches batchSize.val accounts) 0 []
  rw [filterAccountsTouchingReserveAllowlist, some_allowed, if_neg Bool.false_ne_true] at filtered
  rw [filtered] at spec
  rw [spec.2 key, or_iff_right List.not_mem_nil]
  constructor
  · rintro ⟨index, batch, cut, rows, answered, place, account, here, same, data, row, shown⟩
    rw [Batches.getElem?_batches batchSize.property] at cut
    split at cut
    next inside =>
      cases cut
      rw [Batches.getElem?_slice] at here
      split at here
      next small =>
        refine ⟨index * batchSize.val + place, account, here, same, data, ?_, shown⟩
        have quotient : (index * batchSize.val + place) / batchSize.val = index := by
          rw [Nat.mul_comm, Nat.mul_add_div batchSize.property, Nat.div_eq_of_lt small, Nat.add_zero]
        have remainder : (index * batchSize.val + place) % batchSize.val = place := by
          rw [Nat.mul_comm, Nat.mul_add_mod, Nat.mod_eq_of_lt small]
        rw [Nat.zero_add] at answered
        rw [ownRow, quotient, remainder, answered]
        exact row
      next => cases here
    next => cases cut
  · rintro ⟨place, account, here, same, data, row, shown⟩
    obtain ⟨rows, answered, own⟩ := Option.bind_eq_some_iff.mp row
    have split : place / batchSize.val * batchSize.val + place % batchSize.val = place :=
      Nat.div_add_mod' place batchSize.val
    have small : place % batchSize.val < batchSize.val := Nat.mod_lt place batchSize.property
    have inside : place < accounts.length := (List.getElem?_eq_some_iff.mp here).1
    refine ⟨place / batchSize.val, Batches.slice accounts (place / batchSize.val * batchSize.val)
      batchSize.val, ?_, rows, ?_, place % batchSize.val, account, ?_, same, data,
      own, shown⟩
    · exact (Batches.getElem?_batches batchSize.property accounts _).trans (if_pos (by omega))
    · rw [Nat.zero_add]
      exact answered
    · rw [Batches.getElem?_slice, if_pos small, split]
      exact here

end Filter

/-- The rows show no debt in an allowlisted reserve, and no balance there that is
enabled as collateral. -/
def ShowsNone (allowlist : List Address) (rows : List UserReserveData) : Prop :=
  ∀ row ∈ rows, row.underlyingAsset.toLowerCase ∈ allowlist.map Address.toLowerCase →
    row.scaledVariableDebt = 0 ∧
      (row.usageAsCollateralEnabledOnUser = true → row.scaledATokenBalance = 0)

theorem shows_eq_false_iff {allowlist : List Address} (some_allowed : allowlist.isEmpty = false)
    (data : List UserReserveData × Nat) :
    shows allowlist data = false ↔ ShowsNone allowlist data.1 := by
  simp only [shows, EventPurityStack.reservesTouchAllowlist, BootstrapSweep.snapshotReserves,
    some_allowed, Bool.false_or, List.any_map, List.any_filter, List.any_eq_false,
    Function.comp_apply, ShowsNone]
  refine forall₂_congr (fun row member => ?_)
  by_cases listed : row.underlyingAsset.toLowerCase ∈ allowlist.map Address.toLowerCase
  · have contained := List.contains_iff_mem.mpr listed
    by_cases enabled : row.usageAsCollateralEnabledOnUser = true
    · simp only [contained, listed, enabled]
      simp
      omega
    · simp only [contained, listed, enabled]
      simp
      omega
  · simp [listed]

/-! ## The removals -/

theorem has_removeUnallowed (accounts allowed : List Address) (watchlist : BoundedWatchlist)
    (tested : Address) :
    (removeUnallowed accounts allowed watchlist).has tested = true ↔
      watchlist.has tested = true ∧
        (tested.toLowerCase ∈ accounts.map Address.toLowerCase → tested.toLowerCase ∈ allowed) := by
  have removed : ∀ (watchlist : BoundedWatchlist) (account : Address),
      (watchlist.remove account).has tested = true ↔
        watchlist.has tested = true ∧ tested.toLowerCase ≠ account.toLowerCase := by
    intro watchlist account
    have stored : (watchlist.remove account).map.get? tested.toLowerCase =
        if tested.toLowerCase = account.toLowerCase then none
        else watchlist.map.get? tested.toLowerCase := InsertionMap.get?_delete _ _ _
    simp only [BoundedWatchlist.has, InsertionMap.has, stored]
    split <;> simp_all
  induction accounts generalizing watchlist with
  | nil => simp [removeUnallowed]
  | cons account rest inductionHypothesis =>
    have step : removeUnallowed (account :: rest) allowed watchlist =
        removeUnallowed rest allowed (if allowed.contains account.toLowerCase then watchlist
          else watchlist.remove account) := rfl
    rw [step, List.map_cons]
    refine (inductionHypothesis _).trans ?_
    by_cases named : account.toLowerCase ∈ allowed
    · rw [if_pos (List.contains_iff_mem.mpr named)]
      by_cases same : tested.toLowerCase = account.toLowerCase
      · simp [same, named]
      · simp [same]
    · rw [if_neg (by rwa [List.contains_iff_mem]), removed]
      by_cases same : tested.toLowerCase = account.toLowerCase
      · simp [same, named]
      · simp [same]

/-- With an allowlist the prune removes what the filter does not name; where nothing
is listed there is nothing to name. -/
theorem prune_eq_filter {allowlist : List Address} (some_allowed : allowlist.isEmpty = false)
    (batchSize : BatchSize) (responses : Responses) (accounts : List Address)
    (watchlist : BoundedWatchlist) :
    pruneWatchlistByReserveAllowlist allowlist batchSize responses accounts watchlist =
      (filterAccountsTouchingReserveAllowlist batchSize responses accounts allowlist).map
        (fun allowed => removeUnallowed accounts allowed watchlist) := by
  rw [pruneWatchlistByReserveAllowlist, some_allowed, if_neg Bool.false_ne_true]
  split
  next nobody =>
    rw [List.isEmpty_iff.mp nobody, filterAccountsTouchingReserveAllowlist, some_allowed,
      if_neg Bool.false_ne_true, Batches.batches_nil batchSize.property]
    rfl
  next => rfl

end WatchlistReserveFilter

/-! ## Reachable watchlists -/

namespace BoundedWatchlist

/-- `addresses`. -/
def addresses (watchlist : BoundedWatchlist) : List Address := watchlist.map.keys

/-- Every key is lower-cased. -/
def Lowered (watchlist : BoundedWatchlist) : Prop :=
  ∀ key seen, watchlist.lastSeenOf key = some seen → key.toLowerCase = key

theorem lowered_addHealth {watchlist : BoundedWatchlist} (lowered : watchlist.Lowered)
    (address : Address) (blockNumber : Nat) (lastHealthFactor : Option Nat) :
    (watchlist.addHealth address blockNumber lastHealthFactor).Lowered := by
  intro key seen present
  rw [lastSeenOf, get?_addHealth] at present
  split at present
  next same => rw [same, Address.toLowerCase_toLowerCase]
  next =>
    obtain ⟨entry, kept, _⟩ := Option.map_eq_some_iff.mp present
    exact lowered key entry.lastSeen (by rw [lastSeenOf, of_get?_kept kept]; rfl)

theorem lowered_registerEach {watchlist : BoundedWatchlist} (lowered : watchlist.Lowered)
    (block : Nat) (accounts : List Address) :
    (WatchlistCoordinator.registerEach block watchlist accounts).1.Lowered := by
  induction accounts generalizing watchlist with
  | nil => exact lowered
  | cons account rest inductionHypothesis =>
    exact inductionHypothesis (lowered_addHealth lowered account block none)

/-- The watchlists of a run have lower-cased keys. -/
theorem lowered_after (maxSize staleBlocks : Nat) (calls : List WatchlistCall) :
    (WatchlistCoordinator.after maxSize staleBlocks calls).watchlist.Lowered := by
  induction calls using List.reverseRecOn with
  | nil =>
    intro key seen present
    cases present
  | append_singleton earlier call inductionHypothesis =>
    have step : WatchlistCoordinator.after maxSize staleBlocks (earlier ++ [call]) =
        call.run (.after maxSize staleBlocks earlier) := List.foldl_append
    rw [step]
    cases call with
    | add address blockNumber lastHealthFactor =>
      exact lowered_addHealth inductionHypothesis address blockNumber lastHealthFactor
    | updateHealthFactor address healthFactor =>
      intro key seen present
      rw [WatchlistCall.run, WatchlistCall.lastSeenOf_updateHealthFactor] at present
      exact inductionHypothesis key seen present
    | remove address =>
      intro key seen present
      rw [WatchlistCall.run, WatchlistCall.lastSeenOf_remove] at present
      split at present
      · cases present
      · exact inductionHypothesis key seen present
    | registerBorrowers accounts blockNumber =>
      rw [WatchlistCall.run, (WatchlistCall.registerBorrowers_eq _ accounts blockNumber).1]
      exact lowered_registerEach inductionHypothesis (blockNumber.getD 0) accounts

theorem toLowerCase_of_mem {watchlist : BoundedWatchlist} (lowered : watchlist.Lowered)
    {key : Address} (member : key ∈ watchlist.addresses) : key.toLowerCase = key := by
  have present := (InsertionMap.mem_keys_iff watchlist.map key).mp member
  obtain ⟨entry, found⟩ := Option.isSome_iff_exists.mp present
  exact lowered key entry.lastSeen (by rw [lastSeenOf, found]; rfl)

end BoundedWatchlist

namespace WatchlistReserveFilter

section Removals

variable {allowlist accounts allowed : List Address} {batchSize : BatchSize}
  {responses : Responses}

/-- Where the filter has answered, an account is named exactly if its own row
shows an allowlisted reserve. -/
theorem mem_allowed_iff (lowered : ∀ key ∈ accounts, key.toLowerCase = key)
    (distinct : accounts.Nodup) (some_allowed : allowlist.isEmpty = false)
    (filtered : filterAccountsTouchingReserveAllowlist batchSize responses accounts allowlist =
      some allowed) {place : Nat} {key : Address} (here : accounts[place]? = some key) :
    key ∈ allowed ↔
      ∃ data, ownRow batchSize responses place = some data ∧ shows allowlist data = true := by
  rw [mem_filter some_allowed filtered]
  constructor
  · rintro ⟨other, account, there, same, data, row, shown⟩
    rw [lowered account (List.mem_of_getElem? there)] at same
    have inside : place < accounts.length := (List.getElem?_eq_some_iff.mp here).1
    have equal : place = other :=
      (List.getElem?_inj inside distinct).mp (by rw [here, there, same])
    subst equal
    exact ⟨data, row, shown⟩
  · rintro ⟨data, row, shown⟩
    exact ⟨place, key, here, (lowered key (List.mem_of_getElem? here)).symm, data, row, shown⟩

/-- The removals have evidence exactly where every account that is still listed
was read. -/
theorem removals_on_evidence_iff (lowered : ∀ key ∈ accounts, key.toLowerCase = key)
    (distinct : accounts.Nodup) (some_allowed : allowlist.isEmpty = false)
    (filtered : filterAccountsTouchingReserveAllowlist batchSize responses accounts allowlist =
      some allowed) (watchlist : BoundedWatchlist) :
    (∀ account, watchlist.has account = true →
      (removeUnallowed accounts allowed watchlist).has account = false →
      ∃ place, accounts[place]? = some account.toLowerCase ∧
        ∃ data, ownRow batchSize responses place = some data ∧ ShowsNone allowlist data.1) ↔
      ∀ place account, accounts[place]? = some account → watchlist.has account = true →
        (ownRow batchSize responses place).isSome := by
  have named : ∀ {place : Nat} {key : Address}, accounts[place]? = some key → (key ∈ allowed ↔
      ∃ data, ownRow batchSize responses place = some data ∧ shows allowlist data = true) :=
    fun here => mem_allowed_iff lowered distinct some_allowed filtered here
  have same_keys : accounts.map Address.toLowerCase = accounts := by
    rw [List.map_congr_left lowered, List.map_id']
  have gone : ∀ account, (removeUnallowed accounts allowed watchlist).has account = false ↔
      ¬ (watchlist.has account = true ∧
        (account.toLowerCase ∈ accounts → account.toLowerCase ∈ allowed)) := by
    intro account
    rw [← Bool.not_eq_true, has_removeUnallowed, same_keys]
  constructor
  · intro evidence place account here present
    by_contra unread
    have key := lowered account (List.mem_of_getElem? here)
    have unnamed : account ∉ allowed := by
      rw [named here]
      rintro ⟨data, row, _⟩
      exact unread (by rw [row, Option.isSome_some])
    obtain ⟨other, there, data, row, _⟩ := evidence account present ((gone account).mpr (by
      rw [key]
      exact fun both => unnamed (both.2 (List.mem_of_getElem? here))))
    have inside : place < accounts.length := (List.getElem?_eq_some_iff.mp here).1
    have equal : place = other :=
      (List.getElem?_inj inside distinct).mp (by rw [here, there, key])
    subst equal
    exact unread (by rw [row, Option.isSome_some])
  · intro read account present absent
    have removed := (gone account).mp absent
    rw [not_and, Classical.not_imp] at removed
    obtain ⟨member, unnamed⟩ := removed present
    obtain ⟨place, here⟩ := List.mem_iff_getElem?.mp member
    have still : watchlist.has account.toLowerCase = true := by
      rwa [BoundedWatchlist.has, Address.toLowerCase_toLowerCase]
    obtain ⟨data, row⟩ := Option.isSome_iff_exists.mp (read place _ here still)
    refine ⟨place, here, data, row, (shows_eq_false_iff some_allowed data).mp ?_⟩
    rw [← Bool.not_eq_true]
    exact fun shown => unnamed ((named here).mpr ⟨data, row, shown⟩)

end Removals

/-- A prune of a watchlist that may have changed while the reads were under way:
every account it removes was read and shows nothing in an allowlisted reserve,
exactly when there is no allowlist, or a multicall was rejected as a whole, or
every account that is listed at both ends was read. -/
theorem prune_on_evidence_iff (maxSize staleBlocks : Nat) (calls during : List WatchlistCall)
    (allowlist : List Address) (batchSize : BatchSize) (responses : Responses) :
    let accounts := (WatchlistCoordinator.after maxSize staleBlocks calls).watchlist.addresses
    let watchlist :=
      (WatchlistCoordinator.after maxSize staleBlocks (calls ++ during)).watchlist
    let pruned := (pruneWatchlistByReserveAllowlist allowlist batchSize responses accounts
      watchlist).getD watchlist
    (∀ account, watchlist.has account = true → pruned.has account = false →
      ∃ place, accounts[place]? = some account.toLowerCase ∧
        ∃ data, ownRow batchSize responses place = some data ∧ ShowsNone allowlist data.1) ↔
      allowlist = [] ∨ RejectedCall batchSize responses accounts ∨
        ∀ place account, accounts[place]? = some account → watchlist.has account = true →
          (ownRow batchSize responses place).isSome := by
  intro accounts watchlist pruned
  have lowered : ∀ key ∈ accounts, key.toLowerCase = key := fun key member =>
    BoundedWatchlist.toLowerCase_of_mem (BoundedWatchlist.lowered_after _ _ _) member
  have distinct : accounts.Nodup :=
    (WatchlistCoordinator.after maxSize staleBlocks calls).watchlist.map.distinct
  have evident : pruned = watchlist → ∀ account, watchlist.has account = true →
      pruned.has account = false → ∃ place, accounts[place]? = some account.toLowerCase ∧
        ∃ data, ownRow batchSize responses place = some data ∧ ShowsNone allowlist data.1 := by
    intro same account present absent
    rw [same, present] at absent
    cases absent
  cases empty : allowlist.isEmpty with
  | true =>
    refine iff_of_true (evident ?_) (Or.inl (List.isEmpty_iff.mp empty))
    change (pruneWatchlistByReserveAllowlist _ _ _ _ _).getD watchlist = watchlist
    rw [pruneWatchlistByReserveAllowlist, empty, if_pos rfl, Option.getD_some]
  | false =>
    have listed : allowlist ≠ [] := fun none => by simp [none] at empty
    rw [or_iff_right listed]
    have prunes := congrArg (fun result => result.getD watchlist)
      (prune_eq_filter empty batchSize responses accounts watchlist)
    cases filtered : filterAccountsTouchingReserveAllowlist batchSize responses accounts
      allowlist with
    | none =>
      rw [filtered] at prunes
      exact iff_of_true (evident prunes) (Or.inl ((filter_eq_none_iff empty).mp filtered))
    | some allowed =>
      have answered : ¬ RejectedCall batchSize responses accounts := by
        rw [← filter_eq_none_iff empty, filtered]
        exact Option.some_ne_none allowed
      have prunedIs : pruned = removeUnallowed accounts allowed watchlist := by
        rw [filtered] at prunes
        exact prunes
      rw [or_iff_right answered, prunedIs]
      exact removals_on_evidence_iff lowered distinct empty filtered watchlist

/-- One listed account, and the one row of its multicall fails: the account is
removed, and nothing was read of it. -/
theorem pruned_unread :
    ¬ ∀ (maxSize staleBlocks : Nat) (calls during : List WatchlistCall) (allowlist : List Address)
      (batchSize : BatchSize) (responses : Responses),
      let accounts := (WatchlistCoordinator.after maxSize staleBlocks calls).watchlist.addresses
      let watchlist :=
        (WatchlistCoordinator.after maxSize staleBlocks (calls ++ during)).watchlist
      let pruned := (pruneWatchlistByReserveAllowlist allowlist batchSize responses accounts
        watchlist).getD watchlist
      ∀ account, watchlist.has account = true → pruned.has account = false →
        ∃ place, accounts[place]? = some account.toLowerCase ∧
          ∃ data, ownRow batchSize responses place = some data ∧ ShowsNone allowlist data.1 := by
  intro evidence
  obtain ⟨place, _, data, row, _⟩ := evidence 50000 50400 [.add ⟨1, 0⟩ 5 none] []
    [⟨0x833589fcd6ede6e08f4c7c32d4f71b54bda02913, 0⟩] ⟨250, by decide⟩ (fun _ => some [none])
    ⟨1, 0⟩ (by decide +kernel) (by decide +kernel)
  rw [ownRow, Option.bind_some] at row
  cases index : place % 250 with
  | zero => simp [index] at row
  | succ later => simp [index] at row

end WatchlistReserveFilter

end LiquidationBot
