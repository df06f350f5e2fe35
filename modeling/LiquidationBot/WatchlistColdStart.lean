import LiquidationBot.PoolLogDiscovery
import LiquidationBot.WatchlistReserveFilter

/-!
# The cold start of the watchlist

Without an index the watchlist is filled from the chain: the pool's Borrow and
LiquidationCall logs over a range of blocks name accounts, the accounts with a debt are
added, and those that touch no allowlisted reserve are removed again, unless that would
leave too few. A failure on the way is logged, and the list stays as it is then.

From a chain that answers all reads the cold start lists exactly the debtors that the
logs name and the allowlist keeps.
-/

namespace LiquidationBot

open PoolLogs EventLogs Async

/-- What the cold start reads of its configuration. `indexed` is a cold start indexer
other than `onchain`. -/
structure ColdStartConfig where
  indexed : Bool := false
  lookbackBlocks : Nat := 200000
  maxBlocks : Nat := 200000
  reserveAllowlist : List Address := []
  multicallBatchSize : BatchSize := ⟨250, by decide⟩
  skipColdStartFullSweep : Bool := false

/-- What the cold start waits for: the accounts of the index, the heads of its two
clients, logs, the totals of a batch of accounts, the event watchlist's own cold start,
and the reserves of the listed accounts, batch by batch. -/
inductive ColdStartOp where
  | seed
  | readHead
  | coldHead
  | getLogs (query : LogQuery)
  | accountData (batch : List Address)
  | coldStartFromLogs (watchlist : BoundedWatchlist)
  | reserveData (accounts : List Address)

/-- `coldStartFromLogs` answers with the watchlist it leaves, and whether it threw. -/
@[reducible]
def ColdStartOp.Answer : ColdStartOp → Type
  | .seed => Except String (List Address)
  | .readHead => Except String Nat
  | .coldHead => Except String Nat
  | .getLogs _ => Except String (List UserLogArgs)
  | .accountData _ => Except String (List (Option UserAccountData))
  | .coldStartFromLogs _ => BoundedWatchlist × Bool
  | .reserveData _ => WatchlistReserveFilter.Responses

abbrev ColdStartM (α : Type) := Async ColdStartOp ColdStartOp.Answer String α

namespace WatchlistColdStart

/-- A call whose exception goes on. -/
def orFail {α : Type} (op : ColdStartOp) (read : op.Answer → Except String α) : ColdStartM α :=
  .call op (fun answer => orThrow (read answer))

/-! ## Discovery -/

/-- `chunkBlocks` of the call. -/
def COLD_START_CHUNK : Nat := 5000

/-- The accounts as they are spelled, in the order of discovery. -/
structure BorrowerDiscovery where
  accounts : InsertionMap Address Unit
  borrowLogs : Nat

def addAccounts (found : BorrowerDiscovery) (addresses : List Address) : BorrowerDiscovery :=
  { found with
    accounts :=
      addresses.foldl (fun accounts address => accounts.set address ()) found.accounts }

/-- What the Borrow logs of a chunk add. -/
def addBorrowLogs (found : BorrowerDiscovery) (logs : List UserLogArgs) : BorrowerDiscovery :=
  addAccounts { found with borrowLogs := found.borrowLogs + logs.length }
    (logs.flatMap UserLogArgs.extractBorrowerAddresses)

/-- What the LiquidationCall logs of a chunk add. -/
def addLiquidationLogs (found : BorrowerDiscovery) (logs : List UserLogArgs) : BorrowerDiscovery :=
  addAccounts found (logs.flatMap (fun args => args.user.toList))

/-- The body of the loop of `discoverBorrowersFromLogs`. -/
def scanChunk (found : BorrowerDiscovery) (range : Nat × Nat) : ColdStartM BorrowerDiscovery := do
  let logs ← orFail (.getLogs ⟨.Borrow, range.1, range.2⟩) id
  let liqLogs ← orFail (.getLogs ⟨.LiquidationCall, range.1, range.2⟩) id
  return addLiquidationLogs (addBorrowLogs found logs) liqLogs

/-- The first block of the scan. -/
def scanFrom (config : ColdStartConfig) (head : Nat) : Nat :=
  let blocksToScan :=
    if config.lookbackBlocks > config.maxBlocks then config.maxBlocks else config.lookbackBlocks
  if head > blocksToScan then head - blocksToScan else 0

def discoverBorrowersFromLogs (config : ColdStartConfig) : ColdStartM BorrowerDiscovery := do
  let head ← orFail .coldHead id
  (PoolLogDiscovery.chunks COLD_START_CHUNK (scanFrom config head) head).foldlM scanChunk
    ⟨.empty, 0⟩

/-- `batchSize` of `filterAccountsWithDebt`. -/
def DEBT_BATCH : Nat := 250

/-- One turn of the inner loop of `filterAccountsWithDebt`. -/
def keepDebtor (withDebt : List Address) (account : Address)
    (row : Option (Option UserAccountData)) : List Address :=
  match row with
  | some (some data) => if data.totalDebtBase > 0 then withDebt ++ [account] else withDebt
  | _ => withDebt

def filterBatch (withDebt : List Address) (batch : List Address) : ColdStartM (List Address) := do
  let results ← orFail (.accountData batch) id
  return batch.zipIdx.foldl (fun withDebt entry => keepDebtor withDebt entry.1 results[entry.2]?)
    withDebt

def filterAccountsWithDebt (accounts : List Address) : ColdStartM (List Address) :=
  (Batches.batches DEBT_BATCH accounts).foldlM filterBatch []

/-! ## The watchlist -/

/-- The loops that add accounts seen at one block. -/
def addEach (blockNumber : Nat) (addresses : List Address) (watchlist : BoundedWatchlist) :
    BoundedWatchlist :=
  addresses.foldl (fun watchlist address => watchlist.add address blockNumber) watchlist

/-- The attempt with the index; none where the cold start goes on to the chain. -/
def seedFromIndex (coordinator : WatchlistCoordinator) : ColdStartM (Option WatchlistCoordinator) :=
  .call .seed (fun answer =>
    match answer with
    | .error _ => .pure none
    | .ok addresses =>
        if addresses.isEmpty then .pure none
        else
          .call .readHead (fun answer =>
            match answer with
            | .error _ => .pure none
            | .ok blockNumber =>
                .pure (some { coordinator with
                  watchlist := addEach blockNumber addresses coordinator.watchlist })))

/-- The prune is undone where it leaves too few of many. -/
def revertPrune (blockNumber : Nat) (beforePrune : List Address) (pruned : BoundedWatchlist) :
    BoundedWatchlist :=
  if pruned.size < 100 ∧ beforePrune.length ≥ 100 then addEach blockNumber beforePrune pruned
  else pruned

/-- `runReservePrune`; a read that throws ends the cold start. -/
def runReservePrune (config : ColdStartConfig) (blockNumber : Nat) (beforePrune : List Address)
    (watchlist : BoundedWatchlist) : ColdStartM BoundedWatchlist :=
  if config.reserveAllowlist.isEmpty then .pure (revertPrune blockNumber beforePrune watchlist)
  else
    .call (.reserveData watchlist.addresses) (fun responses =>
      match WatchlistReserveFilter.pruneWatchlistByReserveAllowlist config.reserveAllowlist
        config.multicallBatchSize responses watchlist.addresses watchlist with
      | none => .pure watchlist
      | some pruned => .pure (revertPrune blockNumber beforePrune pruned))

/-- The cold start once accounts were looked for in the logs. -/
def settle (config : ColdStartConfig) (blockNumber : Nat) (withDebt : List Address)
    (coordinator : WatchlistCoordinator) : ColdStartM WatchlistCoordinator :=
  let size := coordinator.watchlist.size
  if size = 0 then .pure coordinator
  else if config.skipColdStartFullSweep then .pure { coordinator with borrowersDiscovered := size }
  else
    (runReservePrune config blockNumber withDebt coordinator.watchlist).bind (fun pruned =>
      .pure ⟨pruned, size⟩)

/-- The reads of the on-chain cold start: the debtors, and the block they are seen at. -/
def readDebtors (config : ColdStartConfig) : ColdStartM (List Address × Nat) := do
  let discovery ← discoverBorrowersFromLogs config
  let withDebt ← filterAccountsWithDebt discovery.accounts.keys
  let blockNumber ← orFail .readHead id
  return (withDebt, blockNumber)

def seedOnChain (config : ColdStartConfig) (coordinator : WatchlistCoordinator) :
    ColdStartM WatchlistCoordinator :=
  (readDebtors config).attempt.bind (fun outcome =>
    match outcome with
    | .error _ => .pure coordinator
    | .ok (withDebt, blockNumber) =>
        let filled := addEach blockNumber withDebt coordinator.watchlist
        if filled.size = 0 then
          .call (.coldStartFromLogs filled) (fun answer =>
            if answer.2 then .pure { coordinator with watchlist := answer.1 }
            else settle config blockNumber withDebt { coordinator with watchlist := answer.1 })
        else settle config blockNumber withDebt { coordinator with watchlist := filled })

/-- `seedColdStart`. -/
def seedColdStart (config : ColdStartConfig) (coordinator : WatchlistCoordinator) :
    ColdStartM WatchlistCoordinator :=
  if config.indexed then
    (seedFromIndex coordinator).bind (fun seeded =>
      match seeded with
      | some coordinator => .pure coordinator
      | none => seedOnChain config coordinator)
  else seedOnChain config coordinator

/-! ## The chain that answers -/

/-- A chain that does not move during the cold start: the pool's emissions, the heads of
the two clients, and what the rows for an account answer, none for one that fails. -/
structure ColdStartChain where
  checksum : BitVec 160 → BitVec 40
  history : PoolLogDiscovery.PoolHistory
  coldHead : Nat
  readHead : Nat
  accountData : Address → Option UserAccountData
  reserveData : Address → WatchlistReserveFilter.ReserveRow

/-- The answers of the chain. The index and the event watchlist give nothing. -/
def ColdStartChain.answers (config : ColdStartConfig) (chain : ColdStartChain) :
    (op : ColdStartOp) → op.Answer
  | .seed => .ok []
  | .readHead => .ok chain.readHead
  | .coldHead => .ok chain.coldHead
  | .getLogs query => .ok (PoolLogDiscovery.logsOf chain.checksum chain.history query)
  | .accountData batch => .ok (batch.map (fun account => chain.accountData account.toLowerCase))
  | .coldStartFromLogs watchlist => (watchlist, false)
  | .reserveData accounts => fun index =>
      some ((Batches.slice accounts (index * config.multicallBatchSize.val)
        config.multicallBatchSize.val).map (fun account => chain.reserveData account.toLowerCase))

section Reads

variable {config : ColdStartConfig} {chain : ColdStartChain}

theorem evaluate_orFail {α : Type} (op : ColdStartOp) (read : op.Answer → Except String α)
    (answer : (op : ColdStartOp) → op.Answer) :
    (orFail op read).evaluate answer = read (answer op) := by
  change (orThrow (read (answer op))).evaluate answer = read (answer op)
  cases read (answer op) <;> rfl

/-! ## What the logs name -/

/-- What the logs of a chunk add. -/
def chunkFound (chain : ColdStartChain) (found : BorrowerDiscovery) (range : Nat × Nat) :
    BorrowerDiscovery :=
  addLiquidationLogs
    (addBorrowLogs found
      (PoolLogDiscovery.logsOf chain.checksum chain.history ⟨.Borrow, range.1, range.2⟩))
    (PoolLogDiscovery.logsOf chain.checksum chain.history ⟨.LiquidationCall, range.1, range.2⟩)

theorem evaluate_scanChunk (found : BorrowerDiscovery) (range : Nat × Nat) :
    (scanChunk found range).evaluate (chain.answers config) = .ok (chunkFound chain found range) :=
  rfl

/-- The chunks of the scan. -/
def scanRanges (config : ColdStartConfig) (chain : ColdStartChain) : List (Nat × Nat) :=
  PoolLogDiscovery.chunks COLD_START_CHUNK (scanFrom config chain.coldHead) chain.coldHead

theorem evaluate_discover :
    (discoverBorrowersFromLogs config).evaluate (chain.answers config) =
      .ok ((scanRanges config chain).foldl (chunkFound chain) ⟨.empty, 0⟩) := by
  rw [discoverBorrowersFromLogs, bind_eq, evaluate_bind, evaluate_orFail]
  exact evaluate_foldlM evaluate_scanChunk _ _

theorem has_addAccounts (found : BorrowerDiscovery) (addresses : List Address) (tested : Address) :
    (addAccounts found addresses).accounts.has tested = true ↔
      found.accounts.has tested = true ∨ tested ∈ addresses := by
  have loop : ∀ (addresses : List Address) (accounts : InsertionMap Address Unit),
      (addresses.foldl (fun accounts address => accounts.set address ()) accounts).has tested =
        true ↔ accounts.has tested = true ∨ tested ∈ addresses := by
    intro addresses
    induction addresses with
    | nil => simp
    | cons address rest inductionHypothesis =>
      intro accounts
      rw [List.foldl_cons, inductionHypothesis, InsertionMap.has_set, Bool.or_eq_true,
        decide_eq_true_eq, List.mem_cons]
      tauto
  exact loop addresses found.accounts

/-- The addresses that the scan takes from an emission. -/
def takenFrom (chain : ColdStartChain) (emission : PoolEmission) : List Address :=
  let args := PoolLogDiscovery.argsOfEmission chain.checksum emission
  match emission.name with
  | .Borrow => args.extractBorrowerAddresses
  | .LiquidationCall => args.user.toList
  | _ => []

theorem mem_flatMap_logsOf (query : LogQuery) (taken : UserLogArgs → List Address)
    (tested : Address) :
    tested ∈ (PoolLogDiscovery.logsOf chain.checksum chain.history query).flatMap taken ↔
      ∃ entry ∈ chain.history, PoolLogDiscovery.Within query entry ∧
        tested ∈ taken (PoolLogDiscovery.argsOfEmission chain.checksum entry.2) := by
  simp only [PoolLogDiscovery.logsOf, List.mem_flatMap, List.mem_map, List.mem_filter,
    decide_eq_true_eq]
  constructor
  · rintro ⟨_, ⟨entry, ⟨listed, within⟩, rfl⟩, member⟩
    exact ⟨entry, listed, within, member⟩
  · rintro ⟨entry, listed, within, member⟩
    exact ⟨_, ⟨entry, ⟨listed, within⟩, rfl⟩, member⟩

theorem has_chunkFound (found : BorrowerDiscovery) (range : Nat × Nat) (tested : Address) :
    (chunkFound chain found range).accounts.has tested = true ↔
      found.accounts.has tested = true ∨
        ∃ entry ∈ chain.history, (range.1 ≤ entry.1 ∧ entry.1 ≤ range.2) ∧
          tested ∈ takenFrom chain entry.2 := by
  rw [chunkFound, addLiquidationLogs, has_addAccounts, addBorrowLogs, has_addAccounts, or_assoc,
    mem_flatMap_logsOf, mem_flatMap_logsOf]
  apply or_congr_right
  constructor
  · rintro (⟨entry, listed, ⟨name, inside⟩, member⟩ | ⟨entry, listed, ⟨name, inside⟩, member⟩)
    · exact ⟨entry, listed, inside, by rw [takenFrom, name]; exact member⟩
    · exact ⟨entry, listed, inside, by rw [takenFrom, name]; exact member⟩
  · rintro ⟨entry, listed, inside, member⟩
    rw [takenFrom] at member
    split at member
    next name => exact Or.inl ⟨entry, listed, ⟨name, inside⟩, member⟩
    next name => exact Or.inr ⟨entry, listed, ⟨name, inside⟩, member⟩
    next => cases member

/-- An emission of the scanned blocks gives the address. -/
def Discovered (config : ColdStartConfig) (chain : ColdStartChain) (tested : Address) : Prop :=
  ∃ entry ∈ chain.history,
    PoolLogDiscovery.InRange (scanFrom config chain.coldHead) chain.coldHead entry ∧
      tested ∈ takenFrom chain entry.2

/-- The chunks of the scan tile its range. -/
theorem has_discovered (tested : Address) :
    ((scanRanges config chain).foldl (chunkFound chain) ⟨.empty, 0⟩).accounts.has tested = true ↔
      Discovered config chain tested := by
  have loop : ∀ (ranges : List (Nat × Nat)) (found : BorrowerDiscovery),
      (ranges.foldl (chunkFound chain) found).accounts.has tested = true ↔
        found.accounts.has tested = true ∨ ∃ entry ∈ chain.history,
          (∃ range ∈ ranges, range.1 ≤ entry.1 ∧ entry.1 ≤ range.2) ∧
            tested ∈ takenFrom chain entry.2 := by
    intro ranges
    induction ranges with
    | nil => simp
    | cons range rest inductionHypothesis =>
      intro found
      rw [List.foldl_cons, inductionHypothesis, has_chunkFound, or_assoc]
      apply or_congr_right
      constructor
      · rintro (⟨entry, listed, inside, member⟩ | ⟨entry, listed, ⟨range, among, inside⟩, member⟩)
        · exact ⟨entry, listed, ⟨range, List.mem_cons_self, inside⟩, member⟩
        · exact ⟨entry, listed, ⟨range, List.mem_cons_of_mem _ among, inside⟩, member⟩
      · rintro ⟨entry, listed, ⟨range, among, inside⟩, member⟩
        rcases List.mem_cons.mp among with rfl | later
        · exact Or.inl ⟨entry, listed, inside, member⟩
        · exact Or.inr ⟨entry, listed, ⟨range, later, inside⟩, member⟩
  have none : InsertionMap.has (.empty : InsertionMap Address Unit) tested = true ↔ False := by
    simp [InsertionMap.has]
  have covered := (@PoolLogDiscovery.tile_chunks COLD_START_CHUNK chain.coldHead (by decide)
    (scanFrom config chain.coldHead)).covers_iff
  rw [loop, none, false_or, Discovered]
  constructor
  · rintro ⟨entry, listed, inside, member⟩
    have bounds := (covered entry.1).mp inside
    exact ⟨entry, listed, ⟨bounds.1, by omega⟩, member⟩
  · rintro ⟨entry, listed, ⟨after, before⟩, member⟩
    exact ⟨entry, listed, (covered entry.1).mpr ⟨after, by omega⟩, member⟩

/-- The accounts that an emission names: under the bot's declaration of Borrow the account
that borrows is read as the user, and the referral code as the account. -/
def accountsNamed : PoolEmission → List (BitVec 160)
  | .borrow _ _ onBehalfOf _ _ _ referralCode =>
      [(BitVec.ofNat 256 referralCode.toNat).setWidth 160, onBehalfOf]
  | .liquidationCall _ _ user _ _ _ _ => [user]
  | _ => []

/-- What the scan takes is spelled with its checksum. -/
theorem mem_takenFrom (emission : PoolEmission) (tested : Address) :
    tested ∈ takenFrom chain emission ↔
      ∃ value ∈ accountsNamed emission, tested = ⟨value, chain.checksum value⟩ := by
  cases emission with
  | borrow reserve user onBehalfOf amount interestRateMode borrowRate referralCode =>
    have decoded := decode_borrow reserve user onBehalfOf amount interestRateMode borrowRate
      referralCode
    rw [setWidth_ofUnsigned (by decide) onBehalfOf] at decoded
    let spell := fun value : BitVec 160 => (⟨value, chain.checksum value⟩ : Address)
    have taken : takenFrom chain (.borrow reserve user onBehalfOf amount interestRateMode
        borrowRate referralCode) =
        spell ((BitVec.ofNat 256 referralCode.toNat).setWidth 160) ::
          if some (spell onBehalfOf) ≠
            some (spell ((BitVec.ofNat 256 referralCode.toNat).setWidth 160))
          then [spell onBehalfOf] else [] := by
      rw [takenFrom, PoolLogDiscovery.argsOfEmission, PoolEmission.name, decoded]
      rfl
    rw [taken, accountsNamed, List.mem_cons, List.exists_mem_cons_iff]
    apply or_congr_right'
    intro other
    split
    next => simp [spell]
    next same =>
      have equal := Option.some.inj (not_not.mp same)
      refine iff_of_false List.not_mem_nil ?_
      rintro ⟨value, single, rfl⟩
      rw [List.mem_singleton.mp single] at other
      exact other equal
  | liquidationCall collateralAsset debtAsset user debtToCover liquidatedCollateralAmount
      liquidator receiveAToken =>
    rw [takenFrom, PoolLogDiscovery.user_argsOfEmission, PoolEmission.name]
    simp [accountsNamed, PoolEmission.account]
  | supply => simp [takenFrom, PoolEmission.name, accountsNamed]
  | repay => simp [takenFrom, PoolEmission.name, accountsNamed]
  | withdraw => simp [takenFrom, PoolEmission.name, accountsNamed]

/-! ## The debtors -/

/-- The row shows a debt. -/
def showsDebt (row : Option UserAccountData) : Bool :=
  row.any (fun data => decide (data.totalDebtBase > 0))

def hasDebt (chain : ColdStartChain) (account : Address) : Bool :=
  showsDebt (chain.accountData account.toLowerCase)

theorem showsDebt_iff (row : Option UserAccountData) :
    showsDebt row = true ↔ ∃ data, row = some data ∧ data.totalDebtBase > 0 := by
  simp [showsDebt, Option.any_eq_true]

theorem keepDebtor_eq (withDebt : List Address) (account : Address)
    (row : Option UserAccountData) :
    keepDebtor withDebt account (some row) =
      withDebt ++ if showsDebt row then [account] else [] := by
  cases row with
  | none => simp [keepDebtor, showsDebt]
  | some data =>
    by_cases debt : data.totalDebtBase > 0
    · simp [keepDebtor, showsDebt, debt]
    · simp [keepDebtor, showsDebt, debt]

theorem evaluate_filterAccountsWithDebt (accounts : List Address) :
    (filterAccountsWithDebt accounts).evaluate (chain.answers config) =
      .ok (accounts.filter (hasDebt chain)) := by
  let keep := fun withDebt account =>
    keepDebtor withDebt account (some (chain.accountData account.toLowerCase))
  have turn : ∀ (withDebt batch : List Address),
      (filterBatch withDebt batch).evaluate (chain.answers config) =
        .ok (batch.foldl keep withDebt) := by
    intro withDebt batch
    rw [filterBatch, bind_eq, evaluate_bind, evaluate_orFail]
    exact congrArg Except.ok (Batches.foldl_aligned
      (fun account : Address => chain.accountData account.toLowerCase) keepDebtor withDebt batch)
  have kept : ∀ (accounts withDebt : List Address),
      accounts.foldl keep withDebt = withDebt ++ accounts.filter (hasDebt chain) := by
    intro accounts
    induction accounts with
    | nil => simp
    | cons account rest inductionHypothesis =>
      intro withDebt
      have turn : keep withDebt account =
          withDebt ++ if hasDebt chain account then [account] else [] :=
        keepDebtor_eq withDebt account _
      rw [List.foldl_cons, inductionHypothesis, turn, List.filter_cons]
      cases hasDebt chain account with
      | true => simp
      | false => simp
  rw [filterAccountsWithDebt, evaluate_foldlM turn, Batches.foldl_batches (by decide), kept,
    List.nil_append]

/-- The accounts with a debt that the logs name, lower-cased. -/
def Debtor (config : ColdStartConfig) (chain : ColdStartChain) (key : Address) : Prop :=
  (∃ entry ∈ chain.history,
    PoolLogDiscovery.InRange (scanFrom config chain.coldHead) chain.coldHead entry ∧
      ∃ value ∈ accountsNamed entry.2, key = ⟨value, 0⟩) ∧
  ∃ data, chain.accountData key = some data ∧ data.totalDebtBase > 0

/-- The reads of the cold start give each debtor once. -/
theorem evaluate_readDebtors :
    ∃ withDebt : List Address,
      (readDebtors config).evaluate (chain.answers config) = .ok (withDebt, chain.readHead) ∧
        (withDebt.map Address.toLowerCase).Nodup ∧
        ∀ key, key ∈ withDebt.map Address.toLowerCase ↔ Debtor config chain key := by
  let found := (scanRanges config chain).foldl (chunkFound chain) ⟨.empty, 0⟩
  have taken : ∀ address, address ∈ found.accounts.keys ↔ Discovered config chain address :=
    fun address => (InsertionMap.mem_keys_iff _ _).trans (has_discovered address)
  have spelled : ∀ address ∈ found.accounts.keys,
      address = ⟨address.value, chain.checksum address.value⟩ := by
    intro address member
    obtain ⟨entry, _, _, given⟩ := (taken address).mp member
    obtain ⟨value, _, rfl⟩ := (mem_takenFrom entry.2 address).mp given
    rfl
  refine ⟨found.accounts.keys.filter (hasDebt chain), ?_, ?_, ?_⟩
  · rw [readDebtors, bind_eq, evaluate_bind, evaluate_discover]
    dsimp only
    rw [bind_eq, evaluate_bind, evaluate_filterAccountsWithDebt]
    rfl
  · refine List.Nodup.map_on ?_ (found.accounts.distinct.filter _)
    intro first one second other same
    have values := (Address.toLowerCase_eq_iff first second).mp same
    rw [spelled first (List.mem_of_mem_filter one), spelled second (List.mem_of_mem_filter other),
      values]
  · intro key
    simp only [List.mem_map, List.mem_filter, taken]
    constructor
    · rintro ⟨address, ⟨⟨entry, listed, inside, given⟩, debt⟩, rfl⟩
      obtain ⟨value, named, rfl⟩ := (mem_takenFrom entry.2 address).mp given
      exact ⟨⟨entry, listed, inside, value, named, rfl⟩, (showsDebt_iff _).mp debt⟩
    · rintro ⟨⟨entry, listed, inside, value, named, rfl⟩, debt⟩
      exact ⟨⟨value, chain.checksum value⟩, ⟨⟨entry, listed, inside,
        (mem_takenFrom entry.2 _).mpr ⟨value, named, rfl⟩⟩, (showsDebt_iff _).mpr debt⟩, rfl⟩

end Reads

/-! ## A list seen at one block -/

section Listed

variable {blockNumber : Nat} {watchlist : BoundedWatchlist} {keys : List Address}

/-- The list holds these accounts, all of them seen at the block. -/
def Lists (blockNumber : Nat) (watchlist : BoundedWatchlist) (keys : List Address) : Prop :=
  ∀ key, watchlist.lastSeenOf key = if key ∈ keys then some blockNumber else none

namespace Lists

theorem congr (lists : Lists blockNumber watchlist keys) {others : List Address}
    (same : ∀ key, key ∈ keys ↔ key ∈ others) : Lists blockNumber watchlist others := by
  intro key
  rw [lists key]
  simp only [same]

theorem has_iff (lists : Lists blockNumber watchlist keys) (key : Address) :
    watchlist.map.has key = true ↔ key ∈ keys := by
  have listed : watchlist.map.has key = (watchlist.lastSeenOf key).isSome := Option.isSome_map.symm
  rw [listed, lists key]
  split
  next member => simp [member]
  next absent => simp [absent]

theorem size_eq (lists : Lists blockNumber watchlist keys) (distinct : keys.Nodup) :
    watchlist.size = keys.length := by
  have same : watchlist.map.keys.Perm keys := by
    refine (List.perm_ext_iff_of_nodup watchlist.map.distinct distinct).mpr (fun key => ?_)
    exact (InsertionMap.mem_keys_iff _ _).trans (lists.has_iff key)
  rw [← same.length_eq]
  exact (List.length_map _).symm

/-- Nothing is stale at its own block, so that a full list drops nothing. -/
theorem kept (lists : Lists blockNumber watchlist keys) :
    watchlist.kept blockNumber = watchlist := by
  rw [BoundedWatchlist.kept]
  split
  next =>
    rw [BoundedWatchlist.evictStale, InsertionMap.filter_eq_self]
    intro key entry found
    have seen := lists key
    rw [BoundedWatchlist.lastSeenOf, found, Option.map_some] at seen
    split at seen
    next => simp [Option.some.inj seen]
    next => cases seen
  next => rfl

theorem add (lists : Lists blockNumber watchlist keys) (address : Address) :
    Lists blockNumber (watchlist.add address blockNumber) (address.toLowerCase :: keys) := by
  intro key
  rw [BoundedWatchlist.lastSeenOf, BoundedWatchlist.add_eq_addHealth,
    BoundedWatchlist.get?_addHealth, lists.kept, ← BoundedWatchlist.lastSeenOf, lists key]
  by_cases same : key = address.toLowerCase
  · simp [same]
  · simp [same]

/-- The loop lists the accounts it adds and forgets none. -/
theorem addEach (lists : Lists blockNumber watchlist keys) (addresses : List Address) :
    Lists blockNumber (addEach blockNumber addresses watchlist)
      (addresses.map Address.toLowerCase ++ keys) := by
  induction addresses generalizing watchlist keys with
  | nil => exact lists
  | cons address rest inductionHypothesis =>
    refine (inductionHypothesis (lists.add address)).congr (fun key => ?_)
    simp only [List.map_cons, List.mem_append, List.mem_cons]
    tauto

theorem remove (lists : Lists blockNumber watchlist keys) (address : Address) :
    Lists blockNumber (watchlist.remove address)
      (keys.filter (fun key => decide (key ≠ address.toLowerCase))) := by
  intro key
  rw [WatchlistCall.lastSeenOf_remove, lists key]
  by_cases same : key = address.toLowerCase
  · simp [same]
  · simp [same]

/-- The removals leave the accounts that are allowed. -/
theorem removeUnallowed (lists : Lists blockNumber watchlist keys)
    (accounts allowed : List Address) :
    Lists blockNumber (WatchlistReserveFilter.removeUnallowed accounts allowed watchlist)
      (keys.filter (fun key =>
        decide (key ∈ accounts.map Address.toLowerCase → key ∈ allowed))) := by
  induction accounts generalizing watchlist keys with
  | nil => exact lists.congr (by simp)
  | cons account rest inductionHypothesis =>
    by_cases named : account.toLowerCase ∈ allowed
    · have step : WatchlistReserveFilter.removeUnallowed (account :: rest) allowed watchlist =
          WatchlistReserveFilter.removeUnallowed rest allowed watchlist := by
        rw [WatchlistReserveFilter.removeUnallowed, List.foldl_cons,
          if_pos (List.contains_iff_mem.mpr named)]
        rfl
      rw [step]
      refine (inductionHypothesis lists).congr (fun key => ?_)
      simp only [List.mem_filter, decide_eq_true_eq, List.map_cons, List.mem_cons]
      rcases eq_or_ne key account.toLowerCase with rfl | other
      · tauto
      · tauto
    · have step : WatchlistReserveFilter.removeUnallowed (account :: rest) allowed watchlist =
          WatchlistReserveFilter.removeUnallowed rest allowed (watchlist.remove account) := by
        rw [WatchlistReserveFilter.removeUnallowed, List.foldl_cons,
          if_neg (by rwa [List.contains_iff_mem])]
        rfl
      rw [step]
      refine (inductionHypothesis (lists.remove account)).congr (fun key => ?_)
      simp only [List.mem_filter, decide_eq_true_eq, List.map_cons, List.mem_cons]
      rcases eq_or_ne key account.toLowerCase with rfl | other
      · tauto
      · tauto

end Lists

end Listed

/-! ## The prune -/

section Pruning

variable {config : ColdStartConfig} {chain : ColdStartChain} {blockNumber : Nat}
  {watchlist : BoundedWatchlist}

/-- The row of the account shows an allowlisted reserve; with no allowlist all do. -/
def touches (config : ColdStartConfig) (chain : ColdStartChain) (key : Address) : Bool :=
  config.reserveAllowlist.isEmpty ||
    (chain.reserveData key).any (WatchlistReserveFilter.shows config.reserveAllowlist)

theorem ownRow_answers {accounts : List Address} {place : Nat} {account : Address}
    (here : accounts[place]? = some account) :
    WatchlistReserveFilter.ownRow config.multicallBatchSize
        (chain.answers config (.reserveData accounts)) place =
      chain.reserveData account.toLowerCase := by
  have positive := config.multicallBatchSize.property
  rw [WatchlistReserveFilter.ownRow, ColdStartChain.answers, Option.bind_some, List.getElem?_map,
    Batches.getElem?_slice, if_pos (Nat.mod_lt place positive), Nat.div_add_mod', here]
  rfl

/-- The prune leaves the accounts that touch an allowlisted reserve. -/
theorem Lists.pruned {keys : List Address} (lists : Lists blockNumber watchlist keys)
    (lowered : ∀ key ∈ keys, key.toLowerCase = key)
    (some_allowed : config.reserveAllowlist.isEmpty = false) :
    ∃ pruned, WatchlistReserveFilter.pruneWatchlistByReserveAllowlist config.reserveAllowlist
        config.multicallBatchSize (chain.answers config (.reserveData watchlist.addresses))
        watchlist.addresses watchlist = some pruned ∧
      Lists blockNumber pruned (keys.filter (touches config chain)) := by
  rw [WatchlistReserveFilter.prune_eq_filter some_allowed]
  cases filtered : WatchlistReserveFilter.filterAccountsTouchingReserveAllowlist
      config.multicallBatchSize (chain.answers config (.reserveData watchlist.addresses))
      watchlist.addresses config.reserveAllowlist with
  | none =>
    obtain ⟨_, _, rejected⟩ := (WatchlistReserveFilter.filter_eq_none_iff some_allowed).mp filtered
    cases rejected
  | some allowed =>
    have among : ∀ key, key ∈ watchlist.addresses ↔ key ∈ keys :=
      fun key => (InsertionMap.mem_keys_iff _ _).trans (lists.has_iff key)
    have named : ∀ key ∈ keys, (key ∈ allowed ↔ touches config chain key = true) := by
      intro key member
      rw [WatchlistReserveFilter.mem_filter some_allowed filtered, touches, some_allowed,
        Bool.false_or, Option.any_eq_true]
      constructor
      · rintro ⟨place, account, here, same, data, row, shown⟩
        rw [ownRow_answers here, ← same] at row
        exact ⟨data, row, shown⟩
      · rintro ⟨data, row, shown⟩
        obtain ⟨place, inside, here⟩ := List.mem_iff_getElem.mp ((among key).mpr member)
        have found : watchlist.addresses[place]? = some key :=
          List.getElem?_eq_some_iff.mpr ⟨inside, here⟩
        refine ⟨place, key, found, (lowered key member).symm, data, ?_, shown⟩
        rw [ownRow_answers found, lowered key member]
        exact row
    refine ⟨_, rfl, (lists.removeUnallowed _ allowed).congr (fun key => ?_)⟩
    simp only [List.mem_filter, decide_eq_true_eq]
    refine and_congr_right (fun member => ?_)
    rw [← named key member]
    have listed : key ∈ watchlist.addresses.map Address.toLowerCase :=
      List.mem_map.mpr ⟨key, (among key).mpr member, lowered key member⟩
    exact ⟨fun kept => kept listed, fun kept _ => kept⟩

/-- The prune is undone: it leaves fewer than a hundred of a hundred or more. -/
def restored (config : ColdStartConfig) (chain : ColdStartChain) (debtors : List Address) : Bool :=
  decide ((debtors.filter (touches config chain)).length < 100 ∧ debtors.length ≥ 100)

/-- What the prune leaves of the debtors. -/
def keptDebtors (config : ColdStartConfig) (chain : ColdStartChain) (debtors : List Address) :
    List Address :=
  debtors.filter (fun key => touches config chain key || restored config chain debtors)

theorem lists_revertPrune {withDebt : List Address}
    (lists : Lists blockNumber watchlist
      ((withDebt.map Address.toLowerCase).filter (touches config chain)))
    (distinct : (withDebt.map Address.toLowerCase).Nodup) :
    Lists blockNumber (revertPrune blockNumber withDebt watchlist)
      (keptDebtors config chain (withDebt.map Address.toLowerCase)) := by
  have left := lists.size_eq (distinct.filter _)
  have count : withDebt.length = (withDebt.map Address.toLowerCase).length :=
    (List.length_map _).symm
  rw [revertPrune, left, count]
  split
  next undone =>
    refine (lists.addEach withDebt).congr (fun key => ?_)
    have all : restored config chain (withDebt.map Address.toLowerCase) = true :=
      decide_eq_true undone
    simp only [keptDebtors, all, Bool.or_true, List.mem_append, List.mem_filter]
    tauto
  next holds =>
    have none : restored config chain (withDebt.map Address.toLowerCase) = false :=
      decide_eq_false holds
    simp only [keptDebtors, none, Bool.or_false]
    exact lists

theorem evaluate_runReservePrune {withDebt : List Address}
    (lists : Lists blockNumber watchlist (withDebt.map Address.toLowerCase))
    (distinct : (withDebt.map Address.toLowerCase).Nodup) :
    ∃ pruned, (runReservePrune config blockNumber withDebt watchlist).evaluate
        (chain.answers config) = .ok pruned ∧
      Lists blockNumber pruned (keptDebtors config chain (withDebt.map Address.toLowerCase)) := by
  rw [runReservePrune]
  cases allowlist : config.reserveAllowlist.isEmpty with
  | true =>
    refine ⟨_, rfl, lists_revertPrune (lists.congr (fun key => ?_)) distinct⟩
    simp [touches, allowlist]
  | false =>
    have lowered : ∀ key ∈ withDebt.map Address.toLowerCase, key.toLowerCase = key := by
      intro key member
      obtain ⟨address, _, rfl⟩ := List.mem_map.mp member
      rfl
    obtain ⟨pruned, made, left⟩ := @Lists.pruned config chain _ _ _ lists lowered allowlist
    refine ⟨_, ?_, lists_revertPrune left distinct⟩
    rw [if_neg Bool.false_ne_true, evaluate, made]
    rfl

end Pruning

/-! ## The cold start -/

section Seeding

variable {config : ColdStartConfig} {chain : ColdStartChain} {coordinator : WatchlistCoordinator}

/-- What the cold start leaves listed. -/
def listedDebtors (config : ColdStartConfig) (chain : ColdStartChain) (debtors : List Address) :
    List Address :=
  if config.skipColdStartFullSweep then debtors else keptDebtors config chain debtors

/-- An empty list and its coordinator, once the debtors are read. -/
theorem evaluate_settle {watchlist : BoundedWatchlist} {withDebt : List Address}
    {blockNumber borrowersDiscovered : Nat}
    (lists : Lists blockNumber watchlist (withDebt.map Address.toLowerCase))
    (distinct : (withDebt.map Address.toLowerCase).Nodup) :
    ∃ final : WatchlistCoordinator,
      (settle config blockNumber withDebt ⟨watchlist, borrowersDiscovered⟩).evaluate
        (chain.answers config) = .ok final ∧
      final.borrowersDiscovered =
        (if withDebt = [] then borrowersDiscovered else withDebt.length) ∧
      Lists blockNumber final.watchlist
        (listedDebtors config chain (withDebt.map Address.toLowerCase)) := by
  have size : watchlist.size = withDebt.length := (lists.size_eq distinct).trans (List.length_map _)
  simp only [settle, size]
  by_cases none : withDebt = []
  · subst none
    refine ⟨_, rfl, rfl, lists.congr ?_⟩
    simp [listedDebtors, keptDebtors]
  · have some_listed : withDebt.length ≠ 0 := mt List.length_eq_zero_iff.mp none
    rw [if_neg some_listed, if_neg none, listedDebtors]
    split
    next => exact ⟨_, rfl, rfl, lists⟩
    next =>
      obtain ⟨pruned, made, left⟩ := @evaluate_runReservePrune config chain _ _ _ lists distinct
      refine ⟨⟨pruned, withDebt.length⟩, ?_, rfl, left⟩
      rw [evaluate_bind, made]
      rfl

theorem evaluate_seedOnChain {withDebt : List Address}
    (reads : (readDebtors config).evaluate (chain.answers config) = .ok (withDebt, chain.readHead))
    (distinct : (withDebt.map Address.toLowerCase).Nodup)
    (empty : coordinator.watchlist.size = 0) :
    ∃ final : WatchlistCoordinator,
      (seedOnChain config coordinator).evaluate (chain.answers config) = .ok final ∧
      final.borrowersDiscovered =
        (if withDebt = [] then coordinator.borrowersDiscovered else withDebt.length) ∧
      Lists chain.readHead final.watchlist
        (listedDebtors config chain (withDebt.map Address.toLowerCase)) := by
  have start : Lists chain.readHead coordinator.watchlist [] := by
    intro key
    rw [BoundedWatchlist.lastSeenOf, InsertionMap.get?, List.length_eq_zero_iff.mp empty]
    rfl
  have filled := (start.addEach withDebt).congr (fun key => by rw [List.append_nil])
  obtain ⟨final, made, count, lists⟩ := @evaluate_settle config chain _ _ _
    coordinator.borrowersDiscovered filled distinct
  refine ⟨final, ?_, count, lists⟩
  rw [seedOnChain, evaluate_bind, evaluate_attempt, reads]
  dsimp only
  -- Where nothing was found the event watchlist is asked, and finds nothing either.
  split
  next => exact made
  next => exact made

/-- One account has borrowed and owes; no row shows its reserves. -/
def oneBorrower : ColdStartChain where
  checksum := fun _ => 0
  history := [(7, .borrow 1 5 5 1000 2 0 0)]
  coldHead := 10
  readHead := 12
  accountData := fun account => if account = ⟨5, 0⟩ then some ⟨0, 1000, 0, 0, 0, 0⟩ else none
  reserveData := fun _ => none

end Seeding

end WatchlistColdStart

end LiquidationBot
