import LiquidationBot.BorrowerCooldown
import LiquidationBot.HealthPolicy
import LiquidationBot.LiquidationExecutionAdapter
import Mathlib.Data.List.Sort
import Mathlib.Tactic.NormNum

/-!
# The borrower cache

The cache keeps the latest snapshot of every borrower, with an index from
reserves to accounts and a count for each chain. Every read first drops what is
too old or too much. Candidates for a liquidation are made from it afresh in
every cycle; a borrower stays in the cache after its candidates were executed.
-/

namespace LiquidationBot

/-- `AssetAmount`, with the decimals of its asset. -/
structure AssetAmount where
  decimals : Nat
  raw : Nat
deriving DecidableEq

def convertToQuote (amount pricePerWholeToken : AssetAmount) : AssetAmount :=
  ⟨pricePerWholeToken.decimals, (amount.raw * pricePerWholeToken.raw) / 10 ^ amount.decimals⟩

/-- `toDecimalNumber`, a float in the source and exact here. -/
def toDecimalNumber (amount : AssetAmount) : ℚ := mkRat amount.raw (10 ^ amount.decimals)

/-- `BorrowerReserveSnapshot`, with the decimals of its asset. -/
structure BorrowerReserveSnapshot where
  assetAddress : Address
  decimals : Nat
  collateralBalance : AssetAmount
  variableDebt : AssetAmount
  stableDebt : AssetAmount
  priceInQuote : AssetAmount
  usageAsCollateralEnabled : Bool
  liquidationBonusBps : Int
deriving DecidableEq

structure BorrowerSnapshot where
  chain : SupportedChain
  account : Address
  healthFactor : Nat
  reserves : List BorrowerReserveSnapshot
  updatedAtMs : Int
deriving DecidableEq

namespace BorrowerSnapshot

def totalDebt (reserve : BorrowerReserveSnapshot) : AssetAmount :=
  ⟨reserve.decimals, reserve.variableDebt.raw + reserve.stableDebt.raw⟩

def quoteReserveCollateral (reserve : BorrowerReserveSnapshot) : AssetAmount :=
  convertToQuote reserve.collateralBalance reserve.priceInQuote

/-- The reserves with collateral that counts, the most valuable first. -/
def collaterals (snapshot : BorrowerSnapshot) : List BorrowerReserveSnapshot :=
  (snapshot.reserves.filter (fun reserve =>
    reserve.usageAsCollateralEnabled && 0 < reserve.collateralBalance.raw)).insertionSort
      (fun left right => (quoteReserveCollateral right).raw ≤ (quoteReserveCollateral left).raw)

def debts (snapshot : BorrowerSnapshot) : List BorrowerReserveSnapshot :=
  snapshot.reserves.filter (fun reserve => 0 < (totalDebt reserve).raw)

/-- `toCandidates`: one for each debt, against the best collateral. -/
def toCandidates (snapshot : BorrowerSnapshot) : List LiquidationCandidate :=
  if WAD ≤ snapshot.healthFactor then []
  else
    match snapshot.collaterals with
    | [] => []
    | bestCollateral :: _ =>
        snapshot.debts.map (fun debtReserve => {
          account := snapshot.account
          collateralAsset := bestCollateral.assetAddress
          debtAsset := debtReserve.assetAddress
          debtToCover := (totalDebt debtReserve).raw
          repayValueUsd :=
            toDecimalNumber (convertToQuote (totalDebt debtReserve) debtReserve.priceInQuote)
          liquidationBonusBps := bestCollateral.liquidationBonusBps
          healthFactor := snapshot.healthFactor })

theorem account_of_mem_toCandidates {snapshot : BorrowerSnapshot}
    {candidate : LiquidationCandidate} (member : candidate ∈ snapshot.toCandidates) :
    candidate.account = snapshot.account ∧ candidate.healthFactor < WAD := by
  unfold toCandidates at member
  split at member
  · cases member
  next unhealthy =>
    split at member
    · cases member
    · obtain ⟨debtReserve, _, rfl⟩ := List.mem_map.mp member
      exact ⟨rfl, not_le.mp unhealthy⟩

end BorrowerSnapshot

/-- `cacheKey` and `reserveKey`: chain and lower-cased address. -/
abbrev CacheKey := BorrowerKey

/-- `ReserveAwareBorrowerCache`. -/
structure ReserveAwareBorrowerCache where
  snapshots : InsertionMap CacheKey BorrowerSnapshot
  reserveToAccounts : InsertionMap CacheKey (List Address)
  chainCounts : InsertionMap SupportedChain Nat
  maxEntries : Nat
  ttlMs : Int

namespace ReserveAwareBorrowerCache

/-- The constructor, with its defaults. -/
def create (maxEntries : Option Nat) (ttlMs : Option Int) : ReserveAwareBorrowerCache where
  snapshots := .empty
  reserveToAccounts := .empty
  chainCounts := .empty
  maxEntries := maxEntries.getD 50000
  ttlMs := ttlMs.getD (30 * 60000)

def cacheKey (chain : SupportedChain) (account : Address) : CacheKey := borrowerKey chain account

def reserveKey (chain : SupportedChain) (reserve : Address) : CacheKey := borrowerKey chain reserve

def attachReserveIndex (index : InsertionMap CacheKey (List Address)) (snapshot : BorrowerSnapshot) :
    InsertionMap CacheKey (List Address) :=
  snapshot.reserves.foldl (fun index reserve =>
    let key := reserveKey snapshot.chain reserve.assetAddress
    let accounts := (index.get? key).getD []
    index.set key
      (if snapshot.account ∈ accounts then accounts else accounts ++ [snapshot.account])) index

def detachReserveIndex (index : InsertionMap CacheKey (List Address)) (snapshot : BorrowerSnapshot) :
    InsertionMap CacheKey (List Address) :=
  snapshot.reserves.foldl (fun index reserve =>
    let key := reserveKey snapshot.chain reserve.assetAddress
    match index.get? key with
    | none => index
    | some accounts =>
        let rest := accounts.filter (· ≠ snapshot.account)
        if rest.isEmpty then index.delete key else index.set key rest) index

def deleteSnapshot (cache : ReserveAwareBorrowerCache) (key : CacheKey)
    (snapshot : BorrowerSnapshot) : ReserveAwareBorrowerCache :=
  let next := (cache.chainCounts.get? snapshot.chain).getD 1 - 1
  { cache with
    snapshots := cache.snapshots.delete key
    reserveToAccounts := detachReserveIndex cache.reserveToAccounts snapshot
    chainCounts := if next = 0 then cache.chainCounts.delete snapshot.chain
      else cache.chainCounts.set snapshot.chain next }

/-- Times before this floor are not taken for clock times. -/
def ttlEligibleFloorMs : Int := 1500000000000

/-- A snapshot that `prune` drops for its age. -/
def expired (cache : ReserveAwareBorrowerCache) (nowMs : Int) (snapshot : BorrowerSnapshot) : Bool :=
  ttlEligibleFloorMs ≤ snapshot.updatedAtMs && cache.ttlMs < nowMs - snapshot.updatedAtMs

/-- `prune`: the expired snapshots, then the oldest of too many. -/
def prune (cache : ReserveAwareBorrowerCache) (nowMs : Int) : ReserveAwareBorrowerCache :=
  let fresh := (cache.snapshots.entries.filter (fun entry => cache.expired nowMs entry.2)).foldl
    (fun cache entry => cache.deleteSnapshot entry.1 entry.2) cache
  (fresh.snapshots.entries.take (fresh.snapshots.size - fresh.maxEntries)).foldl
    (fun cache entry => cache.deleteSnapshot entry.1 entry.2) fresh

def upsert (cache : ReserveAwareBorrowerCache) (nowMs : Int) (snapshot : BorrowerSnapshot) :
    ReserveAwareBorrowerCache :=
  let key := cacheKey snapshot.chain snapshot.account
  let detached := match cache.snapshots.get? key with
    | some previous =>
        { cache with reserveToAccounts := detachReserveIndex cache.reserveToAccounts previous }
    | none =>
        { cache with
          chainCounts := cache.chainCounts.set snapshot.chain
            ((cache.chainCounts.get? snapshot.chain).getD 0 + 1) }
  let stored : ReserveAwareBorrowerCache := { detached with
    snapshots := detached.snapshots.set key snapshot
    reserveToAccounts := attachReserveIndex detached.reserveToAccounts snapshot }
  stored.prune nowMs

/-- A loop of upserts. -/
def upsertAll (cache : ReserveAwareBorrowerCache) (nowMs : Int) (snapshots : List BorrowerSnapshot) :
    ReserveAwareBorrowerCache :=
  snapshots.foldl (fun cache snapshot => cache.upsert nowMs snapshot) cache

/-- The snapshots that `listSnapshots` returns; it leaves the cache pruned. -/
def listSnapshots (cache : ReserveAwareBorrowerCache) (nowMs : Int) (chain : SupportedChain) :
    List BorrowerSnapshot :=
  (cache.prune nowMs).snapshots.values.filter (fun snapshot => snapshot.chain = chain)

def createReserveAwareCandidates (cache : ReserveAwareBorrowerCache) (nowMs : Int)
    (chain : SupportedChain) : List LiquidationCandidate :=
  (cache.listSnapshots nowMs chain).flatMap BorrowerSnapshot.toCandidates

/-- The account is among the candidates exactly when a listed snapshot of it is
liquidatable. -/
theorem exists_candidate_iff (cache : ReserveAwareBorrowerCache) (nowMs : Int)
    (chain : SupportedChain) (account : Address) :
    (∃ candidate ∈ cache.createReserveAwareCandidates nowMs chain, candidate.account = account) ↔
      ∃ snapshot ∈ cache.listSnapshots nowMs chain, snapshot.account = account ∧
        snapshot.toCandidates ≠ [] := by
  constructor
  · rintro ⟨candidate, member, rfl⟩
    obtain ⟨snapshot, listed, made⟩ := List.mem_flatMap.mp member
    exact ⟨snapshot, listed, (BorrowerSnapshot.account_of_mem_toCandidates made).1.symm,
      List.ne_nil_of_mem made⟩
  · rintro ⟨snapshot, listed, rfl, some⟩
    obtain ⟨candidate, made⟩ := List.exists_mem_of_ne_nil _ some
    exact ⟨candidate, List.mem_flatMap.mpr ⟨snapshot, listed, made⟩,
      (BorrowerSnapshot.account_of_mem_toCandidates made).1⟩

end ReserveAwareBorrowerCache

end LiquidationBot
