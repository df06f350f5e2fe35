import LiquidationBot.LiquidationExecutionAdapter
import LiquidationBot.Library.AsyncPool
import LiquidationBot.Library.Memo

/-!
# Gas limits of liquidations

The table of gas limits reads the pair, the flash-loan provider and whether a
wrapper is used; the cache in front of it is keyed by the pair alone. The cache
is a memo of the table, so it serves a sequence of executions as the table would
exactly when no two of them share a pair and differ in what the table reads.
-/

namespace LiquidationBot

namespace SafeTransactionExecutor

/-- `gasProfileCache` of a chain. -/
abbrev GasProfileCache := InsertionMap GasProfileKey Nat

/-- The cache answers the executor's two calls to it; no other call is made
where a request carries a hint. -/
def serveGasProfiles : Server Unit GasProfileCache ExecutorOp ExecutorOp.Answer :=
  fun _ cache op => match op with
    | .memory (.gasProfile key) => some (cache, cache.get? key)
    | .memory (.setGasProfile key gasLimit) => some (cache.set key gasLimit, ())
    | _ => none

/-- An execution of a request built for a liquidation, up to its transaction. -/
structure LiquidationExecution (chain : SupportedChain) where
  candidate : LiquidationCandidate
  config : LiquidationExecutionAdapterConfig
  request : SafeExecutionRequest
  transaction : TransactionEnvelope
  built : buildLiquidationExecutionRequest chain candidate config = .ok request

namespace LiquidationExecution

variable {chain : SupportedChain}

/-- What the table is asked for: the execution's pair and its wrapper setting. -/
def hint (execution : LiquidationExecution chain) : GasLimitHint where
  collateralAsset := execution.candidate.collateralAsset
  debtAsset := execution.candidate.debtAsset
  usesFlashWrapper := execution.config.flashLoanReceiverAddress.isSome

/-- The table's gas limit for the execution. -/
def tableGasLimit (execution : LiquidationExecution chain) : Nat :=
  resolveLiquidationGasLimit execution.hint execution.transaction.provider

/-- The key under which the gas limit is cached. -/
def profileKey (execution : LiquidationExecution chain) : GasProfileKey :=
  .liq execution.candidate.collateralAsset.toLowerCase execution.candidate.debtAsset.toLowerCase

/-- The request carries the hint and the key. -/
theorem request_eq (execution : LiquidationExecution chain) :
    execution.request.gasLimitHint = some execution.hint ∧
      execution.request.gasProfileKey = execution.profileKey := by
  have built := execution.built
  unfold buildLiquidationExecutionRequest at built
  split at built
  · cases built
  · rw [← Except.ok.inj built]
    exact ⟨rfl, rfl⟩

/-- `getGasLimit` of one execution on a cache: the cache after it, and the gas
limit. -/
def getGasLimitFrom (cache : GasProfileCache) (execution : LiquidationExecution chain) :
    Option (GasProfileCache × Except Thrown Nat) :=
  (runAlone serveGasProfiles [(), ()] cache
    (getGasLimit execution.request execution.transaction)).map (fun run => (run.after, run.result))

/-- The gas limits of executions, one after another. -/
def usedGasLimits : GasProfileCache → List (LiquidationExecution chain) →
    Option (List (Except Thrown Nat))
  | _, [] => some []
  | cache, execution :: rest =>
      (execution.getGasLimitFrom cache).bind (fun used =>
        (usedGasLimits used.1 rest).map (fun later => used.2 :: later))

/-- `getGasLimit` is a call of the memo table of the table of gas limits. -/
theorem getGasLimitFrom_eq (cache : GasProfileCache) (execution : LiquidationExecution chain) :
    execution.getGasLimitFrom cache =
      some ((Memo.call profileKey tableGasLimit cache execution).2,
        .ok (Memo.call profileKey tableGasLimit cache execution).1) := by
  obtain ⟨hinted, keyed⟩ := execution.request_eq
  unfold getGasLimitFrom getGasLimit Memo.call
  rw [hinted, keyed]
  cases found : cache.get? execution.profileKey with
  | some gasLimit =>
    simp [memory, runAlone, serveGasProfiles, found]
  | none =>
    simp [memory, runAlone, serveGasProfiles, found, tableGasLimit]

theorem usedGasLimits_eq (cache : GasProfileCache) (executions : List (LiquidationExecution chain)) :
    usedGasLimits cache executions =
      some ((Memo.calls profileKey tableGasLimit cache executions).map .ok) := by
  induction executions generalizing cache with
  | nil => rfl
  | cons execution rest inductionHypothesis =>
    rw [usedGasLimits, getGasLimitFrom_eq, Option.bind_some, inductionHypothesis]
    rfl

/-- The pair of the override entries. -/
def IsOverridePair (execution : LiquidationExecution chain) : Prop :=
  execution.hint.collateralAsset.toLowerCase = ⟨0x4200000000000000000000000000000000000006, 0⟩ ∧
    execution.hint.debtAsset.toLowerCase = ⟨0x833589fcd6ede6e08f4c7c32d4f71b54bda02913, 0⟩

/-- The table has an Aave entry of its own for the execution. -/
def HasAaveEntry (execution : LiquidationExecution chain) : Prop :=
  execution.IsOverridePair ∧ execution.transaction.provider = .aaveV3

/-- Two executions of a pair fall into one row of the table: both go through
Balancer or neither does, both have the Aave entry or neither has, and otherwise
both use a wrapper or neither does. -/
structure SameRow (first second : LiquidationExecution chain) : Prop where
  balancer : first.transaction.provider = .balancer ↔ second.transaction.provider = .balancer
  aave : first.HasAaveEntry ↔ second.HasAaveEntry
  wrapper : first.transaction.provider ≠ .balancer → ¬ first.HasAaveEntry →
    first.hint.usesFlashWrapper = second.hint.usesFlashWrapper

open Classical in
/-- The table by rows. -/
theorem tableGasLimit_eq (execution : LiquidationExecution chain) :
    execution.tableGasLimit =
      if execution.transaction.provider = .balancer then
        if execution.IsOverridePair then 1200000 else 1250000
      else if execution.HasAaveEntry then 1100000
      else if execution.hint.usesFlashWrapper then 1150000
      else 650000 := by
  unfold tableGasLimit resolveLiquidationGasLimit pairOverrides HasAaveEntry IsOverridePair
  cases execution.transaction.provider <;> split_ifs <;> simp_all

theorem isOverridePair_congr {first second : LiquidationExecution chain}
    (same : first.profileKey = second.profileKey) :
    first.IsOverridePair ↔ second.IsOverridePair := by
  obtain ⟨collateral, debt⟩ := GasProfileKey.liq.inj same
  simp only [IsOverridePair, hint, collateral, debt]

/-- Two executions of a pair have one gas limit in the table exactly when they
fall into one row. -/
theorem tableGasLimit_eq_iff {first second : LiquidationExecution chain}
    (same : first.profileKey = second.profileKey) :
    first.tableGasLimit = second.tableGasLimit ↔ SameRow first second := by
  have pair := isOverridePair_congr same
  rw [tableGasLimit_eq, tableGasLimit_eq]
  constructor
  · intro equal
    refine ⟨?_, ?_, ?_⟩
    · split_ifs at equal <;> simp_all
    · split_ifs at equal <;> simp_all [HasAaveEntry]
    · split_ifs at equal <;> simp_all
  · rintro ⟨balancer, aave, wrapper⟩
    split_ifs <;> simp_all

/-- Executions of a chain, from an empty cache: each gets the table's gas limit
exactly when no two of a pair fall into different rows of the table. -/
theorem gas_limits_follow_table_iff (executions : List (LiquidationExecution chain)) :
    usedGasLimits .empty executions =
        some (executions.map (fun execution => .ok execution.tableGasLimit)) ↔
      executions.Pairwise (fun earlier later =>
        earlier.profileKey = later.profileKey → SameRow earlier later) := by
  have none : ∀ execution ∈ executions,
      Memo.Agrees profileKey tableGasLimit .empty execution := by
    intro execution _ value found
    rw [InsertionMap.get?_empty] at found
    cases found
  have injective : Function.Injective (Except.ok : Nat → Except Thrown Nat) :=
    fun _ _ same => Except.ok.inj same
  calc usedGasLimits .empty executions =
        some (executions.map (fun execution => .ok execution.tableGasLimit))
      ↔ (Memo.calls profileKey tableGasLimit .empty executions).map .ok =
          (executions.map tableGasLimit).map (Except.ok : Nat → Except Thrown Nat) := by
        rw [usedGasLimits_eq, Option.some.injEq, List.map_map]
        rfl
    _ ↔ Memo.calls profileKey tableGasLimit .empty executions = executions.map tableGasLimit :=
        (List.map_injective_iff.mpr injective).eq_iff
    _ ↔ executions.Pairwise (fun earlier later => earlier.profileKey = later.profileKey →
          earlier.tableGasLimit = later.tableGasLimit) := by
        rw [Memo.calls_eq_map_iff]
        exact and_iff_right none
    _ ↔ executions.Pairwise (fun earlier later =>
          earlier.profileKey = later.profileKey → SameRow earlier later) :=
        List.Pairwise.iff (fun _ _ => forall_congr' tableGasLimit_eq_iff)

/-- A liquidation of WETH against USDC, with or without a receiver. -/
def wethUsdc (receiver : Option Address) (provider : FlashLoanProviderId) :
    LiquidationExecution .base where
  candidate :=
    ⟨⟨1, 0⟩, ⟨0x4200000000000000000000000000000000000006, 0⟩,
      ⟨0x833589fcd6ede6e08f4c7c32d4f71b54bda02913, 0⟩, 1000, 1000, 500, 950000000000000000⟩
  config := ⟨⟨7, 0⟩, receiver, false⟩
  request := {
    chain := .base
    account := ⟨7, 0⟩
    opportunityId := .liquidation .base ⟨1, 0⟩ ⟨0x833589fcd6ede6e08f4c7c32d4f71b54bda02913, 0⟩
    gasProfileKey := .liq ⟨0x4200000000000000000000000000000000000006, 0⟩
      ⟨0x833589fcd6ede6e08f4c7c32d4f71b54bda02913, 0⟩
    routeInputChain := .base
    gasLimitHint := some {
      collateralAsset := ⟨0x4200000000000000000000000000000000000006, 0⟩
      debtAsset := ⟨0x833589fcd6ede6e08f4c7c32d4f71b54bda02913, 0⟩
      usesFlashWrapper := receiver.isSome }
    buildsFlashLoanPreview := receiver.isSome }
  transaction := ⟨⟨9, 0⟩, [], provider, none⟩
  built := by simp [buildLiquidationExecutionRequest, Address.toLowerCase]

/-- After a direct liquidation through Uniswap a wrapped one of the same pair
runs with the direct gas limit, 650000 instead of 1150000. -/
theorem gas_limit_of_other_row :
    usedGasLimits .empty [wethUsdc none .uniswapV3, wethUsdc (some ⟨8, 0⟩) .uniswapV3] =
        some [.ok 650000, .ok 650000] ∧
      (wethUsdc (some ⟨8, 0⟩) .uniswapV3).tableGasLimit = 1150000 ∧
      ¬ ∀ executions : List (LiquidationExecution .base), usedGasLimits .empty executions =
        some (executions.map (fun execution => .ok execution.tableGasLimit)) := by
  have used : usedGasLimits .empty
      [wethUsdc none .uniswapV3, wethUsdc (some ⟨8, 0⟩) .uniswapV3] =
        some [.ok 650000, .ok 650000] := by
    rw [usedGasLimits_eq]
    rfl
  have wrapped : (wethUsdc (some ⟨8, 0⟩) .uniswapV3).tableGasLimit = 1150000 := rfl
  refine ⟨used, wrapped, fun follows => ?_⟩
  have both := follows [wethUsdc none .uniswapV3, wethUsdc (some ⟨8, 0⟩) .uniswapV3]
  rw [used, List.map_cons, List.map_cons, wrapped] at both
  cases both

end LiquidationExecution

end SafeTransactionExecutor

end LiquidationBot
