import LiquidationBot.CacheBounds
import LiquidationBot.IndexAccrual

/-!
# The index a scaled balance is stored at

A snapshot carries scaled balances: the pool multiplies them by an index in rays
to get balances. A seeding stores each with the reserve's current index, as if
it were a balance at that index, and a reserve whose index was never read has
one wad for an index.

What the model values an entry at is therefore its balance counted from a base
of its own: the stored index where the reserve has received one by now, and the
on-chain index of the snapshot where it has not. The entries of a position keep
their ratios exactly when they share that base.
-/

namespace LiquidationBot.LocalPositionModel

open Accrual Prefixes

/-- One ray, the unit of the pool's indices. -/
def RAY : Nat := 10 ^ 27

/-- A side of a position. -/
inductive Side where
  | collateral
  | debt
deriving DecidableEq

namespace Side

/-- The amounts of a side. -/
def amounts : Side → UserPosition → AmountsAtIndex
  | .collateral => collateralSide
  | .debt => debtSide

/-- The index a side accrues with. -/
def index : Side → ReserveConfig → Nat
  | .collateral => ReserveConfig.liquidityIndex
  | .debt => ReserveConfig.variableBorrowIndex

/-- The scaled balance of a snapshot row. -/
def scaled : Side → SnapshotReserve → Nat
  | .collateral => SnapshotReserve.scaledCollateral
  | .debt => SnapshotReserve.scaledDebt

/-- The index an event carries. -/
def updated : Side → ParsedAavePoolEvent → Option Nat
  | .collateral => ParsedAavePoolEvent.liquidityIndex
  | .debt => ParsedAavePoolEvent.variableBorrowIndex

end Side

/-- The index a side of a reserve is valued at; an unknown reserve is registered
with one wad. -/
def currentIndex (model : LocalPositionModel) (side : Side) (key : Address) : Nat :=
  ((model.reserveConfig.get? key).map side.index).getD WAD

/-! ## Indices as they arrive -/

/-- What registers a reserve or brings it an index. -/
inductive IndexOp where
  | registerReserve (asset : Address) (threshold : Nat)
  | reserveDataUpdated (event : ParsedAavePoolEvent) (updates : event.name = .ReserveDataUpdated)
      (nowSec : Int)
  | refreshReserveIndex (reserve : ReserveConfig) (liquidityIndex variableBorrowIndex : Nat)

/-- The model after an arrival. -/
def IndexOp.run (config : LocalPositionModelConfig) (model : LocalPositionModel) :
    IndexOp → LocalPositionModel
  | .registerReserve asset threshold => LocalPositionModel.registerReserve model asset threshold
  | .reserveDataUpdated event _ nowSec => (applyAaveEvent config model event nowSec).1
  | .refreshReserveIndex reserve liquidityIndex variableBorrowIndex =>
      LocalPositionModel.refreshReserveIndex model reserve liquidityIndex variableBorrowIndex

/-- The index an arrival brings a side of a reserve. -/
def IndexOp.brings (side : Side) (key : Address) : IndexOp → Option Nat
  | .registerReserve .. => none
  | .reserveDataUpdated event _ _ =>
      if event.reserve.toLowerCase = key then side.updated event else none
  | .refreshReserveIndex reserve liquidityIndex variableBorrowIndex =>
      if reserve.asset.toLowerCase = key then
        some (side.index { reserve with
          liquidityIndex := liquidityIndex
          variableBorrowIndex := variableBorrowIndex })
      else none

/-- Arrivals in order. -/
def runIndices (config : LocalPositionModelConfig) (model : LocalPositionModel)
    (ops : List IndexOp) : LocalPositionModel := ops.foldl (IndexOp.run config) model

/-- The last index the arrivals have brought a side of a reserve. -/
def received (ops : List IndexOp) (side : Side) (key : Address) : Option Nat :=
  ops.foldl (fun last op => (op.brings side key).or last) none

theorem get?_registerReserve (model : LocalPositionModel) (asset : Address) (threshold : Nat)
    (key : Address) :
    (model.registerReserve asset threshold).reserveConfig.get? key =
      if key = asset.toLowerCase then
        (model.reserveConfig.get? key).or (some (unreadReserve asset threshold none))
      else model.reserveConfig.get? key := by
  rw [registerReserve]
  by_cases known : model.reserveConfig.has asset.toLowerCase = true
  · obtain ⟨reserve, found⟩ := Option.isSome_iff_exists.mp known
    rw [if_pos known]
    by_cases here : key = asset.toLowerCase
    · rw [if_pos here, here, found, Option.some_or]
    · rw [if_neg here]
  · have absent : model.reserveConfig.get? asset.toLowerCase = none :=
      (InsertionMap.has_eq_false_iff _ _).mp (Bool.eq_false_iff.mpr known)
    rw [if_neg known]
    dsimp only
    rw [InsertionMap.get?_set]
    by_cases here : key = asset.toLowerCase
    · rw [if_pos here, if_pos here, here, absent, Option.none_or]
    · rw [if_neg here, if_neg here]

/-- Registering a reserve moves no index. -/
theorem currentIndex_registerReserve (model : LocalPositionModel) (asset : Address)
    (threshold : Nat) (side : Side) (key : Address) :
    currentIndex (model.registerReserve asset threshold) side key = currentIndex model side key := by
  rw [currentIndex, get?_registerReserve, currentIndex]
  by_cases here : key = asset.toLowerCase
  · rw [if_pos here]
    cases model.reserveConfig.get? key with
    | some reserve => rfl
    | none => cases side <;> rfl
  · rw [if_neg here]

theorem currentIndex_registerRows (model : LocalPositionModel) (reserves : List SnapshotReserve)
    (side : Side) (key : Address) :
    currentIndex (registerRows model reserves) side key = currentIndex model side key := by
  induction reserves generalizing model with
  | nil => rfl
  | cons row rest inductionHypothesis =>
    exact (inductionHypothesis _).trans
      (currentIndex_registerReserve model row.asset BASE_LT_BPS side key)

/-- An index update of a known reserve. -/
theorem currentIndex_applyReserveIndexUpdate (model : LocalPositionModel)
    (event : ParsedAavePoolEvent) (side : Side) (key : Address)
    (known : (model.reserveConfig.get? event.reserve.toLowerCase).isSome) :
    currentIndex (model.applyReserveIndexUpdate event) side key =
      (if event.reserve.toLowerCase = key then side.updated event else none).getD
        (currentIndex model side key) := by
  obtain ⟨reserve, found⟩ := Option.isSome_iff_exists.mp known
  rw [applyReserveIndexUpdate, found]
  dsimp only
  rw [currentIndex, InsertionMap.get?_set]
  by_cases here : event.reserve.toLowerCase = key
  · rw [if_pos here.symm, if_pos here, currentIndex, ← here, found]
    cases side <;> rfl
  · rw [if_neg (Ne.symm here), if_neg here]
    rfl

theorem currentIndex_run (config : LocalPositionModelConfig) (model : LocalPositionModel)
    (op : IndexOp) (side : Side) (key : Address) :
    currentIndex (op.run config model) side key =
      (op.brings side key).getD (currentIndex model side key) := by
  cases op with
  | registerReserve asset threshold =>
    exact currentIndex_registerReserve model asset threshold side key
  | reserveDataUpdated event updates nowSec =>
    have known : ((model.registerReserve event.reserve BASE_LT_BPS).reserveConfig.get?
        event.reserve.toLowerCase).isSome := by
      rw [get?_registerReserve, if_pos rfl]
      cases model.reserveConfig.get? event.reserve.toLowerCase <;> rfl
    rw [IndexOp.run, applyAaveEvent, if_pos updates]
    dsimp only
    rw [currentIndex_applyReserveIndexUpdate _ event side key known, currentIndex_registerReserve]
    rfl
  | refreshReserveIndex reserve liquidityIndex variableBorrowIndex =>
    rw [IndexOp.run, LocalPositionModel.refreshReserveIndex, currentIndex, IndexOp.brings]
    dsimp only
    rw [InsertionMap.get?_set]
    by_cases here : reserve.asset.toLowerCase = key
    · rw [if_pos here.symm, if_pos here]
      cases side <;> rfl
    · rw [if_neg (Ne.symm here), if_neg here]
      rfl

theorem received_snoc (ops : List IndexOp) (op : IndexOp) (side : Side) (key : Address) :
    received (ops ++ [op]) side key = (op.brings side key).or (received ops side key) := by
  rw [received, List.foldl_append]
  rfl

/-- The current index is the last one received. -/
theorem currentIndex_runIndices (config : LocalPositionModelConfig) (model : LocalPositionModel)
    (ops : List IndexOp) (side : Side) (key : Address) :
    currentIndex (runIndices config model ops) side key =
      (received ops side key).getD (currentIndex model side key) := by
  induction ops using List.reverseRecOn with
  | nil => rfl
  | append_singleton ops op inductionHypothesis =>
    rw [runIndices, List.foldl_append, received_snoc]
    refine (currentIndex_run config _ op side key).trans ?_
    rw [← runIndices, inductionHypothesis]
    cases op.brings side key <;> rfl

theorem received_append (earlier later : List IndexOp) (side : Side) (key : Address) :
    received (earlier ++ later) side key =
      (received later side key).or (received earlier side key) := by
  induction later using List.reverseRecOn with
  | nil =>
    rw [List.append_nil]
    rfl
  | append_singleton later op inductionHypothesis =>
    rw [← List.append_assoc, received_snoc, received_snoc, inductionHypothesis, Option.or_assoc]

/-- Arrivals leave the positions alone. -/
theorem positions_runIndices (config : LocalPositionModelConfig) (model : LocalPositionModel)
    (ops : List IndexOp) : (runIndices config model ops).positions = model.positions := by
  induction ops generalizing model with
  | nil => rfl
  | cons op rest inductionHypothesis =>
    refine (inductionHypothesis (op.run config model)).trans ?_
    cases op with
    | registerReserve asset threshold => exact positions_registerReserve model asset threshold
    | reserveDataUpdated event updates nowSec =>
      rw [IndexOp.run, applyAaveEvent, if_pos updates]
      have registered := positions_registerReserve model event.reserve BASE_LT_BPS
      dsimp only
      rw [applyReserveIndexUpdate]
      split <;> exact registered
    | refreshReserveIndex reserve liquidityIndex variableBorrowIndex => rfl

/-! ## What a seeding stores -/

/-- The scaled balance the last row of an asset gives a side. -/
def seededAmount (side : Side) (key : Address) : List SnapshotReserve → Option Nat
  | [] => none
  | row :: rest =>
      (seededAmount side key rest).or
        (if row.asset.toLowerCase = key ∧ 0 < side.scaled row then some (side.scaled row) else none)

/-- One row, on one side: a positive scaled balance is stored at the current
index. -/
theorem seedReserve_side (state : LocalPositionModel × UserPosition) (row : SnapshotReserve)
    (side : Side) :
    side.amounts (seedReserve state row).2 =
      if 0 < side.scaled row then
        ⟨(side.amounts state.2).amounts.set row.asset.toLowerCase (side.scaled row),
          (side.amounts state.2).indexAtUpdate.set row.asset.toLowerCase
            (currentIndex state.1 side row.asset.toLowerCase)⟩
      else side.amounts state.2 := by
  have index := currentIndex_registerReserve state.1 row.asset BASE_LT_BPS side
    row.asset.toLowerCase
  have known : ((state.1.registerReserve row.asset BASE_LT_BPS).reserveConfig.get?
      row.asset.toLowerCase).isSome := by
    rw [get?_registerReserve, if_pos rfl]
    cases state.1.reserveConfig.get? row.asset.toLowerCase <;> rfl
  obtain ⟨reserve, found⟩ := Option.isSome_iff_exists.mp known
  rw [← index, currentIndex, seedReserve]
  dsimp only
  rw [found, Option.map_some, Option.getD_some]
  dsimp only
  cases side with
  | collateral =>
    by_cases collateral : row.scaledCollateral > 0
    · by_cases debt : row.scaledDebt > 0
      · simp [Side.amounts, Side.scaled, Side.index, collateralSide, collateral, debt]
      · simp [Side.amounts, Side.scaled, Side.index, collateralSide, collateral, debt]
    · by_cases debt : row.scaledDebt > 0
      · simp [Side.amounts, Side.scaled, collateralSide, collateral, debt]
      · simp [Side.amounts, Side.scaled, collateralSide, collateral, debt]
  | debt =>
    by_cases collateral : row.scaledCollateral > 0
    · by_cases debt : row.scaledDebt > 0
      · simp [Side.amounts, Side.scaled, Side.index, debtSide, collateral, debt]
      · simp [Side.amounts, Side.scaled, debtSide, collateral, debt]
    · by_cases debt : row.scaledDebt > 0
      · simp [Side.amounts, Side.scaled, Side.index, debtSide, collateral, debt]
      · simp [Side.amounts, Side.scaled, debtSide, collateral, debt]

/-- All rows, on one side: each asset's last scaled balance, stored at the
current index. -/
theorem foldl_seedReserve_side (rows : List SnapshotReserve)
    (state : LocalPositionModel × UserPosition) (side : Side) (key : Address) :
    (side.amounts (rows.foldl seedReserve state).2).amounts.get? key =
        (seededAmount side key rows).or ((side.amounts state.2).amounts.get? key) ∧
      (side.amounts (rows.foldl seedReserve state).2).indexAtUpdate.get? key =
        ((seededAmount side key rows).map (fun _ => currentIndex state.1 side key)).or
          ((side.amounts state.2).indexAtUpdate.get? key) := by
  induction rows generalizing state with
  | nil => exact ⟨rfl, rfl⟩
  | cons row rest inductionHypothesis =>
    have later := inductionHypothesis (seedReserve state row)
    rw [seedReserve_model, currentIndex_registerReserve, seedReserve_side] at later
    rw [List.foldl_cons, seededAmount, later.1, later.2]
    by_cases positive : 0 < side.scaled row
    · rw [if_pos positive]
      dsimp only
      rw [InsertionMap.get?_set, InsertionMap.get?_set]
      by_cases here : row.asset.toLowerCase = key
      · rw [if_pos here.symm, if_pos here.symm, if_pos ⟨here, positive⟩, here]
        cases seededAmount side key rest <;> exact ⟨rfl, rfl⟩
      · rw [if_neg (Ne.symm here), if_neg (Ne.symm here), if_neg (fun both => here both.1),
          Option.or_none]
        exact ⟨rfl, rfl⟩
    · rw [if_neg positive, if_neg (fun both => positive both.2), Option.or_none]
      exact ⟨rfl, rfl⟩

/-- An amount that a seeding stores is the positive one of a row. -/
theorem exists_row_of_seededAmount {side : Side} {key : Address} {rows : List SnapshotReserve}
    {amount : Nat} (seeded : seededAmount side key rows = some amount) :
    ∃ row ∈ rows, row.asset.toLowerCase = key ∧ side.scaled row = amount ∧ 0 < amount := by
  induction rows with
  | nil => cases seeded
  | cons row rest inductionHypothesis =>
    rw [seededAmount, Option.or_eq_some_iff] at seeded
    rcases seeded with later | ⟨-, here⟩
    · obtain ⟨other, member, found⟩ := inductionHypothesis later
      exact ⟨other, List.mem_cons_of_mem _ member, found⟩
    · split at here
      next both =>
        cases here
        exact ⟨row, List.mem_cons_self, both.1, rfl, both.2⟩
      next => cases here

theorem seededAmount_pos {side : Side} {key : Address} {rows : List SnapshotReserve}
    {amount : Nat} (seeded : seededAmount side key rows = some amount) : 0 < amount := by
  obtain ⟨_, _, _, _, positive⟩ := exists_row_of_seededAmount seeded
  exact positive

/-- The stored position of a seeding, on one side. -/
theorem seededPosition_side (model : LocalPositionModel) (input : AccountSnapshot) (side : Side)
    (key : Address) :
    (side.amounts (seededPosition model input)).amounts.get? key =
        seededAmount side key input.reserves ∧
      (side.amounts (seededPosition model input)).indexAtUpdate.get? key =
        (seededAmount side key input.reserves).map (fun _ => currentIndex model side key) := by
  have rows := foldl_seedReserve_side input.reserves (model, clearedForSeed model input) side key
  have sides : side.amounts (seededPosition model input) =
      side.amounts (input.reserves.foldl seedReserve (model, clearedForSeed model input)).2 := by
    cases side <;> rfl
  have cleared : side.amounts (clearedForSeed model input) = ⟨.empty, .empty⟩ := by
    cases side <;> rfl
  rw [sides, rows.1, rows.2, cleared]
  dsimp only
  rw [InsertionMap.get?_empty, Option.or_none, Option.or_none]
  exact ⟨rfl, rfl⟩

/-! ## Valued amounts against balances -/

section Seeding

variable (config : LocalPositionModelConfig) (earlier : List IndexOp) (input : AccountSnapshot)
  (onChain : Side → Address → Nat) (later : List IndexOp)

/-- The model once the account is seeded. -/
def seededAfter : LocalPositionModel :=
  seedFromOnChainSnapshot config (runIndices config initial earlier) input

/-- The model after further arrivals. -/
def modelAfter : LocalPositionModel := runIndices config (seededAfter config earlier input) later

/-- The snapshot gives the account such an entry. -/
def IsEntry (entry : Side × Address) : Prop :=
  (seededAmount entry.1 entry.2 input.reserves).isSome

/-- What a recomputation values an entry at, before rounding. -/
def valuedAt (position : UserPosition) (entry : Side × Address) : ℚ :=
  (entry.1.amounts position).value
    (currentIndex (modelAfter config earlier input later) entry.1 entry.2) entry.2

/-- The pool's index of an entry: the last one received, or that of the snapshot. -/
def poolIndex (entry : Side × Address) : Nat :=
  (received (earlier ++ later) entry.1 entry.2).getD (onChain entry.1 entry.2)

/-- The entry's balance in the pool. -/
def poolBalance (entry : Side × Address) : ℚ :=
  accrued (((seededAmount entry.1 entry.2 input.reserves).getD 0 : Nat) : ℚ) RAY
    (poolIndex earlier onChain later entry)

/-- The index an entry's value counts from: the one it was stored at, if the
reserve has received an index by now, and the snapshot's on-chain index if not. -/
def baseline (entry : Side × Address) : Nat :=
  if (received (earlier ++ later) entry.1 entry.2).isSome then
    (received earlier entry.1 entry.2).getD WAD
  else onChain entry.1 entry.2

/-- The values of any two entries are in the ratio of their balances. -/
def RatiosKept : Prop :=
  ∀ position, (modelAfter config earlier input later).positions.get? input.account.toLowerCase =
      some position →
    ∀ left right, IsEntry input left → IsEntry input right →
      valuedAt config earlier input later position left /
          valuedAt config earlier input later position right =
        poolBalance earlier input onChain later left / poolBalance earlier input onChain later right

/-- All entries count from one index. -/
def SharedBaseline : Prop :=
  ∀ left right, IsEntry input left → IsEntry input right →
    baseline earlier onChain later left = baseline earlier onChain later right

end Seeding

section Values

variable {config : LocalPositionModelConfig} {earlier : List IndexOp} {input : AccountSnapshot}
  {onChain : Side → Address → Nat} {later : List IndexOp}

/-- Every index that arrives is positive. -/
def PositiveIndices (ops : List IndexOp) : Prop :=
  ∀ op ∈ ops, ∀ side key index, op.brings side key = some index → 0 < index

theorem received_pos {ops : List IndexOp} (positive : PositiveIndices ops) {side : Side}
    {key : Address} {index : Nat} (arrived : received ops side key = some index) : 0 < index := by
  induction ops using List.reverseRecOn with
  | nil => cases arrived
  | append_singleton ops op inductionHypothesis =>
    rw [received_snoc, Option.or_eq_some_iff] at arrived
    rcases arrived with last | ⟨-, before⟩
    · exact positive op (List.mem_append_right _ List.mem_cons_self) side key index last
    · exact inductionHypothesis
        (fun other member => positive other (List.mem_append_left _ member)) before

/-- A seeding moves no index. -/
theorem currentIndex_seededAfter (side : Side) (key : Address) :
    currentIndex (seededAfter config earlier input) side key =
      (received earlier side key).getD WAD := by
  have evicts := enforceHardCap_evicts config
    (storedBySeed (runIndices config initial earlier) input) input.blockNumber
  have arrived := currentIndex_runIndices config initial earlier side key
  rw [seededAfter, seedFromOnChainSnapshot_eq, currentIndex, evicts.reserves]
  exact (currentIndex_registerRows _ input.reserves side key).trans arrived

/-- While it is stored, the seeded position is the one of the seeding. -/
theorem stored_eq_seeded {position : UserPosition}
    (stored : (modelAfter config earlier input later).positions.get? input.account.toLowerCase =
      some position) : position = seededPosition (runIndices config initial earlier) input := by
  rw [modelAfter, positions_runIndices, seededAfter, seedFromOnChainSnapshot_eq] at stored
  have before := (enforceHardCap_evicts config _ _).kept _ _ stored
  rw [get?_storedBySeed, if_pos rfl, Option.some.injEq] at before
  exact before.symm

/-- An entry is valued at its balance, counted from its baseline. -/
theorem valuedAt_eq {position : UserPosition} {entry : Side × Address}
    (stored : (modelAfter config earlier input later).positions.get? input.account.toLowerCase =
      some position) (listed : IsEntry input entry)
    (snapshotPositive : 0 < onChain entry.1 entry.2) :
    valuedAt config earlier input later position entry =
      accrued (((seededAmount entry.1 entry.2 input.reserves).getD 0 : Nat) : ℚ)
        (baseline earlier onChain later entry) (poolIndex earlier onChain later entry) := by
  obtain ⟨amount, seeded⟩ := Option.isSome_iff_exists.mp listed
  obtain ⟨amounts, stamps⟩ := seededPosition_side (runIndices config initial earlier) input
    entry.1 entry.2
  have stamped := currentIndex_runIndices config initial earlier entry.1 entry.2
  have arrived := currentIndex_runIndices config (seededAfter config earlier input) later
    entry.1 entry.2
  rw [currentIndex_seededAfter] at arrived
  rw [seeded, Option.map_some, stamped] at stamps
  rw [valuedAt, AmountsAtIndex.value, AmountsAtIndex.amount, AmountsAtIndex.stamp,
    stored_eq_seeded stored, amounts, stamps, modelAfter, arrived, seeded, Option.getD_some,
    Option.getD_some, baseline, poolIndex, received_append]
  cases received later entry.1 entry.2 with
  | some index => rfl
  | none =>
    cases received earlier entry.1 entry.2 with
    | some index => rfl
    | none =>
      have wad : ((WAD : Nat) : ℚ) ≠ 0 := by norm_num [WAD]
      have positive : ((onChain entry.1 entry.2 : Nat) : ℚ) ≠ 0 := by
        exact_mod_cast snapshotPositive.ne'
      exact (accrued_current (amount : ℚ) wad).trans (accrued_current (amount : ℚ) positive).symm

/-- What `recomputeHf` values an amount at, on either side. -/
def Side.valued (position : UserPosition) (key : Address) (amount : Nat) (reserve : ReserveConfig) :
    Side → Nat
  | .collateral => scaleCollateralAmount position key amount reserve
  | .debt => scaleDebtAmount position key amount reserve

/-- The model's own value of an entry is `valuedAt`, rounded down. -/
theorem valued_eq_floor {position : UserPosition} {entry : Side × Address} {amount : Nat}
    {reserve : ReserveConfig} (positive : PositiveIndices earlier)
    (stored : (modelAfter config earlier input later).positions.get? input.account.toLowerCase =
      some position) (listed : (entry.1.amounts position).amounts.get? entry.2 = some amount)
    (known : (modelAfter config earlier input later).reserveConfig.get? entry.2 = some reserve) :
    entry.1.valued position entry.2 amount reserve =
      ⌊valuedAt config earlier input later position entry⌋₊ := by
  obtain ⟨side, key⟩ := entry
  obtain ⟨amounts, stamps⟩ := seededPosition_side (runIndices config initial earlier) input side key
  have stamped := currentIndex_runIndices config initial earlier side key
  have stampPositive : 0 < (side.amounts position).stamp key := by
    rw [stored_eq_seeded stored] at listed ⊢
    rw [AmountsAtIndex.stamp, stamps, ← amounts, listed, Option.map_some, Option.getD_some, stamped]
    cases arrived : received earlier side key with
    | some index => exact received_pos positive arrived
    | none => exact (by decide : 0 < WAD)
  have floor := scaleAmount_eq_floor (side.amounts position)
    (currentIndex (modelAfter config earlier input later) side key) key stampPositive
  have stands : (side.amounts position).amount key = amount := by
    rw [AmountsAtIndex.amount, listed, Option.getD_some]
  have index : currentIndex (modelAfter config earlier input later) side key =
      side.index reserve := by
    rw [currentIndex, known, Option.map_some, Option.getD_some]
  rw [stands] at floor
  rw [valuedAt, ← floor, index]
  cases side <;> rfl

theorem ratiosKept_iff
    (stored : (seededAfter config earlier input).positions.has input.account.toLowerCase = true)
    (positive : PositiveIndices (earlier ++ later))
    (snapshotPositive : ∀ side key, 0 < onChain side key) :
    RatiosKept config earlier input onChain later ↔
      SharedBaseline earlier input onChain later := by
  obtain ⟨position, found⟩ := Option.isSome_iff_exists.mp stored
  have kept : (modelAfter config earlier input later).positions.get?
      input.account.toLowerCase = some position := by
    rw [modelAfter, positions_runIndices]
    exact found
  have index : ∀ entry : Side × Address,
      ((poolIndex earlier onChain later entry : Nat) : ℚ) ≠ 0 := by
    intro entry
    rw [poolIndex]
    cases arrived : received (earlier ++ later) entry.1 entry.2 with
    | some index => exact_mod_cast (received_pos positive arrived).ne'
    | none => exact_mod_cast (snapshotPositive entry.1 entry.2).ne'
  have base : ∀ entry : Side × Address,
      ((baseline earlier onChain later entry : Nat) : ℚ) ≠ 0 := by
    intro entry
    rw [baseline]
    split
    · cases arrived : received earlier entry.1 entry.2 with
      | some index =>
        have before : PositiveIndices earlier := fun op member =>
          positive op (List.mem_append_left _ member)
        exact_mod_cast (received_pos before arrived).ne'
      | none => norm_num [WAD]
    · exact_mod_cast (snapshotPositive entry.1 entry.2).ne'
  have amount : ∀ entry : Side × Address, IsEntry input entry →
      (((seededAmount entry.1 entry.2 input.reserves).getD 0 : Nat) : ℚ) ≠ 0 := by
    intro entry listed
    obtain ⟨amount, seeded⟩ := Option.isSome_iff_exists.mp listed
    rw [seeded]
    exact_mod_cast (seededAmount_pos seeded).ne'
  have ray : ((RAY : Nat) : ℚ) ≠ 0 := by norm_num [RAY]
  have pair : ∀ left right, IsEntry input left → IsEntry input right →
      (valuedAt config earlier input later position left /
          valuedAt config earlier input later position right =
        poolBalance earlier input onChain later left /
          poolBalance earlier input onChain later right ↔
        baseline earlier onChain later left = baseline earlier onChain later right) := by
    intro left right leftListed rightListed
    rw [valuedAt_eq kept leftListed (snapshotPositive _ _),
      valuedAt_eq kept rightListed (snapshotPositive _ _), poolBalance, poolBalance,
      accrued_ratio_iff (amount left leftListed) (amount right rightListed) (base left) (base right)
        (index left) (index right) ray]
    exact Nat.cast_inj
  constructor
  · intro ratios left right leftListed rightListed
    exact (pair left right leftListed rightListed).mp
      (ratios position kept left right leftListed rightListed)
  · intro shared other otherKept left right leftListed rightListed
    rw [kept, Option.some.injEq] at otherKept
    rw [← otherKept]
    exact (pair left right leftListed rightListed).mpr (shared left right leftListed rightListed)

end Values

/-- A scaled balance of each side, in two reserves. -/
def twoEntrySnapshot : AccountSnapshot where
  account := ⟨1, 0⟩
  blockNumber := 700000
  eModeCategoryId := 0
  healthFactorWad := 1600000000000000000
  totalCollateralBase := 200000000000
  totalDebtBase := 100000000000
  liquidationThreshold := 8000
  reserves := [⟨⟨5, 0⟩, WAD, 0⟩, ⟨BASE_USDC, 0, 1000000000⟩]

/-- Every index on chain is two rays. -/
def twoRays (_ : Side) (_ : Address) : Nat := 2 * RAY

/-- USDC reports the indices it has had since the snapshot. -/
def firstUpdate : ParsedAavePoolEvent where
  name := .ReserveDataUpdated
  origin := ⟨700001, none, some 1, 0, .gapFill⟩
  reserve := BASE_USDC
  collateralAsset := none
  debtAsset := none
  user := none
  onBehalfOf := none
  amount := none
  debtToCover := none
  liquidatedCollateralAmount := none
  liquidityIndex := some (2 * RAY)
  variableBorrowIndex := some (2 * RAY)

theorem firstUpdate_positive : PositiveIndices [.reserveDataUpdated firstUpdate rfl 0] := by
  intro op member side key index brought
  obtain rfl := List.mem_singleton.mp member
  change (if firstUpdate.reserve.toLowerCase = key then side.updated firstUpdate else none) =
    some index at brought
  split at brought
  · have two : index = 2 * RAY := by
      cases side <;> exact (Option.some.inj brought).symm
    rw [two]
    decide
  · cases brought

end LiquidationBot.LocalPositionModel
