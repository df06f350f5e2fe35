import LiquidationBot.AccountEvents

/-!
# Seeding from a snapshot

Every row of a snapshot registers its reserve and rewrites the two sides of the
position, so a seeding leaves the other positions alone until it evicts, and
its own position is seeded whatever the rows are.
-/

namespace LiquidationBot.LocalPositionModel

@[simp] theorem evictionTotal_registerReserve (model : LocalPositionModel) (asset : Address)
    (threshold : Nat) :
    (model.registerReserve asset threshold).evictionTotal = model.evictionTotal := by
  rw [registerReserve]
  split <;> rfl

/-- The reserves of a snapshot's rows, registered in order. -/
def registerRows (model : LocalPositionModel) (reserves : List SnapshotReserve) :
    LocalPositionModel :=
  reserves.foldl (fun model row => model.registerReserve row.asset BASE_LT_BPS) model

theorem positions_registerRows (model : LocalPositionModel) (reserves : List SnapshotReserve) :
    (registerRows model reserves).positions = model.positions := by
  induction reserves generalizing model with
  | nil => rfl
  | cons row rest inductionHypothesis =>
    exact (inductionHypothesis _).trans (positions_registerReserve model row.asset BASE_LT_BPS)

theorem evictionTotal_registerRows (model : LocalPositionModel)
    (reserves : List SnapshotReserve) :
    (registerRows model reserves).evictionTotal = model.evictionTotal := by
  induction reserves generalizing model with
  | nil => rfl
  | cons row rest inductionHypothesis =>
    exact (inductionHypothesis _).trans (evictionTotal_registerReserve model row.asset BASE_LT_BPS)

/-- A row registers its reserve. -/
theorem seedReserve_model (state : LocalPositionModel × UserPosition) (row : SnapshotReserve) :
    (seedReserve state row).1 = state.1.registerReserve row.asset BASE_LT_BPS := by
  rw [seedReserve]
  dsimp only
  split <;> rfl

/-- A row rewrites the two sides of the position only. -/
theorem seedReserve_position (state : LocalPositionModel × UserPosition) (row : SnapshotReserve) :
    ∃ collateral debt, (seedReserve state row).2 =
      withDebtSide (withCollateralSide state.2 collateral) debt := by
  have unchanged : ∀ position : UserPosition, position =
      withDebtSide (withCollateralSide position (collateralSide position)) (debtSide position) :=
    fun _ => rfl
  rw [seedReserve]
  dsimp only
  split
  · exact ⟨_, _, unchanged state.2⟩
  · next reserve found =>
    by_cases collateral : row.scaledCollateral > 0
    · by_cases debt : row.scaledDebt > 0
      · rw [if_pos collateral, if_pos debt]
        exact ⟨⟨state.2.collateral.set row.asset.toLowerCase row.scaledCollateral,
          state.2.collateralIndexAtUpdate.set row.asset.toLowerCase reserve.liquidityIndex⟩,
          ⟨state.2.debt.set row.asset.toLowerCase row.scaledDebt,
            state.2.debtIndexAtUpdate.set row.asset.toLowerCase reserve.variableBorrowIndex⟩, rfl⟩
      · rw [if_pos collateral, if_neg debt]
        exact ⟨⟨state.2.collateral.set row.asset.toLowerCase row.scaledCollateral,
          state.2.collateralIndexAtUpdate.set row.asset.toLowerCase reserve.liquidityIndex⟩,
          debtSide state.2, rfl⟩
    · by_cases debt : row.scaledDebt > 0
      · rw [if_neg collateral, if_pos debt]
        exact ⟨collateralSide state.2,
          ⟨state.2.debt.set row.asset.toLowerCase row.scaledDebt,
            state.2.debtIndexAtUpdate.set row.asset.toLowerCase reserve.variableBorrowIndex⟩, rfl⟩
      · rw [if_neg collateral, if_neg debt]
        exact ⟨_, _, unchanged state.2⟩

theorem foldl_seedReserve_model (reserves : List SnapshotReserve)
    (state : LocalPositionModel × UserPosition) :
    (reserves.foldl seedReserve state).1 = registerRows state.1 reserves := by
  induction reserves generalizing state with
  | nil => rfl
  | cons row rest inductionHypothesis =>
    rw [List.foldl_cons, inductionHypothesis, seedReserve_model]
    rfl

theorem foldl_seedReserve_account (reserves : List SnapshotReserve)
    (state : LocalPositionModel × UserPosition) :
    (reserves.foldl seedReserve state).2.account = state.2.account := by
  induction reserves generalizing state with
  | nil => rfl
  | cons row rest inductionHypothesis =>
    obtain ⟨collateral, debt, changed⟩ := seedReserve_position state row
    rw [List.foldl_cons, inductionHypothesis, changed]
    rfl

/-- The position a seeding starts from: the stored or new one, with both sides
emptied. -/
def clearedForSeed (model : LocalPositionModel) (input : AccountSnapshot) : UserPosition :=
  { model.getOrCreate input.account input.blockNumber with
    collateral := .empty
    debt := .empty
    collateralIndexAtUpdate := .empty
    debtIndexAtUpdate := .empty }

/-- The position a seeding stores. -/
def seededPosition (model : LocalPositionModel) (input : AccountSnapshot) : UserPosition :=
  { (input.reserves.foldl seedReserve (model, clearedForSeed model input)).2 with
    eModeCategoryId := input.eModeCategoryId
    confidence := .high
    isFullySeeded := true
    lastConfirmedBlock := input.blockNumber
    lastActivityBlock := input.blockNumber
    lastTotalCollateralBase := some input.totalCollateralBase
    lastTotalDebtBase := some input.totalDebtBase
    lastLiquidationThreshold := some input.liquidationThreshold
    cachedHfWad :=
      if input.healthFactorWad > 0 then input.healthFactorWad
      else calculateHealthFactor input.totalCollateralBase input.totalDebtBase
        input.liquidationThreshold }

/-- The model a seeding stores, before anything is evicted. -/
def storedBySeed (model : LocalPositionModel) (input : AccountSnapshot) : LocalPositionModel :=
  { registerRows model input.reserves with
    positions := model.positions.put (seededPosition model input) }

theorem seedFromOnChainSnapshot_eq (config : LocalPositionModelConfig)
    (model : LocalPositionModel) (input : AccountSnapshot) :
    seedFromOnChainSnapshot config model input =
      enforceHardCap config (storedBySeed model input) input.blockNumber := by
  have rows := foldl_seedReserve_model input.reserves (model, clearedForSeed model input)
  rw [storedBySeed, ← positions_registerRows model input.reserves, ← rows]
  rfl

theorem evictionTotal_storedBySeed (model : LocalPositionModel) (input : AccountSnapshot) :
    (storedBySeed model input).evictionTotal = model.evictionTotal :=
  evictionTotal_registerRows model input.reserves

theorem seededPosition_account (model : LocalPositionModel) (input : AccountSnapshot) :
    (seededPosition model input).account.toLowerCase = input.account.toLowerCase := by
  have account := foldl_seedReserve_account input.reserves (model, clearedForSeed model input)
  exact (congrArg Address.toLowerCase account).trans
    (getOrCreate_account model input.account input.blockNumber)

theorem get?_storedBySeed (model : LocalPositionModel) (input : AccountSnapshot) (key : Address) :
    (storedBySeed model input).positions.get? key =
      if key = input.account.toLowerCase then some (seededPosition model input)
      else model.positions.get? key := by
  rw [← seededPosition_account model input]
  exact Positions.get?_put model.positions (seededPosition model input) key

end LiquidationBot.LocalPositionModel
