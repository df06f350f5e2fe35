import LiquidationBot.CacheBounds
import LiquidationBot.IndexBaselines

/-!
# What holds in every reachable model

Whatever is called on a model, and in whatever order, a position that is marked
seeded has the totals of an on-chain read, since the two operations that set the
mark store them. The assets of a position are lower-cased, and their reserves are
known: an amount is first stored by an operation that registers its reserve, and
no reserve is ever removed.
-/

namespace LiquidationBot.LocalPositionModel

/-- A call of the model's public methods, or the write of a refreshed index. -/
inductive ModelCall where
  | operation (op : ModelOp)
  | applyPriceEvent (event : ParsedChainlinkPriceEvent) (nowSec : Int)
  | syncDerivedPegPrices (nowSec : Int) (updatedReferenceAsset : Option Address)
  | recomputeHf (position : UserPosition) (nowSec : Int)
  | registerPriceFeed (asset : Address) (initialPrice : Nat)
  | registerBootstrapPrice (asset : Address) (normalizedPrice : Nat) (feedState : FeedState)
  | setReserveLiquidationBonus (asset : Address) (bonus : Option Nat)
  | registerReserve (asset : Address) (liquidationThresholdBps : Nat)
  | refreshReserveIndex (reserve : ReserveConfig) (liquidityIndex variableBorrowIndex : Nat)
  | onFlashblockTick
  | markPricesBootstrapped

def ModelCall.run (config : LocalPositionModelConfig) (model : LocalPositionModel) :
    ModelCall → LocalPositionModel
  | .operation op => op.run config model
  | .applyPriceEvent event nowSec => (LocalPositionModel.applyPriceEvent config model event nowSec).1
  | .syncDerivedPegPrices nowSec updatedReferenceAsset =>
      (LocalPositionModel.syncDerivedPegPrices config model nowSec updatedReferenceAsset).1
  | .recomputeHf position nowSec => (LocalPositionModel.recomputeHf config model position nowSec).1
  | .registerPriceFeed asset initialPrice =>
      LocalPositionModel.registerPriceFeed model asset initialPrice
  | .registerBootstrapPrice asset normalizedPrice feedState =>
      LocalPositionModel.registerBootstrapPrice model asset normalizedPrice feedState
  | .setReserveLiquidationBonus asset bonus =>
      LocalPositionModel.setReserveLiquidationBonus model asset bonus
  | .registerReserve asset liquidationThresholdBps =>
      LocalPositionModel.registerReserve model asset liquidationThresholdBps
  | .refreshReserveIndex reserve liquidityIndex variableBorrowIndex =>
      LocalPositionModel.refreshReserveIndex model reserve liquidityIndex variableBorrowIndex
  | .onFlashblockTick => (LocalPositionModel.onFlashblockTick config model).1
  | .markPricesBootstrapped => LocalPositionModel.markPricesBootstrapped model

/-- A new model after any calls. -/
inductive Reachable (config : LocalPositionModelConfig) : LocalPositionModel → Prop where
  | initial : Reachable config initial
  | called {model : LocalPositionModel} (reached : Reachable config model) (call : ModelCall) :
      Reachable config (call.run config model)

/-! ## The invariant -/

/-- The assets of a side are lower-cased keys of known reserves. -/
def Keyed (reserves : InsertionMap Address ReserveConfig) (side : AmountsAtIndex) : Prop :=
  ∀ key amount, side.amounts.get? key = some amount →
    key.toLowerCase = key ∧ (reserves.get? key).isSome = true

/-- A stored position has its assets among the reserves, and its totals once it is
seeded. -/
structure Grounded (reserves : InsertionMap Address ReserveConfig) (position : UserPosition) :
    Prop where
  collateral : Keyed reserves (collateralSide position)
  debt : Keyed reserves (debtSide position)
  totals : position.isFullySeeded = true → position.lastTotalCollateralBase.isSome = true ∧
    position.lastTotalDebtBase.isSome = true ∧ position.lastLiquidationThreshold.isSome = true

/-- Every stored position is grounded. -/
def AllGrounded (model : LocalPositionModel) : Prop :=
  ∀ key position, model.positions.get? key = some position →
    Grounded model.reserveConfig position

/-- The reserves of one map are among those of another. -/
def Extends (before after : InsertionMap Address ReserveConfig) : Prop :=
  ∀ key, (before.get? key).isSome = true → (after.get? key).isSome = true

section Frames

variable {before after : LocalPositionModel} {reserves later : InsertionMap Address ReserveConfig}
  {position : UserPosition}

theorem Keyed.more {side : AmountsAtIndex} (keyed : Keyed reserves side)
    (extended : Extends reserves later) : Keyed later side :=
  fun key amount stored => ⟨(keyed key amount stored).1, extended key (keyed key amount stored).2⟩

theorem Grounded.more (grounded : Grounded reserves position) (extended : Extends reserves later) :
    Grounded later position :=
  ⟨grounded.collateral.more extended, grounded.debt.more extended, grounded.totals⟩

theorem Extends.refl (reserves : InsertionMap Address ReserveConfig) : Extends reserves reserves :=
  fun _ known => known

theorem extends_set (reserves : InsertionMap Address ReserveConfig) (key : Address)
    (reserve : ReserveConfig) : Extends reserves (reserves.set key reserve) := by
  intro tested known
  rw [InsertionMap.get?_set]
  split
  · rfl
  · exact known

theorem AllGrounded.extended (grounded : AllGrounded before)
    (same : after.positions = before.positions)
    (extended : Extends before.reserveConfig after.reserveConfig) : AllGrounded after := by
  intro key position stored
  rw [same] at stored
  exact (grounded key position stored).more extended

/-- The cached health factor does not matter. -/
theorem AllGrounded.of_sameLedger (grounded : AllGrounded before)
    (same : SameLedger before after) : AllGrounded after := by
  intro key position stored
  have ledgers := same.ledgers key
  simp only [ledgerOf, stored, Option.map_some] at ledgers
  obtain ⟨earlier, found, ledger⟩ := Option.map_eq_some_iff.mp ledgers.symm
  have grounded := grounded key earlier found
  rw [same.reserves]
  have moved : Grounded before.reserveConfig earlier.ledger :=
    ⟨grounded.collateral, grounded.debt, grounded.totals⟩
  rw [ledger] at moved
  exact ⟨moved.collateral, moved.debt, moved.totals⟩

theorem AllGrounded.of_evicts (grounded : AllGrounded before) (evicts : Evicts before after) :
    AllGrounded after := by
  intro key position stored
  rw [evicts.reserves]
  exact grounded key position (evicts.kept key position stored)

/-- Storing a grounded position. -/
theorem AllGrounded.put (grounded : AllGrounded before)
    (stored : Grounded before.reserveConfig position) :
    AllGrounded { before with positions := before.positions.put position } := by
  intro key other found
  rw [Positions.get?_put] at found
  split at found
  · cases found
    exact stored
  · exact grounded key other found

theorem extends_registerReserve (model : LocalPositionModel) (asset : Address) (threshold : Nat) :
    Extends model.reserveConfig (model.registerReserve asset threshold).reserveConfig := by
  rw [LocalPositionModel.registerReserve]
  split
  · exact Extends.refl _
  · exact extends_set _ _ _

theorem AllGrounded.registerReserve (grounded : AllGrounded before) (asset : Address)
    (threshold : Nat) : AllGrounded (before.registerReserve asset threshold) :=
  grounded.extended (positions_registerReserve before asset threshold)
    (extends_registerReserve before asset threshold)

/-- The position that an operation starts from. -/
theorem AllGrounded.getOrCreate (grounded : AllGrounded before) (account : Address)
    (blockNumber : Nat) : Grounded before.reserveConfig (before.getOrCreate account blockNumber) := by
  rw [LocalPositionModel.getOrCreate]
  cases found : before.positions.get? account.toLowerCase with
  | some position => exact grounded _ position found
  | none =>
    have empty : Keyed before.reserveConfig ⟨.empty, .empty⟩ := fun _ _ stored => by cases stored
    exact ⟨empty, empty, fun seeded => by cases seeded⟩

end Frames

/-! ## Balances -/

section Balances

variable {reserves : InsertionMap Address ReserveConfig} {position : UserPosition}

theorem Keyed.add {side : AmountsAtIndex} (keyed : Keyed reserves side) (asset : Address)
    (amount index : Nat) (known : (reserves.get? asset.toLowerCase).isSome = true) :
    Keyed reserves (side.add asset.toLowerCase amount index) := by
  intro key stored found
  rcases InsertionMap.of_get?_set found with ⟨rfl, _⟩ | before
  · rw [Address.toLowerCase_toLowerCase]
    exact ⟨rfl, known⟩
  · exact keyed key stored before

theorem Keyed.sub {side : AmountsAtIndex} (keyed : Keyed reserves side) (asset : Address)
    (amount : Nat) : Keyed reserves (side.sub asset.toLowerCase amount) := by
  intro key stored found
  rw [AmountsAtIndex.sub_eq] at found
  split at found
  next below =>
    rcases InsertionMap.of_get?_set found with ⟨rfl, _⟩ | before
    · -- What is more than the withdrawal is stored already.
      cases held : side.amounts.get? asset.toLowerCase with
      | none => simp [AmountsAtIndex.amount, held] at below
      | some value => exact keyed _ value held
    · exact keyed key stored before
  next => exact keyed key stored (InsertionMap.of_get?_delete found).2

theorem Grounded.withCollateralSide {side : AmountsAtIndex} (grounded : Grounded reserves position)
    (keyed : Keyed reserves side) :
    Grounded reserves (LocalPositionModel.withCollateralSide position side) :=
  ⟨keyed, grounded.debt, grounded.totals⟩

theorem Grounded.withDebtSide {side : AmountsAtIndex} (grounded : Grounded reserves position)
    (keyed : Keyed reserves side) :
    Grounded reserves (LocalPositionModel.withDebtSide position side) :=
  ⟨grounded.collateral, keyed, grounded.totals⟩

theorem Grounded.withAmount {amount : Option Nat} {change : Nat → UserPosition}
    (grounded : Grounded reserves position) (changed : ∀ amount, Grounded reserves (change amount)) :
    Grounded reserves (LocalPositionModel.withAmount amount change position) := by
  cases amount with
  | none => exact grounded
  | some amount => exact changed amount

theorem Grounded.subDebt (grounded : Grounded reserves position) (asset : Address) (amount : Nat) :
    Grounded reserves (LocalPositionModel.subDebt position asset amount) :=
  grounded.withDebtSide (grounded.debt.sub asset amount)

theorem Grounded.subCollateral (grounded : Grounded reserves position) (asset : Address)
    (amount : Nat) : Grounded reserves (LocalPositionModel.subCollateral position asset amount) :=
  grounded.withCollateralSide (grounded.collateral.sub asset amount)

/-- An event adds amounts of its own reserve only. -/
theorem Grounded.applyBalances (grounded : Grounded reserves position) (event : ParsedAavePoolEvent)
    (known : (reserves.get? event.reserve.toLowerCase).isSome = true) :
    Grounded reserves (LocalPositionModel.applyBalances reserves position event) := by
  rw [LocalPositionModel.applyBalances]
  cases event.name with
  | Supply =>
    exact grounded.withAmount (fun amount =>
      grounded.withCollateralSide (grounded.collateral.add event.reserve amount _ known))
  | Borrow =>
    exact grounded.withAmount (fun amount =>
      grounded.withDebtSide (grounded.debt.add event.reserve amount _ known))
  | Withdraw => exact grounded.withAmount (fun amount => grounded.subCollateral event.reserve amount)
  | Repay => exact grounded.withAmount (fun amount => grounded.subDebt event.reserve amount)
  | LiquidationCall =>
    have repaid : Grounded reserves (LocalPositionModel.withAmount event.debtToCover
        (LocalPositionModel.subDebt position (event.debtAsset.getD event.reserve)) position) :=
      grounded.withAmount (fun amount => grounded.subDebt _ amount)
    exact repaid.withAmount (fun amount => repaid.subCollateral _ amount)
  | ReserveDataUpdated => exact grounded

end Balances

/-! ## Calls -/

section Calls

variable {model : LocalPositionModel}

theorem known_registerReserve (model : LocalPositionModel) (asset : Address) (threshold : Nat) :
    ((model.registerReserve asset threshold).reserveConfig.get? asset.toLowerCase).isSome = true := by
  rw [get?_registerReserve, if_pos rfl]
  cases model.reserveConfig.get? asset.toLowerCase <;> rfl

theorem AllGrounded.storedByEvent (grounded : AllGrounded model) (event : ParsedAavePoolEvent)
    (account : Address) : AllGrounded (LocalPositionModel.storedByEvent model event account).1 := by
  have registered := grounded.registerReserve event.reserve BASE_LT_BPS
  have touched := registered.getOrCreate account event.origin.blockNumber
  refine registered.put (Grounded.applyBalances ?_ event
    (known_registerReserve model event.reserve BASE_LT_BPS))
  exact ⟨touched.collateral, touched.debt, touched.totals⟩

theorem AllGrounded.removePosition (grounded : AllGrounded model) (account : Address) :
    AllGrounded (model.removePosition account) := by
  intro key position stored
  exact grounded key position (InsertionMap.of_get?_delete stored).2

theorem AllGrounded.applyAccountEvent (grounded : AllGrounded model)
    (config : LocalPositionModelConfig) (event : ParsedAavePoolEvent) (account : Address)
    (nowSec : Int) :
    AllGrounded (LocalPositionModel.applyAccountEvent config model event account nowSec).1 := by
  have stored := grounded.storedByEvent event account
  rw [applyAccountEvent_eq, accountEvictionStart]
  dsimp only
  split
  · exact stored.removePosition _
  · split
    · exact stored.of_evicts (enforceHardCap_evicts config _ _)
    · exact (stored.of_sameLedger (sameLedger_applyHfResult config _ _ _ _)).of_evicts
        (enforceHardCap_evicts config _ _)

theorem extends_applyReserveIndexUpdate (model : LocalPositionModel) (event : ParsedAavePoolEvent) :
    (model.applyReserveIndexUpdate event).positions = model.positions ∧
      Extends model.reserveConfig (model.applyReserveIndexUpdate event).reserveConfig := by
  rw [applyReserveIndexUpdate]
  split
  · exact ⟨rfl, Extends.refl _⟩
  · exact ⟨rfl, extends_set _ _ _⟩

theorem AllGrounded.applyAaveEvent (grounded : AllGrounded model)
    (config : LocalPositionModelConfig) (event : ParsedAavePoolEvent) (nowSec : Int) :
    AllGrounded (LocalPositionModel.applyAaveEvent config model event nowSec).1 := by
  rw [LocalPositionModel.applyAaveEvent]
  split
  · obtain ⟨same, extended⟩ := extends_applyReserveIndexUpdate
      (model.registerReserve event.reserve BASE_LT_BPS) event
    exact (grounded.registerReserve event.reserve BASE_LT_BPS).extended same extended
  · split
    · exact grounded
    · split
      · exact grounded
      · exact grounded.applyAccountEvent config event _ nowSec

theorem registerRows_known (model : LocalPositionModel) (rows : List SnapshotReserve) :
    Extends model.reserveConfig (registerRows model rows).reserveConfig ∧
      ∀ row ∈ rows,
        ((registerRows model rows).reserveConfig.get? row.asset.toLowerCase).isSome = true := by
  induction rows generalizing model with
  | nil => exact ⟨Extends.refl _, fun row member => by cases member⟩
  | cons row rest inductionHypothesis =>
    obtain ⟨extended, known⟩ := inductionHypothesis (model.registerReserve row.asset BASE_LT_BPS)
    refine ⟨fun key present => extended key (extends_registerReserve model _ _ key present),
      fun other member => ?_⟩
    rcases List.mem_cons.mp member with rfl | later
    · exact extended _ (known_registerReserve model _ _)
    · exact known other later

theorem keyed_seededPosition (model : LocalPositionModel) (input : AccountSnapshot) (side : Side) :
    Keyed (registerRows model input.reserves).reserveConfig
      (side.amounts (seededPosition model input)) := by
  intro key amount stored
  rw [(seededPosition_side model input side key).1] at stored
  obtain ⟨row, member, rfl, _⟩ := exists_row_of_seededAmount stored
  exact ⟨Address.toLowerCase_toLowerCase _,
    (registerRows_known model input.reserves).2 row member⟩

theorem AllGrounded.seedFromOnChainSnapshot (grounded : AllGrounded model)
    (config : LocalPositionModelConfig) (input : AccountSnapshot) :
    AllGrounded (LocalPositionModel.seedFromOnChainSnapshot config model input) := by
  rw [seedFromOnChainSnapshot_eq]
  refine AllGrounded.of_evicts ?_ (enforceHardCap_evicts config _ _)
  have registered : AllGrounded (registerRows model input.reserves) :=
    grounded.extended (positions_registerRows model input.reserves)
      (registerRows_known model input.reserves).1
  rw [storedBySeed, ← positions_registerRows model input.reserves]
  exact registered.put ⟨keyed_seededPosition model input .collateral,
    keyed_seededPosition model input .debt, fun _ => ⟨rfl, rfl, rfl⟩⟩

theorem AllGrounded.confirmOnChain (grounded : AllGrounded model) (account : Address)
    (totalCollateralBase totalDebtBase liquidationThreshold healthFactor blockNumber
      eModeCategoryId : Nat) :
    AllGrounded (LocalPositionModel.confirmOnChain model account totalCollateralBase totalDebtBase
      liquidationThreshold healthFactor blockNumber eModeCategoryId) := by
  have started := grounded.getOrCreate account blockNumber
  exact grounded.put ⟨started.collateral, started.debt, fun _ => ⟨rfl, rfl, rfl⟩⟩

theorem AllGrounded.operation (grounded : AllGrounded model) (config : LocalPositionModelConfig)
    (op : ModelOp) : AllGrounded (op.run config model) := by
  cases op with
  | applyAaveEvent event nowSec => exact grounded.applyAaveEvent config event nowSec
  | seedFromOnChainSnapshot input => exact grounded.seedFromOnChainSnapshot config input
  | confirmOnChain account totalCollateralBase totalDebtBase liquidationThreshold healthFactor
      blockNumber eModeCategoryId => exact grounded.confirmOnChain account _ _ _ _ _ _
  | applyFeedPriceUpdate asset feed answer decimals updatedAtSec =>
    exact grounded.of_sameLedger (sameLedger_applyFeedPriceUpdate config model _ _ _ _ _)
  | evictUnderMemoryPressure blockNumber =>
    exact grounded.of_evicts (evictUnderMemoryPressure_evicts config model blockNumber)
  | removePosition account => exact grounded.removePosition account

theorem extends_setReserveLiquidationBonus (model : LocalPositionModel) (asset : Address)
    (bonus : Option Nat) :
    (model.setReserveLiquidationBonus asset bonus).positions = model.positions ∧
      Extends model.reserveConfig (model.setReserveLiquidationBonus asset bonus).reserveConfig := by
  rw [setReserveLiquidationBonus]
  split
  · exact ⟨rfl, extends_set _ _ _⟩
  · exact ⟨rfl, extends_set _ _ _⟩

theorem AllGrounded.called (grounded : AllGrounded model) (config : LocalPositionModelConfig)
    (call : ModelCall) : AllGrounded (call.run config model) := by
  cases call with
  | operation op => exact grounded.operation config op
  | applyPriceEvent event nowSec =>
    exact grounded.of_sameLedger (sameLedger_applyFeedPriceUpdate config model _ _ _ _ _)
  | syncDerivedPegPrices nowSec reference =>
    exact grounded.of_sameLedger (sameLedger_syncDerivedPegPrices config model nowSec reference)
  | recomputeHf position nowSec =>
    exact grounded.of_sameLedger (sameLedger_recomputeHf config model position nowSec)
  | setReserveLiquidationBonus asset bonus =>
    obtain ⟨same, extended⟩ := extends_setReserveLiquidationBonus model asset bonus
    exact grounded.extended same extended
  | registerReserve asset threshold => exact grounded.registerReserve asset threshold
  | refreshReserveIndex reserve liquidityIndex variableBorrowIndex =>
    exact grounded.extended rfl (extends_set _ _ _)
  | registerPriceFeed asset initialPrice => exact grounded.extended rfl (Extends.refl _)
  | registerBootstrapPrice asset normalizedPrice feedState =>
    exact grounded.extended rfl (Extends.refl _)
  | onFlashblockTick => exact grounded.extended rfl (Extends.refl _)
  | markPricesBootstrapped => exact grounded.extended rfl (Extends.refl _)

/-- Every position of every reachable model is grounded. -/
theorem Reachable.grounded {config : LocalPositionModelConfig} (reached : Reachable config model) :
    AllGrounded model := by
  induction reached with
  | initial =>
    intro key position stored
    cases stored
  | called reached call inductionHypothesis => exact inductionHypothesis.called config call

end Calls

end LiquidationBot.LocalPositionModel
