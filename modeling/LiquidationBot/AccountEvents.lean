import LiquidationBot.LedgerFrames

/-!
# An account's own events

What `applyAaveEvent` does to the account an event names, stated once: the
account's ledger changes by the event's balance change, a liquidation that
leaves no debt removes it, and an unknown account outside the allowlist stays
unknown. Everything else the operation does, valuing and evicting included,
leaves that ledger alone while the store has room for the account.
-/

namespace LiquidationBot.LocalPositionModel

namespace AmountsAtIndex

/-- The raw amount, zero where none is stored. -/
def amount (side : AmountsAtIndex) (key : Address) : Nat := (side.amounts.get? key).getD 0

/-- A withdrawal below the raw amount lowers it; any other removes the entry. -/
theorem sub_eq (side : AmountsAtIndex) (key : Address) (withdrawal : Nat) :
    side.sub key withdrawal =
      if withdrawal < side.amount key then
        ⟨side.amounts.set key (side.amount key - withdrawal), side.indexAtUpdate⟩
      else ⟨side.amounts.delete key, side.indexAtUpdate.delete key⟩ := by
  by_cases below : withdrawal < side.amount key
  · have left : ¬ side.amount key - withdrawal = 0 := by omega
    have kept : side.amount key > withdrawal := below
    rw [if_pos below]
    unfold amount at kept left
    simp only [sub, amount, kept, if_true, left, if_false]
  · have emptied : ¬ side.amount key > withdrawal := below
    rw [if_neg below]
    unfold amount at emptied
    simp only [sub, emptied, if_false, if_true]

theorem amount_add (side : AmountsAtIndex) (key : Address) (deposit currentIndex : Nat) :
    (side.add key deposit currentIndex).amount key = side.amount key + deposit := by
  rw [amount, add, InsertionMap.get?_set_same]
  rfl

theorem amount_add_other (side : AmountsAtIndex) {key tested : Address}
    (different : tested ≠ key) (deposit currentIndex : Nat) :
    (side.add key deposit currentIndex).amount tested = side.amount tested := by
  rw [amount, add, InsertionMap.get?_set_other _ _ different]
  rfl

theorem amount_sub (side : AmountsAtIndex) (key : Address) (withdrawal : Nat) :
    (side.sub key withdrawal).amount key = side.amount key - withdrawal := by
  rw [sub_eq]
  by_cases below : withdrawal < side.amount key
  · rw [if_pos below, amount, InsertionMap.get?_set_same, Option.getD_some]
  · rw [if_neg below, amount, InsertionMap.get?_delete_same, Option.getD_none]
    omega

theorem amount_sub_other (side : AmountsAtIndex) {key tested : Address}
    (different : tested ≠ key) (withdrawal : Nat) :
    (side.sub key withdrawal).amount tested = side.amount tested := by
  rw [sub_eq]
  split
  · rw [amount, InsertionMap.get?_set_other _ _ different]
    rfl
  · rw [amount, InsertionMap.get?_delete_other _ different]
    rfl

end AmountsAtIndex

/-- Balance changes rewrite the two sides of a position only. -/
theorem applyBalances_eq (reserves : InsertionMap Address ReserveConfig) (position : UserPosition)
    (event : ParsedAavePoolEvent) :
    ∃ collateral debt, applyBalances reserves position event =
      withDebtSide (withCollateralSide position collateral) debt := by
  have unchanged : position =
      withDebtSide (withCollateralSide position (collateralSide position)) (debtSide position) := rfl
  -- An absent amount changes nothing; a given one changes one side.
  have given : ∀ (amount : Option Nat) (change : Nat → UserPosition),
      (∀ amount, ∃ collateral debt, change amount =
        withDebtSide (withCollateralSide position collateral) debt) →
      ∃ collateral debt, withAmount amount change position =
        withDebtSide (withCollateralSide position collateral) debt := by
    intro amount change changed
    cases amount with
    | none => exact ⟨_, _, unchanged⟩
    | some amount => exact changed amount
  unfold applyBalances
  cases event.name with
  | Supply =>
    apply given
    intro amount
    exact ⟨(collateralSide position).add event.reserve.toLowerCase amount
      (((reserves.get? event.reserve.toLowerCase).map ReserveConfig.liquidityIndex).getD WAD),
      debtSide position, rfl⟩
  | Withdraw =>
    apply given
    intro amount
    exact ⟨(collateralSide position).sub event.reserve.toLowerCase amount, debtSide position, rfl⟩
  | Borrow =>
    apply given
    intro amount
    exact ⟨collateralSide position, (debtSide position).add event.reserve.toLowerCase amount
      (((reserves.get? event.reserve.toLowerCase).map ReserveConfig.variableBorrowIndex).getD WAD),
      rfl⟩
  | Repay =>
    apply given
    intro amount
    exact ⟨collateralSide position, (debtSide position).sub event.reserve.toLowerCase amount, rfl⟩
  | LiquidationCall =>
    obtain ⟨debt, afterDebt⟩ : ∃ debt, withAmount event.debtToCover
        (subDebt position (event.debtAsset.getD event.reserve)) position =
          withDebtSide position debt := by
      cases event.debtToCover with
      | none => exact ⟨debtSide position, rfl⟩
      | some amount => exact ⟨(debtSide position).sub _ amount, rfl⟩
    dsimp only [applyLiquidation]
    rw [afterDebt]
    cases event.liquidatedCollateralAmount with
    | none => exact ⟨collateralSide position, debt, rfl⟩
    | some amount =>
      exact ⟨(collateralSide position).sub (event.collateralAsset.getD event.reserve).toLowerCase
        amount, debt, rfl⟩
  | ReserveDataUpdated => exact ⟨_, _, unchanged⟩

theorem isFullySeeded_applyBalances (reserves : InsertionMap Address ReserveConfig)
    (position : UserPosition) (event : ParsedAavePoolEvent) :
    (applyBalances reserves position event).isFullySeeded = position.isFullySeeded := by
  obtain ⟨collateral, debt, changed⟩ := applyBalances_eq reserves position event
  rw [changed]
  rfl

@[simp] theorem positions_registerReserve (model : LocalPositionModel) (asset : Address)
    (threshold : Nat) : (model.registerReserve asset threshold).positions = model.positions := by
  unfold registerReserve
  split <;> rfl

/-- The account is stored, or there is room to store it. -/
def RoomFor (config : LocalPositionModelConfig) (model : LocalPositionModel) (key : Address) :
    Prop :=
  ((model.positions.size + (if model.positions.has key then 0 else 1) : Nat) : ℚ) ≤
    config.positionCacheHardCap

/-- Eviction within the cap spares an account active in the current block. -/
theorem enforceHardCap_spares (config : LocalPositionModelConfig) (model : LocalPositionModel)
    (blockNumber : Nat) (key : Address) {position : UserPosition}
    (stored : model.positions.get? key = some position)
    (active : position.lastActivityBlock = blockNumber)
    (fits : (model.positions.size : ℚ) ≤ config.positionCacheHardCap) :
    (enforceHardCap config model blockNumber).positions.get? key = some position ∧
      (enforceHardCap config model blockNumber).positions.size ≤ model.positions.size ∧
      (enforceHardCap config model blockNumber).reserveConfig = model.reserveConfig := by
  have positive := config.inactiveBlocksPositive
  have recent : ¬ ((blockNumber : Int) - position.lastActivityBlock ≥
      config.positionEvictionInactiveBlocks) := by
    rw [active]
    omega
  rw [enforceHardCap, if_pos fits]
  refine ⟨?_, Positions.size_keepIf_le _ _, rfl⟩
  rw [evictInactiveHealthy, Positions.get?_keepIf, stored, Option.filter_some]
  simp [recent]

/-- Deleting victims in order ends within the cap if every stored position is
among them. -/
theorem evictOver_fits {cap : ℚ} (positive : 0 < cap) (victims : List UserPosition)
    (model : LocalPositionModel)
    (listed : ∀ key, model.positions.has key = true →
      key ∈ victims.map (fun victim => victim.account.toLowerCase)) :
    ((evictOver cap model victims).positions.size : ℚ) ≤ cap := by
  induction victims generalizing model with
  | nil =>
    have absent : ∀ key, model.positions.byAccount.get? key = none := by
      intro key
      rw [← InsertionMap.has_eq_false_iff, Bool.eq_false_iff]
      intro present
      exact List.not_mem_nil (listed key present)
    have empty : model.positions.size = 0 := InsertionMap.size_eq_zero _ absent
    rw [evictOver, empty, Nat.cast_zero]
    exact positive.le
  | cons victim rest inductionHypothesis =>
    rw [evictOver]
    split
    · apply inductionHypothesis
      intro key present
      rw [Positions.has_eq_isSome, Positions.get?_delete] at present
      by_cases here : key = victim.account.toLowerCase
      · simp [here] at present
      · rw [if_neg here] at present
        rcases List.mem_cons.mp (listed key present) with same | later
        · exact absurd same here
        · exact later
    · next within => exact le_of_not_gt within

/-- After `enforceHardCap` the store is within its cap. -/
theorem enforceHardCap_fits (config : LocalPositionModelConfig) (model : LocalPositionModel)
    (blockNumber : Nat) :
    ((enforceHardCap config model blockNumber).positions.size : ℚ) ≤
      config.positionCacheHardCap := by
  have evicted : ∀ next : LocalPositionModel,
      (next.positions.size : ℚ) ≤ config.positionCacheHardCap →
      ((evictInactiveHealthy config next blockNumber).positions.size : ℚ) ≤
        config.positionCacheHardCap := by
    intro next within
    have smaller : (evictInactiveHealthy config next blockNumber).positions.size ≤
        next.positions.size := Positions.size_keepIf_le _ _
    exact le_trans (Nat.cast_le.mpr smaller) within
  unfold enforceHardCap
  split
  · next within => exact evicted model within
  · apply evicted
    apply evictOver_fits config.hardCapPositive
    intro key present
    rw [Positions.has_eq_isSome, Option.isSome_iff_exists] at present
    obtain ⟨position, found⟩ := present
    have stored : position ∈ model.positions.values :=
      (InsertionMap.mem_values_iff _ _).mpr ⟨key, found⟩
    apply List.mem_map.mpr
    exact ⟨position, (List.mem_insertionSort _).mpr stored,
      model.positions.keyed key position found⟩

/-- The ledger an account's event leaves, from the account's position before. -/
def accountStep (config : LocalPositionModelConfig) (model : LocalPositionModel)
    (event : ParsedAavePoolEvent) (account : Address) : Option UserPosition :=
  if !model.positions.has account.toLowerCase && !isReserveInAllowlist config event.reserve
  then none
  else
    let registered := model.registerReserve event.reserve BASE_LT_BPS
    let position := applyBalances registered.reserveConfig
      { registered.getOrCreate account event.origin.blockNumber with
        lastActivityBlock := event.origin.blockNumber } event
    if decide (event.name = .LiquidationCall) && debtFree position then none
    else some position.ledger

/-- The position an event works on belongs to the event's account. -/
theorem getOrCreate_account (model : LocalPositionModel) (account : Address) (blockNumber : Nat) :
    (model.getOrCreate account blockNumber).account.toLowerCase = account.toLowerCase := by
  unfold getOrCreate
  cases found : model.positions.get? account.toLowerCase with
  | none => rfl
  | some position => exact model.positions.keyed _ position found

/-- An eviction at the block of the account's last activity keeps the account's
ledger, if the cache is within its cap. -/
theorem ledgerOf_enforceHardCap {config : LocalPositionModelConfig}
    {stored next : LocalPositionModel} {account : Address} {position : UserPosition}
    (same : SameLedger stored next)
    (found : stored.positions.get? account.toLowerCase = some position)
    (fits : (stored.positions.size : ℚ) ≤ config.positionCacheHardCap) :
    (enforceHardCap config next position.lastActivityBlock).ledgerOf account.toLowerCase =
        some position.ledger ∧
      RoomFor config (enforceHardCap config next position.lastActivityBlock)
        account.toLowerCase ∧
      (enforceHardCap config next position.lastActivityBlock).reserveConfig =
        stored.reserveConfig := by
  have ledger := same.ledgers account.toLowerCase
  rw [ledgerOf, ledgerOf, found, Option.map_some, Option.map_eq_some_iff] at ledger
  obtain ⟨current, currentFound, currentLedger⟩ := ledger
  have currentActive : current.ledger.lastActivityBlock = position.ledger.lastActivityBlock := by
    rw [currentLedger]
  have currentFits : (next.positions.size : ℚ) ≤ config.positionCacheHardCap := by
    rw [same.size]
    exact fits
  obtain ⟨kept, smaller, reserves⟩ := enforceHardCap_spares config next
    position.lastActivityBlock account.toLowerCase currentFound currentActive currentFits
  refine ⟨?_, ?_, reserves.trans same.reserves⟩
  · rw [ledgerOf, kept, Option.map_some, currentLedger]
  · have known : (enforceHardCap config next position.lastActivityBlock).positions.has
        account.toLowerCase = true := by
      rw [Positions.has_eq_isSome, kept]
      rfl
    rw [RoomFor, known, if_pos rfl, Nat.add_zero]
    exact le_trans (by exact_mod_cast smaller) currentFits

theorem applyAccountEvent_spec (config : LocalPositionModelConfig) (model : LocalPositionModel)
    (event : ParsedAavePoolEvent) (account : Address) (nowSec : Int)
    (room : RoomFor config model account.toLowerCase)
    (counted : ¬ (!model.positions.has account.toLowerCase &&
      !isReserveInAllowlist config event.reserve) = true) :
    let after := (applyAccountEvent config model event account nowSec).1
    after.ledgerOf account.toLowerCase = accountStep config model event account ∧
      RoomFor config after account.toLowerCase ∧
      after.reserveConfig = (model.registerReserve event.reserve BASE_LT_BPS).reserveConfig := by
  intro after
  set registered := model.registerReserve event.reserve BASE_LT_BPS with registeredIs
  set touched : UserPosition := { registered.getOrCreate account event.origin.blockNumber with
    lastActivityBlock := event.origin.blockNumber } with touchedIs
  set position := applyBalances registered.reserveConfig touched event with positionIs
  set stored : LocalPositionModel :=
    { registered with positions := registered.positions.put position } with storedIs
  obtain ⟨collateral, debt, shape⟩ :=
    applyBalances_eq registered.reserveConfig touched event
  have accountKey : position.account.toLowerCase = account.toLowerCase := by
    rw [positionIs, shape]
    exact getOrCreate_account registered account event.origin.blockNumber
  have active : position.lastActivityBlock = event.origin.blockNumber := by
    rw [positionIs, shape]
    rfl
  have found : stored.positions.get? account.toLowerCase = some position := by
    rw [storedIs, Positions.get?_put, if_pos accountKey.symm]
  have present : stored.positions.has account.toLowerCase = true := by
    rw [Positions.has_eq_isSome, found]
    rfl
  have size : stored.positions.size =
      model.positions.size + (if model.positions.has account.toLowerCase then 0 else 1) := by
    rw [storedIs, Positions.size_put, accountKey, positions_registerReserve]
    split <;> rfl
  have fits : (stored.positions.size : ℚ) ≤ config.positionCacheHardCap := by
    rw [size]
    exact room
  have step : accountStep config model event account =
      if (decide (event.name = .LiquidationCall) && debtFree position) = true then none
      else some position.ledger := by
    rw [accountStep, if_neg counted]
  have evicted {next : LocalPositionModel} (same : SameLedger stored next) :=
    ledgerOf_enforceHardCap same found fits
  rw [active] at evicted
  have outcome : after = (applyAccountEvent config model event account nowSec).1 := rfl
  unfold applyAccountEvent at outcome
  dsimp only at outcome
  rw [← registeredIs, ← touchedIs, ← positionIs, ← storedIs] at outcome
  rw [step]
  by_cases dropped : (decide (event.name = .LiquidationCall) && debtFree position) = true
  · rw [if_pos dropped] at outcome ⊢
    rw [outcome]
    refine ⟨?_, ?_, rfl⟩
    · rw [ledgerOf, removePosition, Positions.get?_delete, if_pos accountKey.symm]
      rfl
    · have smaller := Positions.size_delete stored.positions account.toLowerCase
      rw [if_pos present] at smaller
      have gone : (stored.positions.delete account.toLowerCase).has account.toLowerCase = false := by
        rw [Positions.has_eq_isSome, Positions.get?_delete, if_pos rfl]
        rfl
      rw [RoomFor, removePosition, accountKey, gone, if_neg Bool.false_ne_true, smaller]
      exact fits
  · rw [if_neg dropped] at outcome ⊢
    by_cases seeded : (!position.isFullySeeded) = true
    · rw [if_pos seeded] at outcome
      rw [outcome]
      exact evicted (SameLedger.refl stored)
    · rw [if_neg seeded] at outcome
      rw [outcome]
      exact evicted (sameLedger_applyHfResult config stored position _ nowSec)

/-- An event of an account, through `applyAaveEvent`. -/
theorem applyAaveEvent_account (config : LocalPositionModelConfig) (model : LocalPositionModel)
    (event : ParsedAavePoolEvent) (account : Address) (nowSec : Int)
    (balances : event.name ≠ .ReserveDataUpdated)
    (user : resolveUserAddress event = some account)
    (room : RoomFor config model account.toLowerCase) :
    let after := (applyAaveEvent config model event nowSec).1
    after.ledgerOf account.toLowerCase = accountStep config model event account ∧
      RoomFor config after account.toLowerCase ∧
      (after.reserveConfig = model.reserveConfig ∨
        after.reserveConfig = (model.registerReserve event.reserve BASE_LT_BPS).reserveConfig) := by
  intro after
  have outcome : after = (applyAaveEvent config model event nowSec).1 := rfl
  rw [applyAaveEvent, if_neg balances, user] at outcome
  dsimp only at outcome
  by_cases ignored : (!model.positions.has account.toLowerCase &&
      !isReserveInAllowlist config event.reserve) = true
  · rw [if_pos ignored] at outcome
    rw [outcome, accountStep, if_pos ignored]
    refine ⟨?_, room, Or.inl rfl⟩
    have unknown : model.positions.has account.toLowerCase = false := by
      simpa using (Bool.and_eq_true_iff.mp ignored).1
    rw [Positions.has_eq_isSome, Option.isSome_eq_false_iff, Option.isNone_iff_eq_none] at unknown
    rw [ledgerOf, unknown]
    rfl
  · rw [if_neg ignored] at outcome
    rw [outcome]
    obtain ⟨ledger, stillRoom, reserves⟩ :=
      applyAccountEvent_spec config model event account nowSec room ignored
    exact ⟨ledger, stillRoom, Or.inr reserves⟩

/-- Events applied in order, each at its own clock. -/
def applyAll (config : LocalPositionModelConfig) (model : LocalPositionModel)
    (run : List (ParsedAavePoolEvent × Int)) : LocalPositionModel :=
  run.foldl (fun model event => (applyAaveEvent config model event.1 event.2).1) model

theorem applyAll_snoc (config : LocalPositionModelConfig) (model : LocalPositionModel)
    (run : List (ParsedAavePoolEvent × Int)) (event : ParsedAavePoolEvent × Int) :
    applyAll config model (run ++ [event]) =
      (applyAaveEvent config (applyAll config model run) event.1 event.2).1 := by
  rw [applyAll, List.foldl_append]
  rfl

end LiquidationBot.LocalPositionModel
