import LiquidationBot.AccountEvents
import LiquidationBot.Library.Accrual
import LiquidationBot.Library.Prefixes
import Mathlib.Algebra.Order.Floor.Semifield

/-!
# The ledger against an accruing reference

The model keeps a raw amount with the reserve index at its last update and
accrues it when it is valued. The reference keeps the balance itself: it
multiplies it at every index change and then adds or subtracts. The two agree
after every event of a run exactly when each deposit and each withdrawal meets
the condition under which the raw amount may be changed without rebasing it.

Values are compared in exact rational arithmetic; the model's own value is the
exact one rounded down.
-/

namespace LiquidationBot.LocalPositionModel

open Accrual

/-! ## One side of a position -/

namespace AmountsAtIndex

/-- The index an amount was stored at, one wad where none is stored. -/
def stamp (side : AmountsAtIndex) (key : Address) : Nat := (side.indexAtUpdate.get? key).getD WAD

/-- The amount accrued to the current index, before rounding. -/
def value (side : AmountsAtIndex) (currentIndex : Nat) (key : Address) : ℚ :=
  accrued (side.amount key : ℚ) (side.stamp key) currentIndex

/-- A deposit leaves the right value: there was nothing to accrue. -/
def AddSafe (side : AmountsAtIndex) (currentIndex : Nat) (key : Address) : Prop :=
  side.amount key = 0 ∨ side.stamp key = currentIndex

/-- A withdrawal leaves the right value: below the raw amount, it is zero or the
index has not moved; from the raw amount on, it covers the accrued balance. -/
def SubSafe (side : AmountsAtIndex) (currentIndex : Nat) (key : Address) (withdrawal : Nat) :
    Prop :=
  if withdrawal < side.amount key then withdrawal = 0 ∨ side.stamp key = currentIndex
  else side.amount key * currentIndex ≤ withdrawal * side.stamp key

theorem stamp_add (side : AmountsAtIndex) (key : Address) (deposit currentIndex : Nat) :
    (side.add key deposit currentIndex).stamp key = currentIndex := by
  simp [stamp, add]

theorem stamp_sub (side : AmountsAtIndex) (key : Address) (withdrawal : Nat) :
    (side.sub key withdrawal).stamp key =
      if withdrawal < side.amount key then side.stamp key else WAD := by
  rw [sub_eq]
  by_cases below : withdrawal < side.amount key
  · rw [if_pos below, if_pos below]
    rfl
  · rw [if_neg below, if_neg below, stamp, InsertionMap.get?_delete_same, Option.getD_none]

theorem stamp_sub_positive (side : AmountsAtIndex) (key : Address) (withdrawal : Nat)
    (positive : 0 < side.stamp key) : 0 < (side.sub key withdrawal).stamp key := by
  rw [stamp_sub]
  split
  · exact positive
  · decide

/-- A removed or absent entry has value zero. -/
theorem value_of_absent (side : AmountsAtIndex) (currentIndex : Nat) (key : Address)
    (absent : side.amounts.get? key = none) : side.value currentIndex key = 0 := by
  simp [value, amount, absent, accrued_zero]

theorem value_add_iff (side : AmountsAtIndex) (key : Address) (deposit currentIndex : Nat)
    (stampPositive : 0 < side.stamp key) (indexPositive : 0 < currentIndex) :
    (side.add key deposit currentIndex).value currentIndex key =
        side.value currentIndex key + deposit ↔ side.AddSafe currentIndex key := by
  have stampNonzero : (side.stamp key : ℚ) ≠ 0 := by exact_mod_cast stampPositive.ne'
  have indexNonzero : (currentIndex : ℚ) ≠ 0 := by exact_mod_cast indexPositive.ne'
  rw [value, value, amount_add, stamp_add, Nat.cast_add]
  rw [deposit_exact_iff stampNonzero indexNonzero, AddSafe]
  exact_mod_cast Iff.rfl

theorem value_sub_iff (side : AmountsAtIndex) (key : Address) (withdrawal currentIndex : Nat)
    (stampPositive : 0 < side.stamp key) (indexPositive : 0 < currentIndex) :
    (side.sub key withdrawal).value currentIndex key =
        max (side.value currentIndex key - withdrawal) 0 ↔
      side.SubSafe currentIndex key withdrawal := by
  have stampPositiveQ : (0 : ℚ) < side.stamp key := by exact_mod_cast stampPositive
  have indexPositiveQ : (0 : ℚ) < currentIndex := by exact_mod_cast indexPositive
  rw [value, value, amount_sub, stamp_sub, SubSafe]
  by_cases below : withdrawal < side.amount key
  · have belowQ : (withdrawal : ℚ) < side.amount key := by exact_mod_cast below
    rw [if_pos below, if_pos below, Nat.cast_sub below.le]
    rw [withdraw_exact_iff stampPositiveQ indexPositiveQ belowQ]
    exact_mod_cast Iff.rfl
  · have emptied : side.amount key - withdrawal = 0 := by omega
    rw [if_neg below, if_neg below, emptied, Nat.cast_zero, accrued_zero]
    rw [clear_exact_iff stampPositiveQ]
    exact_mod_cast Iff.rfl

end AmountsAtIndex

/-- What the model values an amount at is the exact value rounded down. -/
theorem scaleAmount_eq_floor (side : AmountsAtIndex) (currentIndex : Nat) (key : Address)
    (stampPositive : 0 < side.stamp key) :
    scaleAmount side.indexAtUpdate currentIndex key (side.amount key) =
      ⌊side.value currentIndex key⌋₊ := by
  have nonzero : ¬ side.stamp key = 0 := by omega
  unfold scaleAmount AmountsAtIndex.value accrued
  rw [AmountsAtIndex.stamp] at stampPositive nonzero
  by_cases unmoved : currentIndex = (side.indexAtUpdate.get? key).getD WAD
  · have stampNonzero : ((side.stamp key : ℕ) : ℚ) ≠ 0 := by exact_mod_cast nonzero
    have same : currentIndex = side.stamp key := unmoved
    rw [if_pos (Or.inr unmoved), same, mul_div_cancel_right₀ _ stampNonzero, Nat.floor_natCast]
  · rw [if_neg (by simp [nonzero, unmoved]), ← Nat.cast_mul, Nat.floor_div_eq_div]
    rfl

/-! ## The reference -/

/-- Balances and indices of the reference ledger. -/
structure ReferenceLedger where
  collateral : ℚ
  debt : ℚ
  liquidityIndex : Nat
  variableBorrowIndex : Nat

/-- One event: accrue at an index change, add a deposit, subtract a withdrawal
down to zero. -/
def ReferenceLedger.step (reference : ReferenceLedger) (event : ParsedAavePoolEvent) :
    ReferenceLedger :=
  match event.name, event.amount with
  | .ReserveDataUpdated, _ =>
      let liquidityIndex := event.liquidityIndex.getD reference.liquidityIndex
      let variableBorrowIndex := event.variableBorrowIndex.getD reference.variableBorrowIndex
      { collateral := reference.collateral * (liquidityIndex / reference.liquidityIndex)
        debt := reference.debt * (variableBorrowIndex / reference.variableBorrowIndex)
        liquidityIndex := liquidityIndex
        variableBorrowIndex := variableBorrowIndex }
  | .Supply, some amount => { reference with collateral := reference.collateral + amount }
  | .Withdraw, some amount =>
      { reference with collateral := max (reference.collateral - amount) 0 }
  | .Borrow, some amount => { reference with debt := reference.debt + amount }
  | .Repay, some amount => { reference with debt := max (reference.debt - amount) 0 }
  | _, _ => reference

/-! ## The model's side of the comparison -/

/-- One side of an account's position; empty where no position is stored. -/
def sideOf (project : UserPosition → AmountsAtIndex) (model : LocalPositionModel)
    (account : Address) : AmountsAtIndex :=
  ((model.positions.get? account).map project).getD ⟨.empty, .empty⟩

/-- One index of a reserve; one wad until the reserve is registered. -/
def indexOf (project : ReserveConfig → Nat) (model : LocalPositionModel) (asset : Address) : Nat :=
  ((model.reserveConfig.get? asset).map project).getD WAD

/-- Collateral in a reserve as it is valued, before rounding. -/
def collateralValue (model : LocalPositionModel) (account asset : Address) : ℚ :=
  (sideOf collateralSide model account).value
    (indexOf ReserveConfig.liquidityIndex model asset) asset

/-- Debt in a reserve as it is valued, before rounding. -/
def debtValue (model : LocalPositionModel) (account asset : Address) : ℚ :=
  (sideOf debtSide model account).value
    (indexOf ReserveConfig.variableBorrowIndex model asset) asset

/-- The model agrees with the reference: both values are equal, and an entry is
absent only where the reference balance is zero. -/
structure Matches (model : LocalPositionModel) (account asset : Address)
    (reference : ReferenceLedger) : Prop where
  collateral : collateralValue model account asset = reference.collateral
  debt : debtValue model account asset = reference.debt
  collateralAbsent :
    (sideOf collateralSide model account).amounts.get? asset = none → reference.collateral = 0
  debtAbsent : (sideOf debtSide model account).amounts.get? asset = none → reference.debt = 0

/-- Absent entries have value zero, so equal values are enough. -/
theorem matches_iff (model : LocalPositionModel) (account asset : Address)
    (reference : ReferenceLedger) :
    Matches model account asset reference ↔
      collateralValue model account asset = reference.collateral ∧
        debtValue model account asset = reference.debt := by
  constructor
  · intro matched
    exact ⟨matched.collateral, matched.debt⟩
  · rintro ⟨collateral, debt⟩
    refine ⟨collateral, debt, fun absent => ?_, fun absent => ?_⟩
    · rw [← collateral]
      exact AmountsAtIndex.value_of_absent _ _ asset absent
    · rw [← debt]
      exact AmountsAtIndex.value_of_absent _ _ asset absent

/-- Events of one account and one reserve, with positive indices. -/
def OnReserve (account asset : Address) (event : ParsedAavePoolEvent) : Prop :=
  event.reserve.toLowerCase = asset ∧
    match event.name with
    | .ReserveDataUpdated =>
        (∀ index, event.liquidityIndex = some index → 0 < index) ∧
          ∀ index, event.variableBorrowIndex = some index → 0 < index
    | .LiquidationCall => False
    | _ => ∃ user, resolveUserAddress event = some user ∧ user.toLowerCase = account

/-- The account is tracked: its events count, the store has room for it, and
its reserve's indices are positive. -/
structure Tracked (config : LocalPositionModelConfig) (model : LocalPositionModel)
    (account asset : Address) : Prop where
  counted : model.positions.has account = true ∨ isReserveInAllowlist config asset = true
  room : RoomFor config model account
  collateralStamp : 0 < (sideOf collateralSide model account).stamp asset
  debtStamp : 0 < (sideOf debtSide model account).stamp asset
  liquidityIndex : 0 < indexOf ReserveConfig.liquidityIndex model asset
  variableBorrowIndex : 0 < indexOf ReserveConfig.variableBorrowIndex model asset

/-- Registering a reserve gives it the indices an unregistered one is taken to
have. -/
theorem indexOf_registerReserve (project : ReserveConfig → Nat)
    (fresh : ∀ asset threshold bonus, project (unreadReserve asset threshold bonus) = WAD)
    (model : LocalPositionModel) (reserve asset : Address) (threshold : Nat) :
    indexOf project (model.registerReserve reserve threshold) asset =
      indexOf project model asset := by
  unfold registerReserve
  split
  · rfl
  · next absent =>
    have missing : model.reserveConfig.get? reserve.toLowerCase = none := by
      rw [← InsertionMap.has_eq_false_iff]
      simpa using absent
    by_cases here : asset = reserve.toLowerCase
    · simp [indexOf, here, missing, fresh]
    · simp [indexOf, InsertionMap.get?_set_other _ _ here]

/-- An index update sets the indices it carries and leaves positions alone. -/
theorem applyAaveEvent_indices (config : LocalPositionModelConfig) (model : LocalPositionModel)
    (event : ParsedAavePoolEvent) (nowSec : Int) (named : event.name = .ReserveDataUpdated) :
    let after := (applyAaveEvent config model event nowSec).1
    after.positions = model.positions ∧
      indexOf ReserveConfig.liquidityIndex after event.reserve.toLowerCase =
        event.liquidityIndex.getD
          (indexOf ReserveConfig.liquidityIndex model event.reserve.toLowerCase) ∧
      indexOf ReserveConfig.variableBorrowIndex after event.reserve.toLowerCase =
        event.variableBorrowIndex.getD
          (indexOf ReserveConfig.variableBorrowIndex model event.reserve.toLowerCase) := by
  intro after
  have outcome : after = (model.registerReserve event.reserve BASE_LT_BPS).applyReserveIndexUpdate
      event := by
    simp only [after, applyAaveEvent, named, if_true]
  have liquidity := indexOf_registerReserve ReserveConfig.liquidityIndex (fun _ _ _ => rfl) model
    event.reserve event.reserve.toLowerCase BASE_LT_BPS
  have borrow := indexOf_registerReserve ReserveConfig.variableBorrowIndex (fun _ _ _ => rfl) model
    event.reserve event.reserve.toLowerCase BASE_LT_BPS
  have positions := positions_registerReserve model event.reserve BASE_LT_BPS
  have registered : ∃ reserve, (model.registerReserve event.reserve BASE_LT_BPS).reserveConfig.get?
      event.reserve.toLowerCase = some reserve := by
    unfold registerReserve
    split
    · next known => exact Option.isSome_iff_exists.mp known
    · exact ⟨_, InsertionMap.get?_set_same _ _ _⟩
  obtain ⟨reserve, found⟩ := registered
  rw [indexOf, found] at liquidity borrow
  rw [outcome, applyReserveIndexUpdate, found]
  refine ⟨positions, ?_, ?_⟩
  · rw [← liquidity]
    simp [indexOf]
  · rw [← borrow]
    simp [indexOf]

/-- The collateral side after an event of the account. -/
def collateralAfter (side : AmountsAtIndex) (currentIndex : Nat) (asset : Address)
    (event : ParsedAavePoolEvent) : AmountsAtIndex :=
  match event.name, event.amount with
  | .Supply, some amount => side.add asset amount currentIndex
  | .Withdraw, some amount => side.sub asset amount
  | _, _ => side

/-- The debt side after an event of the account. -/
def debtAfter (side : AmountsAtIndex) (currentIndex : Nat) (asset : Address)
    (event : ParsedAavePoolEvent) : AmountsAtIndex :=
  match event.name, event.amount with
  | .Borrow, some amount => side.add asset amount currentIndex
  | .Repay, some amount => side.sub asset amount
  | _, _ => side

/-- Outside liquidations a balance change is one change of one side. -/
theorem sides_applyBalances (reserves : InsertionMap Address ReserveConfig)
    (position : UserPosition) (event : ParsedAavePoolEvent)
    (alive : event.name ≠ .LiquidationCall) :
    let asset := event.reserve.toLowerCase
    collateralSide (applyBalances reserves position event) =
        collateralAfter (collateralSide position)
          (((reserves.get? asset).map ReserveConfig.liquidityIndex).getD WAD) asset event ∧
      debtSide (applyBalances reserves position event) =
        debtAfter (debtSide position)
          (((reserves.get? asset).map ReserveConfig.variableBorrowIndex).getD WAD) asset event := by
  intro asset
  unfold applyBalances collateralAfter debtAfter
  cases named : event.name with
  | Supply => cases event.amount <;> exact ⟨rfl, rfl⟩
  | Withdraw => cases event.amount <;> exact ⟨rfl, rfl⟩
  | Borrow => cases event.amount <;> exact ⟨rfl, rfl⟩
  | Repay => cases event.amount <;> exact ⟨rfl, rfl⟩
  | LiquidationCall => exact absurd named alive
  | ReserveDataUpdated => exact ⟨rfl, rfl⟩

/-- A position that an event touches starts from the stored side; a new one is empty. -/
theorem side_getOrCreate (project : UserPosition → AmountsAtIndex) (model : LocalPositionModel)
    (user : Address) (blockNumber : Nat)
    (fresh : project (newPosition user blockNumber) = ⟨.empty, .empty⟩) :
    project (model.getOrCreate user blockNumber) = sideOf project model user.toLowerCase := by
  rw [getOrCreate, sideOf]
  cases model.positions.get? user.toLowerCase with
  | none => exact fresh
  | some position => rfl

theorem sideOf_registerReserve (project : UserPosition → AmountsAtIndex)
    (model : LocalPositionModel) (reserve : Address) (ltBps : Nat) (account : Address) :
    sideOf project (model.registerReserve reserve ltBps) account = sideOf project model account := by
  rw [sideOf, positions_registerReserve, sideOf]

/-- A tracked account's event changes its two sides, and no index. -/
theorem applyAaveEvent_sides (config : LocalPositionModelConfig) (model : LocalPositionModel)
    (event : ParsedAavePoolEvent) (user : Address) (nowSec : Int)
    (balances : event.name ≠ .ReserveDataUpdated) (alive : event.name ≠ .LiquidationCall)
    (resolved : resolveUserAddress event = some user)
    (counted : model.positions.has user.toLowerCase = true ∨
      isReserveInAllowlist config event.reserve = true)
    (room : RoomFor config model user.toLowerCase) :
    let after := (applyAaveEvent config model event nowSec).1
    let asset := event.reserve.toLowerCase
    after.positions.has user.toLowerCase = true ∧
      RoomFor config after user.toLowerCase ∧
      sideOf collateralSide after user.toLowerCase =
        collateralAfter (sideOf collateralSide model user.toLowerCase)
          (indexOf ReserveConfig.liquidityIndex model asset) asset event ∧
      sideOf debtSide after user.toLowerCase =
        debtAfter (sideOf debtSide model user.toLowerCase)
          (indexOf ReserveConfig.variableBorrowIndex model asset) asset event ∧
      indexOf ReserveConfig.liquidityIndex after asset =
        indexOf ReserveConfig.liquidityIndex model asset ∧
      indexOf ReserveConfig.variableBorrowIndex after asset =
        indexOf ReserveConfig.variableBorrowIndex model asset := by
  intro after asset
  obtain ⟨ledger, stillRoom, reserves⟩ :=
    applyAaveEvent_account config model event user nowSec balances resolved room
  have notIgnored : ¬ (!model.positions.has user.toLowerCase &&
      !isReserveInAllowlist config event.reserve) = true := by
    rcases counted with known | allowed
    · simp [known]
    · simp [allowed]
  rw [accountStep, if_neg notIgnored] at ledger
  simp only [alive, decide_false, Bool.false_and, Bool.false_eq_true, if_false] at ledger
  set registered := model.registerReserve event.reserve BASE_LT_BPS with registeredIs
  rw [ledgerOf, Option.map_eq_some_iff] at ledger
  obtain ⟨stored, found, storedLedger⟩ := ledger
  obtain ⟨collateralChange, debtChange⟩ := sides_applyBalances registered.reserveConfig
    { registered.getOrCreate user event.origin.blockNumber with
      lastActivityBlock := event.origin.blockNumber } event alive
  have collateralStored := (congrArg collateralSide storedLedger).trans collateralChange
  have debtStored := (congrArg debtSide storedLedger).trans debtChange
  have liquidity := indexOf_registerReserve ReserveConfig.liquidityIndex (fun _ _ _ => rfl) model
    event.reserve asset BASE_LT_BPS
  have borrow := indexOf_registerReserve ReserveConfig.variableBorrowIndex (fun _ _ _ => rfl) model
    event.reserve asset BASE_LT_BPS
  have collateralBefore : collateralSide (registered.getOrCreate user event.origin.blockNumber) =
      sideOf collateralSide model user.toLowerCase :=
    (side_getOrCreate collateralSide registered user _ rfl).trans
      (sideOf_registerReserve collateralSide model event.reserve BASE_LT_BPS _)
  have debtBefore : debtSide (registered.getOrCreate user event.origin.blockNumber) =
      sideOf debtSide model user.toLowerCase :=
    (side_getOrCreate debtSide registered user _ rfl).trans
      (sideOf_registerReserve debtSide model event.reserve BASE_LT_BPS _)
  have collateralIs : sideOf collateralSide after user.toLowerCase = collateralSide stored := by
    rw [sideOf, found]
    rfl
  have debtIs : sideOf debtSide after user.toLowerCase = debtSide stored := by
    rw [sideOf, found]
    rfl
  refine ⟨?_, stillRoom, ?_, ?_, ?_, ?_⟩
  · rw [Positions.has_eq_isSome, found]
    rfl
  · rw [collateralIs, ← collateralBefore, ← liquidity]
    exact collateralStored
  · rw [debtIs, ← debtBefore, ← borrow]
    exact debtStored
  · rcases reserves with same | same
    · rw [indexOf, same, indexOf]
    · rw [indexOf, same]
      exact liquidity
  · rcases reserves with same | same
    · rw [indexOf, same, indexOf]
    · rw [indexOf, same]
      exact borrow

/-! ## One event -/

/-- The event changes raw amounts only where that is right without rebasing
them. Index updates and absent amounts always are. -/
def AccrualSafe (model : LocalPositionModel) (account asset : Address)
    (event : ParsedAavePoolEvent) : Prop :=
  match event.name, event.amount with
  | .Supply, some _ =>
      (sideOf collateralSide model account).AddSafe
        (indexOf ReserveConfig.liquidityIndex model asset) asset
  | .Withdraw, some amount =>
      (sideOf collateralSide model account).SubSafe
        (indexOf ReserveConfig.liquidityIndex model asset) asset amount
  | .Borrow, some _ =>
      (sideOf debtSide model account).AddSafe
        (indexOf ReserveConfig.variableBorrowIndex model asset) asset
  | .Repay, some amount =>
      (sideOf debtSide model account).SubSafe
        (indexOf ReserveConfig.variableBorrowIndex model asset) asset amount
  | _, _ => True

/-- The reference knows the reserve's current indices. -/
structure SameIndices (model : LocalPositionModel) (asset : Address)
    (reference : ReferenceLedger) : Prop where
  liquidityIndex : reference.liquidityIndex = indexOf ReserveConfig.liquidityIndex model asset
  variableBorrowIndex :
    reference.variableBorrowIndex = indexOf ReserveConfig.variableBorrowIndex model asset

/-- Membership in the allowlist does not depend on the spelling. -/
theorem isReserveInAllowlist_toLowerCase (config : LocalPositionModelConfig) (reserve : Address) :
    isReserveInAllowlist config reserve.toLowerCase = isReserveInAllowlist config reserve := rfl

theorem stamp_collateralAfter_positive (side : AmountsAtIndex) (currentIndex : Nat)
    (asset : Address) (event : ParsedAavePoolEvent) (stampPositive : 0 < side.stamp asset)
    (indexPositive : 0 < currentIndex) :
    0 < (collateralAfter side currentIndex asset event).stamp asset := by
  unfold collateralAfter
  split
  · rw [AmountsAtIndex.stamp_add]
    exact indexPositive
  · exact AmountsAtIndex.stamp_sub_positive side asset _ stampPositive
  · exact stampPositive

theorem stamp_debtAfter_positive (side : AmountsAtIndex) (currentIndex : Nat)
    (asset : Address) (event : ParsedAavePoolEvent) (stampPositive : 0 < side.stamp asset)
    (indexPositive : 0 < currentIndex) :
    0 < (debtAfter side currentIndex asset event).stamp asset := by
  unfold debtAfter
  split
  · rw [AmountsAtIndex.stamp_add]
    exact indexPositive
  · exact AmountsAtIndex.stamp_sub_positive side asset _ stampPositive
  · exact stampPositive

/-- An index update multiplies both values as the reference does. -/
theorem index_event_step (config : LocalPositionModelConfig) (model : LocalPositionModel)
    (account : Address) (event : ParsedAavePoolEvent) (nowSec : Int)
    (reference : ReferenceLedger) (named : event.name = .ReserveDataUpdated)
    (onReserve : OnReserve account event.reserve.toLowerCase event)
    (tracked : Tracked config model account event.reserve.toLowerCase)
    (indices : SameIndices model event.reserve.toLowerCase reference) :
    let after := (applyAaveEvent config model event nowSec).1
    let asset := event.reserve.toLowerCase
    Tracked config after account asset ∧ SameIndices after asset (reference.step event) ∧
      (Matches model account asset reference →
        (Matches after account asset (reference.step event) ↔
          AccrualSafe model account asset event)) := by
  intro after asset
  obtain ⟨positions, liquidity, borrow⟩ := applyAaveEvent_indices config model event nowSec named
  have given := onReserve.2
  simp only [named] at given
  have liquidityPositive : 0 < indexOf ReserveConfig.liquidityIndex after asset := by
    rw [liquidity]
    cases carried : event.liquidityIndex with
    | none => exact tracked.liquidityIndex
    | some index => exact given.1 index carried
  have borrowPositive : 0 < indexOf ReserveConfig.variableBorrowIndex after asset := by
    rw [borrow]
    cases carried : event.variableBorrowIndex with
    | none => exact tracked.variableBorrowIndex
    | some index => exact given.2 index carried
  have collateralSame :
      sideOf collateralSide after account = sideOf collateralSide model account := by
    rw [sideOf, sideOf, positions]
  have debtSame : sideOf debtSide after account = sideOf debtSide model account := by
    rw [sideOf, sideOf, positions]
  have stepped : reference.step event =
      { collateral := reference.collateral *
          (indexOf ReserveConfig.liquidityIndex after asset / reference.liquidityIndex)
        debt := reference.debt *
          (indexOf ReserveConfig.variableBorrowIndex after asset / reference.variableBorrowIndex)
        liquidityIndex := indexOf ReserveConfig.liquidityIndex after asset
        variableBorrowIndex := indexOf ReserveConfig.variableBorrowIndex after asset } := by
    rw [ReferenceLedger.step, named, liquidity, borrow, indices.liquidityIndex,
      indices.variableBorrowIndex]
  refine ⟨?_, ?_, ?_⟩
  · constructor
    · rw [positions]
      exact tracked.counted
    · rw [RoomFor, positions]
      exact tracked.room
    · rw [collateralSame]
      exact tracked.collateralStamp
    · rw [debtSame]
      exact tracked.debtStamp
    · exact liquidityPositive
    · exact borrowPositive
  · rw [stepped]
    exact ⟨rfl, rfl⟩
  · intro matched
    have oldLiquidity : (indexOf ReserveConfig.liquidityIndex model asset : ℚ) ≠ 0 := by
      exact_mod_cast tracked.liquidityIndex.ne'
    have oldBorrow : (indexOf ReserveConfig.variableBorrowIndex model asset : ℚ) ≠ 0 := by
      exact_mod_cast tracked.variableBorrowIndex.ne'
    have holds : Matches after account asset (reference.step event) := by
      rw [matches_iff, stepped, collateralValue, debtValue, collateralSame, debtSame,
        ← matched.collateral, ← matched.debt, indices.liquidityIndex, indices.variableBorrowIndex]
      exact ⟨accrued_reindex _ _ oldLiquidity, accrued_reindex _ _ oldBorrow⟩
    have safe : AccrualSafe model account asset event := by
      simp only [AccrualSafe, named]
    exact ⟨fun _ => safe, fun _ => holds⟩

/-- An account's event leaves the indices of the reference alone. -/
theorem ReferenceLedger.step_indices (reference : ReferenceLedger) {event : ParsedAavePoolEvent}
    (balances : event.name ≠ .ReserveDataUpdated) (alive : event.name ≠ .LiquidationCall) :
    (reference.step event).liquidityIndex = reference.liquidityIndex ∧
      (reference.step event).variableBorrowIndex = reference.variableBorrowIndex := by
  unfold ReferenceLedger.step
  cases named : event.name with
  | ReserveDataUpdated => exact absurd named balances
  | LiquidationCall => exact absurd named alive
  | Supply => cases event.amount <;> exact ⟨rfl, rfl⟩
  | Withdraw => cases event.amount <;> exact ⟨rfl, rfl⟩
  | Borrow => cases event.amount <;> exact ⟨rfl, rfl⟩
  | Repay => cases event.amount <;> exact ⟨rfl, rfl⟩

/-- An account's event keeps the agreement exactly when it is safe. -/
theorem account_event_step (config : LocalPositionModelConfig) (model : LocalPositionModel)
    (event : ParsedAavePoolEvent) (user : Address) (nowSec : Int) (reference : ReferenceLedger)
    (balances : event.name ≠ .ReserveDataUpdated) (alive : event.name ≠ .LiquidationCall)
    (resolved : resolveUserAddress event = some user)
    (tracked : Tracked config model user.toLowerCase event.reserve.toLowerCase)
    (indices : SameIndices model event.reserve.toLowerCase reference) :
    let after := (applyAaveEvent config model event nowSec).1
    let account := user.toLowerCase
    let asset := event.reserve.toLowerCase
    Tracked config after account asset ∧ SameIndices after asset (reference.step event) ∧
      (Matches model account asset reference →
        (Matches after account asset (reference.step event) ↔
          AccrualSafe model account asset event)) := by
  intro after account asset
  have counted := tracked.counted
  rw [isReserveInAllowlist_toLowerCase] at counted
  obtain ⟨known, room, collateral, debt, liquidity, borrow⟩ := applyAaveEvent_sides config model
    event user nowSec balances alive resolved counted tracked.room
  refine ⟨?_, ?_, ?_⟩
  · constructor
    · exact Or.inl known
    · exact room
    · rw [collateral]
      exact stamp_collateralAfter_positive _ _ asset event tracked.collateralStamp
        tracked.liquidityIndex
    · rw [debt]
      exact stamp_debtAfter_positive _ _ asset event tracked.debtStamp tracked.variableBorrowIndex
    · rw [liquidity]
      exact tracked.liquidityIndex
    · rw [borrow]
      exact tracked.variableBorrowIndex
  · have kept := ReferenceLedger.step_indices reference balances alive
    constructor
    · rw [kept.1, liquidity]
      exact indices.liquidityIndex
    · rw [kept.2, borrow]
      exact indices.variableBorrowIndex
  · intro matched
    have collateralEqual := matched.collateral
    have debtEqual := matched.debt
    rw [collateralValue] at collateralEqual
    rw [debtValue] at debtEqual
    rw [matches_iff, collateralValue, debtValue, collateral, debt, liquidity, borrow]
    unfold collateralAfter debtAfter ReferenceLedger.step AccrualSafe
    cases named : event.name with
    | ReserveDataUpdated => exact absurd named balances
    | LiquidationCall => exact absurd named alive
    | Supply =>
      cases event.amount with
      | none => simpa using ⟨collateralEqual, debtEqual⟩
      | some amount =>
        dsimp only
        rw [← collateralEqual]
        exact (and_iff_left debtEqual).trans (AmountsAtIndex.value_add_iff _ asset amount _
          tracked.collateralStamp tracked.liquidityIndex)
    | Withdraw =>
      cases event.amount with
      | none => simpa using ⟨collateralEqual, debtEqual⟩
      | some amount =>
        dsimp only
        rw [← collateralEqual]
        exact (and_iff_left debtEqual).trans (AmountsAtIndex.value_sub_iff _ asset amount _
          tracked.collateralStamp tracked.liquidityIndex)
    | Borrow =>
      cases event.amount with
      | none => simpa using ⟨collateralEqual, debtEqual⟩
      | some amount =>
        dsimp only
        rw [← debtEqual]
        exact (and_iff_right collateralEqual).trans (AmountsAtIndex.value_add_iff _ asset amount _
          tracked.debtStamp tracked.variableBorrowIndex)
    | Repay =>
      cases event.amount with
      | none => simpa using ⟨collateralEqual, debtEqual⟩
      | some amount =>
        dsimp only
        rw [← debtEqual]
        exact (and_iff_right collateralEqual).trans (AmountsAtIndex.value_sub_iff _ asset amount _
          tracked.debtStamp tracked.variableBorrowIndex)

/-- Any event of the account or its reserve. -/
theorem event_step (config : LocalPositionModelConfig) (model : LocalPositionModel)
    (account asset : Address) (event : ParsedAavePoolEvent) (nowSec : Int)
    (reference : ReferenceLedger) (onReserve : OnReserve account asset event)
    (tracked : Tracked config model account asset) (indices : SameIndices model asset reference) :
    let after := (applyAaveEvent config model event nowSec).1
    Tracked config after account asset ∧ SameIndices after asset (reference.step event) ∧
      (Matches model account asset reference →
        (Matches after account asset (reference.step event) ↔
          AccrualSafe model account asset event)) := by
  obtain ⟨rfl, kind⟩ := onReserve
  by_cases update : event.name = .ReserveDataUpdated
  · exact index_event_step config model account event nowSec reference update ⟨rfl, kind⟩ tracked
      indices
  · have alive : event.name ≠ .LiquidationCall := by
      intro liquidated
      simp [liquidated] at kind
    have named : ∃ user, resolveUserAddress event = some user ∧ user.toLowerCase = account := by
      cases name : event.name with
      | ReserveDataUpdated => exact absurd name update
      | LiquidationCall => exact absurd name alive
      | Supply => simpa [name] using kind
      | Withdraw => simpa [name] using kind
      | Borrow => simpa [name] using kind
      | Repay => simpa [name] using kind
    obtain ⟨user, resolved, rfl⟩ := named
    exact account_event_step config model event user nowSec reference update alive resolved tracked
      indices

/-! ## Runs -/

/-- The reference over the same events. -/
def referenceAfter (reference : ReferenceLedger) (run : List (ParsedAavePoolEvent × Int)) :
    ReferenceLedger :=
  run.foldl (fun reference event => reference.step event.1) reference

/-- The reference that starts from the balances the model has. -/
def referenceOf (model : LocalPositionModel) (account asset : Address) : ReferenceLedger where
  collateral := collateralValue model account asset
  debt := debtValue model account asset
  liquidityIndex := indexOf ReserveConfig.liquidityIndex model asset
  variableBorrowIndex := indexOf ReserveConfig.variableBorrowIndex model asset

theorem referenceAfter_snoc (reference : ReferenceLedger) (run : List (ParsedAavePoolEvent × Int))
    (event : ParsedAavePoolEvent × Int) :
    referenceAfter reference (run ++ [event]) = (referenceAfter reference run).step event.1 := by
  rw [referenceAfter, List.foldl_append]
  rfl

/-- Along a run the account stays tracked and the reference knows the indices. -/
theorem tracked_applyAll (config : LocalPositionModelConfig) (model : LocalPositionModel)
    (account asset : Address) (tracked : Tracked config model account asset)
    (run : List (ParsedAavePoolEvent × Int))
    (onReserve : ∀ event ∈ run, OnReserve account asset event.1) :
    Tracked config (applyAll config model run) account asset ∧
      SameIndices (applyAll config model run) asset
        (referenceAfter (referenceOf model account asset) run) := by
  induction run using List.reverseRecOn with
  | nil => exact ⟨tracked, rfl, rfl⟩
  | append_singleton run event inductionHypothesis =>
    have earlier : ∀ tested ∈ run, OnReserve account asset tested.1 := fun tested member =>
      onReserve tested (List.mem_append_left [event] member)
    obtain ⟨trackedHere, indices⟩ := inductionHypothesis earlier
    have last : OnReserve account asset event.1 := onReserve event (by simp)
    obtain ⟨trackedNext, indicesNext, _⟩ := event_step config _ account asset event.1 event.2 _
      last trackedHere indices
    rw [applyAll_snoc, referenceAfter_snoc]
    exact ⟨trackedNext, indicesNext⟩

/-- Over every run of events of one tracked account on one reserve, the values
agree with the reference after every event exactly when every event is safe in
the state it finds. -/
theorem accrual_matches_iff (config : LocalPositionModelConfig) (model : LocalPositionModel)
    (account asset : Address) (tracked : Tracked config model account asset)
    (run : List (ParsedAavePoolEvent × Int))
    (onReserve : ∀ event ∈ run, OnReserve account asset event.1) :
    Prefixes.Always (fun past => Matches (applyAll config model past) account asset
        (referenceAfter (referenceOf model account asset) past)) run ↔
      Prefixes.EachStep (fun past event =>
        AccrualSafe (applyAll config model past) account asset event.1) run := by
  apply Prefixes.always_iff_eachStep
  · exact (matches_iff _ _ _ _).mpr ⟨rfl, rfl⟩
  · intro past event initial matched
    have inside : ∀ tested ∈ past ++ [event], OnReserve account asset tested.1 := fun tested member =>
      onReserve tested (initial.subset member)
    obtain ⟨trackedHere, indices⟩ := tracked_applyAll config model account asset tracked past
      (fun tested member => inside tested (List.mem_append_left [event] member))
    obtain ⟨_, _, exactStep⟩ := event_step config _ account asset event.1 event.2 _
      (inside event (by simp)) trackedHere indices
    rw [applyAll_snoc, referenceAfter_snoc]
    exact exactStep matched

/-- A pool event of account one on the reserve of USDC. -/
def usdcEvent (name : AavePoolEventName) (blockNumber : Nat) (amount liquidityIndex : Option Nat) :
    ParsedAavePoolEvent where
  name := name
  origin := ⟨blockNumber, none, some blockNumber, 0, .confirmed⟩
  reserve := BASE_USDC
  collateralAsset := none
  debtAsset := none
  user := none
  onBehalfOf := if name = .ReserveDataUpdated then none else some ⟨1, 0⟩
  amount := amount
  debtToCover := none
  liquidatedCollateralAmount := none
  liquidityIndex := liquidityIndex
  variableBorrowIndex := none

/-- Two deposits of one thousand around a doubling of the index. -/
def depositsAroundAccrual : List (ParsedAavePoolEvent × Int) :=
  [(usdcEvent .Supply 1 (some 1000) none, 0),
    (usdcEvent .ReserveDataUpdated 2 none (some (2 * WAD)), 0),
    (usdcEvent .Supply 3 (some 1000) none, 0)]

theorem tracked_initial :
    Tracked defaultConfig initial ⟨1, 0⟩ BASE_USDC.toLowerCase where
  counted := Or.inr (by decide)
  room := by
    have empty : initial.positions.size + (if initial.positions.has ⟨1, 0⟩ then 0 else 1) = 1 := by
      decide
    rw [RoomFor, empty]
    norm_num [defaultConfig]
  collateralStamp := by decide
  debtStamp := by decide
  liquidityIndex := by decide
  variableBorrowIndex := by decide

theorem depositsAroundAccrual_onReserve :
    ∀ event ∈ depositsAroundAccrual, OnReserve ⟨1, 0⟩ BASE_USDC.toLowerCase event.1 := by
  intro event member
  simp only [depositsAroundAccrual, List.mem_cons, List.not_mem_nil, or_false] at member
  rcases member with rfl | rfl | rfl
  · exact ⟨rfl, ⟨1, 0⟩, rfl, rfl⟩
  · refine ⟨rfl, ?_, ?_⟩
    · intro index carried
      cases carried
      decide
    · intro index carried
      cases carried
  · exact ⟨rfl, ⟨1, 0⟩, rfl, rfl⟩

/-- The equivalence at two deposits around a doubling of the index. -/
theorem accrual_matches_iff_deposits :
    Prefixes.Always (fun past => Matches (applyAll defaultConfig initial past) ⟨1, 0⟩
        BASE_USDC.toLowerCase
        (referenceAfter (referenceOf initial ⟨1, 0⟩ BASE_USDC.toLowerCase) past))
        depositsAroundAccrual ↔
      Prefixes.EachStep (fun past event =>
        AccrualSafe (applyAll defaultConfig initial past) ⟨1, 0⟩ BASE_USDC.toLowerCase event.1)
        depositsAroundAccrual :=
  accrual_matches_iff defaultConfig initial ⟨1, 0⟩ BASE_USDC.toLowerCase tracked_initial
    depositsAroundAccrual depositsAroundAccrual_onReserve

/-- The first deposit has doubled to two thousand when the second comes, but the
model values both together at two thousand. -/
theorem deposit_after_accrual_not_rebased :
    collateralValue (applyAll defaultConfig initial depositsAroundAccrual) ⟨1, 0⟩
        BASE_USDC.toLowerCase = 2000 ∧
      (referenceAfter (referenceOf initial ⟨1, 0⟩ BASE_USDC.toLowerCase)
        depositsAroundAccrual).collateral = 3000 := by
  constructor
  · decide +kernel
  · decide +kernel

end LiquidationBot.LocalPositionModel
