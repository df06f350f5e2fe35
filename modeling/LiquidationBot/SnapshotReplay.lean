import LiquidationBot.AccountEvents
import LiquidationBot.Library.Prefixes

/-!
# Replay over a snapshot

A snapshot taken at a block already contains every event up to that block. The
start-up seeds accounts at the head and then replays a range of blocks that ends
at the head, so the replayed events reach balances that contain them.

The account's balances are abstracted to two functions from assets to amounts.
On these the model's event is a plain step, and replaying only the newer events
gives the same balances exactly when every older event is inert where it lands.
-/

namespace LiquidationBot

/-- Amounts by asset on both sides of an account. -/
@[ext] structure Balances where
  collateral : Address → Nat
  debt : Address → Nat

namespace Balances

/-- No amounts. -/
def zero : Balances := ⟨fun _ => 0, fun _ => 0⟩

/-- Raise or lower one amount. -/
def adjust (amounts : Address → Nat) (asset : Address) (change : Nat → Nat) : Address → Nat :=
  fun tested => if tested = asset then change (amounts tested) else amounts tested

/-- Lowering is floored at zero, so it is inert on nothing or by nothing. -/
theorem adjust_sub_eq_iff (amounts : Address → Nat) (asset : Address) (lowered : Nat) :
    adjust amounts asset (fun amount => amount - lowered) = amounts ↔
      lowered = 0 ∨ amounts asset = 0 := by
  constructor
  · intro same
    have here := congrFun same asset
    simp only [adjust, if_true] at here
    omega
  · intro inert
    funext tested
    by_cases here : tested = asset
    · subst here
      simp only [adjust, if_true]
      omega
    · simp [adjust, here]

theorem adjust_add_eq_iff (amounts : Address → Nat) (asset : Address) (raised : Nat) :
    adjust amounts asset (fun amount => amount + raised) = amounts ↔ raised = 0 := by
  constructor
  · intro same
    have here := congrFun same asset
    simp only [adjust, if_true] at here
    omega
  · rintro rfl
    funext tested
    simp [adjust]

/-- The effect of an event's amounts; an absent amount counts as zero. -/
def step (balances : Balances) (event : ParsedAavePoolEvent) : Balances :=
  let reserve := event.reserve.toLowerCase
  match event.name with
  | .Supply =>
      { balances with
        collateral := adjust balances.collateral reserve (· + event.amount.getD 0) }
  | .Withdraw =>
      { balances with
        collateral := adjust balances.collateral reserve (· - event.amount.getD 0) }
  | .Borrow => { balances with debt := adjust balances.debt reserve (· + event.amount.getD 0) }
  | .Repay => { balances with debt := adjust balances.debt reserve (· - event.amount.getD 0) }
  | .LiquidationCall =>
      { collateral := adjust balances.collateral
          (event.collateralAsset.getD event.reserve).toLowerCase
          (· - event.liquidatedCollateralAmount.getD 0)
        debt := adjust balances.debt (event.debtAsset.getD event.reserve).toLowerCase
          (· - event.debtToCover.getD 0) }
  | .ReserveDataUpdated => balances

/-- No debt in any asset. -/
def DebtFree (balances : Balances) : Prop := ∀ asset, balances.debt asset = 0

open Classical in
/-- An event on the balances of a possibly unknown account. -/
noncomputable def accountStep (allowed : Address → Bool) (known : Option Balances)
    (event : ParsedAavePoolEvent) : Option Balances :=
  if known = none ∧ allowed event.reserve = false then none
  else
    let next := (known.getD zero).step event
    if event.name = .LiquidationCall ∧ next.DebtFree then none else some next

/-- The event changes nothing where it lands: it adds nothing and takes nothing,
and a liquidation leaves some debt. An unknown account stays unknown outside the
allowlist and under a liquidation. -/
def Inert (allowed : Address → Bool) (known : Option Balances) (event : ParsedAavePoolEvent) :
    Prop :=
  match known with
  | none => allowed event.reserve = false ∨ event.name = .LiquidationCall
  | some balances =>
      match event.name with
      | .Supply => event.amount.getD 0 = 0
      | .Withdraw =>
          event.amount.getD 0 = 0 ∨ balances.collateral event.reserve.toLowerCase = 0
      | .Borrow => event.amount.getD 0 = 0
      | .Repay => event.amount.getD 0 = 0 ∨ balances.debt event.reserve.toLowerCase = 0
      | .LiquidationCall =>
          ¬ balances.DebtFree ∧
            (event.debtToCover.getD 0 = 0 ∨
              balances.debt (event.debtAsset.getD event.reserve).toLowerCase = 0) ∧
            (event.liquidatedCollateralAmount.getD 0 = 0 ∨
              balances.collateral (event.collateralAsset.getD event.reserve).toLowerCase = 0)
      | .ReserveDataUpdated => True

/-- An event's step keeps the balances exactly when its amounts are inert. -/
theorem step_eq_self_iff (balances : Balances) (event : ParsedAavePoolEvent) :
    balances.step event = balances ↔
      match event.name with
      | .Supply => event.amount.getD 0 = 0
      | .Withdraw => event.amount.getD 0 = 0 ∨ balances.collateral event.reserve.toLowerCase = 0
      | .Borrow => event.amount.getD 0 = 0
      | .Repay => event.amount.getD 0 = 0 ∨ balances.debt event.reserve.toLowerCase = 0
      | .LiquidationCall =>
          (event.debtToCover.getD 0 = 0 ∨
              balances.debt (event.debtAsset.getD event.reserve).toLowerCase = 0) ∧
            (event.liquidatedCollateralAmount.getD 0 = 0 ∨
              balances.collateral (event.collateralAsset.getD event.reserve).toLowerCase = 0)
      | .ReserveDataUpdated => True := by
  rw [Balances.ext_iff]
  unfold step
  cases event.name with
  | Supply => exact (and_iff_left rfl).trans (adjust_add_eq_iff _ _ _)
  | Withdraw => exact (and_iff_left rfl).trans (adjust_sub_eq_iff _ _ _)
  | Borrow => exact (and_iff_right rfl).trans (adjust_add_eq_iff _ _ _)
  | Repay => exact (and_iff_right rfl).trans (adjust_sub_eq_iff _ _ _)
  | LiquidationCall =>
    dsimp only
    rw [adjust_sub_eq_iff, adjust_sub_eq_iff]
    exact and_comm
  | ReserveDataUpdated => simp

/-- Debt is never created where there is none by a liquidation. -/
theorem debtFree_step_liquidation {balances : Balances} {event : ParsedAavePoolEvent}
    (liquidated : event.name = .LiquidationCall) (debtFree : balances.DebtFree) :
    (balances.step event).DebtFree := by
  intro asset
  simp only [step, liquidated, adjust, debtFree asset]
  split <;> simp

/-- The account's balances stay exactly when the event is inert. -/
theorem accountStep_eq_self_iff (allowed : Address → Bool) (known : Option Balances)
    (event : ParsedAavePoolEvent) :
    accountStep allowed known event = known ↔ Inert allowed known event := by
  cases known with
  | none =>
    unfold accountStep Inert
    by_cases outside : allowed event.reserve = false
    · simp [outside]
    · by_cases liquidated : event.name = .LiquidationCall
      · have free : (zero.step event).DebtFree :=
          debtFree_step_liquidation liquidated (fun _ => rfl)
        simp [outside, liquidated, free]
      · simp [outside, liquidated]
  | some balances =>
    have inert := step_eq_self_iff balances event
    by_cases liquidated : event.name = .LiquidationCall
    · by_cases free : (balances.step event).DebtFree
      · -- The position is dropped; an inert liquidation would have left some debt.
        have dropped : accountStep allowed (some balances) event = none := by
          simp [accountStep, liquidated, free]
        rw [dropped]
        constructor
        · intro same
          cases same
        · intro unchanged
          simp only [Inert, liquidated] at unchanged
          simp only [liquidated] at inert
          have same := inert.mpr unchanged.2
          rw [same] at free
          exact absurd free unchanged.1
      · have kept : accountStep allowed (some balances) event = some (balances.step event) := by
          simp [accountStep, free]
        rw [kept, Option.some.injEq, inert]
        simp only [Inert, liquidated]
        constructor
        · intro unchanged
          refine ⟨fun before => ?_, unchanged⟩
          exact free (debtFree_step_liquidation liquidated before)
        · intro unchanged
          exact unchanged.2
    · have kept : accountStep allowed (some balances) event = some (balances.step event) := by
        simp [accountStep, liquidated]
      rw [kept, Option.some.injEq, inert]
      unfold Inert
      cases named : event.name with
      | LiquidationCall => exact absurd named liquidated
      | Supply => exact Iff.rfl
      | Withdraw => exact Iff.rfl
      | Borrow => exact Iff.rfl
      | Repay => exact Iff.rfl
      | ReserveDataUpdated => exact Iff.rfl

end Balances

namespace LocalPositionModel

/-! ## The model's balances -/

/-- The amounts of a position. -/
def balancesOf (position : UserPosition) : Balances :=
  ⟨(collateralSide position).amount, (debtSide position).amount⟩

/-- The amounts stored for an account; none for an unknown one. -/
def accountBalances (model : LocalPositionModel) (key : Address) : Option Balances :=
  (model.positions.get? key).map balancesOf

theorem accountBalances_eq_ledger (model : LocalPositionModel) (key : Address) :
    model.accountBalances key = (model.ledgerOf key).map balancesOf := by
  rw [accountBalances, ledgerOf, Option.map_map]
  rfl

theorem amount_add_eq_adjust (side : AmountsAtIndex) (key : Address) (raised index : Nat) :
    (side.add key raised index).amount = Balances.adjust side.amount key (· + raised) := by
  funext tested
  by_cases here : tested = key
  · rw [here, side.amount_add, Balances.adjust, if_pos rfl]
  · rw [side.amount_add_other here, Balances.adjust, if_neg here]

theorem amount_sub_eq_adjust (side : AmountsAtIndex) (key : Address) (lowered : Nat) :
    (side.sub key lowered).amount = Balances.adjust side.amount key (· - lowered) := by
  funext tested
  by_cases here : tested = key
  · rw [here, side.amount_sub, Balances.adjust, if_pos rfl]
  · rw [side.amount_sub_other here, Balances.adjust, if_neg here]

/-- An optional amount applied to a position steps the balances by that amount,
where an absent amount counts as zero. -/
theorem balancesOf_withAmount (amount : Option Nat) (change : Nat → UserPosition)
    (position : UserPosition) (stepped : Nat → Balances)
    (given : ∀ amount, balancesOf (change amount) = stepped amount)
    (nothing : stepped 0 = balancesOf position) :
    balancesOf (withAmount amount change position) = stepped (amount.getD 0) := by
  cases amount with
  | none => exact nothing.symm
  | some amount => exact given amount

/-- The model's balance change is the step of the balances. -/
theorem balancesOf_applyBalances (reserves : InsertionMap Address ReserveConfig)
    (position : UserPosition) (event : ParsedAavePoolEvent) :
    balancesOf (applyBalances reserves position event) = (balancesOf position).step event := by
  have unraised : ∀ (amounts : Address → Nat) (asset : Address),
      Balances.adjust amounts asset (· + 0) = amounts := fun amounts asset =>
    (Balances.adjust_add_eq_iff amounts asset 0).mpr rfl
  have unlowered : ∀ (amounts : Address → Nat) (asset : Address),
      Balances.adjust amounts asset (· - 0) = amounts := fun amounts asset =>
    (Balances.adjust_sub_eq_iff amounts asset 0).mpr (Or.inl rfl)
  -- Lowering debt and lowering collateral, as events and inside a liquidation.
  have repaid : ∀ (position : UserPosition) (asset : Address) (amount : Option Nat),
      balancesOf (withAmount amount (subDebt position asset) position) =
        ⟨(balancesOf position).collateral,
          Balances.adjust (balancesOf position).debt asset.toLowerCase (· - amount.getD 0)⟩ := by
    intro position asset amount
    apply balancesOf_withAmount amount _ position (fun lowered =>
      ⟨(balancesOf position).collateral,
        Balances.adjust (balancesOf position).debt asset.toLowerCase (· - lowered)⟩)
    · intro lowered
      exact congrArg (Balances.mk _) (amount_sub_eq_adjust _ _ lowered)
    · exact congrArg (Balances.mk _) (unlowered _ _)
  have taken : ∀ (position : UserPosition) (asset : Address) (amount : Option Nat),
      balancesOf (withAmount amount (subCollateral position asset) position) =
        ⟨Balances.adjust (balancesOf position).collateral asset.toLowerCase (· - amount.getD 0),
          (balancesOf position).debt⟩ := by
    intro position asset amount
    apply balancesOf_withAmount amount _ position (fun lowered =>
      ⟨Balances.adjust (balancesOf position).collateral asset.toLowerCase (· - lowered),
        (balancesOf position).debt⟩)
    · intro lowered
      exact congrArg (fun amounts => Balances.mk amounts _) (amount_sub_eq_adjust _ _ lowered)
    · exact congrArg (fun amounts => Balances.mk amounts _) (unlowered _ _)
  unfold applyBalances Balances.step
  cases event.name with
  | Supply =>
    apply balancesOf_withAmount event.amount _ position (fun raised =>
      { balancesOf position with
        collateral := Balances.adjust (balancesOf position).collateral event.reserve.toLowerCase
          (· + raised) })
    · intro raised
      exact congrArg (fun amounts => Balances.mk amounts _) (amount_add_eq_adjust _ _ raised _)
    · exact congrArg (fun amounts => Balances.mk amounts _) (unraised _ _)
  | Withdraw => exact taken position event.reserve event.amount
  | Borrow =>
    apply balancesOf_withAmount event.amount _ position (fun raised =>
      { balancesOf position with
        debt := Balances.adjust (balancesOf position).debt event.reserve.toLowerCase
          (· + raised) })
    · intro raised
      exact congrArg (Balances.mk _) (amount_add_eq_adjust _ _ raised _)
    · exact congrArg (Balances.mk _) (unraised _ _)
  | Repay => exact repaid position event.reserve event.amount
  | LiquidationCall =>
    dsimp only [applyLiquidation]
    rw [taken, repaid]
  | ReserveDataUpdated => rfl

/-- The liquidation test looks at the amounts only. -/
theorem debtFree_iff (position : UserPosition) :
    debtFree position = true ↔ (balancesOf position).DebtFree := by
  unfold debtFree
  rw [List.all_eq_true]
  constructor
  · intro none asset
    show ((position.debt.get? asset).getD 0) = 0
    cases found : position.debt.get? asset with
    | none => rfl
    | some amount =>
      have zero := none amount ((InsertionMap.mem_values_iff _ _).mpr ⟨asset, found⟩)
      exact of_decide_eq_true zero
  · intro free amount member
    obtain ⟨asset, found⟩ := (InsertionMap.mem_values_iff _ _).mp member
    have zero : ((position.debt.get? asset).getD 0) = 0 := free asset
    rw [found] at zero
    exact decide_eq_true zero

/-- An account's event, on the account's balances. -/
theorem accountBalances_applyAaveEvent (config : LocalPositionModelConfig)
    (model : LocalPositionModel) (event : ParsedAavePoolEvent) (user : Address) (nowSec : Int)
    (balances : event.name ≠ .ReserveDataUpdated)
    (resolved : resolveUserAddress event = some user)
    (room : RoomFor config model user.toLowerCase) :
    let after := (applyAaveEvent config model event nowSec).1
    after.accountBalances user.toLowerCase =
        Balances.accountStep (isReserveInAllowlist config)
          (model.accountBalances user.toLowerCase) event ∧
      RoomFor config after user.toLowerCase := by
  intro after
  obtain ⟨ledger, stillRoom, _⟩ :=
    applyAaveEvent_account config model event user nowSec balances resolved room
  refine ⟨?_, stillRoom⟩
  rw [accountBalances_eq_ledger, ledger]
  have unknown : model.positions.has user.toLowerCase = false ↔
      model.accountBalances user.toLowerCase = none := by
    rw [Positions.has_eq_isSome, accountBalances]
    cases model.positions.get? user.toLowerCase <;> simp
  unfold accountStep Balances.accountStep
  by_cases ignored : (!model.positions.has user.toLowerCase &&
      !isReserveInAllowlist config event.reserve) = true
  · obtain ⟨absent, outside⟩ := Bool.and_eq_true_iff.mp ignored
    rw [Bool.not_eq_true'] at absent outside
    rw [if_pos ignored, if_pos ⟨unknown.mp absent, outside⟩]
    rfl
  · have counted : ¬ (model.accountBalances user.toLowerCase = none ∧
        isReserveInAllowlist config event.reserve = false) := by
      rintro ⟨none, outside⟩
      apply ignored
      simp [unknown.mpr none, outside]
    rw [if_neg ignored, if_neg counted]
    dsimp only
    generalize registeredIs : model.registerReserve event.reserve BASE_LT_BPS = registered
    have before : balancesOf { registered.getOrCreate user event.origin.blockNumber with
          lastActivityBlock := event.origin.blockNumber } =
        (model.accountBalances user.toLowerCase).getD Balances.zero := by
      rw [getOrCreate, ← registeredIs, positions_registerReserve, accountBalances]
      cases model.positions.get? user.toLowerCase <;> rfl
    have changed := balancesOf_applyBalances registered.reserveConfig
      { registered.getOrCreate user event.origin.blockNumber with
        lastActivityBlock := event.origin.blockNumber } event
    rw [before] at changed
    revert changed
    generalize applyBalances registered.reserveConfig
      { registered.getOrCreate user event.origin.blockNumber with
        lastActivityBlock := event.origin.blockNumber } event = position
    intro changed
    have free := debtFree_iff position
    rw [changed] at free
    by_cases dropped : (decide (event.name = .LiquidationCall) && debtFree position) = true
    · obtain ⟨liquidated, none⟩ := Bool.and_eq_true_iff.mp dropped
      rw [if_pos dropped, if_pos ⟨of_decide_eq_true liquidated, free.mp none⟩]
      rfl
    · have kept : ¬ (event.name = .LiquidationCall ∧
          (((model.accountBalances user.toLowerCase).getD Balances.zero).step event).DebtFree) := by
        rintro ⟨liquidated, none⟩
        apply dropped
        rw [Bool.and_eq_true_iff]
        exact ⟨decide_eq_true liquidated, free.mpr none⟩
      rw [if_neg dropped, if_neg kept, Option.map_some, ← changed]
      rfl

/-! ## Runs after a snapshot -/

/-- A balance event of the account. -/
def EventOf (account : Address) (event : ParsedAavePoolEvent) : Prop :=
  event.name ≠ .ReserveDataUpdated ∧
    ∃ user, resolveUserAddress event = some user ∧ user.toLowerCase = account

/-- A run of an account's events, on the account's balances. -/
theorem accountBalances_applyAll (config : LocalPositionModelConfig) (model : LocalPositionModel)
    (account : Address) (room : RoomFor config model account)
    (run : List (ParsedAavePoolEvent × Int)) (own : ∀ event ∈ run, EventOf account event.1) :
    (applyAll config model run).accountBalances account =
        run.foldl (fun known event =>
          Balances.accountStep (isReserveInAllowlist config) known event.1)
          (model.accountBalances account) ∧
      RoomFor config (applyAll config model run) account := by
  induction run using List.reverseRecOn with
  | nil => exact ⟨rfl, room⟩
  | append_singleton run event inductionHypothesis =>
    have earlier : ∀ tested ∈ run, EventOf account tested.1 := fun tested member =>
      own tested (List.mem_append_left [event] member)
    obtain ⟨stepped, roomHere⟩ := inductionHypothesis earlier
    obtain ⟨balances, user, resolved, rfl⟩ := own event (by simp)
    obtain ⟨last, roomNext⟩ := accountBalances_applyAaveEvent config _ event.1 user event.2
      balances resolved roomHere
    rw [applyAll_snoc, List.foldl_append]
    refine ⟨?_, roomNext⟩
    rw [last, stepped]
    rfl

/-- The event is newer than a block. -/
def newerThan (blockNumber : Nat) (event : ParsedAavePoolEvent × Int) : Bool :=
  decide (blockNumber < event.1.origin.blockNumber)

/-- Seeding ends with an eviction, so a seeded account has room. -/
theorem roomFor_seeded (config : LocalPositionModelConfig) (model : LocalPositionModel)
    (input : AccountSnapshot) (account : Address)
    (stored : (seedFromOnChainSnapshot config model input).positions.has account = true) :
    RoomFor config (seedFromOnChainSnapshot config model input) account := by
  rw [RoomFor, stored, if_pos rfl, Nat.add_zero]
  exact enforceHardCap_fits config _ input.blockNumber

/-- The block from which start-up replays when there is no checkpoint. -/
def bootstrapFromBlock (head bootstrapLookbackDays : Nat) : Nat :=
  let lookbackBlocks := bootstrapLookbackDays * 43200
  if head > lookbackBlocks then head - lookbackBlocks else 0

/-- A borrower with one thousand units of USDC collateral, read at block
700,000. -/
def snapshotAtHead : AccountSnapshot where
  account := ⟨1, 0⟩
  blockNumber := 700000
  eModeCategoryId := 0
  healthFactorWad := 2 * WAD
  totalCollateralBase := 1000
  totalDebtBase := 400
  liquidationThreshold := 8000
  reserves := [⟨BASE_USDC, 1000, 400⟩]

/-- The deposit that the snapshot already contains. -/
def earlierDeposit : ParsedAavePoolEvent where
  name := .Supply
  origin := ⟨650000, none, some 1, 0, .gapFill⟩
  reserve := BASE_USDC
  collateralAsset := none
  debtAsset := none
  user := none
  onBehalfOf := some ⟨1, 0⟩
  amount := some 1000
  debtToCover := none
  liquidatedCollateralAmount := none
  liquidityIndex := none
  variableBorrowIndex := none

end LocalPositionModel

end LiquidationBot
