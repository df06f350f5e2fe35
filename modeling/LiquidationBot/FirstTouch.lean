import LiquidationBot.CacheBounds
import LiquidationBot.SnapshotReplay

/-!
# First touches and liquidations

An event of an account that has not been read on chain asks for a reading, whatever
the five kinds do to its balances. A liquidation may remove the account before that:
it does where the recorded debts are gone, and an account that was never read has
none recorded. For an account that was read, the recorded debts stand at the indices
of their last update, and the covered amount at the index of the event.
-/

namespace LiquidationBot.LocalPositionModel

/-- The debt that is recorded for an account, none for an unknown one. -/
def debtOnRecord (model : LocalPositionModel) (account asset : Address) : Nat :=
  ((model.accountBalances account.toLowerCase).getD .zero).debt asset

/-- The recorded debt at the reserve's current index. -/
def accruedDebt (model : LocalPositionModel) (account asset : Address) : Nat :=
  match model.positions.get? account.toLowerCase, model.reserveConfig.get? asset with
  | some position, some reserve =>
    scaleDebtAmount position asset (model.debtOnRecord account asset) reserve
  | _, _ => model.debtOnRecord account asset

/-- What a liquidation repays of the debt in an asset. -/
def coveredDebt (event : ParsedAavePoolEvent) (asset : Address) : Nat :=
  if asset = (event.debtAsset.getD event.reserve).toLowerCase then event.debtToCover.getD 0 else 0

/-- The event itself removes the account; evictions are counted. -/
def RemovesAccount (config : LocalPositionModelConfig) (model : LocalPositionModel)
    (event : ParsedAavePoolEvent) (account : Address) (nowSec : Int) : Prop :=
  (applyAaveEvent config model event nowSec).1.positions.has account.toLowerCase = false ∧
    (applyAaveEvent config model event nowSec).1.evictionTotal = model.evictionTotal

/-- A first touch on an allowlisted reserve asks for a reading, and a liquidation removes
an account that was read only if it leaves no debt at the current indices. -/
structure TouchesReconciled (config : LocalPositionModelConfig) (model : LocalPositionModel)
    (event : ParsedAavePoolEvent) (account : Address) (nowSec : Int) : Prop where
  firstTouch : model.isFullySeeded account = false →
    isReserveInAllowlist config event.reserve = true →
    (applyAaveEvent config model event nowSec).2.firstTouchReconcile = some account
  removal : model.isFullySeeded account = true → event.name = .LiquidationCall →
    RemovesAccount config model event account nowSec →
    ∀ asset, model.accruedDebt account asset ≤ coveredDebt event asset

/-- A liquidation covers the debts recorded for an account only where they are those that
it owes: the account was read, and no debt has outgrown the covered amount since. -/
def CoversRecordedOnly (config : LocalPositionModelConfig) (model : LocalPositionModel)
    (event : ParsedAavePoolEvent) (account : Address) : Prop :=
  event.name = .LiquidationCall ∧
    (∀ asset, model.debtOnRecord account asset ≤ coveredDebt event asset) ∧
    (model.isFullySeeded account = false ∧ isReserveInAllowlist config event.reserve = true ∨
      model.isFullySeeded account = true ∧
        ∃ asset, coveredDebt event asset < model.accruedDebt account asset)

section

variable {config : LocalPositionModelConfig} {model : LocalPositionModel}
  {event : ParsedAavePoolEvent} {account : Address} {nowSec : Int}

/-- The balances with which an event's position starts. -/
theorem balancesOf_storedByEvent (model : LocalPositionModel) (event : ParsedAavePoolEvent)
    (account : Address) :
    balancesOf (storedByEvent model event account).2 =
      ((model.accountBalances account.toLowerCase).getD .zero).step event := by
  unfold storedByEvent
  dsimp only
  rw [balancesOf_applyBalances]
  congr 1
  rw [getOrCreate, positions_registerReserve, accountBalances]
  cases model.positions.get? account.toLowerCase with
  | none => rfl
  | some position => rfl

/-- After a liquidation no debt is recorded exactly when it covers every recorded debt. -/
theorem debtFree_storedByEvent_iff (liquidation : event.name = .LiquidationCall) :
    debtFree (storedByEvent model event account).2 = true ↔
      ∀ asset, model.debtOnRecord account asset ≤ coveredDebt event asset := by
  rw [debtFree_iff, balancesOf_storedByEvent, Balances.DebtFree]
  refine forall_congr' (fun asset => ?_)
  rw [debtOnRecord, coveredDebt, Balances.step, liquidation]
  dsimp only [Balances.adjust]
  by_cases own : asset = (event.debtAsset.getD event.reserve).toLowerCase
  · rw [if_pos own, if_pos own]
    omega
  · rw [if_neg own, if_neg own]
    omega

theorem isFullySeeded_storedByEvent (model : LocalPositionModel) (event : ParsedAavePoolEvent)
    (account : Address) :
    (storedByEvent model event account).2.isFullySeeded = model.isFullySeeded account := by
  unfold storedByEvent
  dsimp only
  rw [isFullySeeded_applyBalances, getOrCreate, positions_registerReserve, isFullySeeded]
  cases model.positions.get? account.toLowerCase with
  | none => rfl
  | some position => rfl

theorem account_storedByEvent (model : LocalPositionModel) (event : ParsedAavePoolEvent)
    (account : Address) :
    (storedByEvent model event account).2.account.toLowerCase = account.toLowerCase := by
  obtain ⟨collateral, debt, shape⟩ :=
    applyBalances_eq (model.registerReserve event.reserve BASE_LT_BPS).reserveConfig
      { (model.registerReserve event.reserve BASE_LT_BPS).getOrCreate account
          event.origin.blockNumber with lastActivityBlock := event.origin.blockNumber } event
  unfold storedByEvent
  dsimp only
  rw [shape]
  exact getOrCreate_account _ account event.origin.blockNumber

/-- An event on an account that the model takes. -/
theorem applyAaveEvent_taken (balances : event.name ≠ .ReserveDataUpdated)
    (user : resolveUserAddress event = some account)
    (counted : model.isFullySeeded account = true ∨
      isReserveInAllowlist config event.reserve = true) :
    applyAaveEvent config model event nowSec =
      applyAccountEvent config model event account nowSec := by
  have taken : ¬ (!model.positions.has account.toLowerCase &&
      !isReserveInAllowlist config event.reserve) = true := by
    rcases counted with seeded | listed
    · have known : model.positions.has account.toLowerCase = true := by
        rw [Positions.has_eq_isSome]
        rw [isFullySeeded] at seeded
        cases found : model.positions.get? account.toLowerCase with
        | none => simp [found] at seeded
        | some position => rfl
      simp [known]
    · simp [listed]
  rw [applyAaveEvent, if_neg balances, user]
  exact if_neg taken

/-- The reading that an event of an account asks for. -/
theorem firstTouchReconcile_applyAccountEvent (unseeded : model.isFullySeeded account = false) :
    (applyAccountEvent config model event account nowSec).2.firstTouchReconcile =
      if decide (event.name = .LiquidationCall) && debtFree (storedByEvent model event account).2
      then none else some account := by
  have flag := isFullySeeded_storedByEvent model event account
  rw [unseeded] at flag
  unfold applyAccountEvent
  unfold storedByEvent at flag ⊢
  dsimp only at flag ⊢
  split
  · rfl
  · rw [flag]
    rfl

theorem has_enforceHardCap_of_uncounted {start : LocalPositionModel} {blockNumber : Nat}
    (known : start.positions.has account.toLowerCase = true)
    (uncounted : (enforceHardCap config start blockNumber).evictionTotal = start.evictionTotal) :
    (enforceHardCap config start blockNumber).positions.has account.toLowerCase = true := by
  rw [Positions.has_eq_isSome, (enforceHardCap_evicts config start blockNumber).get?_eq uncounted,
    ← Positions.has_eq_isSome]
  exact known

/-- A liquidation of an account that was read removes it exactly where it covers the
recorded debts. -/
theorem removesAccount_iff (balances : event.name ≠ .ReserveDataUpdated)
    (user : resolveUserAddress event = some account) (seeded : model.isFullySeeded account = true)
    (liquidation : event.name = .LiquidationCall) :
    RemovesAccount config model event account nowSec ↔
      ∀ asset, model.debtOnRecord account asset ≤ coveredDebt event asset := by
  rw [← debtFree_storedByEvent_iff liquidation, RemovesAccount,
    applyAaveEvent_taken balances user (Or.inl seeded)]
  have accountKey := account_storedByEvent model event account
  have counts := applyAccountEvent_counts config model event account nowSec
  have outcome := applyAccountEvent_eq config model event account nowSec
  cases free : debtFree (storedByEvent model event account).2 with
  | true =>
    have removed : accountEvictionStart config model event account nowSec = none := by
      simp [accountEvictionStart, liquidation, free]
    refine iff_of_true ⟨?_, ?_⟩ rfl
    · rw [outcome, removed]
      change ((storedByEvent model event account).1.positions.delete _).has _ = false
      rw [Positions.has_eq_isSome, Positions.get?_delete, if_pos accountKey.symm]
      rfl
    · rw [outcome, removed]
      exact evictionTotal_storedByEvent model event account
  | false =>
    refine iff_of_false ?_ (by simp)
    rintro ⟨absent, uncounted⟩
    have known : (storedByEvent model event account).1.positions.has account.toLowerCase = true := by
      change (Positions.put _ (storedByEvent model event account).2).has _ = true
      rw [Positions.has_eq_isSome, Positions.get?_put, if_pos accountKey.symm]
      rfl
    obtain ⟨start, entered, same⟩ : ∃ start,
        accountEvictionStart config model event account nowSec = some start ∧
          SameLedger (storedByEvent model event account).1 start := by
      unfold accountEvictionStart
      dsimp only
      rw [free, Bool.and_false, if_neg Bool.false_ne_true]
      split
      · exact ⟨_, rfl, SameLedger.refl _⟩
      · exact ⟨_, rfl, sameLedger_applyHfResult config _ _ _ nowSec⟩
    rcases counts with ⟨removed, _⟩ | ⟨other, again, total, evicted⟩
    · rw [entered] at removed
      cases removed
    · rw [entered] at again
      cases again
      rw [evicted] at absent uncounted
      have stillKnown : start.positions.has account.toLowerCase = true :=
        (same.has account.toLowerCase).trans known
      have kept := has_enforceHardCap_of_uncounted stillKnown (uncounted.trans total.symm)
      rw [kept] at absent
      cases absent

/-- A first touch asks for a reading exactly where it is not a liquidation that covers the
recorded debts. -/
theorem firstTouchReconcile_iff (balances : event.name ≠ .ReserveDataUpdated)
    (user : resolveUserAddress event = some account) (unseeded : model.isFullySeeded account = false)
    (listed : isReserveInAllowlist config event.reserve = true) :
    (applyAaveEvent config model event nowSec).2.firstTouchReconcile = some account ↔
      ¬ (event.name = .LiquidationCall ∧
        ∀ asset, model.debtOnRecord account asset ≤ coveredDebt event asset) := by
  rw [applyAaveEvent_taken balances user (Or.inr listed),
    firstTouchReconcile_applyAccountEvent unseeded]
  by_cases liquidation : event.name = .LiquidationCall
  · rw [← debtFree_storedByEvent_iff liquidation]
    cases free : debtFree (storedByEvent model event account).2 with
    | true => simp [liquidation]
    | false => simp
  · simp [liquidation]

/-- Every balance event of an account is reconciled as promised exactly when it is not a
liquidation that covers the recorded debts and they are not those that the account
owes. -/
theorem touchesReconciled_iff (config : LocalPositionModelConfig) (model : LocalPositionModel)
    (event : ParsedAavePoolEvent) (account : Address) (nowSec : Int)
    (balances : event.name ≠ .ReserveDataUpdated)
    (user : resolveUserAddress event = some account) :
    TouchesReconciled config model event account nowSec ↔
      ¬ CoversRecordedOnly config model event account := by
  constructor
  · rintro reconciled ⟨liquidation, covered, ⟨unseeded, listed⟩ | ⟨seeded, asset, owed⟩⟩
    · have asked := reconciled.firstTouch unseeded listed
      exact (firstTouchReconcile_iff balances user unseeded listed).mp asked ⟨liquidation, covered⟩
    · have removed : RemovesAccount config model event account nowSec :=
        (removesAccount_iff balances user seeded liquidation).mpr covered
      exact absurd (reconciled.removal seeded liquidation removed asset) (not_le.mpr owed)
  · intro other
    constructor
    · intro unseeded listed
      refine (firstTouchReconcile_iff balances user unseeded listed).mpr ?_
      rintro ⟨liquidation, covered⟩
      exact other ⟨liquidation, covered, Or.inl ⟨unseeded, listed⟩⟩
    · intro seeded liquidation removed asset
      have covered := (removesAccount_iff balances user seeded liquidation).mp removed
      by_contra owed
      exact other ⟨liquidation, covered, Or.inr ⟨seeded, asset, not_le.mp owed⟩⟩

end

/-- The equivalence at the first deposit of an account. -/
theorem touchesReconciled_iff_deposit :
    TouchesReconciled defaultConfig initial earlierDeposit ⟨1, 0⟩ 0 ↔
      ¬ CoversRecordedOnly defaultConfig initial earlierDeposit ⟨1, 0⟩ :=
  touchesReconciled_iff defaultConfig initial earlierDeposit ⟨1, 0⟩ 0 (by decide) rfl

/-- A liquidation that covers four hundred units of the account's debt. -/
def liquidationCall : ParsedAavePoolEvent :=
  { earlierDeposit with
    name := .LiquidationCall
    origin := ⟨700002, none, some 1, 0, .gapFill⟩
    user := some ⟨1, 0⟩
    onBehalfOf := none
    debtToCover := some 400
    liquidatedCollateralAmount := some 420 }

/-- The borrow index of the reserve has doubled since it was registered. -/
def doubledIndex : ParsedAavePoolEvent :=
  { earlierDeposit with
    name := .ReserveDataUpdated
    origin := ⟨700001, none, some 1, 0, .gapFill⟩
    onBehalfOf := none
    amount := none
    variableBorrowIndex := some (2 * WAD) }

/-- The account read at the head, at the doubled index. -/
def afterDoubling : LocalPositionModel :=
  (applyAaveEvent defaultConfig (seedFromOnChainSnapshot defaultConfig initial snapshotAtHead)
    doubledIndex 0).1

/-- The first event of an account is a liquidation, and nothing asks for a reading; and a
liquidation covers half of what an account owes, and removes it. -/
theorem liquidation_not_reconciled :
    (applyAaveEvent defaultConfig initial liquidationCall 0).2.firstTouchReconcile = none ∧
      ¬ TouchesReconciled defaultConfig initial liquidationCall ⟨1, 0⟩ 0 ∧
      afterDoubling.accruedDebt ⟨1, 0⟩ BASE_USDC.toLowerCase = 800 ∧
      ¬ TouchesReconciled defaultConfig afterDoubling liquidationCall ⟨1, 0⟩ 0 := by
  have silent : (applyAaveEvent defaultConfig initial liquidationCall 0).2.firstTouchReconcile =
      none := by decide +kernel
  refine ⟨silent, fun reconciled => ?_, by decide +kernel, fun reconciled => ?_⟩
  · have asked := reconciled.firstTouch (by decide) (by decide)
    rw [silent] at asked
    cases asked
  · have removed : RemovesAccount defaultConfig afterDoubling liquidationCall ⟨1, 0⟩ 0 := by
      refine ⟨by decide +kernel, by decide +kernel⟩
    have settled := reconciled.removal (by decide +kernel) rfl removed BASE_USDC.toLowerCase
    exact absurd settled (by decide +kernel)

end LiquidationBot.LocalPositionModel
