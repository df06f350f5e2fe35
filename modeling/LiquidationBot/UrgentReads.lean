import LiquidationBot.AccountEvents
import LiquidationBot.EventPurityStack
import LiquidationBot.Library.Prefixes

/-!
# Which positions at risk are read

The urgent set is empty between segments, since every segment that fills it also
flushes it. A flush therefore reads exactly the accounts that its own batch of
changes routes to the urgent tier. The routing has no branch for a liquidatable
account that is not new, so such an account is read only if another change of
its batch routes it.
-/

namespace LiquidationBot.EventPurityStack

open LocalPositionModel

/-! ## One batch -/

/-- The change is routed to the urgent tier. -/
def routedUrgent (change : TierChange) : Bool :=
  change.isNew && decide (change.tier ≠ .healthy) || decide (change.tier = .urgent)

theorem route_of_routedUrgent (queue : TieredConfirmQueue) (change : TierChange)
    (routed : routedUrgent change = true) :
    route queue change = queue.enqueueUrgent change.account := by
  rw [routedUrgent, Bool.or_eq_true, decide_eq_true_eq] at routed
  unfold route
  rcases routed with fresh | urgent
  · rw [if_pos fresh]
  · rw [if_pos urgent, ite_self]

theorem urgent_of_not_routedUrgent (queue : TieredConfirmQueue) (change : TierChange)
    (skipped : routedUrgent change = false) : (route queue change).urgent = queue.urgent := by
  rw [routedUrgent, Bool.or_eq_false_iff, decide_eq_false_iff_not] at skipped
  unfold route
  rw [skipped.1, if_neg Bool.false_ne_true, if_neg skipped.2]
  split
  · exact TieredConfirmQueue.urgent_enqueueWatch queue change.account
  · rfl

theorem urgent_route (queue : TieredConfirmQueue) (change : TierChange) (account : Address) :
    (route queue change).Urgent account ↔ queue.Urgent account ∨
      routedUrgent change = true ∧ change.account.toLowerCase = account.toLowerCase := by
  cases routed : routedUrgent change with
  | true =>
    rw [route_of_routedUrgent queue change routed, TieredConfirmQueue.urgent_enqueueUrgent]
    simp
  | false =>
    rw [TieredConfirmQueue.Urgent, urgent_of_not_routedUrgent queue change routed,
      TieredConfirmQueue.Urgent]
    simp

theorem urgent_handleTierChange (config : LocalPositionModelConfig) (nowSec : Int)
    (stack : EventPurityStack) (change : TierChange) (account : Address) :
    (handleTierChange config nowSec stack change).confirmQueue.Urgent account ↔
      stack.confirmQueue.Urgent account ∨ eligible change = true ∧ routedUrgent change = true ∧
        change.account.toLowerCase = account.toLowerCase := by
  unfold handleTierChange
  by_cases counts : eligible change = true
  · simp [counts, urgent_route]
  · simp [counts]

/-- Induct on the batch: each change adds its own account or nothing. -/
theorem urgent_batch (config : LocalPositionModelConfig) (nowSec : Int)
    (changes : List TierChange) (stack : EventPurityStack) (account : Address) :
    (changes.foldl (handleTierChange config nowSec) stack).confirmQueue.Urgent account ↔
      stack.confirmQueue.Urgent account ∨ ∃ change ∈ changes, eligible change = true ∧
        routedUrgent change = true ∧ change.account.toLowerCase = account.toLowerCase := by
  induction changes generalizing stack with
  | nil => simp
  | cons change rest inductionHypothesis =>
    rw [List.foldl_cons, inductionHypothesis, urgent_handleTierChange, or_assoc]
    simp only [List.mem_cons, exists_eq_or_imp]

/-- No account waits in the urgent tier. -/
def Idle (stack : EventPurityStack) : Prop := stack.confirmQueue.urgent = .empty

theorem Idle.not_urgent {stack : EventPurityStack} (idle : Idle stack) (account : Address) :
    ¬ stack.confirmQueue.Urgent account := by
  rw [TieredConfirmQueue.Urgent, idle]
  simp [InsertionMap.has]

theorem idle_handleTierChanges (config : LocalPositionModelConfig) (stack : EventPurityStack)
    (changes : List TierChange) (nowSec : Int) (idle : Idle stack) :
    Idle (handleTierChanges config stack changes nowSec).1 := by
  unfold handleTierChanges
  split
  · exact idle
  · exact TieredConfirmQueue.urgent_flushUrgent _

/-- From an empty urgent tier, a flush reads what its batch routes there. -/
theorem mem_handleTierChanges (config : LocalPositionModelConfig) (stack : EventPurityStack)
    (changes : List TierChange) (nowSec : Int) (idle : Idle stack)
    (bootstrapped : stack.model.pricesBootstrapped = true) (account : Address) :
    account.toLowerCase ∈ (handleTierChanges config stack changes nowSec).2 ↔
      ∃ change ∈ changes, eligible change = true ∧ routedUrgent change = true ∧
        change.account.toLowerCase = account.toLowerCase := by
  rw [handleTierChanges, if_neg (by simp [bootstrapped]), TieredConfirmQueue.mem_flushUrgent,
    urgent_batch]
  constructor
  · rintro (waits | routed)
    · exact absurd waits (idle.not_urgent account)
    · exact routed
  · exact Or.inr

/-- A change whose account has to be read. -/
def atRisk (change : TierChange) : Bool :=
  decide (change.tier = .liquidatable) || decide (change.tier = .urgent)

/-- Every account at risk in the batch is among the accounts read. -/
def AllRead (changes : List TierChange) (read : List Address) : Prop :=
  ∀ change ∈ changes, eligible change = true → atRisk change = true →
    change.account.toLowerCase ∈ read

/-- Every liquidatable account that is not new is routed by another change of
its batch: a new one, or one in the urgent tier. -/
def Covered (changes : List TierChange) : Prop :=
  ∀ change ∈ changes, eligible change = true → change.tier = .liquidatable →
    change.isNew = false → ∃ other ∈ changes, eligible other = true ∧
      (other.isNew = true ∧ other.tier ≠ .healthy ∨ other.tier = .urgent) ∧
      other.account.toLowerCase = change.account.toLowerCase

theorem routedUrgent_iff (change : TierChange) :
    routedUrgent change = true ↔ change.isNew = true ∧ change.tier ≠ .healthy ∨
      change.tier = .urgent := by
  simp [routedUrgent]

/-- The branch that is missing: at risk, and not routed. -/
theorem atRisk_not_routed_iff (change : TierChange) :
    atRisk change = true ∧ routedUrgent change = false ↔
      change.tier = .liquidatable ∧ change.isNew = false := by
  unfold atRisk routedUrgent
  cases change.isNew with
  | true => cases change.tier <;> simp
  | false => cases change.tier <;> simp

theorem allRead_iff_covered (config : LocalPositionModelConfig) (stack : EventPurityStack)
    (changes : List TierChange) (nowSec : Int) (idle : Idle stack)
    (bootstrapped : stack.model.pricesBootstrapped = true) :
    AllRead changes (handleTierChanges config stack changes nowSec).2 ↔ Covered changes := by
  unfold AllRead Covered
  simp only [mem_handleTierChanges config stack changes nowSec idle bootstrapped,
    ← routedUrgent_iff]
  constructor
  · intro read change member counts liquidatable notNew
    have risk := ((atRisk_not_routed_iff change).mpr ⟨liquidatable, notNew⟩).1
    exact read change member counts risk
  · intro covered change member counts risk
    cases routed : routedUrgent change with
    | true => exact ⟨change, member, counts, routed, rfl⟩
    | false =>
      obtain ⟨liquidatable, notNew⟩ := (atRisk_not_routed_iff change).mp ⟨risk, routed⟩
      exact covered change member counts liquidatable notNew

/-! ## Runs -/

theorem confirmQueue_produce (config : EventPurityStackConfig) (stack : EventPurityStack)
    (nowSec : Int) (segment : Segment) :
    (produce config stack nowSec segment).1.confirmQueue = stack.confirmQueue := by
  cases segment with
  | aavePool event =>
    dsimp only [produce]
    split
    · rfl
    · rfl
  | firstTouch account =>
    dsimp only [produce]
    split
    · rfl
    · rfl
  | _ => rfl

theorem idle_step (config : EventPurityStackConfig) (stack : EventPurityStack)
    (segment : Segment × Int) (idle : Idle stack) : Idle (step config stack segment).1 := by
  have kept : Idle (produce config stack segment.2 segment.1).1 := by
    rw [Idle, confirmQueue_produce]
    exact idle
  unfold step
  split
  next after produced =>
    rw [produced] at kept
    exact kept
  next after changes produced =>
    rw [produced] at kept
    exact idle_handleTierChanges config.model after changes segment.2 kept

/-- The urgent tier is empty between any two segments. -/
theorem idle_runAll (config : EventPurityStackConfig) (segments : List (Segment × Int)) :
    Idle (runAll config segments) := by
  induction segments using List.reverseRecOn with
  | nil => rfl
  | append_singleton segments segment inductionHypothesis =>
    rw [runAll_snoc]
    exact idle_step config _ segment inductionHypothesis

theorem pricesBootstrapped_evictOver (cap : ℚ) (model : LocalPositionModel)
    (victims : List UserPosition) :
    (evictOver cap model victims).pricesBootstrapped = model.pricesBootstrapped := by
  induction victims generalizing model with
  | nil => rfl
  | cons victim rest inductionHypothesis =>
    unfold evictOver
    split
    · exact inductionHypothesis _
    · rfl

theorem pricesBootstrapped_enforceHardCap (config : LocalPositionModelConfig)
    (model : LocalPositionModel) (blockNumber : Nat) :
    (enforceHardCap config model blockNumber).pricesBootstrapped = model.pricesBootstrapped := by
  unfold enforceHardCap
  split
  · rfl
  · exact pricesBootstrapped_evictOver _ model _

theorem pricesBootstrapped_registerReserve (model : LocalPositionModel) (asset : Address)
    (threshold : Nat) :
    (model.registerReserve asset threshold).pricesBootstrapped = model.pricesBootstrapped := by
  unfold registerReserve
  split
  · rfl
  · rfl

theorem pricesBootstrapped_applyAccountEvent (config : LocalPositionModelConfig)
    (model : LocalPositionModel) (event : ParsedAavePoolEvent) (account : Address)
    (nowSec : Int) :
    (applyAccountEvent config model event account nowSec).1.pricesBootstrapped =
      model.pricesBootstrapped := by
  have registered := pricesBootstrapped_registerReserve model event.reserve BASE_LT_BPS
  unfold applyAccountEvent
  dsimp only
  split
  · exact registered
  · split
    · rw [pricesBootstrapped_enforceHardCap]
      exact registered
    · rw [pricesBootstrapped_enforceHardCap, (sameLedger_applyHfResult _ _ _ _ _).bootstrapped]
      exact registered

theorem pricesBootstrapped_applyAaveEvent (config : LocalPositionModelConfig)
    (model : LocalPositionModel) (event : ParsedAavePoolEvent) (nowSec : Int) :
    (applyAaveEvent config model event nowSec).1.pricesBootstrapped =
      model.pricesBootstrapped := by
  have registered := pricesBootstrapped_registerReserve model event.reserve BASE_LT_BPS
  unfold applyAaveEvent
  split
  · unfold applyReserveIndexUpdate
    split
    · exact registered
    · exact registered
  · split
    · rfl
    · split
      · rfl
      · exact pricesBootstrapped_applyAccountEvent config model event _ nowSec

/-- A segment that comes to `handleTierChanges` finds the prices as
bootstrapped as they were when it started. -/
theorem pricesBootstrapped_produce (config : EventPurityStackConfig) (stack : EventPurityStack)
    (nowSec : Int) (segment : Segment) {changes : List TierChange}
    (passed : (produce config stack nowSec segment).2 = some changes) :
    (produce config stack nowSec segment).1.model.pricesBootstrapped =
      stack.model.pricesBootstrapped := by
  cases segment with
  | chainlinkPrice event => exact (sameLedger_applyFeedPriceUpdate _ _ _ _ _ _ _).bootstrapped
  | aavePool event =>
    have kept := pricesBootstrapped_applyAaveEvent config.model stack.model event nowSec
    dsimp only [produce]
    split
    · exact kept
    · exact kept
  | firstTouch account =>
    dsimp only [produce]
    split
    · rfl
    · rfl
  | resume index => rfl
  | _ => cases passed

/-- From an empty urgent tier a segment reads all accounts at risk exactly when
its batch is covered. -/
theorem step_allRead_iff (config : EventPurityStackConfig) (stack : EventPurityStack)
    (segment : Segment × Int) (idle : Idle stack)
    (bootstrapped : stack.model.pricesBootstrapped = true) :
    AllRead (changesOf config stack segment) (step config stack segment).2 ↔
      Covered (changesOf config stack segment) := by
  have idleHere : Idle (produce config stack segment.2 segment.1).1 := by
    rw [Idle, confirmQueue_produce]
    exact idle
  have kept := @pricesBootstrapped_produce config stack segment.2 segment.1
  unfold changesOf step
  split
  next after produced =>
    rw [produced]
    simp [AllRead, Covered]
  next after changes produced =>
    rw [produced] at idleHere kept ⊢
    exact allRead_iff_covered config.model after changes segment.2 idleHere
      ((kept rfl).trans bootstrapped)

/-- Over any run, every flush with bootstrapped prices reads all accounts at
risk in its batch if and only if every such batch covers its liquidatable
accounts that are not new. -/
theorem at_risk_read_iff (config : EventPurityStackConfig) (segments : List (Segment × Int)) :
    Prefixes.EachStep (fun past segment =>
        (runAll config past).model.pricesBootstrapped = true →
          AllRead (changesOf config (runAll config past) segment)
            (step config (runAll config past) segment).2) segments ↔
      Prefixes.EachStep (fun past segment =>
        (runAll config past).model.pricesBootstrapped = true →
          Covered (changesOf config (runAll config past) segment)) segments := by
  apply Prefixes.eachStep_congr
  intro past segment _
  exact imp_congr_right (step_allRead_iff config _ segment (idle_runAll config past))

/-- Two assets with feeds. -/
def twoFeeds : EventPurityStackConfig where
  model := defaultConfig
  enableWatchTierConfirm := true
  feeds := [(⟨2, 0⟩, some ⟨12, 0⟩), (⟨3, 0⟩, some ⟨13, 0⟩)]

/-- A first round at price one. -/
def firstRound (asset feed : Address) : Segment × Int :=
  (.registerBootstrapPrice asset WAD ⟨100000000, 8, 0, feed, asset, none⟩, 0)

/-- Prices come first, then a borrower with health factor 1.6. -/
def oneBorrower : List (Segment × Int) :=
  [firstRound ⟨2, 0⟩ ⟨12, 0⟩, firstRound ⟨3, 0⟩ ⟨13, 0⟩, (.markPricesBootstrapped, 0),
    (.seed
      { account := ⟨1, 0⟩
        blockNumber := 700000
        eModeCategoryId := 0
        healthFactorWad := 1600000000000000000
        totalCollateralBase := 1000
        totalDebtBase := 500
        liquidationThreshold := 8000
        reserves := [⟨⟨2, 0⟩, 1000, 0⟩, ⟨⟨3, 0⟩, 0, 500⟩] }, 0)]

/-- The collateral's price falls to 0.58. -/
def priceFall : Segment × Int :=
  (.chainlinkPrice ⟨⟨700001, none, some 1, 0, .confirmed⟩, ⟨12, 0⟩, ⟨2, 0⟩, 58000000, some 0⟩, 0)

/-- The borrower falls from 1.6 to below one in one price event and is not read. -/
theorem liquidatable_not_read :
    (runAll twoFeeds oneBorrower).model.pricesBootstrapped = true ∧
      changesOf twoFeeds (runAll twoFeeds oneBorrower) priceFall =
        [⟨⟨1, 0⟩, .liquidatable, 986000000000000000, false, true⟩] ∧
      (step twoFeeds (runAll twoFeeds oneBorrower) priceFall).2 = [] := by
  refine ⟨?_, ?_, ?_⟩
  · decide +kernel
  · decide +kernel
  · decide +kernel

end LiquidationBot.EventPurityStack
