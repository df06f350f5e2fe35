import LiquidationBot.RestoredPositions

/-!
# What a snapshot loses

A row of the snapshot carries the mode, the totals and the cached health factor of a
position, and its amounts without the indices at which they were recorded. A seeding
takes the amounts for present ones, so the interest that had accrued on them by then
is lost. A recomputation does not notice where collateral and debt have grown alike,
as far as its last division can tell.

A cached health factor of zero is taken for an absent one, and the totals' health
factor is put in its place. And where a price is missing or stale, the assets that
are named come in another order, if one without collateral stood before one with it.
-/

namespace LiquidationBot.LocalPositionModel

section Valued

variable (reserves : InsertionMap Address ReserveConfig) (input : PegReferenceHealthInput)
  (position : UserPosition)

/-- What a collateral is worth as it is recorded, weighted by its liquidation
threshold. -/
def recordedWorth (entry : SideEntry) : Nat :=
  match reserves.get? entry.1, resolveEffectiveAssetPriceWad18 entry.1 input with
  | some reserve, some price => entry.2 * price * reserve.liquidationThresholdBps / BPS
  | _, _ => 0

/-- What a debt is worth as it is recorded. -/
def recordedOwed (entry : SideEntry) : Nat :=
  match reserves.get? entry.1, resolveEffectiveAssetPriceWad18 entry.1 input with
  | some _, some price => entry.2 * price
  | _, _ => 0

/-- The weighted collateral without the interest since it was recorded. -/
def recordedCollateral : Nat := (position.collateral.entries.map (recordedWorth reserves input)).sum

/-- The debt without the interest since it was recorded. -/
def recordedDebt : Nat := (position.debt.entries.map (recordedOwed reserves input)).sum

/-- What the collateral has grown beyond the debt since they were recorded. -/
def excessGrowth : ℚ :=
  (weightedCollateral reserves position input : ℚ) * recordedDebt reserves input position /
      totalDebt reserves position input -
    recordedCollateral reserves input position

/-- The remainder of the division by the recorded debt. -/
def recordedRemainder : Nat :=
  recordedCollateral reserves input position * WAD % recordedDebt reserves input position

/-- Collateral and debt have grown alike since they were recorded, as far as the last
division can tell, and there is a debt in both cases or in neither. -/
def GrownAlike : Prop :=
  recordedDebt reserves input position = 0 ∧ totalDebt reserves position input = 0 ∨
    0 < recordedDebt reserves input position ∧ 0 < totalDebt reserves position input ∧
      -(recordedRemainder reserves input position : ℚ) ≤
        WAD * excessGrowth reserves input position ∧
      WAD * excessGrowth reserves input position <
        recordedDebt reserves input position - recordedRemainder reserves input position

end Valued

section Gaps

variable (config : LocalPositionModelConfig) (model : LocalPositionModel) (nowSec : Int)

/-- The assets among these without a price, or, where all have one, those with a
stale feed. -/
def gapsAmong (keys : List Address) : List Address :=
  let missing := keys.filter (fun key =>
    (resolveEffectiveAssetPriceWad18 key (pegHealthInput config model nowSec)).isNone)
  if missing ≠ [] then missing else keys.filter (feedIsStale model.feedStates nowSec)

/-- What the export carries of a position at a time: its cached health factor is not
taken for absent, the assets that a recomputation names stay in their order, and where
it names none the position's two sides have grown alike. -/
structure Carried (position : UserPosition) : Prop where
  cachedHf : 0 < position.cachedHfWad ∨
    calculateHealthFactor (position.lastTotalCollateralBase.getD 0)
      (position.lastTotalDebtBase.getD 1) (position.lastLiquidationThreshold.getD 0) = 0
  listed : model.pricesBootstrapped = false → collectPositionAssets position =
    filledKeys position.collateral (heldKeys position) ++
      filledKeys position.debt (heldKeys position)
  named : model.pricesBootstrapped = true →
    gapsAmong config (refreshPegs config model nowSec) nowSec (heldKeys position) =
      gapsAmong config (refreshPegs config model nowSec) nowSec (collateralFirst position)
  grown : model.pricesBootstrapped = true →
    gapsAmong config (refreshPegs config model nowSec) nowSec (heldKeys position) = [] →
      GrownAlike model.reserveConfig (pegHealthInput config (refreshPegs config model nowSec) nowSec)
        position

end Gaps

/-! ## The value of a restored position -/

section Value

variable (model : LocalPositionModel) {position : UserPosition}

/-- A restored amount is valued as it is. -/
theorem scaleAmount_restored (blockNumber : Nat) (lowerCased : LowerCased position) (side : Side)
    {key : Address} {reserve : ReserveConfig} (known : model.reserveConfig.get? key = some reserve)
    (positive : 0 < storedAmount (side.amounts position).amounts key) (amount : Nat) :
    scaleAmount (side.amounts (restoredPosition model blockNumber position)).indexAtUpdate
      (side.index reserve) key amount = amount := by
  have current : currentIndex model side key = side.index reserve := by
    rw [currentIndex, known]
    rfl
  refine scaleAmount_current ?_ amount
  rw [index_restored model blockNumber lowerCased side positive, current]

/-- A side's restored entries are worth what the recorded ones are. -/
theorem sum_restored (blockNumber : Nat) (lowerCased : LowerCased position) (side : Side)
    {valued recorded : SideEntry → Nat} (nothing : ∀ key, recorded (key, 0) = 0)
    (alike : ∀ key amount, 0 < storedAmount (side.amounts position).amounts key →
      0 < amount → valued (key, amount) = recorded (key, amount)) :
    ((side.amounts (restoredPosition model blockNumber position)).amounts.entries.map valued).sum =
      ((side.amounts position).amounts.entries.map recorded).sum := by
  have covered : ∀ key, 0 < storedAmount (side.amounts position).amounts key →
      key ∈ heldKeys position := by
    intro key positive
    rw [mem_heldKeys_iff]
    cases side with
    | collateral => exact Or.inl positive
    | debt => exact Or.inr positive
  rw [← sum_filledKeys _ (heldKeys_nodup position) covered recorded nothing,
    entries_restored model blockNumber lowerCased]
  congr 1
  apply List.map_congr_left
  rintro ⟨key, amount⟩ member
  obtain ⟨listed, filled, same⟩ := List.mem_map.mp member
  obtain ⟨rfl, rfl⟩ := Prod.mk.inj same
  have positive := (mem_filledKeys_iff.mp filled).2
  exact alike listed _ positive positive

theorem weightedCollateral_restored (blockNumber : Nat) (lowerCased : LowerCased position)
    (input : PegReferenceHealthInput) :
    weightedCollateral model.reserveConfig (restoredPosition model blockNumber position) input =
      recordedCollateral model.reserveConfig input position := by
  refine sum_restored model blockNumber lowerCased .collateral (fun key => ?_)
    (fun key amount positive filled => ?_)
  · rw [recordedWorth]
    split <;> simp
  · rw [recordedWorth]
    cases found : model.reserveConfig.get? key with
    | none => rfl
    | some reserve =>
      cases resolveEffectiveAssetPriceWad18 key input with
      | none => rfl
      | some price =>
        have scaled :=
          scaleAmount_restored model blockNumber lowerCased .collateral found positive amount
        dsimp only
        rw [if_neg filled.ne']
        exact congrArg (fun scaled => scaled * price * reserve.liquidationThresholdBps / BPS) scaled

theorem totalDebt_restored (blockNumber : Nat) (lowerCased : LowerCased position)
    (input : PegReferenceHealthInput) :
    totalDebt model.reserveConfig (restoredPosition model blockNumber position) input =
      recordedDebt model.reserveConfig input position := by
  refine sum_restored model blockNumber lowerCased .debt (fun key => ?_)
    (fun key amount positive filled => ?_)
  · rw [recordedOwed]
    split <;> simp
  · rw [recordedOwed]
    cases found : model.reserveConfig.get? key with
    | none => rfl
    | some reserve =>
      cases resolveEffectiveAssetPriceWad18 key input with
      | none => rfl
      | some price =>
        have scaled := scaleAmount_restored model blockNumber lowerCased .debt found positive amount
        dsimp only
        rw [if_neg filled.ne']
        exact congrArg (fun scaled => scaled * price) scaled

/-- The quotients without and with the interest agree exactly where the two sides
have grown alike. -/
theorem hfResult_eq_iff (reserves : InsertionMap Address ReserveConfig)
    (input : PegReferenceHealthInput) :
    (if recordedDebt reserves input position = 0 then HfResult.noDebt MAX_UINT256
      else .ok (recordedCollateral reserves input position * WAD /
        recordedDebt reserves input position)) =
      (if totalDebt reserves position input = 0 then HfResult.noDebt MAX_UINT256
        else .ok (weightedCollateral reserves position input * WAD /
          totalDebt reserves position input)) ↔
      GrownAlike reserves input position := by
  by_cases recorded : recordedDebt reserves input position = 0
  · by_cases owed : totalDebt reserves position input = 0
    · simp [GrownAlike, recorded, owed]
    · simp [GrownAlike, recorded, owed]
  · by_cases owed : totalDebt reserves position input = 0
    · simp [GrownAlike, recorded, owed]
    · have recordedPos := Nat.pos_of_ne_zero recorded
      have owedPos := Nat.pos_of_ne_zero owed
      have quotient : (weightedCollateral reserves position input * WAD /
          totalDebt reserves position input) =
          ⌊((weightedCollateral reserves position input * WAD : Nat) : ℚ) /
            totalDebt reserves position input⌋₊ := (Nat.floor_div_eq_div _ _).symm
      have excess : ((weightedCollateral reserves position input * WAD : Nat) : ℚ) /
            totalDebt reserves position input * recordedDebt reserves input position -
          (recordedCollateral reserves input position * WAD : Nat) =
          WAD * excessGrowth reserves input position := by
        rw [excessGrowth]
        push_cast
        ring
      rw [if_neg recorded, if_neg owed, HfResult.ok.injEq, eq_comm, quotient,
        ScaledSums.floor_eq_div_iff recordedPos (by positivity), excess]
      constructor
      · exact fun slack => Or.inr ⟨recordedPos, owedPos, slack⟩
      · rintro (⟨none, _⟩ | ⟨_, _, slack⟩)
        · exact absurd none recorded
        · exact slack

end Value

/-! ## The recomputation of a restored position -/

section Recomputed

variable {config other : LocalPositionModelConfig} {left right model : LocalPositionModel}
  {position : UserPosition} (nowSec : Int)

/-- Valued in the same market, the exported and the restored position give one result
exactly where the named assets are in one order and, if there are none, the two sides
have grown alike. -/
theorem valuePosition_restored_iff (market : SameMarket left right)
    (multiplier : config.freshnessMultiplier = other.freshnessMultiplier)
    (reserves : model.reserveConfig = left.reserveConfig) (blockNumber : Nat)
    (lowerCased : LowerCased position) :
    valuePosition other right (restoredPosition model blockNumber position) nowSec =
        valuePosition config left position nowSec ↔
      gapsAmong config left nowSec (heldKeys position) =
          gapsAmong config left nowSec (collateralFirst position) ∧
        (gapsAmong config left nowSec (heldKeys position) = [] →
          GrownAlike left.reserveConfig (pegHealthInput config left nowSec) position) := by
  have input : pegHealthInput other right nowSec = pegHealthInput config left nowSec := by
    rw [pegHealthInput, pegHealthInput, market.prices, market.feedStates, multiplier]
  have held := heldKeys_restored model blockNumber lowerCased
  have emptied : ∀ keep : Address → Bool, (heldKeys position).filter keep = [] ↔
      (collateralFirst position).filter keep = [] := by
    intro keep
    have same := (collateralFirst_perm position).filter keep
    exact ⟨fun none => List.perm_nil.mp (none ▸ same), fun none => List.nil_perm.mp (none ▸ same)⟩
  have collateral := weightedCollateral_restored model blockNumber lowerCased
    (pegHealthInput config left nowSec)
  have debt := totalDebt_restored model blockNumber lowerCased
    (pegHealthInput config left nowSec)
  rw [reserves] at collateral debt
  simp only [valuePosition, collectMissingPriceAssets, collectStalePriceAssets, input, held,
    ← market.reserves, ← market.feedStates, collateral, debt, gapsAmong]
  by_cases complete : (heldKeys position).filter (fun key =>
      (resolveEffectiveAssetPriceWad18 key (pegHealthInput config left nowSec)).isNone) = []
  · have completeToo := (emptied _).mp complete
    by_cases fresh : (heldKeys position).filter (feedIsStale left.feedStates nowSec) = []
    · have freshToo := (emptied _).mp fresh
      simp only [complete, completeToo, fresh, freshToo, ne_eq, not_true_eq_false, if_false,
        true_and, true_implies]
      exact hfResult_eq_iff left.reserveConfig (pegHealthInput config left nowSec)
    · have staleToo := (emptied _).not.mp fresh
      simp only [complete, completeToo, fresh, staleToo, ne_eq, not_true_eq_false, if_false,
        not_false_eq_true, if_true, HfResult.priceStale.injEq, false_implies, and_true]
      exact eq_comm
  · have missingToo := (emptied _).not.mp complete
    simp only [complete, missingToo, ne_eq, not_false_eq_true, if_true,
      HfResult.priceIncomplete.injEq, false_implies, and_true]
    exact eq_comm

/-- The two recomputations give one result exactly where the export carries what they
look at. -/
theorem recomputeHf_restored_iff (market : SameMarket left right)
    (multiplier : config.freshnessMultiplier = other.freshnessMultiplier)
    (reserves : model.reserveConfig = left.reserveConfig) (blockNumber : Nat)
    (lowerCased : LowerCased position) :
    (recomputeHf other right (restoredPosition model blockNumber position) nowSec).2 =
        (recomputeHf config left position nowSec).2 ↔
      (left.pricesBootstrapped = false → collectPositionAssets position =
        filledKeys position.collateral (heldKeys position) ++
          filledKeys position.debt (heldKeys position)) ∧
      (left.pricesBootstrapped = true →
        gapsAmong config (refreshPegs config left nowSec) nowSec (heldKeys position) =
          gapsAmong config (refreshPegs config left nowSec) nowSec (collateralFirst position)) ∧
      (left.pricesBootstrapped = true →
        gapsAmong config (refreshPegs config left nowSec) nowSec (heldKeys position) = [] →
          GrownAlike left.reserveConfig
            (pegHealthInput config (refreshPegs config left nowSec) nowSec) position) := by
  cases bootstrapped : left.pricesBootstrapped with
  | false =>
    have there : right.pricesBootstrapped = false := market.bootstrapped ▸ bootstrapped
    have listed := collectPositionAssets_restored model blockNumber lowerCased
    simp only [recomputeHf, recomputeHfWith, bootstrapped, there, Bool.not_false, if_true, listed,
      HfResult.priceIncomplete.injEq, true_implies, Bool.false_eq_true, false_implies, and_true]
    exact eq_comm
  | true =>
    have there : right.pricesBootstrapped = true := market.bootstrapped ▸ bootstrapped
    have refreshed := sameMarket_refreshPegs nowSec market multiplier
    have ledger := (sameLedger_refreshPegs config left nowSec).reserves
    rw [recomputeHf_eq bootstrapped, recomputeHf_eq there]
    simp only [Bool.true_eq_false, false_implies, true_and, true_implies]
    rw [← ledger]
    exact valuePosition_restored_iff nowSec refreshed multiplier (reserves.trans ledger.symm)
      blockNumber
      lowerCased

end Recomputed

/-! ## Applying a snapshot -/

section Applied

variable {config : LocalPositionModelConfig} {blockNumber : Nat}

/-- The assets of a position are lower-cased keys of known reserves. -/
def HoldsKnown (reserves : InsertionMap Address ReserveConfig) (position : UserPosition) : Prop :=
  ∀ key ∈ heldKeys position, key.toLowerCase = key ∧ (reserves.get? key).isSome = true

theorem Grounded.holdsKnown {reserves : InsertionMap Address ReserveConfig}
    {position : UserPosition} (grounded : Grounded reserves position) :
    HoldsKnown reserves position := by
  intro key held
  have stored : ∀ side : AmountsAtIndex, Keyed reserves side → 0 < storedAmount side.amounts key →
      key.toLowerCase = key ∧ (reserves.get? key).isSome = true := by
    intro side keyed positive
    cases found : side.amounts.get? key with
    | none => simp [storedAmount, found] at positive
    | some amount => exact keyed key amount found
  rcases (mem_heldKeys_iff position key).mp held with positive | positive
  · exact stored (collateralSide position) grounded.collateral positive
  · exact stored (debtSide position) grounded.debt positive

/-- Known reserves are not registered again. -/
theorem registerRows_of_known {model : LocalPositionModel} {rows : List SnapshotReserve}
    (known : ∀ row ∈ rows, (model.reserveConfig.get? row.asset.toLowerCase).isSome = true) :
    registerRows model rows = model := by
  induction rows with
  | nil => rfl
  | cons row rest inductionHypothesis =>
    have first : model.registerReserve row.asset BASE_LT_BPS = model :=
      if_pos (known row List.mem_cons_self)
    have later :=
      inductionHypothesis (fun other member => known other (List.mem_cons_of_mem _ member))
    rw [registerRows, List.foldl_cons, first]
    exact later

/-- A row of known reserves, where the cache has room for it: the market stays, the
row's position is restored, and every position of this block stays. -/
theorem seed_saved (config : LocalPositionModelConfig) (blockNumber : Nat)
    {model : LocalPositionModel} {position : UserPosition}
    (known : HoldsKnown model.reserveConfig position)
    (fits : ((model.positions.size + 1 : Nat) : ℚ) ≤ config.positionCacheHardCap)
    {after : LocalPositionModel}
    (seeded : after = seedFromOnChainSnapshot config model (savedSnapshot blockNumber position)) :
    SameMarket model after ∧ after.positions.size ≤ model.positions.size + 1 ∧
      after.positions.get? position.account.toLowerCase =
        some (restoredPosition model blockNumber position) ∧
      ∀ key stored, key ≠ position.account.toLowerCase →
        model.positions.get? key = some stored → stored.lastActivityBlock = blockNumber →
          after.positions.get? key = some stored := by
  have rows : registerRows model (savedSnapshot blockNumber position).reserves = model := by
    refine registerRows_of_known (fun row member => ?_)
    obtain ⟨key, held, rfl⟩ := List.mem_map.mp member
    obtain ⟨lowerCased, found⟩ := known key held
    dsimp only
    rw [lowerCased]
    exact found
  have size := Positions.size_put model.positions
    (seededPosition model (savedSnapshot blockNumber position))
  have grown : (storedBySeed model (savedSnapshot blockNumber position)).positions.size ≤
      model.positions.size + 1 := by
    rw [storedBySeed]
    dsimp only
    split at size <;> omega
  have within : ((storedBySeed model (savedSnapshot blockNumber position)).positions.size : ℚ) ≤
      config.positionCacheHardCap := le_trans (Nat.cast_le.mpr grown) fits
  have found : ∀ key, (storedBySeed model (savedSnapshot blockNumber position)).positions.get? key =
      if key = position.account.toLowerCase then
        some (restoredPosition model blockNumber position)
      else model.positions.get? key :=
    get?_storedBySeed model (savedSnapshot blockNumber position)
  have own := found position.account.toLowerCase
  rw [if_pos rfl] at own
  have spared := enforceHardCap_spares config (storedBySeed model
    (savedSnapshot blockNumber position)) blockNumber
  obtain ⟨kept, smaller, _⟩ := spared _ own rfl within
  rw [seedFromOnChainSnapshot_eq] at seeded
  subst seeded
  refine ⟨?_, smaller.trans grown, kept, fun key stored different held active => ?_⟩
  · change SameMarket model (enforceHardCap config
      (storedBySeed model (savedSnapshot blockNumber position)) blockNumber)
    rw [enforceHardCap, if_pos within, storedBySeed, rows]
    exact ⟨rfl, rfl, rfl, rfl⟩
  · have other := found key
    rw [if_neg different, held] at other
    exact (spared key other active within).1

/-- The rows of distinct accounts, where the cache has room for them: the market stays,
every row's position is restored, and every other position of this block stays. -/
theorem foldl_seed_saved (positions : List UserPosition) {model after : LocalPositionModel}
    (known : ∀ position ∈ positions, HoldsKnown model.reserveConfig position)
    (fits : ((model.positions.size + positions.length : Nat) : ℚ) ≤ config.positionCacheHardCap)
    (distinct : (positions.map (fun position => position.account.toLowerCase)).Nodup)
    (seeded : after = positions.foldl (fun model position =>
      seedFromOnChainSnapshot config model (savedSnapshot blockNumber position)) model) :
    SameMarket model after ∧
      (∀ position ∈ positions, ∃ earlier, SameMarket model earlier ∧
        after.positions.get? position.account.toLowerCase =
          some (restoredPosition earlier blockNumber position)) ∧
      ∀ key stored, key ∉ positions.map (fun position => position.account.toLowerCase) →
        model.positions.get? key = some stored → stored.lastActivityBlock = blockNumber →
          after.positions.get? key = some stored := by
  induction positions generalizing model with
  | nil =>
    subst seeded
    exact ⟨SameMarket.refl _, fun _ member => absurd member List.not_mem_nil,
      fun _ _ _ stored _ => stored⟩
  | cons position rest inductionHypothesis =>
    obtain ⟨apart, distinct⟩ := List.nodup_cons.mp distinct
    have room : ((model.positions.size + 1 : Nat) : ℚ) ≤ config.positionCacheHardCap := by
      refine le_trans (Nat.cast_le.mpr ?_) fits
      simp only [List.length_cons]
      omega
    obtain ⟨first, size, own, others⟩ := seed_saved config blockNumber
      (known position List.mem_cons_self) room rfl
    obtain ⟨market, restored, kept⟩ := inductionHypothesis
      (fun other member => first.reserves ▸ known other (List.mem_cons_of_mem _ member))
      (le_trans (Nat.cast_le.mpr (by simp only [List.length_cons]; omega)) fits) distinct seeded
    refine ⟨first.trans market, fun other member => ?_, fun key stored elsewhere held active => ?_⟩
    · rcases List.mem_cons.mp member with rfl | later
      · exact ⟨model, SameMarket.refl model, kept _ _ apart own rfl⟩
      · obtain ⟨earlier, same, found⟩ := restored other later
        exact ⟨earlier, first.trans same, found⟩
    · obtain ⟨different, absent⟩ := not_or.mp (List.mem_cons.not.mp elsewhere)
      exact kept key stored absent (others key stored different held active) active

/-- The loaded model has the position with its mode, totals and cached health factor,
and a recomputation gives what it gives in the exported model. -/
def Restores (config other : LocalPositionModelConfig) (model loaded : LocalPositionModel)
    (position : UserPosition) (nowSec : Int) : Prop :=
  ∃ restored, loaded.positions.get? position.account.toLowerCase = some restored ∧
    restored.eModeCategoryId = position.eModeCategoryId ∧
    restored.lastTotalCollateralBase = position.lastTotalCollateralBase ∧
    restored.lastTotalDebtBase = position.lastTotalDebtBase ∧
    restored.lastLiquidationThreshold = position.lastLiquidationThreshold ∧
    restored.cachedHfWad = position.cachedHfWad ∧
    (recomputeHf other loaded restored nowSec).2 = (recomputeHf config model position nowSec).2

/-- The exported positions of a reachable model, each restored in a loaded one. -/
theorem loaded_of_reachable {other : LocalPositionModelConfig} {model target : LocalPositionModel}
    (reached : Reachable config model) (empty : target.positions = .empty)
    (market : SameMarket model target)
    (cap : ((exportBootstrapSnapshots model).length : ℚ) ≤ other.positionCacheHardCap)
    (chain : SupportedChain) (discoverySource : BootstrapDiscoverySource) (blockNumber : Nat)
    (nowMs : Int) :
    SameMarket model (applyToModel other target
        (buildSnapshotFromModel model chain discoverySource blockNumber nowMs)).1 ∧
      ∀ key position, model.positions.get? key = some position → isExported position = true →
        ∃ earlier, SameMarket model earlier ∧ (applyToModel other target
          (buildSnapshotFromModel model chain discoverySource blockNumber nowMs)).1.positions.get?
            position.account.toLowerCase = some (restoredPosition earlier blockNumber position) := by
  have known : ∀ position ∈ model.positions.values.filter isExported,
      HoldsKnown target.reserveConfig position := by
    intro position member
    obtain ⟨key, found⟩ := (InsertionMap.mem_values_iff _ _).mp (List.mem_filter.mp member).1
    exact market.reserves ▸ (reached.grounded key position found).holdsKnown
  have fits : ((target.positions.size + (model.positions.values.filter isExported).length : Nat) :
      ℚ) ≤ other.positionCacheHardCap := by
    have none : target.positions.size = 0 := by
      rw [empty]
      rfl
    rw [none, Nat.zero_add]
    rwa [exportBootstrapSnapshots, List.length_map] at cap
  have distinct : ((model.positions.values.filter isExported).map
      (fun position => position.account.toLowerCase)).Nodup := by
    have all : (model.positions.values.map (fun position => position.account.toLowerCase)).Nodup := by
      rw [map_values_account]
      exact model.positions.byAccount.distinct
    exact all.sublist (List.filter_sublist.map _)
  obtain ⟨same, restored, _⟩ := foldl_seed_saved _ known fits distinct
    (congrArg Prod.fst (applyToModel_build other model target chain discoverySource blockNumber
      nowMs))
  refine ⟨market.trans same, fun key position found exported => ?_⟩
  have value : position ∈ model.positions.values :=
    (InsertionMap.mem_values_iff _ _).mpr ⟨key, found⟩
  obtain ⟨earlier, alike, loaded⟩ := restored position (List.mem_filter.mpr ⟨value, exported⟩)
  exact ⟨earlier, market.trans alike, loaded⟩

/-- A fully seeded position with debt, in any reachable model, is restored without loss
exactly where the export carries what its recomputation looks at. -/
theorem snapshot_lossless_iff (config other : LocalPositionModelConfig)
    {model target : LocalPositionModel} (reached : Reachable config model)
    (empty : target.positions = .empty) (market : SameMarket model target)
    (multiplier : config.freshnessMultiplier = other.freshnessMultiplier)
    (cap : ((exportBootstrapSnapshots model).length : ℚ) ≤ other.positionCacheHardCap)
    (chain : SupportedChain) (discoverySource : BootstrapDiscoverySource) (blockNumber : Nat)
    (nowMs nowSec : Int) {key : Address} {position : UserPosition}
    (found : model.positions.get? key = some position) (seeded : position.isFullySeeded = true)
    (indebted : position.debt.size ≠ 0) :
    Restores config other model (applyToModel other target
        (buildSnapshotFromModel model chain discoverySource blockNumber nowMs)).1 position nowSec ↔
      Carried config model nowSec position := by
  obtain ⟨same, restored⟩ := loaded_of_reachable reached empty market cap chain discoverySource
    blockNumber nowMs
  obtain ⟨earlier, alike, loaded⟩ :=
    restored key position found (by simp [isExported, seeded, indebted])
  have grounded := reached.grounded key position found
  have lowerCased : LowerCased position := fun key held => (grounded.holdsKnown key held).1
  have recomputed := recomputeHf_restored_iff nowSec same multiplier alike.reserves.symm blockNumber
    lowerCased
  obtain ⟨collateral, debt, threshold⟩ := grounded.totals seeded
  have total : ∀ (value : Option Nat) (default : Nat), value.isSome = true →
      some (value.getD default) = value := by
    rintro (_ | value) default present
    · cases present
    · rfl
  have cached : (restoredPosition earlier blockNumber position).cachedHfWad = position.cachedHfWad ↔
      0 < position.cachedHfWad ∨ calculateHealthFactor (position.lastTotalCollateralBase.getD 0)
        (position.lastTotalDebtBase.getD 1) (position.lastLiquidationThreshold.getD 0) = 0 := by
    change (if position.cachedHfWad > 0 then position.cachedHfWad else calculateHealthFactor
      (position.lastTotalCollateralBase.getD 0) (position.lastTotalDebtBase.getD 1)
      (position.lastLiquidationThreshold.getD 0)) = position.cachedHfWad ↔ _
    split
    next positive => exact iff_of_true rfl (Or.inl positive)
    next none =>
      have zero := Nat.eq_zero_of_not_pos none
      rw [zero]
      exact ⟨Or.inr, fun given => given.resolve_left (lt_irrefl 0)⟩
  constructor
  · rintro ⟨stored, there, _, _, _, _, sameHf, sameResult⟩
    cases loaded.symm.trans there
    obtain ⟨listed, named, grown⟩ := recomputed.mp sameResult
    exact ⟨cached.mp sameHf, listed, named, grown⟩
  · intro carried
    exact ⟨_, loaded, rfl, total _ 0 collateral, total _ 1 debt, total _ 0 threshold,
      cached.mpr carried.cachedHf,
      recomputed.mpr ⟨carried.listed, carried.named, carried.grown⟩⟩

end Applied

/-! ## A borrower of dollar coins -/

theorem reachable_calls {config : LocalPositionModelConfig} {model : LocalPositionModel}
    (reached : Reachable config model) (calls : List ModelCall) :
    Reachable config (calls.foldl (ModelCall.run config) model) := by
  induction calls generalizing model with
  | nil => exact reached
  | cons call rest inductionHypothesis => exact inductionHypothesis (reached.called call)

/-- One ether of collateral and a debt of 1000 USDC, seeded at an index of one ray. -/
def borrowCalls : List ModelCall :=
  [.registerReserve wholeEther 8000, .registerReserve BASE_USDC 8000,
    .refreshReserveIndex (unreadReserve BASE_USDC 8000 none) RAY RAY,
    .registerBootstrapPrice wholeEther (2000 * WAD)
      ⟨200000000000, 8, 0, ⟨2, 0⟩, wholeEther, some .aave⟩,
    .registerBootstrapPrice BASE_USDC WAD ⟨100000000, 8, 0, ⟨2, 0⟩, BASE_USDC, some .aave⟩,
    .operation (.seedFromOnChainSnapshot etherBorrower), .markPricesBootstrapped]

def borrowedModel : LocalPositionModel := borrowCalls.foldl (ModelCall.run defaultConfig) initial

/-- The borrow index of USDC grows by a tenth. -/
def tenthAccrued : ParsedAavePoolEvent :=
  { firstUpdate with
    liquidityIndex := some (RAY + RAY / 20)
    variableBorrowIndex := some (RAY + RAY / 10) }

def accruedModel : LocalPositionModel :=
  ModelCall.run defaultConfig borrowedModel (.operation (.applyAaveEvent tenthAccrued 0))

def positionOf (model : LocalPositionModel) : UserPosition :=
  (model.positions.get? ⟨1, 0⟩).getD (newPosition ⟨1, 0⟩ 0)

/-- The model that a restart loads from a snapshot. -/
def reloaded (model : LocalPositionModel) : LocalPositionModel :=
  (applyToModel defaultConfig { model with positions := .empty }
    (buildSnapshotFromModel model .base .subgraph 700000 0)).1

/-- The equivalence right after the seeding. -/
theorem snapshot_lossless_iff_borrowed :
    Restores defaultConfig defaultConfig borrowedModel (reloaded borrowedModel)
        (positionOf borrowedModel) 0 ↔
      Carried defaultConfig borrowedModel 0 (positionOf borrowedModel) := by
  have reached : Reachable defaultConfig borrowedModel := reachable_calls .initial borrowCalls
  have single : (exportBootstrapSnapshots borrowedModel).length = 1 := by decide +kernel
  have cap : ((exportBootstrapSnapshots borrowedModel).length : ℚ) ≤
      defaultConfig.positionCacheHardCap := by
    rw [single]
    norm_num [defaultConfig]
  exact @snapshot_lossless_iff defaultConfig defaultConfig borrowedModel
    { borrowedModel with positions := .empty } reached rfl ⟨rfl, rfl, rfl, rfl⟩ rfl cap .base
    .subgraph 700000 0 0 ⟨1, 0⟩ (positionOf borrowedModel) (by decide +kernel) (by decide +kernel)
    (by decide +kernel)

/-- With the interest the borrower owes 1100, and 1000 once the snapshot is loaded. -/
theorem interest_lost :
    ¬ ∀ (config other : LocalPositionModelConfig) (model target : LocalPositionModel),
      Reachable config model → target.positions = .empty → SameMarket model target →
      config.freshnessMultiplier = other.freshnessMultiplier →
      ((exportBootstrapSnapshots model).length : ℚ) ≤ other.positionCacheHardCap →
      ∀ (chain : SupportedChain) (discoverySource : BootstrapDiscoverySource) (blockNumber : Nat)
        (nowMs nowSec : Int) (key : Address) (position : UserPosition),
        model.positions.get? key = some position → position.isFullySeeded = true →
        position.debt.size ≠ 0 →
          Restores config other model (applyToModel other target
            (buildSnapshotFromModel model chain discoverySource blockNumber nowMs)).1 position
            nowSec := by
  intro claim
  have reached : Reachable defaultConfig accruedModel :=
    (reachable_calls .initial borrowCalls).called _
  have single : (exportBootstrapSnapshots accruedModel).length = 1 := by decide +kernel
  have cap : ((exportBootstrapSnapshots accruedModel).length : ℚ) ≤
      defaultConfig.positionCacheHardCap := by
    rw [single]
    norm_num [defaultConfig]
  obtain ⟨restored, found, _, _, _, _, _, same⟩ := claim defaultConfig defaultConfig accruedModel
    { accruedModel with positions := .empty } reached rfl ⟨rfl, rfl, rfl, rfl⟩ rfl cap .base
    .subgraph 700000 0 0 ⟨1, 0⟩ (positionOf accruedModel) (by decide +kernel) (by decide +kernel)
    (by decide +kernel)
  have there : (reloaded accruedModel).positions.get? (positionOf accruedModel).account.toLowerCase =
      some (positionOf (reloaded accruedModel)) := by decide +kernel
  cases there.symm.trans found
  exact absurd same (by decide +kernel)

end LiquidationBot.LocalPositionModel
