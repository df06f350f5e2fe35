import LiquidationBot.AaveOraclePrice
import LiquidationBot.HolderSettlement

/-!
# Health factors that move unseen

An operation that changes a registered price should recompute the fully seeded
positions that hold the asset, and report those whose tier changes. The update of
a price feed does so for its own asset. A recomputation refreshes the pegged
price on the way and drops what it learns of the holders of USDbC, and the
refresh of the gap-fill prices recomputes nothing.
-/

namespace LiquidationBot

open LocalPositionModel

/-- The operations that change registered prices. -/
inductive PriceOperation where
  | feedPriceUpdate (asset feed : Address) (answer : Int) (decimals : Nat) (updatedAtSec : Int)
  | priceEvent (event : ParsedChainlinkPriceEvent) (nowSec : Int)
  | recomputeHf (position : UserPosition) (nowSec : Int)
  | gapFillRefresh (answers : GapFillAnswers) (nowSec : Int)

namespace PriceOperation

/-- The model after the operation, and the tier changes its caller receives. -/
def run (config : LocalPositionModelConfig) (model : LocalPositionModel) :
    PriceOperation → LocalPositionModel × List TierChange
  | .feedPriceUpdate asset feed answer decimals updatedAtSec =>
      applyFeedPriceUpdate config model asset feed answer decimals updatedAtSec
  | .priceEvent event nowSec => applyPriceEvent config model event nowSec
  | .recomputeHf position nowSec =>
      ((LocalPositionModel.recomputeHf config model position nowSec).1, [])
  | .gapFillRefresh answers nowSec => (refreshGapFillPrices config model answers nowSec, [])

/-- The time that health factors are recomputed at. -/
def clock : PriceOperation → Int
  | .feedPriceUpdate _ _ _ _ updatedAtSec => updatedAtSec
  | .priceEvent event nowSec => event.oracleUpdatedAtSec.getD nowSec
  | .recomputeHf _ nowSec => nowSec
  | .gapFillRefresh _ nowSec => nowSec

end PriceOperation

/-- Every fully seeded position that holds a repriced asset and can be valued has
its health factor recomputed, and is reported if its tier has changed. -/
def NoSilentMove (config : LocalPositionModelConfig) (nowSec : Int)
    (before after : LocalPositionModel) (changes : List TierChange) : Prop :=
  ∀ key position hf, before.positions.get? key = some position →
    position.isFullySeeded = true → Repriced before after position →
    (recomputeHf config after position nowSec).2 = .ok hf →
      ∃ stored, after.positions.get? key = some stored ∧
        stored.cachedHfWad = resolveEffectiveHfWad position hf ∧
        (classifyTier config stored.cachedHfWad ≠ classifyTier config position.cachedHfWad →
          toTierChange config stored false ∈ changes)

/-- A refresh of the pegged price, unseen by the caller, moves nothing: a first
price has to leave the stored health factor right, a replaced one the tier. -/
def PegKept (config : LocalPositionModelConfig) (model : LocalPositionModel) (nowSec : Int)
    (position : UserPosition) : Prop :=
  ∀ price hf, PegMoves config model nowSec price →
    positionTouchesAsset position BASE_USDBC = true →
    valuePosition config (registerPeg model BASE_USDBC price nowSec) position nowSec = .ok hf →
      if pegAssetsToSync model none = [] then
        resolveEffectiveHfWad position hf = position.cachedHfWad
      else
        classifyTier config (resolveEffectiveHfWad position hf) =
          classifyTier config position.cachedHfWad

/-- A feed update of another asset than the peg's refreshes the peg when it
recomputes its first holder. -/
def FeedKept (config : LocalPositionModelConfig) (registered : LocalPositionModel)
    (asset : Address) (nowSec : Int) : Prop :=
  asset.toLowerCase = BASE_USDC.toLowerCase ∨ asset.toLowerCase = BASE_USDBC.toLowerCase ∨
    (∀ key position, registered.positions.get? key = some position →
      holdsSeeded asset position = false) ∨
    ∀ key position, registered.positions.get? key = some position →
      position.isFullySeeded = true → positionTouchesAsset position asset = false →
        PegKept config registered nowSec position

namespace PriceOperation

/-- The registration that a feed update starts with. -/
def registered (model : LocalPositionModel) (asset feed : Address) (answer : Int) (decimals : Nat)
    (updatedAtSec : Int) : LocalPositionModel :=
  model.registerBootstrapPrice asset (answer.toNat * 10 ^ (18 - decimals))
    { answer := answer
      decimals := decimals
      updatedAt := updatedAtSec
      feedAddress := feed
      asset := asset
      source := none }

/-- A rejected feed update changes no price. -/
def FeedUpdateKept (config : LocalPositionModelConfig) (model : LocalPositionModel)
    (asset feed : Address) (answer : Int) (decimals : Nat) (updatedAtSec : Int) : Prop :=
  0 < answer → decimals ≤ 18 →
    FeedKept config (registered model asset feed answer decimals updatedAtSec) asset updatedAtSec

/-- The decimals that `applyPriceEvent` takes an event to have. -/
def eventDecimals (model : LocalPositionModel) (event : ParsedChainlinkPriceEvent) : Nat :=
  ((model.feedStates.get? event.asset.toLowerCase).map FeedState.decimals).getD
    DEFAULT_FEED_DECIMALS

/-- The model at the prices that the answers to a gap-fill refresh give. -/
def gapFilled (config : LocalPositionModelConfig) (model : LocalPositionModel)
    (answers : GapFillAnswers) (nowSec : Int) : LocalPositionModel :=
  (gapFillRegistrations config model answers nowSec).foldl register model

/-- At the prices that the oracle answers, every health factor is already right. -/
def GapFillKept (config : LocalPositionModelConfig) (model : LocalPositionModel)
    (answers : GapFillAnswers) (nowSec : Int) : Prop :=
  ∀ key position hf, model.positions.get? key = some position → position.isFullySeeded = true →
    Repriced model (gapFilled config model answers nowSec) position →
    (LocalPositionModel.recomputeHf config (gapFilled config model answers nowSec) position
      nowSec).2 = .ok hf →
    resolveEffectiveHfWad position hf = position.cachedHfWad

/-- No health factor moves unseen. -/
def Kept (config : LocalPositionModelConfig) (model : LocalPositionModel) :
    PriceOperation → Prop
  | .feedPriceUpdate asset feed answer decimals updatedAtSec =>
      FeedUpdateKept config model asset feed answer decimals updatedAtSec
  | .priceEvent event nowSec =>
      FeedUpdateKept config model event.asset event.feed event.price (eventDecimals model event)
        (event.oracleUpdatedAtSec.getD nowSec)
  | .recomputeHf _ nowSec =>
      ∀ key position, model.positions.get? key = some position → position.isFullySeeded = true →
        PegKept config model nowSec position
  | .gapFillRefresh answers nowSec => GapFillKept config model answers nowSec

end PriceOperation

/-! ## Refreshes of the peg -/

/-- The condition seen from the refreshed model. -/
theorem pegKept_iff (config : LocalPositionModelConfig) (model : LocalPositionModel) (nowSec : Int)
    (position : UserPosition) :
    PegKept config model nowSec position ↔
      ∀ hf, Repriced model (refreshPegs config model nowSec) position →
        valuePosition config (refreshPegs config model nowSec) position nowSec = .ok hf →
          if pegAssetsToSync model none = [] then
            resolveEffectiveHfWad position hf = position.cachedHfWad
          else
            classifyTier config (resolveEffectiveHfWad position hf) =
              classifyTier config position.cachedHfWad := by
  have outcome := refreshPegs_outcome config model nowSec
  rcases refresh_moves outcome with ⟨price, moves, priced, values⟩ | ⟨unmoved, still⟩
  · constructor
    · rintro kept hf ⟨given, changed, touched⟩ valued
      have peg : given.toLowerCase = BASE_USDBC.toLowerCase := by
        by_contra different
        exact changed (outcome.prices_other different).symm
      exact kept price hf moves (positionTouchesAsset_congr touched peg)
        ((values position).symm.trans valued)
    · intro right other hf moved touched valued
      have same : other = price := Option.some.inj (moved.1.symm.trans moves.1)
      rw [same] at valued
      refine right hf ⟨BASE_USDBC, ?_, touched⟩ ((values position).trans valued)
      rw [priced]
      exact moves.2.1
  · refine iff_of_true (fun price _ moves => absurd moves (still price)) ?_
    rintro hf ⟨given, changed, _⟩
    rw [unmoved] at changed
    exact absurd rfl changed

/-! ## Feed updates -/

section Feed

variable {config : LocalPositionModelConfig} {model registered : LocalPositionModel} {nowSec : Int}
  {asset : Address}

/-- The registration of a price, seen from the model before it. -/
structure Registers (model registered : LocalPositionModel) (asset : Address) : Prop where
  positions : registered.positions = model.positions
  bootstrapped : registered.pricesBootstrapped = model.pricesBootstrapped
  other : ∀ key, key ≠ asset.toLowerCase →
    registered.prices.get? key = model.prices.get? key

theorem registers_registerBootstrapPrice (model : LocalPositionModel) (asset : Address)
    (price : Nat) (state : FeedState) :
    Registers model (model.registerBootstrapPrice asset price state) asset :=
  ⟨rfl, rfl, fun _ different => InsertionMap.get?_set_other _ _ different⟩

/-- The value of a position after a loop at refreshed prices. -/
theorem recomputeHf_after (bootstrapped : model.pricesBootstrapped = true) (positions : Positions)
    (position : UserPosition) :
    (recomputeHf config { refreshPegs config model nowSec with positions := positions } position
      nowSec).2 = valuePosition config (refreshPegs config model nowSec) position nowSec := by
  have outcome := refreshPegs_outcome config model nowSec
  have flag := (bootstrapped_refresh outcome).trans bootstrapped
  exact congrArg Prod.snd (steady_idle flag outcome.idle_after positions position)

/-- The registered price of an asset that nobody holds. -/
theorem noSilentMove_unheld (registers : Registers model registered asset)
    (unheld : ∀ key position, registered.positions.get? key = some position →
      holdsSeeded asset position = false) :
    NoSilentMove config nowSec model (recomputeTierChangesForAsset config registered asset nowSec).1
      (recomputeTierChangesForAsset config registered asset nowSec).2 := by
  rw [recompute_unheld unheld]
  rintro key position hf found seeded ⟨given, changed, touched⟩ _
  rw [← registers.positions] at found
  have own : given.toLowerCase = asset.toLowerCase := by
    by_contra different
    exact changed (registers.other _ different).symm
  have holds := unheld key position found
  rw [holdsSeeded, seeded, positionTouchesAsset_congr touched own] at holds
  cases holds

/-- A feed update whose refresh changes no further price is complete. -/
theorem noSilentMove_own (registers : Registers model registered asset)
    (bootstrapped : model.pricesBootstrapped = true)
    (own : ∀ key, key ≠ asset.toLowerCase →
      (refreshPegs config registered nowSec).prices.get? key = registered.prices.get? key) :
    NoSilentMove config nowSec model (recomputeTierChangesForAsset config registered asset nowSec).1
      (recomputeTierChangesForAsset config registered asset nowSec).2 := by
  have flag : registered.pricesBootstrapped = true := registers.bootstrapped.trans bootstrapped
  by_cases unheld : ∀ key position, registered.positions.get? key = some position →
      holdsSeeded asset position = false
  · exact noSilentMove_unheld registers unheld
  · obtain ⟨positions, looped, settledAll⟩ :=
      recompute_held config nowSec flag (by simpa using unheld)
    rw [looped]
    rintro key position hf found seeded ⟨given, changed, touched⟩ value
    rw [recomputeHf_after flag] at value
    rw [← registers.positions] at found
    have same : given.toLowerCase = asset.toLowerCase := by
      by_contra different
      exact changed ((own _ different).trans (registers.other _ different)).symm
    have holds : holdsSeeded asset position = true := by
      rw [holdsSeeded, seeded, positionTouchesAsset_congr touched same]
      rfl
    obtain ⟨located, member⟩ := holder_settled flag settledAll found holds value
    exact ⟨withHf position hf, located, rfl, fun _ => member⟩

/-- A feed update of an asset apart from the peg is complete exactly when nobody
holds the asset, or the refresh that its first holder brings moves nobody else. -/
theorem noSilentMove_other_iff (registers : Registers model registered asset)
    (bootstrapped : model.pricesBootstrapped = true) :
    NoSilentMove config nowSec model (recomputeTierChangesForAsset config registered asset nowSec).1
        (recomputeTierChangesForAsset config registered asset nowSec).2 ↔
      (∀ key position, registered.positions.get? key = some position →
        holdsSeeded asset position = false) ∨
      ∀ key position, registered.positions.get? key = some position →
        position.isFullySeeded = true → positionTouchesAsset position asset = false →
          PegKept config registered nowSec position := by
  have flag : registered.pricesBootstrapped = true := registers.bootstrapped.trans bootstrapped
  by_cases unheld : ∀ key position, registered.positions.get? key = some position →
      holdsSeeded asset position = false
  · exact iff_of_true (noSilentMove_unheld registers unheld) (Or.inl unheld)
  · have holder : ∃ key position, registered.positions.get? key = some position ∧
        holdsSeeded asset position = true := by simpa using unheld
    have outcome := refreshPegs_outcome config registered nowSec
    obtain ⟨positions, looped, settledAll⟩ := recompute_held config nowSec flag holder
    rw [looped]
    constructor
    · intro complete
      right
      intro key position found seeded untouched
      refine (pegKept_iff config registered nowSec position).mpr (fun hf repriced valued => ?_)
      have skipped : holdsSeeded asset position = false := by simp [holdsSeeded, untouched]
      obtain ⟨kept, unreported⟩ := other_unsettled settledAll found skipped
      obtain ⟨stored, located, account, right⟩ :=
        refresh_keeps_iff flag outcome found seeded repriced valued
      have seen : Repriced model
          { refreshPegs config registered nowSec with positions := positions } position := by
        obtain ⟨given, changed, touched⟩ := repriced
        have notOwn : given.toLowerCase ≠ asset.toLowerCase := by
          intro same
          rw [positionTouchesAsset_congr touched same] at untouched
          cases untouched
        exact ⟨given, by rw [← registers.other _ notOwn]; exact changed, touched⟩
      obtain ⟨final, stands, cached, told⟩ := complete key position hf
        (registers.positions ▸ found) seeded seen
        ((recomputeHf_after flag positions position).trans valued)
      rw [kept, located, Option.some.injEq] at stands
      subst stands
      refine right.mp ⟨cached, ?_⟩
      by_contra moved
      refine unreported _ (told moved) ?_
      change stored.account.toLowerCase = key
      rw [account]
      exact registered.positions.keyed key position found
    · rintro (nobody | kept)
      · exact absurd nobody unheld
      · rintro key position hf found seeded ⟨given, changed, touched⟩ value
        rw [recomputeHf_after flag] at value
        rw [← registers.positions] at found
        by_cases touchesAsset : positionTouchesAsset position asset = true
        · have holds : holdsSeeded asset position = true := by
            simp [holdsSeeded, seeded, touchesAsset]
          obtain ⟨located, member⟩ := holder_settled flag settledAll found holds value
          exact ⟨withHf position hf, located, rfl, fun _ => member⟩
        · have untouched : positionTouchesAsset position asset = false := by
            simpa using touchesAsset
          have notOwn : given.toLowerCase ≠ asset.toLowerCase :=
            fun same => touchesAsset (positionTouchesAsset_congr touched same)
          rw [← registers.other _ notOwn] at changed
          have repriced : Repriced registered (refreshPegs config registered nowSec) position :=
            ⟨given, changed, touched⟩
          obtain ⟨stored, located, _, right⟩ :=
            refresh_keeps_iff flag outcome found seeded repriced value
          obtain ⟨cached, same⟩ :=
            right.mpr ((pegKept_iff config registered nowSec position).mp
              (kept key position found seeded untouched) hf repriced value)
          have skipped : holdsSeeded asset position = false := by simp [holdsSeeded, untouched]
          obtain ⟨unsettled, _⟩ := other_unsettled settledAll found skipped
          exact ⟨stored, unsettled.trans located, cached, fun moved => absurd same moved⟩

/-- A merge keeps the direct changes. -/
theorem mem_mergeChanges_of_direct {direct pegChanges : List TierChange} {change : TierChange}
    (member : change ∈ direct) : change ∈ mergeChanges direct pegChanges := by
  unfold mergeChanges
  induction pegChanges generalizing direct with
  | nil => exact member
  | cons first rest inductionHypothesis =>
    rw [List.foldl_cons]
    split
    · exact inductionHypothesis member
    · exact inductionHypothesis (List.mem_append_left _ member)

/-- A change of the peg is kept where no other change has its account. -/
theorem mem_mergeChanges_of_peg {direct pegChanges : List TierChange} {change : TierChange}
    (unique : ∀ other ∈ direct ++ pegChanges,
      other.account.toLowerCase = change.account.toLowerCase → other = change)
    (member : change ∈ pegChanges) : change ∈ mergeChanges direct pegChanges := by
  unfold mergeChanges
  induction pegChanges generalizing direct with
  | nil => cases member
  | cons first rest inductionHypothesis =>
    rw [List.foldl_cons]
    rcases List.mem_cons.mp member with rfl | later
    · apply mem_mergeChanges_of_direct
      split
      next present =>
        obtain ⟨other, listed, same⟩ := List.any_eq_true.mp present
        rw [← unique other (List.mem_append_left _ listed) (of_decide_eq_true same)]
        exact listed
      next => simp
    · apply inductionHypothesis _ later
      intro other listed same
      apply unique other _ same
      rcases List.mem_append.mp listed with before | after
      · split at before
        · exact List.mem_append_left _ before
        · rcases List.mem_append.mp before with direct | added
          · exact List.mem_append_left _ direct
          · rw [List.mem_singleton.mp added]
            simp
      · exact List.mem_append_right _ (List.mem_cons_of_mem first after)

/-- The holders of USDbC are settled and reported before those of the asset. -/
theorem noSilentMove_replaced {price : Nat} {stored : Positions}
    (registers : Registers model registered asset)
    (flag : registered.pricesBootstrapped = true)
    (sync : InSync (registerPeg registered BASE_USDBC price nowSec).prices)
    (holders : ∀ tested, stored.get? tested = (registered.positions.get? tested).map
      (settled (valued config (registerPeg registered BASE_USDBC price nowSec) nowSec)
        BASE_USDBC)) :
    let pegged := { registerPeg registered BASE_USDBC price nowSec with positions := stored }
    let direct := recomputeTierChangesForAsset config pegged asset nowSec
    NoSilentMove config nowSec model direct.1
      (mergeChanges direct.2 (registered.positions.keys.flatMap (reported config
        (valued config (registerPeg registered BASE_USDBC price nowSec) nowSec) BASE_USDBC
          registered.positions))) := by
  intro pegged direct
  have nothing : Idle config pegged nowSec := idle_inSync sync
  have peggedFlag : pegged.pricesBootstrapped = true := flag
  have values : ∀ position, valued config (registerPeg registered BASE_USDBC price nowSec) nowSec
      position = valuePosition config pegged position nowSec := by
    intro position
    rw [valued_of_bootstrapped (registerPeg registered BASE_USDBC price nowSec) flag]
    rfl
  obtain ⟨positions, after, settledHere, keptElsewhere⟩ :=
    recompute_idle config asset peggedFlag nothing
  rintro key position hf found seeded ⟨given, changed, touched⟩ value
  have value : valuePosition config pegged position nowSec = .ok hf := by
    rw [after] at value
    exact (congrArg Prod.snd (steady_idle peggedFlag nothing positions position)).symm.trans value
  rw [← registers.positions] at found
  have settledPeg : stored.get? key = some (settled (valued config
      (registerPeg registered BASE_USDBC price nowSec) nowSec) BASE_USDBC position) := by
    rw [holders, found, Option.map_some]
  have account : position.account.toLowerCase = key := registered.positions.keyed key position found
  by_cases touchesAsset : positionTouchesAsset position asset = true
  · have holds : holdsSeeded asset position = true := by simp [holdsSeeded, seeded, touchesAsset]
    have valuedHere := (values position).trans value
    have settledOr : settled _ BASE_USDBC position = position ∨
        settled _ BASE_USDBC position = withHf position hf := settled_cases valuedHere
    rcases settledOr with same | same
    · rw [same] at settledPeg
      obtain ⟨located, member⟩ := settledHere key position hf settledPeg holds value
      exact ⟨_, by rw [after]; exact located, rfl, fun _ => mem_mergeChanges_of_direct member⟩
    · rw [same] at settledPeg
      obtain ⟨located, member⟩ := settledHere key (withHf position hf) hf settledPeg holds value
      rw [withHf_withHf] at located member
      exact ⟨_, by rw [after]; exact located, rfl, fun _ => mem_mergeChanges_of_direct member⟩
  · have peg : given.toLowerCase = BASE_USDBC.toLowerCase := by
      by_contra different
      have notOwn : given.toLowerCase ≠ asset.toLowerCase :=
        fun same => touchesAsset (positionTouchesAsset_congr touched same)
      apply changed
      rw [after, ← registers.other _ notOwn]
      exact (InsertionMap.get?_set_other _ _ different).symm
    have usdbc : holdsSeeded BASE_USDBC position = true := by
      rw [holdsSeeded, seeded, positionTouchesAsset_congr touched peg]
      rfl
    have valuedHere := (values position).trans value
    rw [settled_ok usdbc valuedHere] at settledPeg
    have skipped : holdsSeeded asset (withHf position hf) = false := by
      have untouched : positionTouchesAsset position asset = false := by simpa using touchesAsset
      have same : holdsSeeded asset (withHf position hf) = holdsSeeded asset position := rfl
      rw [same, holdsSeeded, untouched, Bool.and_false]
    obtain ⟨located, unreported⟩ := keptElsewhere key _ settledPeg skipped
    refine ⟨withHf position hf, by rw [after]; exact located, rfl, fun _ => ?_⟩
    apply mem_mergeChanges_of_peg
    · intro other listed same
      rcases List.mem_append.mp listed with direct | pegChange
      · exact absurd (same.trans account) (unreported other direct)
      · obtain ⟨_, committed, recommits, rfl⟩ :=
          reported_of_account found pegChange (same.trans account)
        rw [recommitted_ok valuedHere] at recommits
        cases recommits
        rfl
    · exact mem_reported.mpr ⟨key, mem_keys_of_get? found, position, found, usdbc, _,
        recommitted_ok valuedHere, rfl⟩

/-- A feed update of USDC reports the holders of USDC, and those of USDbC where
its price follows. -/
theorem noSilentMove_usdc (registers : Registers model registered asset)
    (bootstrapped : model.pricesBootstrapped = true)
    (usdc : asset.toLowerCase = BASE_USDC.toLowerCase) :
    let pegged := syncDerivedPegPrices config registered nowSec (some asset)
    let direct := recomputeTierChangesForAsset config pegged.1 asset nowSec
    NoSilentMove config nowSec model direct.1 (mergeChanges direct.2 pegged.2) := by
  by_cases inSync : InSync registered.prices
  · have nothing : Idle config registered nowSec := idle_inSync inSync
    rw [syncDerivedPegPrices, sync_inSync _ inSync]
    apply noSilentMove_own registers bootstrapped
    intro key _
    exact congrArg (fun model => model.prices.get? key) (nothing registered.positions)
  · obtain ⟨price, priced, differs⟩ := not_inSync_iff.mp inSync
    have listed : pegAssetsToSync registered (some asset) = [BASE_USDBC] := by
      simp [pegAssetsToSync, pegAssetsDerivedFrom, usdc]
    have sync := inSync_registerPeg nowSec isUsdbcAsset_usdbc priced
    obtain ⟨plain, _⟩ := steady_inSync config nowSec sync
    obtain ⟨stored, looped, holders⟩ := recomputeTierChangesWith_steady config BASE_USDBC plain
    rw [syncDerivedPegPrices, sync_outOfSync listed priced differs
      (inSync_recomputed config BASE_USDBC sync plain), looped]
    have flag : registered.pricesBootstrapped = true := registers.bootstrapped.trans bootstrapped
    exact noSilentMove_replaced registers flag sync holders

/-- A feed update is complete exactly when the refresh it brings moves nothing
unseen. -/
theorem noSilentMove_feed_iff (bootstrapped : model.pricesBootstrapped = true)
    (asset feed : Address) (answer : Int) (decimals : Nat) (updatedAtSec : Int) :
    NoSilentMove config updatedAtSec model
        (applyFeedPriceUpdate config model asset feed answer decimals updatedAtSec).1
        (applyFeedPriceUpdate config model asset feed answer decimals updatedAtSec).2 ↔
      PriceOperation.FeedUpdateKept config model asset feed answer decimals updatedAtSec := by
  by_cases rejected : answer ≤ 0 ∨ 18 < decimals
  · have unchanged : applyFeedPriceUpdate config model asset feed answer decimals updatedAtSec =
        (model, []) := by
      unfold applyFeedPriceUpdate
      rcases rejected with negative | wide
      · rw [if_pos negative]
      · rw [if_pos (show decimals > 18 from wide), ite_self]
    rw [unchanged]
    refine iff_of_true ?_ ?_
    · rintro key position hf _ _ ⟨given, changed, _⟩
      exact absurd rfl changed
    · intro positive narrow
      omega
  · have positive : 0 < answer := by omega
    have narrow : decimals ≤ 18 := by omega
    have registers : Registers model
        (PriceOperation.registered model asset feed answer decimals updatedAtSec) asset :=
      registers_registerBootstrapPrice model asset _ _
    have applied : applyFeedPriceUpdate config model asset feed answer decimals updatedAtSec =
        let pegged := syncDerivedPegPrices config
          (PriceOperation.registered model asset feed answer decimals updatedAtSec) updatedAtSec
          (some asset)
        let direct := recomputeTierChangesForAsset config pegged.1 asset updatedAtSec
        (direct.1, mergeChanges direct.2 pegged.2) := by
      unfold applyFeedPriceUpdate
      rw [if_neg (by omega), if_neg (by omega)]
      rfl
    rw [applied, PriceOperation.FeedUpdateKept]
    simp only [positive, narrow, forall_const]
    by_cases usdc : asset.toLowerCase = BASE_USDC.toLowerCase
    · exact iff_of_true (noSilentMove_usdc registers bootstrapped usdc) (Or.inl usdc)
    · have unsynced : syncDerivedPegPrices config
          (PriceOperation.registered model asset feed answer decimals updatedAtSec) updatedAtSec
          (some asset) =
            (PriceOperation.registered model asset feed answer decimals updatedAtSec, []) := by
        simp [syncDerivedPegPrices, syncDerivedPegPricesWith, pegAssetsToSync,
          pegAssetsDerivedFrom, usdc]
      rw [unsynced, FeedKept, or_iff_right usdc]
      by_cases usdbc : asset.toLowerCase = BASE_USDBC.toLowerCase
      · refine iff_of_true ?_ (Or.inl usdbc)
        apply noSilentMove_own registers bootstrapped
        intro key different
        exact (refreshPegs_outcome config _ updatedAtSec).prices_other (usdbc ▸ different)
      · rw [or_iff_right usdbc]
        exact noSilentMove_other_iff registers bootstrapped

end Feed

section Operations

variable {config : LocalPositionModelConfig} {model : LocalPositionModel}

/-- A recomputation reports nothing of what its refresh has moved. -/
theorem noSilentMove_recomputeHf_iff (bootstrapped : model.pricesBootstrapped = true)
    (nowSec : Int) :
    NoSilentMove config nowSec model (refreshPegs config model nowSec) [] ↔
      ∀ key position, model.positions.get? key = some position → position.isFullySeeded = true →
        PegKept config model nowSec position := by
  have outcome := refreshPegs_outcome config model nowSec
  have values : ∀ position, (recomputeHf config (refreshPegs config model nowSec) position
      nowSec).2 = valuePosition config (refreshPegs config model nowSec) position nowSec :=
    recomputeHf_after bootstrapped (refreshPegs config model nowSec).positions
  constructor
  · intro complete key position found seeded
    refine (pegKept_iff config model nowSec position).mpr (fun hf repriced valued => ?_)
    obtain ⟨stored, located, _, right⟩ :=
      refresh_keeps_iff bootstrapped outcome found seeded repriced valued
    obtain ⟨final, stands, cached, told⟩ := complete key position hf found seeded repriced
      ((values position).trans valued)
    rw [located, Option.some.injEq] at stands
    subst stands
    refine right.mp ⟨cached, ?_⟩
    by_contra moved
    cases told moved
  · intro kept key position hf found seeded repriced value
    have valued := (values position).symm.trans value
    obtain ⟨stored, located, _, right⟩ :=
      refresh_keeps_iff bootstrapped outcome found seeded repriced valued
    obtain ⟨cached, same⟩ := right.mpr ((pegKept_iff config model nowSec position).mp
      (kept key position found seeded) hf repriced valued)
    exact ⟨stored, located, cached, fun moved => absurd same moved⟩

/-- Nothing is recomputed, so every health factor has to be right already. -/
theorem noSilentMove_gapFill_iff (answers : GapFillAnswers) (nowSec : Int) :
    NoSilentMove config nowSec model (refreshGapFillPrices config model answers nowSec) [] ↔
      PriceOperation.GapFillKept config model answers nowSec := by
  have registers : refreshGapFillPrices config model answers nowSec =
      PriceOperation.gapFilled config model answers nowSec :=
    refreshGapFillPrices_eq config model answers nowSec
  have positions := positions_refreshGapFillPrices config model answers nowSec
  rw [registers] at positions
  rw [registers]
  constructor
  · intro complete key position hf found seeded repriced value
    obtain ⟨stored, located, cached, _⟩ := complete key position hf found seeded repriced value
    rw [positions, found, Option.some.injEq] at located
    rw [← located] at cached
    exact cached.symm
  · intro kept key position hf found seeded repriced value
    refine ⟨position, ?_, (kept key position hf found seeded repriced value).symm,
      fun moved => absurd rfl moved⟩
    rw [positions]
    exact found

/-- No health factor moves unseen, exactly when the operation meets its
condition. -/
theorem noSilentMove_iff (bootstrapped : model.pricesBootstrapped = true)
    (operation : PriceOperation) :
    NoSilentMove config operation.clock model (operation.run config model).1
        (operation.run config model).2 ↔ operation.Kept config model := by
  cases operation with
  | feedPriceUpdate asset feed answer decimals updatedAtSec =>
    exact noSilentMove_feed_iff bootstrapped asset feed answer decimals updatedAtSec
  | priceEvent event nowSec =>
    exact noSilentMove_feed_iff bootstrapped event.asset event.feed event.price _ _
  | recomputeHf position nowSec =>
    simp only [PriceOperation.run, PriceOperation.clock, PriceOperation.Kept,
      recomputeHf_eq bootstrapped]
    exact noSilentMove_recomputeHf_iff bootstrapped nowSec
  | gapFillRefresh answers nowSec => exact noSilentMove_gapFill_iff answers nowSec

end Operations

/-! ## A drop that nobody sees -/

/-- Two AAVE of collateral against a hundred GHO, at 1.6. -/
def gapFillBorrower : AccountSnapshot where
  account := ⟨1, 0⟩
  blockNumber := 700000
  eModeCategoryId := 0
  healthFactorWad := 1600000000000000000
  totalCollateralBase := 20000000000
  totalDebtBase := 10000000000
  liquidationThreshold := 8000
  reserves := [⟨BASE_AAVE, 2 * WAD, 0⟩, ⟨BASE_GHO, 0, 100 * WAD⟩]

/-- A bootstrapped model with that borrower, AAVE at 100 and GHO at 1. -/
def gapFillModel : LocalPositionModel :=
  let reserves := (initial.registerReserve BASE_AAVE 8000).registerReserve BASE_GHO 8000
  let priced := (reserves.registerAavePrice BASE_AAVE 10000000000 ⟨2, 0⟩ 0).registerAavePrice
    BASE_GHO 100000000 ⟨2, 0⟩ 0
  (seedFromOnChainSnapshot defaultConfig priced gapFillBorrower).markPricesBootstrapped

/-- The position as it is stored. -/
def gapFillPosition : UserPosition :=
  (gapFillModel.positions.get? ⟨1, 0⟩).getD (newPosition ⟨1, 0⟩ 700000)

/-- The oracle now has AAVE at 56.25. -/
def gapFillDrop : GapFillAnswers where
  oracle := ⟨2, 0⟩
  aavePrices := some (fun asset =>
    if asset = BASE_AAVE.toLowerCase then some 5625000000
    else if asset = BASE_GHO.toLowerCase then some 100000000
    else none)
  usdbcThrows := false

/-- The condition at that refresh. -/
theorem noSilentMove_iff_gapFillDrop :
    NoSilentMove defaultConfig 300 gapFillModel
        (refreshGapFillPrices defaultConfig gapFillModel gapFillDrop 300) [] ↔
      (PriceOperation.gapFillRefresh gapFillDrop 300).Kept defaultConfig gapFillModel :=
  noSilentMove_iff (by decide +kernel) (.gapFillRefresh gapFillDrop 300)

/-- The borrower has fallen to 0.9, is still stored at 1.6, and nobody is told. -/
theorem gapFill_drop_unseen :
    gapFillModel.pricesBootstrapped = true ∧
      ¬ NoSilentMove defaultConfig 300 gapFillModel
        (refreshGapFillPrices defaultConfig gapFillModel gapFillDrop 300) [] := by
  refine ⟨by decide +kernel, fun complete => ?_⟩
  have found : gapFillModel.positions.get? ⟨1, 0⟩ = some gapFillPosition := by decide +kernel
  obtain ⟨stored, located, cached, _⟩ := complete ⟨1, 0⟩ gapFillPosition 900000000000000000 found
    (by decide +kernel) ⟨BASE_AAVE, by decide +kernel, by decide +kernel⟩ (by decide +kernel)
  rw [positions_refreshGapFillPrices, found, Option.some.injEq] at located
  subst located
  revert cached
  decide +kernel

end LiquidationBot
