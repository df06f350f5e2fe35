import LiquidationBot.PegSync

/-!
# Settling the holders of an asset

A recomputation stores what the health-factor policy allows, and storing it twice
is storing it once. The first holder in a loop refreshes the pegged price; the
loop therefore settles every holder at the refreshed prices and reports it, and
leaves any other position as the refresh has stored it.
-/

namespace LiquidationBot

open LocalPositionModel

/-- The position holds an asset whose registered price has changed. -/
def Repriced (before after : LocalPositionModel) (position : UserPosition) : Prop :=
  ∃ asset : Address, before.prices.get? asset.toLowerCase ≠ after.prices.get? asset.toLowerCase ∧
    positionTouchesAsset position asset = true

/-! ## The health-factor policy settles -/

/-- The cached value or the recomputed one, as `resolveEffectiveHfWad` falls back. -/
theorem fallback_idem (position : UserPosition) (capped : Nat) :
    let fallback :=
      if shouldRejectPerReserveOverwrite position capped then position.cachedHfWad else capped
    (if shouldRejectPerReserveOverwrite { position with cachedHfWad := fallback } capped then
      fallback else capped) = fallback := by
  intro fallback
  by_cases rejected : shouldRejectPerReserveOverwrite position capped = true
  · have kept : fallback = position.cachedHfWad := if_pos rejected
    rw [kept]
    exact if_pos rejected
  · have replaced : fallback = capped := if_neg rejected
    rw [replaced, ite_self]

/-- Storing what the policy allows, and asking it again about the same
recomputation, changes nothing. -/
theorem resolveEffectiveHfWad_idem (position : UserPosition) (hf : Nat) :
    resolveEffectiveHfWad { position with cachedHfWad := resolveEffectiveHfWad position hf } hf =
      resolveEffectiveHfWad position hf := by
  have capped : ∀ cached, capPerReserveHf hf { position with cachedHfWad := cached } =
      capPerReserveHf hf position := fun _ => rfl
  have totals : ∀ cached, aggregateHfWad { position with cachedHfWad := cached } =
      aggregateHfWad position := fun _ => rfl
  have again := fallback_idem position (capPerReserveHf hf position)
  simp only [resolveEffectiveHfWad, capped, totals]
  cases aggregateHfWad position with
  | none => exact again
  | some aggregate =>
    by_cases danger : isDangerZoneHf aggregate = true
    · simp only [danger, if_true]
    · by_cases diverges : position.confidence = .high ∧
          relativeDivergenceBps aggregate (capPerReserveHf hf position) > HF_DIVERGENCE_RATIO_BPS
      · simp only [danger, diverges, Bool.false_eq_true, if_false, and_self, if_true]
      · simp only [danger, diverges, Bool.false_eq_true, if_false]
        exact again

/-! ## Stored health factors after a loop -/

section Outcome

variable {config : LocalPositionModelConfig} {model after : LocalPositionModel} {nowSec : Int}
  {asset key : Address} {position : UserPosition} {hf : Nat}

/-- A position with the health factor that the policy allows. -/
def withHf (position : UserPosition) (hf : Nat) : UserPosition :=
  { position with cachedHfWad := resolveEffectiveHfWad position hf }

theorem withHf_withHf (position : UserPosition) (hf : Nat) :
    withHf (withHf position hf) hf = withHf position hf := by
  simp only [withHf, resolveEffectiveHfWad_idem]

theorem recommitted_ok {value : UserPosition → HfResult} (valued : value position = .ok hf) :
    recommitted value position = some (withHf position hf) := by
  simp only [recommitted, valued, resolveHfFromResult, Option.map_some]
  rfl

theorem settled_ok {value : UserPosition → HfResult} (holds : holdsSeeded asset position = true)
    (valued : value position = .ok hf) : settled value asset position = withHf position hf := by
  rw [settled, if_pos holds, recommitted_ok valued, Option.getD_some]

theorem settled_skip {value : UserPosition → HfResult}
    (skipped : holdsSeeded asset position = false) : settled value asset position = position := by
  rw [settled, skipped]
  rfl

/-- Settling stores the health factor, or leaves a position that holds nothing. -/
theorem settled_cases {value : UserPosition → HfResult} (valued : value position = .ok hf) :
    settled value asset position = position ∨ settled value asset position = withHf position hf := by
  by_cases holds : holdsSeeded asset position = true
  · exact Or.inr (settled_ok holds valued)
  · exact Or.inl (settled_skip (by simpa using holds))

/-- What is reported comes from a holder of the asset, under its own account. -/
theorem mem_reported {value : UserPosition → HfResult} {keys : List Address}
    {positions : Positions} {change : TierChange} :
    change ∈ keys.flatMap (reported config value asset positions) ↔
      ∃ key ∈ keys, ∃ position, positions.get? key = some position ∧
        holdsSeeded asset position = true ∧ ∃ stored, recommitted value position = some stored ∧
          change = toTierChange config stored false := by
  simp only [List.mem_flatMap, reported]
  constructor
  · rintro ⟨key, listed, member⟩
    cases found : positions.get? key with
    | none => simp [found] at member
    | some position =>
      simp only [found] at member
      split at member
      next holds =>
        obtain ⟨stored, committed, rfl⟩ := List.mem_map.mp member
        exact ⟨key, listed, position, found, holds, stored, Option.mem_toList.mp committed, rfl⟩
      next => cases member
  · rintro ⟨key, listed, position, found, holds, stored, committed, rfl⟩
    refine ⟨key, listed, ?_⟩
    simp [found, holds, committed]

theorem account_recommitted {value : UserPosition → HfResult} {stored : UserPosition}
    (committed : recommitted value position = some stored) : stored.account = position.account := by
  obtain ⟨effective, _, rfl⟩ := Option.map_eq_some_iff.mp committed
  rfl

/-- A report under an account is that of the position stored there. -/
theorem reported_of_account {value : UserPosition → HfResult} {keys : List Address}
    {positions : Positions} {change : TierChange} (found : positions.get? key = some position)
    (member : change ∈ keys.flatMap (reported config value asset positions))
    (same : change.account.toLowerCase = key) :
    holdsSeeded asset position = true ∧ ∃ stored, recommitted value position = some stored ∧
      change = toTierChange config stored false := by
  obtain ⟨holderKey, _, holder, stands, holds, stored, committed, rfl⟩ := mem_reported.mp member
  have account : stored.account.toLowerCase = holderKey := by
    rw [account_recommitted committed]
    exact positions.keyed holderKey holder stands
  have here : holderKey = key := account.symm.trans same
  rw [here, found] at stands
  cases stands
  exact ⟨holds, stored, committed, rfl⟩

theorem mem_keys_of_get? {positions : Positions} (found : positions.get? key = some position) :
    key ∈ positions.keys := by
  refine (InsertionMap.mem_keys_iff positions.byAccount key).mpr ?_
  change (positions.get? key).isSome = true
  rw [found]
  rfl

/-! ## The refresh of the peg -/

theorem positionTouchesAsset_congr {position : UserPosition} {given : Address}
    (touched : positionTouchesAsset position given = true)
    (same : given.toLowerCase = asset.toLowerCase) : positionTouchesAsset position asset = true := by
  simpa only [positionTouchesAsset, same] using touched

/-- A refresh gives USDbC a price that it does not have. -/
def PegMoves (config : LocalPositionModelConfig) (model : LocalPositionModel) (nowSec : Int)
    (price : Nat) : Prop :=
  pegPrice model.prices = some price ∧ model.prices.get? BASE_USDBC.toLowerCase ≠ some price ∧
    (pegAssetsToSync model none = [] →
      pegUsdbcPriceFromHealthyReference (pegHealthInput config model nowSec) ≠ none)

/-- Effective prices read the feed state of USDC only. -/
theorem resolveEffectiveAssetPriceWad18_congr {left right : PegReferenceHealthInput}
    (prices : left.prices = right.prices) (usdc : left.feedStates.get? BASE_USDC.toLowerCase =
      right.feedStates.get? BASE_USDC.toLowerCase) (clock : left.nowSec = right.nowSec)
    (multiplier : left.freshnessMultiplier = right.freshnessMultiplier) (asset : Address) :
    resolveEffectiveAssetPriceWad18 asset left = resolveEffectiveAssetPriceWad18 asset right := by
  unfold resolveEffectiveAssetPriceWad18 resolveHealthyPegPriceWad18
    shouldRelaxFreshnessForHealthyPeg
  rw [prices, usdc, clock, multiplier]

/-- A price of the peg is never stale. -/
theorem feedIsStale_peg {feedStates : FeedStates} {state : FeedState}
    (found : feedStates.get? key = some state) (fromPeg : state.source = some .peg) :
    feedIsStale feedStates nowSec key = false := by
  simp [feedIsStale, found, fromPeg]

/-- The value of a position does not depend on the round a peg is registered with. -/
theorem valuePosition_registerBootstrapPrice {left right : Address}
    {leftState rightState : FeedState}
    (sameAsset : left.toLowerCase = right.toLowerCase)
    (notUsdc : right.toLowerCase ≠ BASE_USDC.toLowerCase)
    (leftPeg : leftState.source = some .peg) (rightPeg : rightState.source = some .peg)
    (price : Nat) (position : UserPosition) :
    valuePosition config (model.registerBootstrapPrice left price leftState) position nowSec =
      valuePosition config (model.registerBootstrapPrice right price rightState) position nowSec := by
  have effective : ∀ asset, resolveEffectiveAssetPriceWad18 asset
      (pegHealthInput config (model.registerBootstrapPrice left price leftState) nowSec) =
        resolveEffectiveAssetPriceWad18 asset
          (pegHealthInput config (model.registerBootstrapPrice right price rightState) nowSec) := by
    apply resolveEffectiveAssetPriceWad18_congr
    · simp only [pegHealthInput, registerBootstrapPrice, sameAsset]
    · simp only [pegHealthInput, registerBootstrapPrice, sameAsset]
      rw [InsertionMap.get?_set_other _ _ notUsdc.symm, InsertionMap.get?_set_other _ _ notUsdc.symm]
    · rfl
    · rfl
  have stale : feedIsStale (model.registerBootstrapPrice left price leftState).feedStates nowSec =
      feedIsStale (model.registerBootstrapPrice right price rightState).feedStates nowSec := by
    funext asset
    simp only [registerBootstrapPrice, sameAsset]
    by_cases here : asset = right.toLowerCase
    · subst here
      rw [feedIsStale_peg (InsertionMap.get?_set_same _ _ _) leftPeg,
        feedIsStale_peg (InsertionMap.get?_set_same _ _ _) rightPeg]
    · simp only [feedIsStale, InsertionMap.get?_set_other _ _ here]
  simp only [valuePosition, collectMissingPriceAssets, collectStalePriceAssets, totalDebt,
    weightedCollateral, effective, stale]
  rfl

/-- A refresh moves USDbC to the price of USDC, where it moves it at all. -/
theorem refresh_moves (outcome : PegRefresh config model nowSec after) :
    (∃ price, PegMoves config model nowSec price ∧
      after.prices.get? BASE_USDBC.toLowerCase = some price ∧
      ∀ position, valuePosition config after position nowSec =
        valuePosition config (registerPeg model BASE_USDBC price nowSec) position nowSec) ∨
      after = model ∧ ∀ price, ¬ PegMoves config model nowSec price := by
  cases outcome with
  | idle nothing unmoved =>
    refine Or.inr ⟨rfl, ?_⟩
    rintro price ⟨priced, differs, healthy⟩
    rcases unmoved with inSync | ⟨absent, unhealthy⟩
    · exact differs (inSync price priced)
    · exact healthy absent unhealthy
  | first price state fromPeg absent healthy priced differs =>
    refine Or.inl ⟨price, ⟨priced, differs, fun _ => healthy⟩, InsertionMap.get?_set_same _ _ _, ?_⟩
    exact valuePosition_registerBootstrapPrice rfl usdc_ne_usdbc.symm fromPeg rfl price
  | replaced price pegAsset positions present pegged priced differs holders =>
    have same := toLowerCase_of_isUsdbcAsset pegged
    refine Or.inl ⟨price, ⟨priced, differs, fun absent => absurd absent present⟩, ?_, ?_⟩
    · simp only [registerPeg, registerBootstrapPrice, same]
      exact InsertionMap.get?_set_same _ _ _
    · exact valuePosition_registerBootstrapPrice same usdc_ne_usdbc.symm rfl rfl price

/-- A refresh stores a position as it was, or, when it replaces the price, with
its holders settled at the new one. -/
theorem positions_refresh (bootstrapped : model.pricesBootstrapped = true)
    (outcome : PegRefresh config model nowSec after)
    (found : model.positions.get? key = some position)
    (holds : holdsSeeded BASE_USDBC position = true) (changed : model.prices.get?
      BASE_USDBC.toLowerCase ≠ after.prices.get? BASE_USDBC.toLowerCase)
    (valued : valuePosition config after position nowSec = .ok hf) :
    after.positions.get? key =
      some (if pegAssetsToSync model none = [] then position else withHf position hf) := by
  cases outcome with
  | idle nothing unmoved => exact absurd rfl changed
  | first price state fromPeg absent healthy priced differs =>
    rw [if_pos absent]
    exact found
  | replaced price pegAsset positions present pegged priced differs holders =>
    have same : holdsSeeded pegAsset position = true := by
      rw [← holds]
      simp only [holdsSeeded, positionTouchesAsset, toLowerCase_of_isUsdbcAsset pegged]
    have value : LocalPositionModel.valued config (registerPeg model pegAsset price nowSec) nowSec
        position = .ok hf :=
      (valued_of_bootstrapped (registerPeg model pegAsset price nowSec) bootstrapped position).trans
        valued
    rw [if_neg present]
    exact (holders key).trans (by rw [found, Option.map_some, settled_ok same value])

/-- What a refresh stores of a repriced position, and when it leaves the position
right: a first price has to agree with the stored health factor, a replaced one
has to leave the tier. -/
theorem refresh_keeps_iff (bootstrapped : model.pricesBootstrapped = true)
    (outcome : PegRefresh config model nowSec after)
    (found : model.positions.get? key = some position)
    (seeded : position.isFullySeeded = true) (repriced : Repriced model after position)
    (valued : valuePosition config after position nowSec = .ok hf) :
    ∃ stored, after.positions.get? key = some stored ∧ stored.account = position.account ∧
      (stored.cachedHfWad = resolveEffectiveHfWad position hf ∧
          classifyTier config stored.cachedHfWad = classifyTier config position.cachedHfWad ↔
        if pegAssetsToSync model none = [] then
          resolveEffectiveHfWad position hf = position.cachedHfWad
        else
          classifyTier config (resolveEffectiveHfWad position hf) =
            classifyTier config position.cachedHfWad) := by
  obtain ⟨given, changed, touched⟩ := repriced
  have peg : given.toLowerCase = BASE_USDBC.toLowerCase := by
    by_contra different
    exact changed (outcome.prices_other different).symm
  have holds : holdsSeeded BASE_USDBC position = true := by
    rw [holdsSeeded, seeded, positionTouchesAsset_congr touched peg]
    rfl
  rw [peg] at changed
  have stored := positions_refresh bootstrapped outcome found holds changed valued
  by_cases absent : pegAssetsToSync model none = []
  · rw [if_pos absent] at stored
    refine ⟨position, stored, rfl, ?_⟩
    rw [if_pos absent]
    constructor
    · rintro ⟨same, _⟩
      exact same.symm
    · intro same
      exact ⟨same.symm, rfl⟩
  · rw [if_neg absent] at stored
    refine ⟨withHf position hf, stored, rfl, ?_⟩
    rw [if_neg absent]
    constructor
    · rintro ⟨_, same⟩
      exact same
    · intro same
      exact ⟨rfl, same⟩

/-- In any case a refresh stores the position as it was or settled. -/
theorem positions_refresh_or (bootstrapped : model.pricesBootstrapped = true)
    (outcome : PegRefresh config model nowSec after)
    (found : model.positions.get? key = some position)
    (valued : valuePosition config after position nowSec = .ok hf) :
    ∃ stored, after.positions.get? key = some stored ∧
      (stored = position ∨ stored = withHf position hf) := by
  cases outcome with
  | idle nothing unmoved => exact ⟨position, found, Or.inl rfl⟩
  | first price state fromPeg absent healthy priced differs => exact ⟨position, found, Or.inl rfl⟩
  | replaced price pegAsset positions present pegged priced differs holders =>
    have stored := (holders key).trans (by rw [found, Option.map_some])
    have value : LocalPositionModel.valued config (registerPeg model pegAsset price nowSec) nowSec
        position = .ok hf :=
      (valued_of_bootstrapped (registerPeg model pegAsset price nowSec) bootstrapped
        position).trans valued
    exact ⟨_, stored, settled_cases value⟩

theorem bootstrapped_refresh (outcome : PegRefresh config model nowSec after) :
    after.pricesBootstrapped = model.pricesBootstrapped := by
  cases outcome with
  | idle nothing unmoved => rfl
  | first price state fromPeg absent healthy priced differs => rfl
  | replaced price pegAsset positions present pegged priced differs holders => rfl

theorem sameLedger_refreshPegs (config : LocalPositionModelConfig) (model : LocalPositionModel)
    (nowSec : Int) : SameLedger model (refreshPegs config model nowSec) :=
  (sameLedger_syncDerivedPegPrices config model nowSec none).trans
    (kept_sameLedger.materializeHealthyPegPrices config _ nowSec)

/-- A stored position apart from its health factor. -/
theorem found_of_sameLedger (same : SameLedger model after)
    (found : model.positions.get? key = some position) :
    ∃ stored, after.positions.get? key = some stored ∧ stored.ledger = position.ledger := by
  have ledgers := same.ledgers key
  simp only [ledgerOf, found, Option.map_some] at ledgers
  obtain ⟨stored, located, ledger⟩ := Option.map_eq_some_iff.mp ledgers
  exact ⟨stored, located, ledger⟩

theorem absent_of_sameLedger (same : SameLedger model after)
    (absent : model.positions.get? key = none) : after.positions.get? key = none := by
  have ledgers := same.ledgers key
  simpa [ledgerOf, absent] using ledgers

theorem holdsSeeded_of_ledger {stored : UserPosition} (same : stored.ledger = position.ledger) :
    holdsSeeded asset stored = holdsSeeded asset position := by
  have ledgers : holdsSeeded asset stored.ledger = holdsSeeded asset position.ledger := by rw [same]
  exact ledgers

theorem valuePosition_of_ledger {stored : UserPosition} (same : stored.ledger = position.ledger) :
    valuePosition config model stored nowSec = valuePosition config model position nowSec := by
  have ledgers : valuePosition config model stored.ledger nowSec =
      valuePosition config model position.ledger nowSec := by rw [same]
  exact ledgers

/-! ## The recomputation of an asset's holders -/

/-- The first holder in a loop refreshes the peg; the loop may as well start from
the refreshed model. -/
theorem foldl_refreshed (bootstrapped : model.pricesBootstrapped = true) {keys : List Address}
    (holder : ∃ key ∈ keys, ∃ position, model.positions.get? key = some position ∧
      holdsSeeded asset position = true) :
    keys.foldl (recomputeTierChange
        (fun model position => recomputeHf config model position nowSec) config asset) (model, []) =
      keys.foldl (recomputeTierChange
        (fun model position => recomputeHf config model position nowSec) config asset)
        (refreshPegs config model nowSec, []) := by
  have same := sameLedger_refreshPegs config model nowSec
  have outcome := refreshPegs_outcome config model nowSec
  have idle : refreshPegs config (refreshPegs config model nowSec) nowSec =
      refreshPegs config model nowSec := outcome.idle_after _
  have flag : (refreshPegs config model nowSec).pricesBootstrapped = true :=
    (bootstrapped_refresh outcome).trans bootstrapped
  induction keys with
  | nil =>
    obtain ⟨key, listed, _⟩ := holder
    cases listed
  | cons first rest inductionHypothesis =>
    rw [List.foldl_cons, List.foldl_cons]
    have later : (∀ position, model.positions.get? first = some position →
        holdsSeeded asset position = false) → ∃ key ∈ rest, ∃ position,
          model.positions.get? key = some position ∧ holdsSeeded asset position = true := by
      intro skipped
      obtain ⟨key, listed, position, found, holds⟩ := holder
      rcases List.mem_cons.mp listed with rfl | listed
      · rw [skipped position found] at holds
        cases holds
      · exact ⟨key, listed, position, found, holds⟩
    cases found : model.positions.get? first with
    | none =>
      rw [recomputeTierChange_absent found,
        recomputeTierChange_absent (absent_of_sameLedger same found)]
      exact inductionHypothesis (later (by simp [found]))
    | some position =>
      obtain ⟨stored, located, ledger⟩ := found_of_sameLedger same found
      have holds : holdsSeeded asset stored = holdsSeeded asset position :=
        holdsSeeded_of_ledger ledger
      by_cases here : holdsSeeded asset position = true
      · rw [recomputeTierChange_holder found here,
          recomputeTierChange_holder located (holds.trans here)]
        simp only [recomputeHf_eq bootstrapped, recomputeHf_eq flag, idle,
          valuePosition_of_ledger ledger]
      · have skipped : holdsSeeded asset position = false := by simpa using here
        rw [recomputeTierChange_skip found skipped,
          recomputeTierChange_skip located (holds.trans skipped)]
        refine inductionHypothesis (later ?_)
        rintro other again
        cases found.symm.trans again
        exact skipped

/-- Without a holder nothing is recomputed. -/
theorem recompute_unheld (unheld : ∀ key position, model.positions.get? key = some position →
    holdsSeeded asset position = false) :
    recomputeTierChangesForAsset config model asset nowSec = (model, []) := by
  unfold recomputeTierChangesForAsset recomputeTierChangesWith
  induction model.positions.keys with
  | nil => rfl
  | cons first rest inductionHypothesis =>
    rw [List.foldl_cons]
    cases found : model.positions.get? first with
    | none =>
      rw [recomputeTierChange_absent found]
      exact inductionHypothesis
    | some position =>
      rw [recomputeTierChange_skip found (unheld first position found)]
      exact inductionHypothesis

/-- With a holder, every position is settled at the refreshed prices, and every
holder is reported. -/
theorem recompute_held (config : LocalPositionModelConfig) (nowSec : Int)
    (bootstrapped : model.pricesBootstrapped = true)
    (holder : ∃ key position, model.positions.get? key = some position ∧
      holdsSeeded asset position = true) :
    let refreshed := refreshPegs config model nowSec
    let value := fun position => valuePosition config refreshed position nowSec
    ∃ positions, recomputeTierChangesForAsset config model asset nowSec =
        ({ refreshed with positions := positions },
          model.positions.keys.flatMap (reported config value asset refreshed.positions)) ∧
      ∀ tested, positions.get? tested =
        (refreshed.positions.get? tested).map (settled value asset) := by
  intro refreshed value
  have outcome := refreshPegs_outcome config model nowSec
  have flag : refreshed.pricesBootstrapped = true :=
    (bootstrapped_refresh outcome).trans bootstrapped
  have steady := steady_idle flag outcome.idle_after
  obtain ⟨positions, looped, stored⟩ := foldl_recomputeTierChange_steady config asset steady
    model.positions.byAccount.distinct refreshed.positions []
  refine ⟨positions, ?_, fun tested => ?_⟩
  · obtain ⟨key, position, found, holds⟩ := holder
    refine Eq.trans ?_ looped
    exact foldl_refreshed bootstrapped ⟨key, mem_keys_of_get? found, position, found, holds⟩
  · rw [stored]
    split
    · rfl
    · next unlisted =>
      have missing : model.positions.get? tested = none := by
        rw [← Option.not_isSome_iff_eq_none]
        intro present
        exact unlisted ((InsertionMap.mem_keys_iff _ _).mpr present)
      rw [absent_of_sameLedger (sameLedger_refreshPegs config model nowSec) missing,
        Option.map_none]

section Loop

variable {positions : Positions}

/-- A holder of the asset is stored with its health factor at the refreshed
prices, and reported. -/
theorem holder_settled (bootstrapped : model.pricesBootstrapped = true)
    (settledAll : ∀ tested, positions.get? tested =
      ((refreshPegs config model nowSec).positions.get? tested).map (settled (fun position =>
        valuePosition config (refreshPegs config model nowSec) position nowSec) asset))
    (found : model.positions.get? key = some position) (holds : holdsSeeded asset position = true)
    (valued : valuePosition config (refreshPegs config model nowSec) position nowSec = .ok hf) :
    positions.get? key = some (withHf position hf) ∧
      toTierChange config (withHf position hf) false ∈
        model.positions.keys.flatMap (reported config (fun position =>
          valuePosition config (refreshPegs config model nowSec) position nowSec) asset
            (refreshPegs config model nowSec).positions) := by
  obtain ⟨stored, located, same⟩ :=
    positions_refresh_or bootstrapped (refreshPegs_outcome config model nowSec) found valued
  have ledger : stored.ledger = position.ledger := by
    rcases same with rfl | rfl
    · rfl
    · rfl
  have value := (valuePosition_of_ledger ledger).trans valued
  have stillHolds : holdsSeeded asset stored = true := (holdsSeeded_of_ledger ledger).trans holds
  have final : withHf stored hf = withHf position hf := by
    rcases same with rfl | rfl
    · rfl
    · exact withHf_withHf position hf
  constructor
  · rw [settledAll, located, Option.map_some, settled_ok stillHolds value, final]
  · refine mem_reported.mpr ⟨key, mem_keys_of_get? found, stored, located, stillHolds,
      withHf stored hf, recommitted_ok value, ?_⟩
    rw [final]

/-- Any other position is left as the refresh stores it, and not reported. -/
theorem other_unsettled
    (settledAll : ∀ tested, positions.get? tested =
      ((refreshPegs config model nowSec).positions.get? tested).map (settled (fun position =>
        valuePosition config (refreshPegs config model nowSec) position nowSec) asset))
    (found : model.positions.get? key = some position)
    (skipped : holdsSeeded asset position = false) :
    positions.get? key = (refreshPegs config model nowSec).positions.get? key ∧
      ∀ change ∈ model.positions.keys.flatMap (reported config (fun position =>
          valuePosition config (refreshPegs config model nowSec) position nowSec) asset
            (refreshPegs config model nowSec).positions),
        change.account.toLowerCase ≠ key := by
  obtain ⟨stored, located, ledger⟩ :=
    found_of_sameLedger (sameLedger_refreshPegs config model nowSec) found
  have stillSkipped : holdsSeeded asset stored = false :=
    (holdsSeeded_of_ledger ledger).trans skipped
  constructor
  · rw [settledAll, located, Option.map_some, settled_skip stillSkipped]
  · intro change member same
    obtain ⟨holds, _⟩ := reported_of_account located member same
    rw [stillSkipped] at holds
    cases holds

end Loop

/-- On prices that a refresh leaves as they are, the holders of the asset are
settled and reported, and any other position is neither. -/
theorem recompute_idle (config : LocalPositionModelConfig) (asset : Address)
    (bootstrapped : model.pricesBootstrapped = true) (idle : Idle config model nowSec) :
    let direct := recomputeTierChangesForAsset config model asset nowSec
    ∃ positions, direct.1 = { model with positions := positions } ∧
      (∀ key position hf, model.positions.get? key = some position →
        holdsSeeded asset position = true → valuePosition config model position nowSec = .ok hf →
          positions.get? key = some (withHf position hf) ∧
            toTierChange config (withHf position hf) false ∈ direct.2) ∧
      ∀ key position, model.positions.get? key = some position →
        holdsSeeded asset position = false → positions.get? key = some position ∧
          ∀ change ∈ direct.2, change.account.toLowerCase ≠ key := by
  intro direct
  have refreshed : refreshPegs config model nowSec = model := idle model.positions
  by_cases unheld : ∀ key position, model.positions.get? key = some position →
      holdsSeeded asset position = false
  · have nobody : direct = (model, []) := recompute_unheld unheld
    rw [nobody]
    refine ⟨model.positions, rfl, ?_, ?_⟩
    · intro key position hf found holds
      rw [unheld key position found] at holds
      cases holds
    · intro key position found _
      exact ⟨found, fun change member => nomatch member⟩
  · obtain ⟨positions, looped, settledAll⟩ :=
      recompute_held config nowSec bootstrapped (by simpa using unheld)
    have left : direct = _ := looped
    rw [left]
    refine ⟨positions, by rw [refreshed], ?_, ?_⟩
    · intro key position hf found holds value
      exact holder_settled bootstrapped settledAll found holds (by rw [refreshed]; exact value)
    · intro key position found skipped
      obtain ⟨kept, unreported⟩ := other_unsettled settledAll found skipped
      refine ⟨?_, unreported⟩
      rw [kept, refreshed]
      exact found

end Outcome

end LiquidationBot
