import LiquidationBot.LedgerFrames

/-!
# The refresh of the pegged price

A refresh writes the USDC price under USDbC when the two differ, and recomputes
the holders of USDbC. Once they agree, refreshing again does nothing; so the
recomputations inside a refresh find the prices as they are, and the source's
recursive equations hold.

On prices that no recomputation changes, the recomputation of an asset's holders
settles every holder once, at these prices, and reports it.
-/

namespace LiquidationBot

/-- The price that a refresh gives USDbC. -/
def pegPrice (prices : Prices) : Option Nat := resolvePegPriceWad18 BASE_USDBC prices

/-- The USDbC price follows the USDC price, if that is one to follow. -/
def InSync (prices : Prices) : Prop :=
  ∀ price, pegPrice prices = some price → prices.get? BASE_USDBC.toLowerCase = some price

theorem usdc_ne_usdbc : BASE_USDC.toLowerCase ≠ BASE_USDBC.toLowerCase := by decide

theorem isUsdbcAsset_usdbc : isUsdbcAsset BASE_USDBC = true := by decide

theorem pegPrice_eq (prices : Prices) :
    pegPrice prices = match prices.get? BASE_USDC.toLowerCase with
      | none => none
      | some price => if price ≤ 1 then none else some price := by
  cases found : prices.get? BASE_USDC.toLowerCase with
  | none => simp [pegPrice, resolvePegPriceWad18, pegReferenceAsset, isUsdbcAsset_usdbc, found]
  | some price =>
    simp [pegPrice, resolvePegPriceWad18, pegReferenceAsset, isUsdbcAsset_usdbc, found,
      pegUsdbcFromUsdcPrice]

/-- Every spelling of USDbC follows USDC. -/
theorem resolvePegPriceWad18_eq {asset : Address} (pegged : isUsdbcAsset asset = true)
    (prices : Prices) : resolvePegPriceWad18 asset prices = pegPrice prices := by
  simp [pegPrice, resolvePegPriceWad18, pegReferenceAsset, pegged, isUsdbcAsset_usdbc]

theorem pegPrice_set {prices : Prices} {key : Address} (price : Nat)
    (other : key ≠ BASE_USDC.toLowerCase) : pegPrice (prices.set key price) = pegPrice prices := by
  rw [pegPrice_eq, pegPrice_eq, InsertionMap.get?_set_other _ _ (Ne.symm other)]

/-- A price written under USDbC as the reference gives it. -/
theorem inSync_set {prices : Prices} {price : Nat} (reference : pegPrice prices = some price) :
    InSync (prices.set BASE_USDBC.toLowerCase price) := by
  intro given same
  rw [pegPrice_set _ (Ne.symm usdc_ne_usdbc), reference] at same
  cases same
  exact InsertionMap.get?_set_same _ _ _

theorem pegPrice_of_healthyReference {input : PegReferenceHealthInput} {price : Nat}
    (healthy : pegUsdbcPriceFromHealthyReference input = some price) :
    pegPrice input.prices = some price := by
  rw [pegPrice_eq]
  simp only [pegUsdbcPriceFromHealthyReference] at healthy
  split at healthy
  · cases healthy
  · cases found : input.prices.get? BASE_USDC.toLowerCase with
    | none =>
      rw [found] at healthy
      cases healthy
    | some usdcPrice =>
      rw [found] at healthy
      exact healthy

namespace LocalPositionModel

variable {config : LocalPositionModelConfig} {nowSec : Int}

theorem materialize_inSync {model : LocalPositionModel} (inSync : InSync model.prices) :
    materializeHealthyPegPrices config model nowSec = model := by
  unfold materializeHealthyPegPrices
  split
  · rfl
  · next price healthy =>
    rw [if_pos (inSync price (pegPrice_of_healthyReference healthy))]

theorem isUsdbcAsset_of_mem_pegAssetsToSync {model : LocalPositionModel}
    {reference : Option Address} {pegAsset : Address}
    (member : pegAsset ∈ pegAssetsToSync model reference) : isUsdbcAsset pegAsset = true := by
  cases reference with
  | some reference =>
    simp only [pegAssetsToSync, pegAssetsDerivedFrom] at member
    split at member
    · rw [List.mem_singleton.mp member]
      exact isUsdbcAsset_usdbc
    · cases member
  | none =>
    have referenced := (List.mem_filter.mp member).2
    simp only [pegReferenceAsset] at referenced
    split at referenced
    · assumption
    · cases referenced

section Refresh

variable {recomputeChanges : LocalPositionModel → Address → LocalPositionModel × List TierChange}

/-- The model with the pegged price that a refresh writes. -/
def registerPeg (model : LocalPositionModel) (pegAsset : Address) (price : Nat) (nowSec : Int) :
    LocalPositionModel :=
  model.registerBootstrapPrice pegAsset price
    { answer := (price / 10 ^ 10 : Nat)
      decimals := 8
      updatedAt := nowSec
      feedAddress := BASE_USDC
      asset := pegAsset
      source := some .peg }

theorem toLowerCase_of_isUsdbcAsset {asset : Address} (pegged : isUsdbcAsset asset = true) :
    asset.toLowerCase = BASE_USDBC.toLowerCase := by
  simpa [isUsdbcAsset] using pegged

theorem inSync_registerPeg (nowSec : Int) {model : LocalPositionModel} {pegAsset : Address}
    {price : Nat}
    (pegged : isUsdbcAsset pegAsset = true) (reference : pegPrice model.prices = some price) :
    InSync (registerPeg model pegAsset price nowSec).prices := by
  simp only [registerPeg, registerBootstrapPrice, toLowerCase_of_isUsdbcAsset pegged]
  exact inSync_set reference

theorem syncPegAsset_inSync {state : LocalPositionModel × List TierChange} {pegAsset : Address}
    (pegged : isUsdbcAsset pegAsset = true) (inSync : InSync state.1.prices) :
    syncPegAsset recomputeChanges nowSec state pegAsset = state := by
  unfold syncPegAsset
  rw [resolvePegPriceWad18_eq pegged]
  split
  · next price reference priced _ =>
    rw [if_pos (by rw [toLowerCase_of_isUsdbcAsset pegged]; exact inSync price priced)]
  · rfl

theorem foldl_syncPegAsset_inSync {state : LocalPositionModel × List TierChange}
    {pegAssets : List Address} (pegged : ∀ asset ∈ pegAssets, isUsdbcAsset asset = true)
    (inSync : InSync state.1.prices) :
    pegAssets.foldl (syncPegAsset recomputeChanges nowSec) state = state := by
  induction pegAssets with
  | nil => rfl
  | cons first rest inductionHypothesis =>
    rw [List.foldl_cons, syncPegAsset_inSync (pegged first List.mem_cons_self) inSync]
    exact inductionHypothesis (fun asset member => pegged asset (List.mem_cons_of_mem first member))

/-- A refresh of prices in sync does nothing. -/
theorem sync_inSync {model : LocalPositionModel} (reference : Option Address)
    (inSync : InSync model.prices) :
    syncDerivedPegPricesWith recomputeChanges model nowSec reference = (model, []) :=
  foldl_syncPegAsset_inSync (fun _ => isUsdbcAsset_of_mem_pegAssetsToSync) inSync

/-- The first pegged asset out of sync is written and its holders recomputed; the
others are then in sync. -/
theorem sync_outOfSync {model : LocalPositionModel} {reference : Option Address}
    {first : Address} {rest : List Address} {price : Nat}
    (listed : pegAssetsToSync model reference = first :: rest)
    (priced : pegPrice model.prices = some price)
    (differs : model.prices.get? BASE_USDBC.toLowerCase ≠ some price)
    (kept : InSync (recomputeChanges (registerPeg model first price nowSec) first).1.prices) :
    syncDerivedPegPricesWith recomputeChanges model nowSec reference =
      recomputeChanges (registerPeg model first price nowSec) first := by
  have pegged : ∀ asset ∈ first :: rest, isUsdbcAsset asset = true := by
    intro asset member
    exact isUsdbcAsset_of_mem_pegAssetsToSync (listed ▸ member)
  have isPegged := pegged first List.mem_cons_self
  have written : syncPegAsset recomputeChanges nowSec (model, []) first =
      recomputeChanges (registerPeg model first price nowSec) first := by
    have referenced : pegReferenceAsset first = some BASE_USDC := by
      simp [pegReferenceAsset, isPegged]
    simp only [syncPegAsset, resolvePegPriceWad18_eq isPegged, priced, referenced,
      toLowerCase_of_isUsdbcAsset isPegged, differs, if_false, List.nil_append]
    rfl
  rw [syncDerivedPegPricesWith, listed, List.foldl_cons, written]
  exact foldl_syncPegAsset_inSync
    (fun asset member => pegged asset (List.mem_cons_of_mem first member)) kept

theorem not_inSync_iff {prices : Prices} :
    ¬ InSync prices ↔ ∃ price, pegPrice prices = some price ∧
      prices.get? BASE_USDBC.toLowerCase ≠ some price := by
  simp only [InSync, not_forall, exists_prop]

end Refresh

/-! ## Settling the holders of an asset -/

/-- A fully seeded position that holds the asset. -/
def holdsSeeded (asset : Address) (position : UserPosition) : Bool :=
  position.isFullySeeded && positionTouchesAsset position asset

/-- The position with the health factor that its recomputation stores, if any. -/
def recommitted (value : UserPosition → HfResult) (position : UserPosition) :
    Option UserPosition :=
  (resolveHfFromResult position (value position)).map (fun hf =>
    { position with cachedHfWad := hf })

/-- What a recomputation of an asset's holders makes of a position. -/
def settled (value : UserPosition → HfResult) (asset : Address) (position : UserPosition) :
    UserPosition :=
  if holdsSeeded asset position then (recommitted value position).getD position else position

/-- What it reports of the position stored under a key. -/
def reported (config : LocalPositionModelConfig) (value : UserPosition → HfResult)
    (asset : Address) (positions : Positions) (key : Address) : List TierChange :=
  match positions.get? key with
  | none => []
  | some position =>
      if holdsSeeded asset position then
        (recommitted value position).toList.map (fun stored =>
          toTierChange config stored false)
      else []

/-- A recomputation that values each position by itself and leaves the model alone. -/
def Steady (model : LocalPositionModel) (value : UserPosition → HfResult)
    (recompute : LocalPositionModel → UserPosition → LocalPositionModel × HfResult) : Prop :=
  ∀ positions position, recompute { model with positions := positions } position =
    ({ model with positions := positions }, value position)

section Settle

variable {model : LocalPositionModel} {value : UserPosition → HfResult} {asset : Address}
  {recompute : LocalPositionModel → UserPosition → LocalPositionModel × HfResult}

theorem recomputeTierChange_absent {state : LocalPositionModel × List TierChange} {key : Address}
    (absent : state.1.positions.get? key = none) :
    recomputeTierChange recompute config asset state key = state := by
  simp only [recomputeTierChange, absent]

theorem recomputeTierChange_skip {state : LocalPositionModel × List TierChange} {key : Address}
    {position : UserPosition} (found : state.1.positions.get? key = some position)
    (skipped : holdsSeeded asset position = false) :
    recomputeTierChange recompute config asset state key = state := by
  have test : (!position.isFullySeeded || !positionTouchesAsset position asset) = true := by
    rw [← Bool.not_and, ← holdsSeeded, skipped]
    rfl
  simp only [recomputeTierChange, found, test, if_true]

theorem recomputeTierChange_holder {state : LocalPositionModel × List TierChange} {key : Address}
    {position : UserPosition} (found : state.1.positions.get? key = some position)
    (holds : holdsSeeded asset position = true) :
    recomputeTierChange recompute config asset state key =
      match commitHfFromRecompute (recompute state.1 position).1 key
          (recompute state.1 position).2 with
      | (after, none) => (after, state.2)
      | (after, some committed) => (after, state.2 ++ [toTierChange config committed false]) := by
  have test : (!position.isFullySeeded || !positionTouchesAsset position asset) = false := by
    rw [← Bool.not_and, ← holdsSeeded, holds]
    rfl
  cases committed : commitHfFromRecompute (recompute state.1 position).1 key
      (recompute state.1 position).2 with
  | mk after stored =>
    cases stored with
    | none =>
      simp only [recomputeTierChange, found, test, Bool.false_eq_true, if_false, committed]
    | some effective =>
      simp only [recomputeTierChange, found, test, Bool.false_eq_true, if_false, committed]

/-- One turn settles and reports the position under its key. -/
theorem recomputeTierChange_steady (steady : Steady model value recompute)
    (positions : Positions) (changes : List TierChange) (key : Address) :
    ∃ after, recomputeTierChange recompute config asset
        ({ model with positions := positions }, changes) key =
          ({ model with positions := after },
            changes ++ reported config value asset positions key) ∧
      ∀ tested, after.get? tested =
        if tested = key then (positions.get? key).map (settled value asset)
        else positions.get? tested := by
  have unchanged : ∀ tested, (positions.get? key).map (settled value asset) =
      positions.get? key → positions.get? tested =
        if tested = key then (positions.get? key).map (settled value asset)
        else positions.get? tested := by
    intro tested same
    split
    next here => rw [same, here]
    next => rfl
  cases found : positions.get? key with
  | none =>
    refine ⟨positions, ?_, fun tested => ?_⟩
    · rw [recomputeTierChange_absent found, reported, found, List.append_nil]
    · rw [← found]
      exact unchanged tested (by rw [found, Option.map_none])
  | some position =>
    by_cases holds : holdsSeeded asset position = true
    · rw [recomputeTierChange_holder found holds, steady positions position]
      simp only [commitHfFromRecompute, found, reported, holds, if_true, recommitted]
      cases resolved : resolveHfFromResult position (value position) with
      | none =>
        refine ⟨positions, by simp, fun tested => ?_⟩
        rw [← found]
        apply unchanged
        simp [found, settled, recommitted, resolved]
      | some effective =>
        have here : position.account.toLowerCase = key := positions.keyed key position found
        refine ⟨positions.put { position with cachedHfWad := effective }, by simp, fun tested => ?_⟩
        rw [Positions.get?_put, here]
        simp [settled, holds, recommitted, resolved]
    · have skipped : holdsSeeded asset position = false := by simpa using holds
      refine ⟨positions, ?_, fun tested => ?_⟩
      · rw [recomputeTierChange_skip found skipped]
        simp [reported, found, skipped]
      · rw [← found]
        apply unchanged
        simp [found, settled, skipped]

/-- A loop over distinct keys settles and reports each of them. -/
theorem foldl_recomputeTierChange_steady (config : LocalPositionModelConfig) (asset : Address)
    (steady : Steady model value recompute) {keys : List Address} (distinct : keys.Nodup)
    (positions : Positions)
    (changes : List TierChange) :
    ∃ after, keys.foldl (recomputeTierChange recompute config asset)
        ({ model with positions := positions }, changes) =
          ({ model with positions := after },
            changes ++ keys.flatMap (reported config value asset positions)) ∧
      ∀ tested, after.get? tested =
        if tested ∈ keys then (positions.get? tested).map (settled value asset)
        else positions.get? tested := by
  induction keys generalizing positions changes with
  | nil => exact ⟨positions, by simp, by simp⟩
  | cons key rest inductionHypothesis =>
    obtain ⟨absent, restDistinct⟩ := List.nodup_cons.mp distinct
    obtain ⟨middle, turned, first⟩ :=
      recomputeTierChange_steady steady positions changes key
    obtain ⟨after, looped, settledRest⟩ := inductionHypothesis restDistinct middle
      (changes ++ reported config value asset positions key)
    have later : ∀ tested ∈ rest, middle.get? tested = positions.get? tested := by
      intro tested member
      rw [first, if_neg]
      rintro rfl
      exact absent member
    refine ⟨after, ?_, fun tested => ?_⟩
    · have same : rest.flatMap (reported config value asset middle) =
          rest.flatMap (reported config value asset positions) := by
        apply List.flatMap_congr
        intro tested member
        simp only [reported, later tested member]
      rw [List.foldl_cons, turned, looped, List.flatMap_cons, same, List.append_assoc]
    · rw [settledRest, first]
      by_cases here : tested = key
      · subst here
        simp [absent]
      · simp [here]

/-- The recomputation of an asset's holders settles every position and reports
every holder that it stores a health factor for. -/
theorem recomputeTierChangesWith_steady (config : LocalPositionModelConfig) (asset : Address)
    (steady : Steady model value recompute) :
    ∃ after, recomputeTierChangesWith recompute config model asset =
        ({ model with positions := after },
          model.positions.keys.flatMap (reported config value asset model.positions)) ∧
      ∀ tested, after.get? tested =
        (model.positions.get? tested).map (settled value asset) := by
  obtain ⟨after, looped, stored⟩ := foldl_recomputeTierChange_steady config asset steady
    model.positions.byAccount.distinct model.positions []
  refine ⟨after, looped, fun tested => ?_⟩
  rw [stored]
  split
  · rfl
  · next absent =>
    have missing : model.positions.get? tested = none := by
      rw [← Option.not_isSome_iff_eq_none]
      intro present
      exact absent ((InsertionMap.mem_keys_iff _ _).mpr present)
    rw [missing, Option.map_none]

/-- Two recomputations that value positions alike loop alike. -/
theorem recomputeTierChangesWith_congr
    {other : LocalPositionModel → UserPosition → LocalPositionModel × HfResult}
    (steady : Steady model value recompute) (same : Steady model value other) :
    recomputeTierChangesWith recompute config model asset =
      recomputeTierChangesWith other config model asset := by
  have turns : ∀ (keys : List Address) positions changes,
      keys.foldl (recomputeTierChange recompute config asset)
          ({ model with positions := positions }, changes) =
        keys.foldl (recomputeTierChange other config asset)
          ({ model with positions := positions }, changes) := by
    intro keys
    induction keys with
    | nil => intro _ _; rfl
    | cons key rest inductionHypothesis =>
      intro positions changes
      have step : recomputeTierChange recompute config asset
          ({ model with positions := positions }, changes) key =
            recomputeTierChange other config asset
              ({ model with positions := positions }, changes) key := by
        simp only [recomputeTierChange, steady positions, same positions]
      obtain ⟨after, turned, _⟩ := recomputeTierChange_steady steady positions changes key
      rw [List.foldl_cons, List.foldl_cons, ← step, turned]
      exact inductionHypothesis after _
  exact turns model.positions.keys model.positions []

end Settle

/-! ## The recursive equations -/

/-- What a recomputation of a health factor makes of the prices before it values
the position. -/
def refreshPegs (config : LocalPositionModelConfig) (model : LocalPositionModel) (nowSec : Int) :
    LocalPositionModel :=
  materializeHealthyPegPrices config (syncDerivedPegPrices config model nowSec none).1 nowSec

/-- How a position is valued while the prices stay as they are. -/
def valued (config : LocalPositionModelConfig) (model : LocalPositionModel) (nowSec : Int)
    (position : UserPosition) : HfResult :=
  if !model.pricesBootstrapped then .priceIncomplete (collectPositionAssets position)
  else valuePosition config model position nowSec

theorem valued_of_bootstrapped (model : LocalPositionModel)
    (bootstrapped : model.pricesBootstrapped = true) (position : UserPosition) :
    valued config model nowSec position = valuePosition config model position nowSec := by
  simp [valued, bootstrapped]

theorem recomputeHfWith_idle {sync : LocalPositionModel → LocalPositionModel}
    {model : LocalPositionModel} (synced : sync model = model)
    (materialized : materializeHealthyPegPrices config model nowSec = model)
    (position : UserPosition) :
    recomputeHfWith sync config model position nowSec =
      (model, valued config model nowSec position) := by
  unfold recomputeHfWith valued
  split
  · rfl
  · rw [synced, materialized]

/-- On prices in sync, recomputations are steady with or without the refresh. -/
theorem steady_inSync (config : LocalPositionModelConfig) (nowSec : Int)
    {model : LocalPositionModel} (inSync : InSync model.prices) :
    Steady model (valued config model nowSec)
        (fun model position => recomputeHfWith id config model position nowSec) ∧
      Steady model (valued config model nowSec)
        (fun model position => recomputeHf config model position nowSec) := by
  have materialized : ∀ positions, materializeHealthyPegPrices config
      { model with positions := positions } nowSec = { model with positions := positions } :=
    fun positions => materialize_inSync inSync
  constructor
  · intro positions position
    exact recomputeHfWith_idle rfl (materialized positions) position
  · intro positions position
    refine recomputeHfWith_idle ?_ (materialized positions) position
    rw [syncDerivedPegPrices, sync_inSync none (show InSync
      ({ model with positions := positions } : LocalPositionModel).prices from inSync)]

/-- The prices of a registered peg stay in sync while its holders are recomputed. -/
theorem inSync_recomputed (config : LocalPositionModelConfig) (asset : Address)
    {model : LocalPositionModel} {value : UserPosition → HfResult}
    {recompute : LocalPositionModel → UserPosition → LocalPositionModel × HfResult}
    (inSync : InSync model.prices) (steady : Steady model value recompute) :
    InSync (recomputeTierChangesWith recompute config model asset).1.prices := by
  obtain ⟨after, looped, _⟩ := recomputeTierChangesWith_steady config asset steady
  rw [looped]
  exact inSync

/-- `syncDerivedPegPrices` recomputes with the refreshing recomputation. -/
theorem syncDerivedPegPrices_eq (model : LocalPositionModel) (reference : Option Address) :
    syncDerivedPegPrices config model nowSec reference =
      syncDerivedPegPricesWith
        (fun model asset => recomputeTierChangesForAsset config model asset nowSec) model nowSec
        reference := by
  by_cases inSync : InSync model.prices
  · rw [syncDerivedPegPrices, sync_inSync reference inSync, sync_inSync reference inSync]
  · obtain ⟨price, priced, differs⟩ := not_inSync_iff.mp inSync
    cases listed : pegAssetsToSync model reference with
    | nil => simp only [syncDerivedPegPrices, syncDerivedPegPricesWith, listed, List.foldl_nil]
    | cons first rest =>
      have pegged : isUsdbcAsset first = true :=
        isUsdbcAsset_of_mem_pegAssetsToSync (listed ▸ List.mem_cons_self)
      have registered := inSync_registerPeg nowSec pegged priced
      obtain ⟨plain, refreshing⟩ := steady_inSync config nowSec registered
      have refreshed : syncDerivedPegPricesWith
          (fun model asset => recomputeTierChangesForAsset config model asset nowSec) model nowSec
            reference =
          recomputeTierChangesForAsset config (registerPeg model first price nowSec) first nowSec :=
        sync_outOfSync listed priced differs (inSync_recomputed config first registered refreshing)
      rw [refreshed, syncDerivedPegPrices, sync_outOfSync listed priced differs
        (inSync_recomputed config first registered plain)]
      exact recomputeTierChangesWith_congr plain refreshing

/-! ## What a refresh does -/

/-- A refresh would change nothing, whatever the stored health factors. -/
def Idle (config : LocalPositionModelConfig) (model : LocalPositionModel) (nowSec : Int) : Prop :=
  ∀ positions, refreshPegs config { model with positions := positions } nowSec =
    { model with positions := positions }

/-- The outcomes of a refresh: nothing is left to do, USDbC gets its first price
unseen by its holders, or its price is replaced and its holders are settled. -/
inductive PegRefresh (config : LocalPositionModelConfig) (model : LocalPositionModel)
    (nowSec : Int) : LocalPositionModel → Prop where
  | idle (nothing : Idle config model nowSec) (unmoved : InSync model.prices ∨
      pegAssetsToSync model none = [] ∧
        pegUsdbcPriceFromHealthyReference (pegHealthInput config model nowSec) = none) :
      PegRefresh config model nowSec model
  | first (price : Nat) (state : FeedState) (fromPeg : state.source = some .peg)
      (absent : pegAssetsToSync model none = [])
      (healthy : pegUsdbcPriceFromHealthyReference (pegHealthInput config model nowSec) ≠ none)
      (priced : pegPrice model.prices = some price)
      (differs : model.prices.get? BASE_USDBC.toLowerCase ≠ some price) :
      PegRefresh config model nowSec (model.registerBootstrapPrice BASE_USDBC price state)
  | replaced (price : Nat) (pegAsset : Address) (positions : Positions)
      (present : pegAssetsToSync model none ≠ []) (pegged : isUsdbcAsset pegAsset = true)
      (priced : pegPrice model.prices = some price)
      (differs : model.prices.get? BASE_USDBC.toLowerCase ≠ some price)
      (holders : ∀ key, positions.get? key = (model.positions.get? key).map
        (settled (valued config (registerPeg model pegAsset price nowSec) nowSec) pegAsset)) :
      PegRefresh config model nowSec
        { registerPeg model pegAsset price nowSec with positions := positions }

theorem idle_inSync {model : LocalPositionModel} (inSync : InSync model.prices) :
    Idle config model nowSec := by
  intro positions
  have same : InSync ({ model with positions := positions } : LocalPositionModel).prices := inSync
  rw [refreshPegs, syncDerivedPegPrices, sync_inSync none same, materialize_inSync same]

theorem refreshPegs_outcome (config : LocalPositionModelConfig) (model : LocalPositionModel)
    (nowSec : Int) : PegRefresh config model nowSec (refreshPegs config model nowSec) := by
  by_cases inSync : InSync model.prices
  · have nothing : Idle config model nowSec := idle_inSync inSync
    rw [show refreshPegs config model nowSec = model from nothing model.positions]
    exact .idle nothing (Or.inl inSync)
  · obtain ⟨price, priced, differs⟩ := not_inSync_iff.mp inSync
    cases listed : pegAssetsToSync model none with
    | nil =>
      have synced : ∀ positions,
          (syncDerivedPegPrices config { model with positions := positions } nowSec none).1 =
            { model with positions := positions } := by
        intro positions
        have same : pegAssetsToSync { model with positions := positions } none = [] := listed
        simp only [syncDerivedPegPrices, syncDerivedPegPricesWith, same, List.foldl_nil]
      cases healthy : pegUsdbcPriceFromHealthyReference (pegHealthInput config model nowSec) with
      | none =>
        have nothing : Idle config model nowSec := by
          intro positions
          have same : pegUsdbcPriceFromHealthyReference
              (pegHealthInput config { model with positions := positions } nowSec) = none := healthy
          rw [refreshPegs, synced, materializeHealthyPegPrices, same]
        rw [show refreshPegs config model nowSec = model from nothing model.positions]
        exact .idle nothing (Or.inr ⟨listed, healthy⟩)
      | some given =>
        have same : given = price :=
          Option.some.inj ((pegPrice_of_healthyReference healthy).symm.trans priced)
        rw [refreshPegs, show (syncDerivedPegPrices config model nowSec none).1 = model from
          synced model.positions, materializeHealthyPegPrices, healthy]
        simp only [same, differs, if_false]
        exact .first price _ rfl listed (by simp [healthy]) priced differs
    | cons pegAsset rest =>
      have pegged : isUsdbcAsset pegAsset = true :=
        isUsdbcAsset_of_mem_pegAssetsToSync (listed ▸ List.mem_cons_self)
      have registered := inSync_registerPeg nowSec pegged priced
      obtain ⟨plain, _⟩ := steady_inSync config nowSec registered
      have kept := inSync_recomputed config pegAsset registered plain
      obtain ⟨positions, looped, holders⟩ := recomputeTierChangesWith_steady config pegAsset plain
      rw [refreshPegs, syncDerivedPegPrices, sync_outOfSync listed priced differs kept,
        materialize_inSync kept, looped]
      exact .replaced price pegAsset positions (by simp [listed]) pegged priced differs holders

variable {model after : LocalPositionModel}

namespace PegRefresh

/-- After a refresh nothing is left to do. -/
theorem idle_after (outcome : PegRefresh config model nowSec after) : Idle config after nowSec := by
  cases outcome with
  | idle nothing unmoved => exact nothing
  | first price state fromPeg absent healthy priced differs => exact idle_inSync (inSync_set priced)
  | replaced price pegAsset positions present pegged priced differs holders =>
    exact idle_inSync (inSync_registerPeg nowSec pegged priced)

/-- A refresh touches the price of USDbC only. -/
theorem prices_other (outcome : PegRefresh config model nowSec after) {key : Address}
    (other : key ≠ BASE_USDBC.toLowerCase) : after.prices.get? key = model.prices.get? key := by
  cases outcome with
  | idle nothing unmoved => rfl
  | first price state fromPeg absent healthy priced differs =>
    exact InsertionMap.get?_set_other _ _ other
  | replaced price pegAsset positions present pegged priced differs holders =>
    simp only [registerPeg, registerBootstrapPrice, toLowerCase_of_isUsdbcAsset pegged]
    exact InsertionMap.get?_set_other _ _ other

end PegRefresh

theorem recomputeHf_eq (bootstrapped : model.pricesBootstrapped = true) (position : UserPosition) :
    recomputeHf config model position nowSec =
      (refreshPegs config model nowSec,
        valuePosition config (refreshPegs config model nowSec) position nowSec) := by
  simp only [recomputeHf, recomputeHfWith, bootstrapped, Bool.not_true, Bool.false_eq_true,
    if_false]
  rfl

theorem steady_idle (bootstrapped : model.pricesBootstrapped = true)
    (idle : Idle config model nowSec) :
    Steady model (fun position => valuePosition config model position nowSec)
      (fun model position => recomputeHf config model position nowSec) := by
  intro positions position
  have flag : ({ model with positions := positions } : LocalPositionModel).pricesBootstrapped =
    true := bootstrapped
  simp only [recomputeHf_eq flag, idle positions]
  rfl

end LocalPositionModel

end LiquidationBot
