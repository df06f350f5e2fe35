import LiquidationBot.HolderSettlement

/-!
# The calls of the peg refresh

Recomputing a health factor refreshes the pegged prices, writing a pegged price
recomputes the holders of its asset, and recomputing a holder refreshes again.
Here the three functions call each other as the source writes them, to a given
depth, and return nothing where a call lies deeper. Six calls always suffice:
once a pegged price is written the prices are in sync, so the refresh inside
finds nothing to write, whatever the prices and positions were.

Whether the prices are in sync afterwards depends on whether a call comes to a
refresh. No recomputation refreshes before the prices are bootstrapped, and a
pegged asset without a price gets one only while its reference is healthy.
-/

namespace LiquidationBot

/-- A loop whose turns all return, while an invariant holds that they keep, is
the plain loop. -/
theorem foldlM_eq_foldl {α β : Type} {turnWithin : β → α → Option β} {turn : β → α → β}
    (Inv : β → Prop)
    (returns : ∀ state item, Inv state → turnWithin state item = some (turn state item))
    (keeps : ∀ state item, Inv state → Inv (turn state item)) (items : List α) {state : β}
    (start : Inv state) : items.foldlM turnWithin state = some (items.foldl turn state) := by
  induction items generalizing state with
  | nil => rfl
  | cons item rest inductionHypothesis =>
    rw [List.foldlM_cons, returns state item start, List.foldl_cons]
    exact inductionHypothesis (keeps state item start)

/-- Overwriting a stored value moves no key. -/
theorem InsertionMap.keys_set_of_has {κ ν : Type} [DecidableEq κ] {map : InsertionMap κ ν} {key : κ}
    (stored : InsertionMap.has map key = true) (value : ν) :
    InsertionMap.keys (InsertionMap.set map key value) = InsertionMap.keys map := by
  obtain ⟨entries, distinct⟩ := map
  have kept : (InsertionMap.insert entries key value).map Prod.fst = entries.map Prod.fst := by
    replace stored : (InsertionMap.lookup entries key).isSome = true := stored
    clear distinct
    induction entries with
    | nil => simp [InsertionMap.lookup] at stored
    | cons entry rest inductionHypothesis =>
      obtain ⟨other, old⟩ := entry
      by_cases same : other = key
      · simp [InsertionMap.insert, same]
      · simp only [InsertionMap.lookup, same, if_false] at stored
        simp [InsertionMap.insert, same, inductionHypothesis stored]
  exact kept

namespace LocalPositionModel

/-! ## The calls, to a given depth -/

/-- One turn of the loop of `recomputeTierChangesForAsset`, around a
recomputation that may not return. -/
def recomputeTierChangeWithin
    (recompute : LocalPositionModel → UserPosition → Option (LocalPositionModel × HfResult))
    (config : LocalPositionModelConfig) (asset : Address)
    (state : LocalPositionModel × List TierChange) (accountKey : Address) :
    Option (LocalPositionModel × List TierChange) :=
  match state.1.positions.get? accountKey with
  | none => some state
  | some position =>
      if !position.isFullySeeded || !positionTouchesAsset position asset then some state
      else do
        let recomputed ← recompute state.1 position
        match commitHfFromRecompute recomputed.1 accountKey recomputed.2 with
        | (model, none) => some (model, state.2)
        | (model, some committed) =>
            some (model, state.2 ++ [toTierChange config committed false])

/-- One turn of the loop of `syncDerivedPegPrices`, around a recomputation of
tier changes that may not return. -/
def syncPegAssetWithin
    (recomputeChanges : LocalPositionModel → Address →
      Option (LocalPositionModel × List TierChange))
    (nowSec : Int) (state : LocalPositionModel × List TierChange) (pegAsset : Address) :
    Option (LocalPositionModel × List TierChange) :=
  match resolvePegPriceWad18 pegAsset state.1.prices, pegReferenceAsset pegAsset with
  | some pegPrice, some reference =>
      if state.1.prices.get? pegAsset.toLowerCase = some pegPrice then some state
      else do
        let recomputed ← recomputeChanges
          (state.1.registerBootstrapPrice pegAsset pegPrice
            { answer := (pegPrice / 10 ^ 10 : Nat)
              decimals := 8
              updatedAt := nowSec
              feedAddress := reference
              asset := pegAsset
              source := some .peg })
          pegAsset
        some (recomputed.1, state.2 ++ recomputed.2)
  | _, _ => some state

mutual

/-- `recomputeHf`, with calls to the given depth. -/
def recomputeHfWithin (config : LocalPositionModelConfig) (nowSec : Int) :
    Nat → LocalPositionModel → UserPosition → Option (LocalPositionModel × HfResult)
  | 0, _, _ => none
  | depth + 1, model, position =>
      if !model.pricesBootstrapped then
        some (model, .priceIncomplete (collectPositionAssets position))
      else do
        let synced ← syncDerivedPegPricesWithin config nowSec depth model none
        let refreshed := materializeHealthyPegPrices config synced.1 nowSec
        some (refreshed, valuePosition config refreshed position nowSec)

/-- `syncDerivedPegPrices`, with calls to the given depth. -/
def syncDerivedPegPricesWithin (config : LocalPositionModelConfig) (nowSec : Int) :
    Nat → LocalPositionModel → Option Address → Option (LocalPositionModel × List TierChange)
  | 0, _, _ => none
  | depth + 1, model, updatedReferenceAsset =>
      (pegAssetsToSync model updatedReferenceAsset).foldlM
        (syncPegAssetWithin (recomputeTierChangesForAssetWithin config nowSec depth) nowSec)
        (model, [])

/-- `recomputeTierChangesForAsset`, with calls to the given depth. -/
def recomputeTierChangesForAssetWithin (config : LocalPositionModelConfig) (nowSec : Int) :
    Nat → LocalPositionModel → Address → Option (LocalPositionModel × List TierChange)
  | 0, _, _ => none
  | depth + 1, model, asset =>
      model.positions.keys.foldlM
        (recomputeTierChangeWithin (recomputeHfWithin config nowSec depth) config asset)
        (model, [])

end

/-- The model with the price of an accepted feed update. -/
def withFeedPrice (model : LocalPositionModel) (asset feed : Address) (answer : Int)
    (decimals : Nat) (updatedAtSec : Int) : LocalPositionModel :=
  model.registerBootstrapPrice asset (answer.toNat * 10 ^ (18 - decimals))
    { answer := answer
      decimals := decimals
      updatedAt := updatedAtSec
      feedAddress := feed
      asset := asset
      source := none }

/-- `applyFeedPriceUpdate`, with calls to the given depth. -/
def applyFeedPriceUpdateWithin (config : LocalPositionModelConfig) (updatedAtSec : Int)
    (depth : Nat) (model : LocalPositionModel) (asset feed : Address) (answer : Int)
    (decimals : Nat) : Option (LocalPositionModel × List TierChange) :=
  if answer ≤ 0 then some (model, [])
  else if decimals > 18 then some (model, [])
  else do
    let pegged ← syncDerivedPegPricesWithin config updatedAtSec depth
      (model.withFeedPrice asset feed answer decimals updatedAtSec) (some asset)
    let direct ← recomputeTierChangesForAssetWithin config updatedAtSec depth pegged.1 asset
    some (direct.1, mergeChanges direct.2 pegged.2)

/-! ## The calls return -/

section Turns

variable {config : LocalPositionModelConfig} {nowSec : Int}

/-- A turn returns where its recomputation does. -/
theorem recomputeTierChangeWithin_eq {asset : Address}
    {recomputeWithin : LocalPositionModel → UserPosition → Option (LocalPositionModel × HfResult)}
    {recompute : LocalPositionModel → UserPosition → LocalPositionModel × HfResult}
    {state : LocalPositionModel × List TierChange} (accountKey : Address)
    (returns : ∀ position, recomputeWithin state.1 position = some (recompute state.1 position)) :
    recomputeTierChangeWithin recomputeWithin config asset state accountKey =
      some (recomputeTierChange recompute config asset state accountKey) := by
  cases found : state.1.positions.get? accountKey with
  | none => simp only [recomputeTierChangeWithin, recomputeTierChange, found]
  | some position =>
    simp only [recomputeTierChangeWithin, recomputeTierChange, found, returns]
    split
    · rfl
    · simp only [Option.bind_eq_bind, Option.bind_some]
      cases commitHfFromRecompute (recompute state.1 position).1 accountKey
          (recompute state.1 position).2 with
      | mk after stored =>
        cases stored with
        | none => rfl
        | some committed => rfl

/-- A peg that resolves to a price is one to USDC, at the pegged price. -/
theorem peg_of_resolvePegPriceWad18 {asset : Address} {prices : Prices} {price : Nat}
    (priced : resolvePegPriceWad18 asset prices = some price) :
    isUsdbcAsset asset = true ∧ pegReferenceAsset asset = some BASE_USDC ∧
      pegPrice prices = some price := by
  have pegged := isUsdbcAsset_of_resolvePegPriceWad18 priced
  refine ⟨pegged, by simp [pegReferenceAsset, pegged], ?_⟩
  rw [← priced, resolvePegPriceWad18_eq pegged]

theorem syncPegAssetWithin_eq
    {changesWithin : LocalPositionModel → Address →
      Option (LocalPositionModel × List TierChange)}
    {changes : LocalPositionModel → Address → LocalPositionModel × List TierChange}
    (returns : ∀ model asset, InSync model.prices →
      changesWithin model asset = some (changes model asset))
    (state : LocalPositionModel × List TierChange) (pegAsset : Address) :
    syncPegAssetWithin changesWithin nowSec state pegAsset =
      some (syncPegAsset changes nowSec state pegAsset) := by
  cases priced : resolvePegPriceWad18 pegAsset state.1.prices with
  | none => simp only [syncPegAssetWithin, syncPegAsset, priced]
  | some price =>
    obtain ⟨pegged, referenced, written⟩ := peg_of_resolvePegPriceWad18 priced
    by_cases same : state.1.prices.get? pegAsset.toLowerCase = some price
    · simp only [syncPegAssetWithin, syncPegAsset, priced, referenced, same, if_true]
    · have returned := returns _ pegAsset (inSync_registerPeg nowSec pegged written)
      rw [registerPeg] at returned
      simp only [syncPegAssetWithin, syncPegAsset, priced, referenced, same, if_false, returned,
        Option.bind_eq_bind, Option.bind_some]

theorem syncPegAssetWithin_inSync
    {changesWithin : LocalPositionModel → Address →
      Option (LocalPositionModel × List TierChange)}
    {state : LocalPositionModel × List TierChange} (inSync : InSync state.1.prices)
    (pegAsset : Address) :
    syncPegAssetWithin changesWithin nowSec state pegAsset = some state := by
  cases priced : resolvePegPriceWad18 pegAsset state.1.prices with
  | none => simp only [syncPegAssetWithin, priced]
  | some price =>
    obtain ⟨pegged, referenced, written⟩ := peg_of_resolvePegPriceWad18 priced
    have same : state.1.prices.get? pegAsset.toLowerCase = some price := by
      rw [toLowerCase_of_isUsdbcAsset pegged]
      exact inSync price written
    simp only [syncPegAssetWithin, priced, referenced, same, if_true]

/-- On prices in sync a refresh finds nothing to write, so nothing is called. -/
theorem syncDerivedPegPricesWithin_inSync {model : LocalPositionModel}
    (inSync : InSync model.prices) (depth : Nat) (reference : Option Address) :
    syncDerivedPegPricesWithin config nowSec (depth + 1) model reference = some (model, []) := by
  rw [syncDerivedPegPricesWithin]
  induction pegAssetsToSync model reference with
  | nil => rfl
  | cons pegAsset rest inductionHypothesis =>
    rw [List.foldlM_cons, syncPegAssetWithin_inSync inSync]
    exact inductionHypothesis

theorem recomputeHfWithin_inSync {model : LocalPositionModel} (inSync : InSync model.prices)
    (depth : Nat) (position : UserPosition) :
    recomputeHfWithin config nowSec (depth + 2) model position =
      some (recomputeHf config model position nowSec) := by
  have synced : syncDerivedPegPrices config model nowSec none = (model, []) :=
    sync_inSync none inSync
  rw [recomputeHfWithin, recomputeHf, recomputeHfWith, synced]
  split
  · rfl
  · rw [syncDerivedPegPricesWithin_inSync inSync]
    rfl

/-- On prices in sync each holder's recomputation returns and leaves the prices. -/
theorem recomputeTierChangesForAssetWithin_inSync {model : LocalPositionModel}
    (inSync : InSync model.prices) (depth : Nat) (asset : Address) :
    recomputeTierChangesForAssetWithin config nowSec (depth + 3) model asset =
      some (recomputeTierChangesForAsset config model asset nowSec) := by
  refine foldlM_eq_foldl (fun state => InSync state.1.prices) ?_ ?_ _ inSync
  · intro state accountKey stateInSync
    exact recomputeTierChangeWithin_eq accountKey (recomputeHfWithin_inSync stateInSync depth)
  · intro state accountKey stateInSync
    obtain ⟨_, steady⟩ := steady_inSync config nowSec stateInSync
    have turned : recomputeTierChange (fun model position =>
        recomputeHf config model position nowSec) config asset state accountKey = _ :=
      (recomputeTierChange_steady steady state.1.positions state.2 accountKey).choose_spec.1
    rw [turned]
    exact stateInSync

/-! Whatever the prices, the first one written brings them into sync; so a
refresh nests three calls below itself. -/

theorem syncDerivedPegPricesWithin_eq (config : LocalPositionModelConfig) (nowSec : Int)
    (depth : Nat) (model : LocalPositionModel) (reference : Option Address) :
    syncDerivedPegPricesWithin config nowSec (depth + 4) model reference =
      some (syncDerivedPegPrices config model nowSec reference) := by
  rw [syncDerivedPegPricesWithin, syncDerivedPegPrices_eq, syncDerivedPegPricesWith]
  refine foldlM_eq_foldl (fun _ => True) ?_ (fun _ _ _ => trivial) _ trivial
  intro state pegAsset _
  refine syncPegAssetWithin_eq ?_ state pegAsset
  intro registered asset inSync
  exact recomputeTierChangesForAssetWithin_inSync inSync depth asset

theorem recomputeHfWithin_eq (config : LocalPositionModelConfig) (nowSec : Int) (depth : Nat)
    (model : LocalPositionModel) (position : UserPosition) :
    recomputeHfWithin config nowSec (depth + 5) model position =
      some (recomputeHf config model position nowSec) := by
  rw [recomputeHfWithin, recomputeHf, recomputeHfWith]
  split
  · rfl
  · rw [syncDerivedPegPricesWithin_eq]
    rfl

theorem recomputeTierChangesForAssetWithin_eq (config : LocalPositionModelConfig) (nowSec : Int)
    (depth : Nat) (model : LocalPositionModel) (asset : Address) :
    recomputeTierChangesForAssetWithin config nowSec (depth + 6) model asset =
      some (recomputeTierChangesForAsset config model asset nowSec) := by
  refine foldlM_eq_foldl (fun _ => True) ?_ (fun _ _ _ => trivial) _ trivial
  intro state accountKey _
  exact recomputeTierChangeWithin_eq accountKey
    (recomputeHfWithin_eq config nowSec depth state.1)

theorem applyFeedPriceUpdateWithin_eq (config : LocalPositionModelConfig) (updatedAtSec : Int)
    (depth : Nat) (model : LocalPositionModel) (asset feed : Address) (answer : Int)
    (decimals : Nat) :
    applyFeedPriceUpdateWithin config updatedAtSec (depth + 6) model asset feed answer decimals =
      some (applyFeedPriceUpdate config model asset feed answer decimals updatedAtSec) := by
  unfold applyFeedPriceUpdateWithin applyFeedPriceUpdate
  split
  · rfl
  · split
    · rfl
    · rw [syncDerivedPegPricesWithin_eq config updatedAtSec (depth + 2)]
      simp only [Option.bind_eq_bind, Option.bind_some, recomputeTierChangesForAssetWithin_eq]
      rfl

end Turns

/-! ## Prices that follow their references -/

/-- Every pegged asset whose reference has a usable price has exactly that price. -/
def FollowsReferences (prices : Prices) : Prop :=
  ∀ asset reference price, pegReferenceAsset asset = some reference →
    prices.get? reference.toLowerCase = some price → 1 < price →
      prices.get? asset.toLowerCase = some price

theorem followsReferences_iff (prices : Prices) : FollowsReferences prices ↔ InSync prices := by
  constructor
  · intro follows price priced
    rw [pegPrice_eq] at priced
    cases stored : prices.get? BASE_USDC.toLowerCase with
    | none => simp [stored] at priced
    | some referencePrice =>
      have usable : 1 < referencePrice ∧ referencePrice = price := by simpa [stored] using priced
      have referenced : pegReferenceAsset BASE_USDBC = some BASE_USDC := by decide
      rw [← usable.2]
      exact follows BASE_USDBC BASE_USDC referencePrice referenced stored usable.1
  · intro inSync asset reference price referenced stored usable
    have derived : isUsdbcAsset asset = true ∧ BASE_USDC = reference := by
      simpa [pegReferenceAsset] using referenced
    have priced : pegPrice prices = some price := by
      rw [pegPrice_eq, derived.2, stored]
      exact if_neg (Nat.not_le.mpr usable)
    rw [toLowerCase_of_isUsdbcAsset derived.1]
    exact inSync price priced

/-- A recomputation comes to a refresh that can write: the prices are
bootstrapped, and a pegged asset has a price or its reference is healthy. -/
def Refreshes (config : LocalPositionModelConfig) (model : LocalPositionModel) (nowSec : Int) :
    Prop :=
  model.pricesBootstrapped = true ∧ (pegAssetsToSync model none ≠ [] ∨
    pegUsdbcPriceFromHealthyReference (pegHealthInput config model nowSec) ≠ none)

/-- A fully seeded position holds the asset. -/
def Held (model : LocalPositionModel) (asset : Address) : Prop :=
  ∃ key position, model.positions.get? key = some position ∧ holdsSeeded asset position = true

section Prices

variable {config : LocalPositionModelConfig} {model : LocalPositionModel} {nowSec : Int}

theorem inSync_refreshPegs_iff :
    InSync (refreshPegs config model nowSec).prices ↔
      InSync model.prices ∨ pegAssetsToSync model none ≠ [] ∨
        pegUsdbcPriceFromHealthyReference (pegHealthInput config model nowSec) ≠ none := by
  have outcome := refreshPegs_outcome config model nowSec
  generalize refreshPegs config model nowSec = after at outcome ⊢
  cases outcome with
  | idle nothing unmoved =>
    constructor
    · exact Or.inl
    · intro settles
      rcases unmoved with inSync | ⟨absent, unhealthy⟩
      · exact inSync
      · simpa [absent, unhealthy] using settles
  | first price state fromPeg absent healthy priced differs =>
    exact iff_of_true (inSync_set priced) (Or.inr (Or.inr healthy))
  | replaced price pegAsset positions present pegged priced differs holders =>
    exact iff_of_true (inSync_registerPeg nowSec pegged priced) (Or.inr (Or.inl present))

theorem recomputeHf_unbootstrapped (waiting : model.pricesBootstrapped = false)
    (position : UserPosition) :
    recomputeHf config model position nowSec =
      (model, .priceIncomplete (collectPositionAssets position)) := by
  simp [recomputeHf, recomputeHfWith, waiting]

theorem inSync_recomputeHf_iff (position : UserPosition) :
    InSync (recomputeHf config model position nowSec).1.prices ↔
      InSync model.prices ∨ Refreshes config model nowSec := by
  cases bootstrapped : model.pricesBootstrapped with
  | true =>
    rw [recomputeHf_eq bootstrapped, inSync_refreshPegs_iff, Refreshes]
    simp only [bootstrapped, true_and]
  | false =>
    rw [recomputeHf_unbootstrapped bootstrapped, Refreshes]
    simp [bootstrapped]

theorem inSync_syncDerivedPegPrices_iff (reference : Option Address) :
    InSync (syncDerivedPegPrices config model nowSec reference).1.prices ↔
      InSync model.prices ∨ pegAssetsToSync model reference ≠ [] := by
  by_cases inSync : InSync model.prices
  · rw [syncDerivedPegPrices, sync_inSync reference inSync]
    exact iff_of_true inSync (Or.inl inSync)
  · cases listed : pegAssetsToSync model reference with
    | nil => simp [syncDerivedPegPrices, syncDerivedPegPricesWith, listed]
    | cons first rest =>
      obtain ⟨price, priced, differs⟩ := not_inSync_iff.mp inSync
      have pegged : isUsdbcAsset first = true :=
        isUsdbcAsset_of_mem_pegAssetsToSync (listed ▸ List.mem_cons_self)
      obtain ⟨plain, _⟩ := steady_inSync config nowSec (inSync_registerPeg nowSec pegged priced)
      have kept := inSync_recomputed config first (inSync_registerPeg nowSec pegged priced) plain
      rw [syncDerivedPegPrices, sync_outOfSync listed priced differs kept]
      exact iff_of_true kept (Or.inr (List.cons_ne_nil first rest))

/-- The first holder's recomputation is the one that refreshes. -/
theorem inSync_recomputeTierChangesForAsset_iff (asset : Address) :
    InSync (recomputeTierChangesForAsset config model asset nowSec).1.prices ↔
      InSync model.prices ∨ Held model asset ∧ Refreshes config model nowSec := by
  by_cases held : Held model asset
  · cases bootstrapped : model.pricesBootstrapped with
    | true =>
      obtain ⟨positions, recomputed, _⟩ := recompute_held config nowSec bootstrapped held
      rw [recomputed, inSync_refreshPegs_iff, Refreshes]
      simp only [held, bootstrapped, true_and]
    | false =>
      have steady : Steady model (fun position => .priceIncomplete (collectPositionAssets position))
          (fun model position => recomputeHf config model position nowSec) := by
        intro positions position
        have flag : ({ model with positions := positions } : LocalPositionModel).pricesBootstrapped =
          false := bootstrapped
        exact recomputeHf_unbootstrapped flag position
      obtain ⟨after, recomputed, _⟩ := recomputeTierChangesWith_steady config asset steady
      rw [recomputeTierChangesForAsset, recomputed, Refreshes]
      simp [bootstrapped]
  · have unheld : ∀ key position, model.positions.get? key = some position →
        holdsSeeded asset position = false := by
      intro key position found
      by_contra holds
      exact held ⟨key, position, found, by simpa using holds⟩
    rw [recompute_unheld unheld]
    simp [held]

end Prices

/-! ## What a call leaves -/

/-- The loops over the position map see the entries they started with: no call
adds, removes or moves one. -/
theorem kept_keys : Kept (fun before after => after.positions.keys = before.positions.keys) where
  refl := fun _ => rfl
  trans := fun first second => second.trans first
  commit := by
    intro model key hfResult
    unfold commitHfFromRecompute
    split
    · rfl
    · next position found =>
      split
      · rfl
      · have here : position.account.toLowerCase = key := model.positions.keyed key position found
        refine InsertionMap.keys_set_of_has ?_ _
        rw [here]
        exact (InsertionMap.mem_keys_iff _ _).mp (mem_keys_of_get? found)
  peg := fun _ _ _ _ _ => rfl

/-- The calls by which the recursion is entered. -/
inductive PegCall where
  | recomputeHf (position : UserPosition)
  | syncDerivedPegPrices (updatedReferenceAsset : Option Address)
  | recomputeTierChangesForAsset (asset : Address)
  | applyFeedPriceUpdate (asset feed : Address) (answer : Int) (decimals : Nat)

namespace PegCall

/-- The model that a call leaves, with calls to the given depth. -/
def runWithin (config : LocalPositionModelConfig) (nowSec : Int) (depth : Nat)
    (model : LocalPositionModel) : PegCall → Option LocalPositionModel
  | .recomputeHf position => (recomputeHfWithin config nowSec depth model position).map Prod.fst
  | .syncDerivedPegPrices updatedReferenceAsset =>
      (syncDerivedPegPricesWithin config nowSec depth model updatedReferenceAsset).map Prod.fst
  | .recomputeTierChangesForAsset asset =>
      (recomputeTierChangesForAssetWithin config nowSec depth model asset).map Prod.fst
  | .applyFeedPriceUpdate asset feed answer decimals =>
      (applyFeedPriceUpdateWithin config nowSec depth model asset feed answer decimals).map
        Prod.fst

/-- The model that a call leaves. -/
def run (config : LocalPositionModelConfig) (nowSec : Int) (model : LocalPositionModel) :
    PegCall → LocalPositionModel
  | .recomputeHf position => (LocalPositionModel.recomputeHf config model position nowSec).1
  | .syncDerivedPegPrices updatedReferenceAsset =>
      (LocalPositionModel.syncDerivedPegPrices config model nowSec updatedReferenceAsset).1
  | .recomputeTierChangesForAsset asset =>
      (LocalPositionModel.recomputeTierChangesForAsset config model asset nowSec).1
  | .applyFeedPriceUpdate asset feed answer decimals =>
      (LocalPositionModel.applyFeedPriceUpdate config model asset feed answer decimals nowSec).1

/-- The model that the first refresh of a call finds: an accepted feed update has
written its price. -/
def entered (nowSec : Int) (model : LocalPositionModel) : PegCall → LocalPositionModel
  | .applyFeedPriceUpdate asset feed answer decimals =>
      if 0 < answer ∧ decimals ≤ 18 then model.withFeedPrice asset feed answer decimals nowSec
      else model
  | _ => model

/-- Whether a call comes to a refresh that can write. -/
def Reaches (config : LocalPositionModelConfig) (nowSec : Int) (model : LocalPositionModel) :
    PegCall → Prop
  | .recomputeHf _ => Refreshes config model nowSec
  | .syncDerivedPegPrices updatedReferenceAsset =>
      pegAssetsToSync model updatedReferenceAsset ≠ []
  | .recomputeTierChangesForAsset asset => Held model asset ∧ Refreshes config model nowSec
  | .applyFeedPriceUpdate asset feed answer decimals =>
      (0 < answer ∧ decimals ≤ 18) ∧ (pegAssetsDerivedFrom asset ≠ [] ∨
        Held model asset ∧
          Refreshes config (model.withFeedPrice asset feed answer decimals nowSec) nowSec)

variable {config : LocalPositionModelConfig} {model : LocalPositionModel} {nowSec : Int}

theorem runWithin_eq (call : PegCall) {depth : Nat} (enough : 6 ≤ depth) :
    call.runWithin config nowSec depth model = some (call.run config nowSec model) := by
  obtain ⟨extra, rfl⟩ := Nat.exists_eq_add_of_le' enough
  cases call with
  | recomputeHf position =>
    rw [runWithin, recomputeHfWithin_eq config nowSec (extra + 1)]
    rfl
  | syncDerivedPegPrices updatedReferenceAsset =>
    rw [runWithin, syncDerivedPegPricesWithin_eq config nowSec (extra + 2)]
    rfl
  | recomputeTierChangesForAsset asset =>
    rw [runWithin, recomputeTierChangesForAssetWithin_eq]
    rfl
  | applyFeedPriceUpdate asset feed answer decimals =>
    rw [runWithin, applyFeedPriceUpdateWithin_eq]
    rfl

section Feed

variable {asset feed : Address} {answer : Int} {decimals : Nat}

/-- An accepted update is a refresh, then the recomputation of the asset's own holders. -/
theorem run_accepted (accepted : 0 < answer ∧ decimals ≤ 18) :
    (applyFeedPriceUpdate asset feed answer decimals).run config nowSec model =
      (LocalPositionModel.recomputeTierChangesForAsset config
        (LocalPositionModel.syncDerivedPegPrices config
          (model.withFeedPrice asset feed answer decimals nowSec) nowSec (some asset)).1
        asset nowSec).1 := by
  simp only [run, LocalPositionModel.applyFeedPriceUpdate, Int.not_le.mpr accepted.1,
    Nat.not_lt.mpr accepted.2, if_false]
  rfl

theorem run_rejected (rejected : ¬ (0 < answer ∧ decimals ≤ 18)) :
    (applyFeedPriceUpdate asset feed answer decimals).run config nowSec model = model := by
  simp only [run, LocalPositionModel.applyFeedPriceUpdate]
  by_cases positive : answer ≤ 0
  · rw [if_pos positive]
  · have overflow : decimals > 18 := by omega
    rw [if_neg positive, if_pos overflow]

end Feed

theorem keys_run (call : PegCall) :
    (call.run config nowSec model).positions.keys = model.positions.keys := by
  cases call with
  | recomputeHf position => exact kept_keys.recomputeHf config model position nowSec
  | syncDerivedPegPrices updatedReferenceAsset =>
    exact kept_keys.syncDerivedPegPrices config model nowSec updatedReferenceAsset
  | recomputeTierChangesForAsset asset =>
    exact kept_keys.recomputeTierChangesForAsset config model asset nowSec
  | applyFeedPriceUpdate asset feed answer decimals =>
    by_cases accepted : 0 < answer ∧ decimals ≤ 18
    · rw [run_accepted accepted]
      exact (kept_keys.recomputeTierChangesForAsset config _ asset nowSec).trans
        (kept_keys.syncDerivedPegPrices config _ nowSec _)
    · rw [run_rejected accepted]

/-- A call leaves prices in sync if they were, or if it comes to a refresh. -/
theorem inSync_run_iff (call : PegCall) :
    InSync (call.run config nowSec model).prices ↔
      InSync (call.entered nowSec model).prices ∨ call.Reaches config nowSec model := by
  cases call with
  | recomputeHf position => exact inSync_recomputeHf_iff position
  | syncDerivedPegPrices updatedReferenceAsset =>
    exact inSync_syncDerivedPegPrices_iff updatedReferenceAsset
  | recomputeTierChangesForAsset asset => exact inSync_recomputeTierChangesForAsset_iff asset
  | applyFeedPriceUpdate asset feed answer decimals =>
    by_cases accepted : 0 < answer ∧ decimals ≤ 18
    · rw [run_accepted accepted, inSync_recomputeTierChangesForAsset_iff,
        inSync_syncDerivedPegPrices_iff, entered, if_pos accepted, Reaches, or_assoc]
      simp only [accepted, true_and, and_self, pegAssetsToSync]
      -- with a derived asset the first refresh settles; without, it leaves the model
      by_cases derived : pegAssetsDerivedFrom asset = []
      · have untouched : (LocalPositionModel.syncDerivedPegPrices config
            (model.withFeedPrice asset feed answer decimals nowSec) nowSec (some asset)).1 =
            model.withFeedPrice asset feed answer decimals nowSec := by
          simp [LocalPositionModel.syncDerivedPegPrices, syncDerivedPegPricesWith,
            pegAssetsToSync, derived]
        rw [untouched]
        rfl
      · simp [derived]
    · rw [run_rejected accepted, entered, if_neg accepted, Reaches]
      simp only [accepted, false_and, or_false]

/-- Every call returns within six nested calls, on a model with the same positions in
the same order; and every pegged asset with a usable reference price then has exactly
that price if and only if it had it on entry or the call came to a refresh. -/
theorem returns_and_follows (config : LocalPositionModelConfig) (nowSec : Int)
    (model : LocalPositionModel) (call : PegCall) :
    ∃ after, (∀ depth, 6 ≤ depth → call.runWithin config nowSec depth model = some after) ∧
      after.positions.keys = model.positions.keys ∧
      (FollowsReferences after.prices ↔
        FollowsReferences (call.entered nowSec model).prices ∨
          call.Reaches config nowSec model) := by
  refine ⟨call.run config nowSec model, fun depth enough => call.runWithin_eq enough,
    call.keys_run, ?_⟩
  rw [followsReferences_iff, followsReferences_iff]
  exact call.inSync_run_iff

/-- A model with a price of USDC, read at the time zero, and none of USDbC. -/
def usdcOnly : LocalPositionModel :=
  initial.registerBootstrapPrice BASE_USDC WAD
    { answer := 100000000
      decimals := 8
      updatedAt := 0
      feedAddress := BASE_USDC
      asset := BASE_USDC
      source := none }

/-- Before the prices are bootstrapped nothing is refreshed, and afterwards nothing while
the reference is stale; a feed update of USDbC itself is left as it is. -/
theorem returns_out_of_sync :
    ((recomputeHf (newPosition BASE_USDC 0)).runWithin defaultConfig 14400 6 usdcOnly).map
        LocalPositionModel.prices = some usdcOnly.prices ∧
      ((recomputeHf (newPosition BASE_USDC 0)).runWithin defaultConfig 14400 6
        usdcOnly.markPricesBootstrapped).map LocalPositionModel.prices = some usdcOnly.prices ∧
      ¬ FollowsReferences usdcOnly.prices ∧
      ∃ prices, ((applyFeedPriceUpdate BASE_USDBC BASE_USDBC 99000000 8).runWithin defaultConfig
          14400 6 usdcOnly.markPricesBootstrapped).map LocalPositionModel.prices = some prices ∧
        ¬ FollowsReferences prices := by
  refine ⟨by decide +kernel, by decide +kernel, ?_,
    usdcOnly.prices.set BASE_USDBC.toLowerCase 990000000000000000, by decide +kernel, ?_⟩
  · intro follows
    exact absurd (follows BASE_USDBC BASE_USDC WAD rfl rfl (by decide)) (by decide)
  · intro follows
    exact absurd (follows BASE_USDBC BASE_USDC WAD rfl rfl (by decide)) (by decide)

end PegCall

end LocalPositionModel

end LiquidationBot
