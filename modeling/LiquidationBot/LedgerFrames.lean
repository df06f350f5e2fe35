import LiquidationBot.LocalPositionModel

/-!
# What an operation leaves alone

Recomputing health factors writes prices, feed states and cached health factors.
Balances, the indices they were stored with, seeding, activity and the reserve
configuration stay. One relation says so. Recomputing is made of storing a health
factor and of registering the pegged price, so a relation that composes and holds of
these two holds of every recomputation.

An event of an account therefore changes the account's ledger by its balance
change only, as long as the store has room for the account: an account's own
event makes it the most recently active one, so neither eviction rule takes it.
-/

namespace LiquidationBot

/-- A position apart from its cached health factor. -/
def UserPosition.ledger (position : UserPosition) : UserPosition :=
  { position with cachedHfWad := 0 }

namespace LocalPositionModel

/-- The ledger stored for an account. -/
def ledgerOf (model : LocalPositionModel) (key : Address) : Option UserPosition :=
  (model.positions.get? key).map UserPosition.ledger

/-- Both models hold the same ledgers and reserves. -/
structure SameLedger (before after : LocalPositionModel) : Prop where
  reserves : after.reserveConfig = before.reserveConfig
  ledgers : ∀ key, after.ledgerOf key = before.ledgerOf key
  size : after.positions.size = before.positions.size
  bootstrapped : after.pricesBootstrapped = before.pricesBootstrapped
  evictions : after.evictionTotal = before.evictionTotal

namespace SameLedger

theorem refl (model : LocalPositionModel) : SameLedger model model :=
  ⟨rfl, fun _ => rfl, rfl, rfl, rfl⟩

theorem trans {before middle after : LocalPositionModel} (first : SameLedger before middle)
    (second : SameLedger middle after) : SameLedger before after where
  reserves := second.reserves.trans first.reserves
  ledgers := fun key => (second.ledgers key).trans (first.ledgers key)
  size := second.size.trans first.size
  bootstrapped := second.bootstrapped.trans first.bootstrapped
  evictions := second.evictions.trans first.evictions

theorem has {before after : LocalPositionModel} (same : SameLedger before after) (key : Address) :
    after.positions.has key = before.positions.has key := by
  have stored := congrArg Option.isSome (same.ledgers key)
  simpa [ledgerOf, Positions.has_eq_isSome] using stored

end SameLedger

theorem sameLedger_registerBootstrapPrice (model : LocalPositionModel) (asset : Address)
    (price : Nat) (feedState : FeedState) :
    SameLedger model (model.registerBootstrapPrice asset price feedState) :=
  ⟨rfl, fun _ => rfl, rfl, rfl, rfl⟩

/-- Storing a health factor overwrites one stored position in place. -/
theorem sameLedger_commit (model : LocalPositionModel) (key : Address) (hfResult : HfResult) :
    SameLedger model (commitHfFromRecompute model key hfResult).1 := by
  unfold commitHfFromRecompute
  split
  · exact SameLedger.refl model
  · next position found =>
    split
    · exact SameLedger.refl model
    · next effective resolved =>
      have here : position.account.toLowerCase = key := model.positions.keyed key position found
      have stored : model.positions.has key = true := by
        rw [Positions.has_eq_isSome, found]
        rfl
      refine ⟨rfl, fun tested => ?_, ?_, rfl, rfl⟩
      · simp only [ledgerOf, Positions.get?_put, here]
        by_cases same : tested = key
        · rw [if_pos same, same, found]
          rfl
        · rw [if_neg same]
      · simp only [Positions.size_put, here, stored, if_true]

/-! ## Relations that recomputing keeps -/

/-- A relation between the models before and after, closed under composition, with storing
a health factor and registering a price of the pegged asset among its instances. -/
structure Kept (same : LocalPositionModel → LocalPositionModel → Prop) : Prop where
  refl : ∀ model, same model model
  trans : ∀ {before middle after}, same before middle → same middle after → same before after
  commit : ∀ model key hfResult, same model (commitHfFromRecompute model key hfResult).1
  peg : ∀ model asset price feedState, isUsdbcAsset asset = true →
    same model (model.registerBootstrapPrice asset price feedState)

theorem isUsdbcAsset_of_resolvePegPriceWad18 {asset : Address} {prices : Prices} {price : Nat}
    (pegged : resolvePegPriceWad18 asset prices = some price) : isUsdbcAsset asset = true := by
  by_contra other
  simp [resolvePegPriceWad18, pegReferenceAsset, other] at pegged

namespace Kept

variable {same : LocalPositionModel → LocalPositionModel → Prop} (kept : Kept same)

include kept

/-- A loop whose every turn keeps the relation keeps it. -/
theorem foldl {α β : Type} {step : LocalPositionModel × β → α → LocalPositionModel × β}
    (turn : ∀ state item, same state.1 (step state item).1) (items : List α)
    (state : LocalPositionModel × β) : same state.1 (items.foldl step state).1 := by
  induction items generalizing state with
  | nil => exact kept.refl state.1
  | cons item rest inductionHypothesis =>
    exact kept.trans (turn state item) (inductionHypothesis (step state item))

theorem materializeHealthyPegPrices (config : LocalPositionModelConfig)
    (model : LocalPositionModel) (nowSec : Int) :
    same model (materializeHealthyPegPrices config model nowSec) := by
  unfold LocalPositionModel.materializeHealthyPegPrices
  split
  · exact kept.refl model
  · split
    · exact kept.refl model
    · exact kept.peg model _ _ _ (by decide)

theorem recomputeHfWith {sync : LocalPositionModel → LocalPositionModel}
    (synced : ∀ model, same model (sync model)) (config : LocalPositionModelConfig)
    (model : LocalPositionModel) (position : UserPosition) (nowSec : Int) :
    same model (recomputeHfWith sync config model position nowSec).1 := by
  unfold LocalPositionModel.recomputeHfWith
  split
  · exact kept.refl model
  · exact kept.trans (synced model) (kept.materializeHealthyPegPrices config _ nowSec)

theorem recomputeTierChange
    {recompute : LocalPositionModel → UserPosition → LocalPositionModel × HfResult}
    (recomputed : ∀ model position, same model (recompute model position).1)
    (config : LocalPositionModelConfig) (asset : Address)
    (state : LocalPositionModel × List TierChange) (key : Address) :
    same state.1 (recomputeTierChange recompute config asset state key).1 := by
  unfold LocalPositionModel.recomputeTierChange
  split
  · exact kept.refl state.1
  · next position found =>
    split
    · exact kept.refl state.1
    · have stored := kept.trans (recomputed state.1 position)
        (kept.commit (recompute state.1 position).1 key (recompute state.1 position).2)
      dsimp only
      split
      · next model committed => simpa only [committed] using stored
      · next model change committed => simpa only [committed] using stored

theorem recomputeTierChangesWith
    {recompute : LocalPositionModel → UserPosition → LocalPositionModel × HfResult}
    (recomputed : ∀ model position, same model (recompute model position).1)
    (config : LocalPositionModelConfig) (model : LocalPositionModel) (asset : Address) :
    same model (recomputeTierChangesWith recompute config model asset).1 :=
  kept.foldl (kept.recomputeTierChange recomputed config asset) _ (model, [])

theorem syncPegAsset
    {recomputeChanges : LocalPositionModel → Address → LocalPositionModel × List TierChange}
    (recomputed : ∀ model asset, same model (recomputeChanges model asset).1)
    (nowSec : Int) (state : LocalPositionModel × List TierChange) (pegAsset : Address) :
    same state.1 (syncPegAsset recomputeChanges nowSec state pegAsset).1 := by
  unfold LocalPositionModel.syncPegAsset
  split
  · next pegPrice reference pegged _ =>
    split
    · exact kept.refl state.1
    · exact kept.trans
        (kept.peg state.1 _ _ _ (isUsdbcAsset_of_resolvePegPriceWad18 pegged)) (recomputed _ _)
  · exact kept.refl state.1

theorem syncDerivedPegPrices (config : LocalPositionModelConfig)
    (model : LocalPositionModel) (nowSec : Int) (reference : Option Address) :
    same model (syncDerivedPegPrices config model nowSec reference).1 := by
  have nested : ∀ model asset, same model
      (LocalPositionModel.recomputeTierChangesWith (fun model position =>
        LocalPositionModel.recomputeHfWith id config model position nowSec) config model asset).1 :=
    kept.recomputeTierChangesWith
      (fun model position => kept.recomputeHfWith kept.refl config model position nowSec) config
  exact kept.foldl (kept.syncPegAsset nested nowSec) _ (model, [])

theorem recomputeHf (config : LocalPositionModelConfig) (model : LocalPositionModel)
    (position : UserPosition) (nowSec : Int) :
    same model (recomputeHf config model position nowSec).1 :=
  kept.recomputeHfWith (fun model => kept.syncDerivedPegPrices config model nowSec none) config
    model position nowSec

theorem recomputeTierChangesForAsset (config : LocalPositionModelConfig)
    (model : LocalPositionModel) (asset : Address) (nowSec : Int) :
    same model (recomputeTierChangesForAsset config model asset nowSec).1 :=
  kept.recomputeTierChangesWith
    (fun model position => kept.recomputeHf config model position nowSec) config model asset

end Kept

theorem kept_sameLedger : Kept SameLedger where
  refl := SameLedger.refl
  trans := SameLedger.trans
  commit := sameLedger_commit
  peg := fun model asset price feedState _ =>
    sameLedger_registerBootstrapPrice model asset price feedState

theorem sameLedger_syncDerivedPegPrices (config : LocalPositionModelConfig)
    (model : LocalPositionModel) (nowSec : Int) (reference : Option Address) :
    SameLedger model (syncDerivedPegPrices config model nowSec reference).1 :=
  kept_sameLedger.syncDerivedPegPrices config model nowSec reference

theorem sameLedger_recomputeHf (config : LocalPositionModelConfig) (model : LocalPositionModel)
    (position : UserPosition) (nowSec : Int) :
    SameLedger model (recomputeHf config model position nowSec).1 :=
  kept_sameLedger.recomputeHf config model position nowSec

theorem sameLedger_recomputeTierChangesForAsset (config : LocalPositionModelConfig)
    (model : LocalPositionModel) (asset : Address) (nowSec : Int) :
    SameLedger model (recomputeTierChangesForAsset config model asset nowSec).1 :=
  kept_sameLedger.recomputeTierChangesForAsset config model asset nowSec

theorem sameLedger_applyFeedPriceUpdate (config : LocalPositionModelConfig)
    (model : LocalPositionModel) (asset feed : Address) (answer : Int) (decimals : Nat)
    (updatedAtSec : Int) :
    SameLedger model
      (applyFeedPriceUpdate config model asset feed answer decimals updatedAtSec).1 := by
  unfold applyFeedPriceUpdate
  split
  · exact SameLedger.refl model
  · split
    · exact SameLedger.refl model
    · exact ((sameLedger_registerBootstrapPrice model _ _ _).trans
        (sameLedger_syncDerivedPegPrices config _ _ _)).trans
        (sameLedger_recomputeTierChangesForAsset config _ _ _)

theorem sameLedger_applyHfResult (config : LocalPositionModelConfig) (model : LocalPositionModel)
    (position : UserPosition) (isNew : Bool) (nowSec : Int) :
    SameLedger model (applyHfResult config model position isNew nowSec).1 := by
  have stored := (sameLedger_recomputeHf config model position nowSec).trans
    (sameLedger_commit (recomputeHf config model position nowSec).1 position.account.toLowerCase
      (recomputeHf config model position nowSec).2)
  unfold applyHfResult
  dsimp only
  split
  · next after committed => simpa only [committed] using stored
  · next after change committed => simpa only [committed] using stored

end LocalPositionModel

end LiquidationBot
