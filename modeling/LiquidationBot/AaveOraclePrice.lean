import LiquidationBot.PegSync

/-!
# The refresh of the gap-fill prices

Assets without a price feed of their own are priced by the Aave oracle. A timer
reads their prices again and registers them, USDbC last and from the USDC price
where that is one to follow. The refresh registers prices and does nothing else;
what it registers can be read off the oracle's answers.
-/

namespace LiquidationBot

def BASE_CBETH : Address := ⟨0x2ae3f1ec7f1f5012cfeab0185bfc7aa3cf0dec22, 0x4a50e00018⟩

def BASE_GHO : Address := ⟨0x6bb7a212910682dcfdbd5bcbb3e28fb4e8da10ee, 0x4003870682⟩

def BASE_EURC : Address := ⟨0x60a3e35cc302bfa44cb288bc5a4f316fdb1adb42, 0x906421100⟩

def BASE_WSTETH : Address := ⟨0xc1cba3fcea344f92d9239c08c0568f6f2f0ee452, 0x3100808140⟩

def BASE_WEETH : Address := ⟨0x04c0599ae5a44757c0af6f9ec3b93da8976c150a, 0x2120048001⟩

def BASE_AAVE : Address := ⟨0x63706e401c06ac8513145b7687a14804d17f814b, 0⟩

def BASE_TBTC : Address := ⟨0x236aa50979d5f3de3bd1eeb40e81137f22ab794b, 0⟩

def BASE_SYRUP_USDC : Address := ⟨0x660975730059246a68521a3e2fbd4740173100f5, 0⟩

def BASE_LBTC : Address := ⟨0xecac9c5f704e954931349da37f60e39f515c11c1, 0⟩

def BASE_AAVE_PRICED_ASSETS : List Address :=
  [BASE_CBETH, BASE_GHO, BASE_EURC, BASE_WSTETH, BASE_WEETH, BASE_AAVE, BASE_TBTC,
    BASE_SYRUP_USDC, BASE_LBTC]

def BASE_PEG_ASSETS : List Address := [BASE_USDBC]

def BASE_GAP_FILL_ASSETS : List Address := BASE_AAVE_PRICED_ASSETS ++ BASE_PEG_ASSETS

/-- `AAVE_PRICE_DECIMALS`. -/
def AAVE_PRICE_DECIMALS : Nat := 8

def normalizeAavePriceToWad18 (priceBase8 : Nat) : Nat :=
  if priceBase8 = 0 then 0 else priceBase8 * 10 ^ 10

/-- What the oracle answers to a refresh: the positive prices it has by
lower-cased asset, unless the read throws, and whether the later read of the
USDbC price throws. That price is only compared for the log. -/
structure GapFillAnswers where
  oracle : Address
  aavePrices : Option (Address → Option Nat)
  usdbcThrows : Bool

namespace LocalPositionModel

def registerAavePrice (model : LocalPositionModel) (asset : Address) (priceBase8 : Nat)
    (oracle : Address) (nowSec : Int) : LocalPositionModel :=
  let normalized := normalizeAavePriceToWad18 priceBase8
  if normalized = 0 then model
  else
    model.registerBootstrapPrice asset normalized
      { answer := (priceBase8 : Int)
        decimals := AAVE_PRICE_DECIMALS
        updatedAt := nowSec
        feedAddress := oracle
        asset := asset
        source := some .aave }

def registerPegPrice (model : LocalPositionModel) (asset : Address) (pegPriceWad18 : Nat)
    (pegOf : Address) (nowSec : Int) : LocalPositionModel :=
  model.registerBootstrapPrice asset pegPriceWad18
    { answer := (pegPriceWad18 / 10 ^ 10 : Nat)
      decimals := AAVE_PRICE_DECIMALS
      updatedAt := nowSec
      feedAddress := pegOf
      asset := asset
      source := some .peg }

/-- The first loop of `refreshGapFillPrices`. -/
def refreshAavePrice (oracle : Address) (priceOf : Address → Option Nat) (nowSec : Int)
    (model : LocalPositionModel) (asset : Address) : LocalPositionModel :=
  match priceOf asset.toLowerCase with
  | none => model
  | some price => model.registerAavePrice asset price oracle nowSec

/-- The second loop; an exception ends it. -/
def refreshPegPrices (config : LocalPositionModelConfig) (usdbcThrows : Bool) (nowSec : Int) :
    LocalPositionModel → List Address → LocalPositionModel
  | model, [] => model
  | model, asset :: rest =>
      match pegUsdbcPriceFromHealthyReference (pegHealthInput config model nowSec) with
      | some healthyPegPrice =>
          refreshPegPrices config usdbcThrows nowSec
            (model.registerPegPrice asset healthyPegPrice BASE_USDC nowSec) rest
      | none =>
          match model.prices.get? BASE_USDC.toLowerCase with
          | none => refreshPegPrices config usdbcThrows nowSec model rest
          | some usdcPrice =>
              if usdcPrice ≤ 1 then refreshPegPrices config usdbcThrows nowSec model rest
              else if usdbcThrows then model
              else
                refreshPegPrices config usdbcThrows nowSec
                  (model.registerPegPrice asset (pegUsdbcFromUsdcPrice usdcPrice) BASE_USDC nowSec)
                  rest

/-- `refreshGapFillPrices`: what it leaves of the model. -/
def refreshGapFillPrices (config : LocalPositionModelConfig) (model : LocalPositionModel)
    (answers : GapFillAnswers) (nowSec : Int) : LocalPositionModel :=
  let assets := BASE_GAP_FILL_ASSETS.filter (fun asset => model.reserveConfig.has asset.toLowerCase)
  if assets.isEmpty then model
  else
    match answers.aavePrices with
    | none => model
    | some priceOf =>
        let aaveAssets := assets.filter (fun asset => !isUsdbcAsset asset)
        let registered :=
          aaveAssets.foldl (refreshAavePrice answers.oracle priceOf nowSec) model
        refreshPegPrices config answers.usdbcThrows nowSec registered (assets.filter isUsdbcAsset)

/-- A registration touches prices and feed states only. -/
theorem positions_refreshPegPrices (config : LocalPositionModelConfig) (usdbcThrows : Bool)
    (nowSec : Int) (model : LocalPositionModel) (assets : List Address) :
    (refreshPegPrices config usdbcThrows nowSec model assets).positions = model.positions := by
  induction assets generalizing model with
  | nil => rfl
  | cons asset rest inductionHypothesis =>
    simp only [refreshPegPrices]
    split
    · exact inductionHypothesis _
    · split
      · exact inductionHypothesis _
      · split
        · exact inductionHypothesis _
        · split
          · rfl
          · exact inductionHypothesis _

theorem positions_foldl_refreshAavePrice (oracle : Address) (priceOf : Address → Option Nat)
    (nowSec : Int) (model : LocalPositionModel) (assets : List Address) :
    (assets.foldl (refreshAavePrice oracle priceOf nowSec) model).positions = model.positions := by
  induction assets generalizing model with
  | nil => rfl
  | cons asset rest inductionHypothesis =>
    rw [List.foldl_cons, inductionHypothesis]
    unfold refreshAavePrice registerAavePrice
    split
    · rfl
    · dsimp only
      split
      · rfl
      · rfl

/-- No stored health factor changes. -/
theorem positions_refreshGapFillPrices (config : LocalPositionModelConfig)
    (model : LocalPositionModel) (answers : GapFillAnswers) (nowSec : Int) :
    (refreshGapFillPrices config model answers nowSec).positions = model.positions := by
  unfold refreshGapFillPrices
  dsimp only
  split
  · rfl
  · split
    · rfl
    · rw [positions_refreshPegPrices, positions_foldl_refreshAavePrice]

/-! ## What a refresh registers -/

/-- The arguments of `registerBootstrapPrice`. -/
structure Registration where
  asset : Address
  price : Nat
  state : FeedState

def register (model : LocalPositionModel) (registration : Registration) : LocalPositionModel :=
  model.registerBootstrapPrice registration.asset registration.price registration.state

/-- The registration of an oracle price. -/
def aaveRegistration (oracle : Address) (priceOf : Address → Option Nat) (nowSec : Int)
    (asset : Address) : Option Registration :=
  match priceOf asset.toLowerCase with
  | none => none
  | some price =>
      if price = 0 then none
      else some ⟨asset, price * 10 ^ 10, price, AAVE_PRICE_DECIMALS, nowSec, oracle, asset,
        some .aave⟩

/-- The registration of USDbC: the price of USDC, healthy or with a read that
does not throw. -/
def pegRegistration (config : LocalPositionModelConfig) (model : LocalPositionModel)
    (usdbcThrows : Bool) (nowSec : Int) : Option Registration :=
  match pegPrice model.prices with
  | none => none
  | some price =>
      if usdbcThrows = true ∧
          pegUsdbcPriceFromHealthyReference (pegHealthInput config model nowSec) = none then none
      else
        some ⟨BASE_USDBC, price, (price / 10 ^ 10 : Nat), AAVE_PRICE_DECIMALS, nowSec, BASE_USDC,
          BASE_USDBC, some .peg⟩

/-- The registrations of a refresh, in order. -/
def gapFillRegistrations (config : LocalPositionModelConfig) (model : LocalPositionModel)
    (answers : GapFillAnswers) (nowSec : Int) : List Registration :=
  match answers.aavePrices with
  | none => []
  | some priceOf =>
      (BASE_AAVE_PRICED_ASSETS.filter (fun asset =>
          model.reserveConfig.has asset.toLowerCase)).filterMap
        (aaveRegistration answers.oracle priceOf nowSec) ++
      if model.reserveConfig.has BASE_USDBC.toLowerCase then
        (pegRegistration config model answers.usdbcThrows nowSec).toList
      else []

theorem refreshAavePrice_eq (oracle : Address) (priceOf : Address → Option Nat) (nowSec : Int)
    (model : LocalPositionModel) (asset : Address) :
    refreshAavePrice oracle priceOf nowSec model asset =
      (aaveRegistration oracle priceOf nowSec asset).toList.foldl register model := by
  unfold refreshAavePrice aaveRegistration
  cases priceOf asset.toLowerCase with
  | none => rfl
  | some price =>
    by_cases zero : price = 0
    · simp [registerAavePrice, normalizeAavePriceToWad18, zero]
    · simp [registerAavePrice, normalizeAavePriceToWad18, zero, register]

theorem foldl_refreshAavePrice (oracle : Address) (priceOf : Address → Option Nat) (nowSec : Int)
    (model : LocalPositionModel) (assets : List Address) :
    assets.foldl (refreshAavePrice oracle priceOf nowSec) model =
      (assets.filterMap (aaveRegistration oracle priceOf nowSec)).foldl register model := by
  induction assets generalizing model with
  | nil => rfl
  | cons asset rest inductionHypothesis =>
    rw [List.foldl_cons, inductionHypothesis, refreshAavePrice_eq, List.filterMap_cons]
    cases aaveRegistration oracle priceOf nowSec asset with
    | none => rfl
    | some registration => rfl

/-- The USDC entries are out of reach of the oracle's registrations. -/
theorem usdc_foldl_register {registrations : List Registration} (model : LocalPositionModel)
    (others : ∀ registration ∈ registrations,
      registration.asset.toLowerCase ≠ BASE_USDC.toLowerCase) :
    (registrations.foldl register model).prices.get? BASE_USDC.toLowerCase =
        model.prices.get? BASE_USDC.toLowerCase ∧
      (registrations.foldl register model).feedStates.get? BASE_USDC.toLowerCase =
        model.feedStates.get? BASE_USDC.toLowerCase := by
  induction registrations generalizing model with
  | nil => exact ⟨rfl, rfl⟩
  | cons first rest inductionHypothesis =>
    have other := (others first List.mem_cons_self).symm
    obtain ⟨prices, states⟩ := inductionHypothesis (register model first)
      (fun registration member => others registration (List.mem_cons_of_mem first member))
    rw [List.foldl_cons, prices, states]
    exact ⟨InsertionMap.get?_set_other _ _ other, InsertionMap.get?_set_other _ _ other⟩

theorem asset_of_aaveRegistration {oracle : Address} {priceOf : Address → Option Nat} {nowSec : Int}
    {asset : Address} {registration : Registration}
    (registered : aaveRegistration oracle priceOf nowSec asset = some registration) :
    registration.asset = asset := by
  unfold aaveRegistration at registered
  split at registered
  · cases registered
  · split at registered
    · cases registered
    · cases registered
      rfl

theorem not_usdc_of_aaveRegistration (oracle : Address) (priceOf : Address → Option Nat)
    (nowSec : Int) (registered : Address → Bool) :
    ∀ registration ∈ (BASE_AAVE_PRICED_ASSETS.filter registered).filterMap
      (aaveRegistration oracle priceOf nowSec),
      registration.asset.toLowerCase ≠ BASE_USDC.toLowerCase := by
  have apart : ∀ asset ∈ BASE_AAVE_PRICED_ASSETS,
    asset.toLowerCase ≠ BASE_USDC.toLowerCase := by decide
  intro registration member
  obtain ⟨asset, listed, given⟩ := List.mem_filterMap.mp member
  rw [asset_of_aaveRegistration given]
  exact apart asset (List.mem_filter.mp listed).1

/-- The peg is judged by the USDC entries alone. -/
theorem refreshPegPrices_usdbc (config : LocalPositionModelConfig) (usdbcThrows : Bool)
    (nowSec : Int) {model after : LocalPositionModel}
    (prices : after.prices.get? BASE_USDC.toLowerCase = model.prices.get? BASE_USDC.toLowerCase)
    (states : after.feedStates.get? BASE_USDC.toLowerCase =
      model.feedStates.get? BASE_USDC.toLowerCase) :
    refreshPegPrices config usdbcThrows nowSec after [BASE_USDBC] =
      (pegRegistration config model usdbcThrows nowSec).toList.foldl register after := by
  have healthy : pegUsdbcPriceFromHealthyReference (pegHealthInput config after nowSec) =
      pegUsdbcPriceFromHealthyReference (pegHealthInput config model nowSec) := by
    unfold pegUsdbcPriceFromHealthyReference shouldRelaxFreshnessForHealthyPeg pegHealthInput
    dsimp only
    rw [prices, states]
  simp only [refreshPegPrices, healthy, pegRegistration, prices]
  cases reference : pegUsdbcPriceFromHealthyReference (pegHealthInput config model nowSec) with
  | some price =>
    have priced : pegPrice model.prices = some price := pegPrice_of_healthyReference reference
    simp [priced, registerPegPrice, register]
  | none =>
    rw [pegPrice_eq]
    cases model.prices.get? BASE_USDC.toLowerCase with
    | none => rfl
    | some usdcPrice =>
      by_cases placeholder : usdcPrice ≤ 1
      · simp [placeholder]
      · cases usdbcThrows with
        | true => simp [placeholder]
        | false => simp [placeholder, registerPegPrice, register, pegUsdbcFromUsdcPrice]

/-- The registered reserves among the gap-fill assets, USDbC last. -/
theorem gapFillAssets_split (registered : Address → Bool) :
    (BASE_GAP_FILL_ASSETS.filter registered).filter (fun asset => !isUsdbcAsset asset) =
        BASE_AAVE_PRICED_ASSETS.filter registered ∧
      (BASE_GAP_FILL_ASSETS.filter registered).filter isUsdbcAsset =
        if registered BASE_USDBC = true then [BASE_USDBC] else [] := by
  have aavePriced : ∀ asset ∈ BASE_AAVE_PRICED_ASSETS.filter registered,
      isUsdbcAsset asset = false := by
    intro asset member
    have among : ∀ asset ∈ BASE_AAVE_PRICED_ASSETS, isUsdbcAsset asset = false := by decide
    exact among asset (List.mem_filter.mp member).1
  have peg : BASE_PEG_ASSETS.filter registered =
      if registered BASE_USDBC = true then [BASE_USDBC] else [] := by
    simp [BASE_PEG_ASSETS, List.filter_cons]
  have kept : (BASE_AAVE_PRICED_ASSETS.filter registered).filter
      (fun asset => !isUsdbcAsset asset) = BASE_AAVE_PRICED_ASSETS.filter registered := by
    apply List.filter_eq_self.mpr
    intro asset member
    rw [aavePriced asset member]
    rfl
  have dropped : (BASE_AAVE_PRICED_ASSETS.filter registered).filter isUsdbcAsset = [] := by
    apply List.filter_eq_nil_iff.mpr
    intro asset member
    rw [aavePriced asset member]
    decide
  rw [BASE_GAP_FILL_ASSETS, List.filter_append, List.filter_append, List.filter_append, peg, kept,
    dropped]
  split
  · exact ⟨by simp [isUsdbcAsset_usdbc], by simp [isUsdbcAsset_usdbc]⟩
  · exact ⟨by simp, by simp⟩

/-- A refresh registers what the answers give, and nothing else. -/
theorem refreshGapFillPrices_eq (config : LocalPositionModelConfig) (model : LocalPositionModel)
    (answers : GapFillAnswers) (nowSec : Int) :
    refreshGapFillPrices config model answers nowSec =
      (gapFillRegistrations config model answers nowSec).foldl register model := by
  obtain ⟨aaveAssets, pegAssets⟩ :=
    gapFillAssets_split (fun asset => model.reserveConfig.has asset.toLowerCase)
  unfold refreshGapFillPrices gapFillRegistrations
  dsimp only
  cases answers.aavePrices with
  | none => simp
  | some priceOf =>
    dsimp only
    have usdc := usdc_foldl_register model (not_usdc_of_aaveRegistration answers.oracle priceOf
      nowSec (fun asset => model.reserveConfig.has asset.toLowerCase))
    rw [aaveAssets, pegAssets, foldl_refreshAavePrice, List.foldl_append]
    split
    next empty =>
      rw [List.isEmpty_iff.mp empty] at aaveAssets pegAssets
      rw [← aaveAssets]
      split
      next registered => simp [registered] at pegAssets
      next => rfl
    next =>
      split
      · exact refreshPegPrices_usdbc config answers.usdbcThrows nowSec usdc.1 usdc.2
      · rfl

end LocalPositionModel

end LiquidationBot
