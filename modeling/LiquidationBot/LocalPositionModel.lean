import LiquidationBot.AaveEvents
import LiquidationBot.Positions
import Mathlib.Data.List.Sort
import Mathlib.Tactic.NormNum

/-!
# The local position model

The model mirrors the balances of borrowers from pool events, values them with
the registered prices, and classifies them by health factor. Every public
operation is a function from a model to a model with the operation's result; the
clock is an argument.

Recomputing a health factor first refreshes the pegged price, which recomputes
the positions that hold the pegged asset, which refreshes the pegged price
again. The inner refresh finds nothing to do, so the nested call is taken as
doing nothing, and the source's own recursive equations are proved afterwards.
-/

namespace LiquidationBot

/-- `BASE_LT_BPS`, the liquidation threshold of a reserve not read yet. -/
def BASE_LT_BPS : Nat := 8500

/-- `DEFAULT_FEED_DECIMALS`. -/
def DEFAULT_FEED_DECIMALS : Nat := 8

/-- `ReserveConfig`. -/
structure ReserveConfig where
  asset : Address
  liquidationThresholdBps : Nat
  liquidityIndex : Nat
  variableBorrowIndex : Nat
  indexUpdatedAtBlock : Nat
  liquidationBonus : Option Nat
deriving DecidableEq

/-- The settings the model reads. Thresholds are given as the wad values they
are converted to; the parser admits positive numbers only. -/
structure LocalPositionModelConfig where
  urgentHfWad : Nat
  watchHfWad : Nat
  reserveAllowlist : Option (List Address)
  reserveIndexRefreshBlocks : Nat
  positionEvictionHfThresholdWad : Nat
  positionEvictionInactiveBlocks : Nat
  positionCacheHardCap : ℚ
  freshnessMultiplier : ℚ
  inactiveBlocksPositive : 0 < positionEvictionInactiveBlocks
  hardCapPositive : 0 < positionCacheHardCap

/-- The settings of an environment that sets none of them. -/
def defaultConfig : LocalPositionModelConfig where
  urgentHfWad := 1050000000000000000
  watchHfWad := 1100000000000000128
  reserveAllowlist := none
  reserveIndexRefreshBlocks := 100
  positionEvictionHfThresholdWad := 1500000000000000000
  positionEvictionInactiveBlocks := 103680
  positionCacheHardCap := 8000
  freshnessMultiplier := 5 / 2
  inactiveBlocksPositive := by decide
  hardCapPositive := by norm_num

/-- A position whose health factor was stored, with the tier it falls into. -/
structure TierChange where
  account : Address
  tier : PositionTier
  localHfWad : Nat
  isNew : Bool
  isFullySeeded : Bool
deriving DecidableEq

/-- `AaveEventApplyResult`. -/
structure AaveEventApplyResult where
  changes : List TierChange
  firstTouchReconcile : Option Address
deriving DecidableEq

/-- The model's fields. The aggregator of price-gap messages only feeds the log
and is left out. -/
structure LocalPositionModel where
  positions : Positions
  prices : Prices
  feedStates : FeedStates
  reserveConfig : InsertionMap Address ReserveConfig
  flashblockTickCount : Nat
  evictionTotal : Nat
  pricesBootstrapped : Bool

namespace LocalPositionModel

/-- A new model. -/
def initial : LocalPositionModel where
  positions := .empty
  prices := .empty
  feedStates := .empty
  reserveConfig := .empty
  flashblockTickCount := 0
  evictionTotal := 0
  pricesBootstrapped := false

/-! ## Registrations -/

def markPricesBootstrapped (model : LocalPositionModel) : LocalPositionModel :=
  { model with pricesBootstrapped := true }

def registerPriceFeed (model : LocalPositionModel) (asset : Address) (initialPrice : Nat) :
    LocalPositionModel :=
  { model with prices := model.prices.set asset.toLowerCase initialPrice }

def registerBootstrapPrice (model : LocalPositionModel) (asset : Address) (normalizedPrice : Nat)
    (feedState : FeedState) : LocalPositionModel :=
  { model with
    prices := model.prices.set asset.toLowerCase normalizedPrice
    feedStates := model.feedStates.set asset.toLowerCase feedState }

/-- A reserve before its configuration and indices are read. -/
def unreadReserve (asset : Address) (liquidationThresholdBps : Nat)
    (liquidationBonus : Option Nat) : ReserveConfig where
  asset := asset
  liquidationThresholdBps := liquidationThresholdBps
  liquidityIndex := WAD
  variableBorrowIndex := WAD
  indexUpdatedAtBlock := 0
  liquidationBonus := liquidationBonus

def setReserveLiquidationBonus (model : LocalPositionModel) (asset : Address)
    (bonus : Option Nat) : LocalPositionModel :=
  match model.reserveConfig.get? asset.toLowerCase with
  | none =>
      { model with
        reserveConfig := model.reserveConfig.set asset.toLowerCase
          (unreadReserve asset BASE_LT_BPS bonus) }
  | some reserve =>
      { model with
        reserveConfig := model.reserveConfig.set asset.toLowerCase
          { reserve with liquidationBonus := bonus } }

/-- `registerReserve`: known reserves stay as they are. -/
def registerReserve (model : LocalPositionModel) (asset : Address)
    (liquidationThresholdBps : Nat) : LocalPositionModel :=
  if model.reserveConfig.has asset.toLowerCase then model
  else
    { model with
      reserveConfig := model.reserveConfig.set asset.toLowerCase
        (unreadReserve asset liquidationThresholdBps none) }

/-- `onFlashblockTick`: every so many ticks the reserve indices are due. -/
def onFlashblockTick (config : LocalPositionModelConfig) (model : LocalPositionModel) :
    LocalPositionModel × Bool :=
  let count := model.flashblockTickCount + 1
  ({ model with flashblockTickCount := count },
    decide (count % config.reserveIndexRefreshBlocks = 0))

def isFullySeeded (model : LocalPositionModel) (account : Address) : Bool :=
  ((model.positions.get? account.toLowerCase).map UserPosition.isFullySeeded).getD false

def removePosition (model : LocalPositionModel) (account : Address) : LocalPositionModel :=
  { model with positions := model.positions.delete account.toLowerCase }

/-- `applyReserveIndexUpdate`: indices the event does not carry stay. -/
def applyReserveIndexUpdate (model : LocalPositionModel) (event : ParsedAavePoolEvent) :
    LocalPositionModel :=
  match model.reserveConfig.get? event.reserve.toLowerCase with
  | none => model
  | some reserve =>
      { model with
        reserveConfig := model.reserveConfig.set event.reserve.toLowerCase
          { reserve with
            liquidityIndex := event.liquidityIndex.getD reserve.liquidityIndex
            variableBorrowIndex := event.variableBorrowIndex.getD reserve.variableBorrowIndex
            indexUpdatedAtBlock := event.origin.blockNumber } }

/-- The write of `refreshReserveIndices`: the reserve read before the on-chain
answer came, with the indices of that answer. -/
def refreshReserveIndex (model : LocalPositionModel) (reserve : ReserveConfig)
    (liquidityIndex variableBorrowIndex : Nat) : LocalPositionModel :=
  { model with
    reserveConfig := model.reserveConfig.set reserve.asset.toLowerCase
      { reserve with
        liquidityIndex := liquidityIndex
        variableBorrowIndex := variableBorrowIndex
        indexUpdatedAtBlock := 0 } }

/-! ## Tiers -/

/-- `classifyTier`. -/
def classifyTier (config : LocalPositionModelConfig) (localHfWad : Nat) : PositionTier :=
  if localHfWad < WAD then .liquidatable
  else if localHfWad ≤ config.urgentHfWad then .urgent
  else if localHfWad ≤ config.watchHfWad then .watch
  else .healthy

def toTierChange (config : LocalPositionModelConfig) (position : UserPosition) (isNew : Bool) :
    TierChange where
  account := position.account
  tier := classifyTier config position.cachedHfWad
  localHfWad := position.cachedHfWad
  isNew := isNew
  isFullySeeded := position.isFullySeeded

def tierChangeForAccount (config : LocalPositionModelConfig) (model : LocalPositionModel)
    (account : Address) (isNew : Bool) : Option TierChange :=
  (model.positions.get? account.toLowerCase).map (fun position =>
    toTierChange config position isNew)

/-! ## Balances -/

/-- `resolveUserAddress`: the zero address is nobody. -/
def resolveUserAddress (event : ParsedAavePoolEvent) : Option Address :=
  let raw := if event.name = .LiquidationCall then event.user else event.onBehalfOf.or event.user
  match raw with
  | none => none
  | some account => if account.toLowerCase = ZERO_ADDRESS then none else some account

def isReserveInAllowlist (config : LocalPositionModelConfig) (reserve : Address) : Bool :=
  match config.reserveAllowlist with
  | none => true
  | some allowlist =>
      if allowlist.isEmpty then true
      else (allowlist.map Address.toLowerCase).contains reserve.toLowerCase

/-- The position `getOrCreate` starts with. -/
def newPosition (account : Address) (blockNumber : Nat) : UserPosition where
  account := account
  collateral := .empty
  debt := .empty
  collateralIndexAtUpdate := .empty
  debtIndexAtUpdate := .empty
  cachedHfWad := MAX_UINT256
  confidence := .low
  isFullySeeded := false
  lastConfirmedBlock := 0
  lastActivityBlock := blockNumber
  eModeCategoryId := 0
  lastTotalCollateralBase := none
  lastTotalDebtBase := none
  lastLiquidationThreshold := none

/-- `getOrCreate`, as the position to continue with. The callers store it. -/
def getOrCreate (model : LocalPositionModel) (account : Address) (blockNumber : Nat) :
    UserPosition :=
  (model.positions.get? account.toLowerCase).getD (newPosition account blockNumber)

/-- `scaleCollateralAmount` and `scaleDebtAmount`: the raw amount accrued from
the index at its last update to the current one. -/
def scaleAmount (storedIndices : AssetMap) (currentIndex : Nat) (assetKey : Address)
    (amount : Nat) : Nat :=
  let storedIndex := (storedIndices.get? assetKey).getD WAD
  if storedIndex = 0 ∨ currentIndex = storedIndex then amount
  else (amount * currentIndex) / storedIndex

def scaleCollateralAmount (position : UserPosition) (assetKey : Address) (amount : Nat)
    (reserve : ReserveConfig) : Nat :=
  scaleAmount position.collateralIndexAtUpdate reserve.liquidityIndex assetKey amount

def scaleDebtAmount (position : UserPosition) (assetKey : Address) (amount : Nat)
    (reserve : ReserveConfig) : Nat :=
  scaleAmount position.debtIndexAtUpdate reserve.variableBorrowIndex assetKey amount

/-- One side of a position: raw amounts, and the index each was stored at. -/
structure AmountsAtIndex where
  amounts : AssetMap
  indexAtUpdate : AssetMap

namespace AmountsAtIndex

/-- Add to an amount and stamp it with the current index. -/
def add (side : AmountsAtIndex) (key : Address) (amount currentIndex : Nat) : AmountsAtIndex where
  amounts := side.amounts.set key ((side.amounts.get? key).getD 0 + amount)
  indexAtUpdate := side.indexAtUpdate.set key currentIndex

/-- Subtract from an amount, floored at zero; its index stays, and an amount of
zero is removed with its index. -/
def sub (side : AmountsAtIndex) (key : Address) (amount : Nat) : AmountsAtIndex :=
  let prev := (side.amounts.get? key).getD 0
  let next := if prev > amount then prev - amount else 0
  if next = 0 then ⟨side.amounts.delete key, side.indexAtUpdate.delete key⟩
  else ⟨side.amounts.set key next, side.indexAtUpdate⟩

end AmountsAtIndex

/-- The collateral side of a position. -/
def collateralSide (position : UserPosition) : AmountsAtIndex :=
  ⟨position.collateral, position.collateralIndexAtUpdate⟩

/-- The debt side of a position. -/
def debtSide (position : UserPosition) : AmountsAtIndex :=
  ⟨position.debt, position.debtIndexAtUpdate⟩

def withCollateralSide (position : UserPosition) (side : AmountsAtIndex) : UserPosition :=
  { position with collateral := side.amounts, collateralIndexAtUpdate := side.indexAtUpdate }

def withDebtSide (position : UserPosition) (side : AmountsAtIndex) : UserPosition :=
  { position with debt := side.amounts, debtIndexAtUpdate := side.indexAtUpdate }

def addCollateral (reserves : InsertionMap Address ReserveConfig) (position : UserPosition)
    (asset : Address) (amount : Nat) : UserPosition :=
  let key := asset.toLowerCase
  withCollateralSide position ((collateralSide position).add key amount
    (((reserves.get? key).map ReserveConfig.liquidityIndex).getD WAD))

def subCollateral (position : UserPosition) (asset : Address) (amount : Nat) : UserPosition :=
  withCollateralSide position ((collateralSide position).sub asset.toLowerCase amount)

def addDebt (reserves : InsertionMap Address ReserveConfig) (position : UserPosition)
    (asset : Address) (amount : Nat) : UserPosition :=
  let key := asset.toLowerCase
  withDebtSide position ((debtSide position).add key amount
    (((reserves.get? key).map ReserveConfig.variableBorrowIndex).getD WAD))

def subDebt (position : UserPosition) (asset : Address) (amount : Nat) : UserPosition :=
  withDebtSide position ((debtSide position).sub asset.toLowerCase amount)

/-- An optional amount's effect; an absent amount has none. -/
def withAmount (amount : Option Nat) (change : Nat → UserPosition) (position : UserPosition) :
    UserPosition :=
  match amount with
  | none => position
  | some amount => change amount

/-- The balance changes of `applyLiquidation`. -/
def applyLiquidation (position : UserPosition) (event : ParsedAavePoolEvent) : UserPosition :=
  let debtAsset := event.debtAsset.getD event.reserve
  let collateralAsset := event.collateralAsset.getD event.reserve
  let repaid := withAmount event.debtToCover (subDebt position debtAsset) position
  withAmount event.liquidatedCollateralAmount (subCollateral repaid collateralAsset) repaid

/-- The balance change of an event, by its name. -/
def applyBalances (reserves : InsertionMap Address ReserveConfig) (position : UserPosition)
    (event : ParsedAavePoolEvent) : UserPosition :=
  match event.name with
  | .Supply => withAmount event.amount (addCollateral reserves position event.reserve) position
  | .Withdraw => withAmount event.amount (subCollateral position event.reserve) position
  | .Borrow => withAmount event.amount (addDebt reserves position event.reserve) position
  | .Repay => withAmount event.amount (subDebt position event.reserve) position
  | .LiquidationCall => applyLiquidation position event
  | .ReserveDataUpdated => position

/-- No debt entry is above zero; a liquidation then drops the position. -/
def debtFree (position : UserPosition) : Bool := position.debt.values.all (fun v => decide (v = 0))

/-! ## Eviction -/

/-- `evictInactiveHealthy`. -/
def evictInactiveHealthy (config : LocalPositionModelConfig) (model : LocalPositionModel)
    (blockNumber : Nat) : LocalPositionModel :=
  let kept := model.positions.keepIf (fun position =>
    let inactiveBlocks : Int := blockNumber - position.lastActivityBlock
    !(decide (position.cachedHfWad ≥ config.positionEvictionHfThresholdWad) &&
      decide (inactiveBlocks ≥ config.positionEvictionInactiveBlocks)))
  { model with
    positions := kept
    evictionTotal := model.evictionTotal + (model.positions.size - kept.size) }

/-- Positions by last activity, oldest first; the sort is stable. -/
def byActivity (positions : Positions) : List UserPosition :=
  positions.values.insertionSort (fun a b => a.lastActivityBlock ≤ b.lastActivityBlock)

/-- Delete victims in order while more positions are stored than allowed. -/
def evictOver (cap : ℚ) : LocalPositionModel → List UserPosition → LocalPositionModel
  | model, [] => model
  | model, victim :: rest =>
      if (model.positions.size : ℚ) > cap then
        evictOver cap
          { model with
            positions := model.positions.delete victim.account.toLowerCase
            evictionTotal := model.evictionTotal + 1 } rest
      else model

/-- `enforceHardCap`. -/
def enforceHardCap (config : LocalPositionModelConfig) (model : LocalPositionModel)
    (blockNumber : Nat) : LocalPositionModel :=
  if (model.positions.size : ℚ) ≤ config.positionCacheHardCap then
    evictInactiveHealthy config model blockNumber
  else
    evictInactiveHealthy config
      (evictOver config.positionCacheHardCap model (byActivity model.positions)) blockNumber

/-- `evictUnderMemoryPressure`: positions at risk and below 1.5 are spared. -/
def evictUnderMemoryPressure (config : LocalPositionModelConfig) (model : LocalPositionModel)
    (blockNumber : Nat) : LocalPositionModel :=
  let pressureCap := ⌊config.positionCacheHardCap * (3 / 4)⌋
  let victims := (byActivity model.positions).filter (fun position =>
    decide (classifyTier config position.cachedHfWad = .healthy) &&
      decide (position.cachedHfWad ≥ (3 * WAD) / 2))
  evictInactiveHealthy config (evictOver pressureCap model victims) blockNumber

/-! ## Health factors -/

def pegHealthInput (config : LocalPositionModelConfig) (model : LocalPositionModel)
    (nowSec : Int) : PegReferenceHealthInput where
  prices := model.prices
  feedStates := model.feedStates
  nowSec := nowSec
  freshnessMultiplier := config.freshnessMultiplier

/-- `collectPositionAssets`: assets with a balance, collateral first. -/
def collectPositionAssets (position : UserPosition) : List Address :=
  (position.collateral.entries.filter (fun entry => decide (entry.2 > 0))).map Prod.fst ++
    (position.debt.entries.filter (fun entry => decide (entry.2 > 0))).map Prod.fst

/-- The assets of a position, each once, collateral first. -/
def positionKeys (position : UserPosition) : List Address :=
  position.collateral.keys ++
    position.debt.keys.filter (fun key => !position.collateral.has key)

/-- The assets of a position with a balance. -/
def heldKeys (position : UserPosition) : List Address :=
  (positionKeys position).filter (fun key =>
    !(decide ((position.collateral.get? key).getD 0 = 0) &&
      decide ((position.debt.get? key).getD 0 = 0)))

def collectMissingPriceAssets (position : UserPosition) (input : PegReferenceHealthInput) :
    List Address :=
  (heldKeys position).filter (fun key => (resolveEffectiveAssetPriceWad18 key input).isNone)

/-- The registered feed of an asset is a price feed whose last round is older
than one and a half heartbeats. -/
def feedIsStale (feedStates : FeedStates) (nowSec : Int) (assetKey : Address) : Bool :=
  match feedStates.get? assetKey with
  | none => false
  | some feedState =>
      if feedState.source = some .aave ∨ feedState.source = some .peg then false
      else decide (2 * (nowSec - feedState.updatedAt) > 3 * (heartbeatOf feedState.feedAddress : Int))

def collectStalePriceAssets (position : UserPosition) (feedStates : FeedStates) (nowSec : Int) :
    List Address :=
  (heldKeys position).filter (feedIsStale feedStates nowSec)

def positionTouchesAsset (position : UserPosition) (asset : Address) : Bool :=
  decide ((position.collateral.get? asset.toLowerCase).getD 0 > 0) ||
    decide ((position.debt.get? asset.toLowerCase).getD 0 > 0)

/-- `materializeHealthyPegPrices`: write the pegged price when its reference is
healthy. -/
def materializeHealthyPegPrices (config : LocalPositionModelConfig) (model : LocalPositionModel)
    (nowSec : Int) : LocalPositionModel :=
  match pegUsdbcPriceFromHealthyReference (pegHealthInput config model nowSec) with
  | none => model
  | some pegPrice =>
      if model.prices.get? BASE_USDBC.toLowerCase = some pegPrice then model
      else
        let usdcState := model.feedStates.get? BASE_USDC.toLowerCase
        model.registerBootstrapPrice BASE_USDBC pegPrice
          { answer := (pegPrice / 10 ^ 10 : Nat)
            decimals := 8
            updatedAt := (usdcState.map FeedState.updatedAt).getD nowSec
            feedAddress := BASE_USDC
            asset := BASE_USDBC
            source := some .peg }

/-- The collateral of a position, valued and weighted by liquidation threshold. -/
def weightedCollateral (reserves : InsertionMap Address ReserveConfig) (position : UserPosition)
    (input : PegReferenceHealthInput) : Nat :=
  (position.collateral.entries.map (fun entry =>
    match reserves.get? entry.1, resolveEffectiveAssetPriceWad18 entry.1 input with
    | some reserve, some price =>
        if entry.2 = 0 then 0
        else (scaleCollateralAmount position entry.1 entry.2 reserve * price *
          reserve.liquidationThresholdBps) / BPS
    | _, _ => 0)).sum

/-- The debt of a position, valued. -/
def totalDebt (reserves : InsertionMap Address ReserveConfig) (position : UserPosition)
    (input : PegReferenceHealthInput) : Nat :=
  (position.debt.entries.map (fun entry =>
    match reserves.get? entry.1, resolveEffectiveAssetPriceWad18 entry.1 input with
    | some reserve, some price =>
        if entry.2 = 0 then 0 else scaleDebtAmount position entry.1 entry.2 reserve * price
    | _, _ => 0)).sum

/-- The valuation at the end of `recomputeHf`, with prices as they stand. -/
def valuePosition (config : LocalPositionModelConfig) (model : LocalPositionModel)
    (position : UserPosition) (nowSec : Int) : HfResult :=
  let input := pegHealthInput config model nowSec
  let missingAssets := collectMissingPriceAssets position input
  if missingAssets ≠ [] then .priceIncomplete missingAssets
  else
    let staleAssets := collectStalePriceAssets position model.feedStates nowSec
    if staleAssets ≠ [] then .priceStale staleAssets
    else
      let debt := totalDebt model.reserveConfig position input
      if debt = 0 then .noDebt MAX_UINT256
      else .ok ((weightedCollateral model.reserveConfig position input * WAD) / debt)

/-- `recomputeHf` around a given refresh of the pegged price. -/
def recomputeHfWith (sync : LocalPositionModel → LocalPositionModel)
    (config : LocalPositionModelConfig) (model : LocalPositionModel) (position : UserPosition)
    (nowSec : Int) : LocalPositionModel × HfResult :=
  if !model.pricesBootstrapped then
    (model, .priceIncomplete (collectPositionAssets position))
  else
    let refreshed := materializeHealthyPegPrices config (sync model) nowSec
    (refreshed, valuePosition config refreshed position nowSec)

/-- `commitHfFromRecompute`: store the health factor the policy allows, if any.
The position is read again, since the recomputation may have stored into it. -/
def commitHfFromRecompute (model : LocalPositionModel) (accountKey : Address)
    (hfResult : HfResult) : LocalPositionModel × Option UserPosition :=
  match model.positions.get? accountKey with
  | none => (model, none)
  | some position =>
      match resolveHfFromResult position hfResult with
      | none => (model, none)
      | some effective =>
          let committed := { position with cachedHfWad := effective }
          ({ model with positions := model.positions.put committed }, some committed)

/-- One turn of the loop of `recomputeTierChangesForAsset`. -/
def recomputeTierChange
    (recompute : LocalPositionModel → UserPosition → LocalPositionModel × HfResult)
    (config : LocalPositionModelConfig) (asset : Address)
    (state : LocalPositionModel × List TierChange) (accountKey : Address) :
    LocalPositionModel × List TierChange :=
  match state.1.positions.get? accountKey with
  | none => state
  | some position =>
      if !position.isFullySeeded || !positionTouchesAsset position asset then state
      else
        let recomputed := recompute state.1 position
        match commitHfFromRecompute recomputed.1 accountKey recomputed.2 with
        | (model, none) => (model, state.2)
        | (model, some committed) => (model, state.2 ++ [toTierChange config committed false])

/-- `recomputeTierChangesForAsset` around a given recomputation. -/
def recomputeTierChangesWith
    (recompute : LocalPositionModel → UserPosition → LocalPositionModel × HfResult)
    (config : LocalPositionModelConfig) (model : LocalPositionModel) (asset : Address) :
    LocalPositionModel × List TierChange :=
  model.positions.keys.foldl (recomputeTierChange recompute config asset) (model, [])

/-- The pegged assets to refresh: those of an updated reference, or every
pegged asset with a price. -/
def pegAssetsToSync (model : LocalPositionModel) : Option Address → List Address
  | some reference => pegAssetsDerivedFrom reference
  | none => model.prices.keys.filter (fun key => (pegReferenceAsset key).isSome)

/-- One turn of the loop of `syncDerivedPegPrices`. -/
def syncPegAsset
    (recomputeChanges : LocalPositionModel → Address → LocalPositionModel × List TierChange)
    (nowSec : Int) (state : LocalPositionModel × List TierChange) (pegAsset : Address) :
    LocalPositionModel × List TierChange :=
  match resolvePegPriceWad18 pegAsset state.1.prices, pegReferenceAsset pegAsset with
  | some pegPrice, some reference =>
      if state.1.prices.get? pegAsset.toLowerCase = some pegPrice then state
      else
        let registered := state.1.registerBootstrapPrice pegAsset pegPrice
          { answer := (pegPrice / 10 ^ 10 : Nat)
            decimals := 8
            updatedAt := nowSec
            feedAddress := reference
            asset := pegAsset
            source := some .peg }
        let recomputed := recomputeChanges registered pegAsset
        (recomputed.1, state.2 ++ recomputed.2)
  | _, _ => state

/-- `syncDerivedPegPrices` around a given recomputation of tier changes. -/
def syncDerivedPegPricesWith
    (recomputeChanges : LocalPositionModel → Address → LocalPositionModel × List TierChange)
    (model : LocalPositionModel) (nowSec : Int) (updatedReferenceAsset : Option Address) :
    LocalPositionModel × List TierChange :=
  (pegAssetsToSync model updatedReferenceAsset).foldl (syncPegAsset recomputeChanges nowSec)
    (model, [])

/-- `syncDerivedPegPrices`, whose nested refresh has nothing left to do. -/
def syncDerivedPegPrices (config : LocalPositionModelConfig) (model : LocalPositionModel)
    (nowSec : Int) (updatedReferenceAsset : Option Address) :
    LocalPositionModel × List TierChange :=
  syncDerivedPegPricesWith
    (recomputeTierChangesWith (fun model position =>
      recomputeHfWith id config model position nowSec) config)
    model nowSec updatedReferenceAsset

/-- `recomputeHf`. -/
def recomputeHf (config : LocalPositionModelConfig) (model : LocalPositionModel)
    (position : UserPosition) (nowSec : Int) : LocalPositionModel × HfResult :=
  recomputeHfWith (fun model => (syncDerivedPegPrices config model nowSec none).1) config model
    position nowSec

/-- `recomputeTierChangesForAsset`. -/
def recomputeTierChangesForAsset (config : LocalPositionModelConfig) (model : LocalPositionModel)
    (asset : Address) (nowSec : Int) : LocalPositionModel × List TierChange :=
  recomputeTierChangesWith (fun model position => recomputeHf config model position nowSec) config
    model asset

/-! ## Operations -/

/-- `applyHfResult`: recompute one position and report it if its health factor
was stored. -/
def applyHfResult (config : LocalPositionModelConfig) (model : LocalPositionModel)
    (position : UserPosition) (isNew : Bool) (nowSec : Int) :
    LocalPositionModel × AaveEventApplyResult :=
  let recomputed := recomputeHf config model position nowSec
  match commitHfFromRecompute recomputed.1 position.account.toLowerCase recomputed.2 with
  | (model, none) => (model, ⟨[], none⟩)
  | (model, some committed) => (model, ⟨[toTierChange config committed isNew], none⟩)

/-- Apply an account's event to its known or new position. -/
def applyAccountEvent (config : LocalPositionModelConfig) (model : LocalPositionModel)
    (event : ParsedAavePoolEvent) (account : Address) (nowSec : Int) :
    LocalPositionModel × AaveEventApplyResult :=
  let registered := model.registerReserve event.reserve BASE_LT_BPS
  let isNew := !model.positions.has account.toLowerCase
  let touched := { registered.getOrCreate account event.origin.blockNumber with
    lastActivityBlock := event.origin.blockNumber }
  let position := applyBalances registered.reserveConfig touched event
  let stored := { registered with positions := registered.positions.put position }
  if decide (event.name = .LiquidationCall) && debtFree position then
    (stored.removePosition position.account, ⟨[], none⟩)
  else if !position.isFullySeeded then
    (enforceHardCap config stored event.origin.blockNumber, ⟨[], some account⟩)
  else
    let applied := applyHfResult config stored position isNew nowSec
    (enforceHardCap config applied.1 event.origin.blockNumber, applied.2)

/-- `applyAaveEvent`. A first event of an account counts only on an allowlisted
reserve; a position that is not seeded asks to be reconciled instead of being
valued. -/
def applyAaveEvent (config : LocalPositionModelConfig) (model : LocalPositionModel)
    (event : ParsedAavePoolEvent) (nowSec : Int) : LocalPositionModel × AaveEventApplyResult :=
  if event.name = .ReserveDataUpdated then
    ((model.registerReserve event.reserve BASE_LT_BPS).applyReserveIndexUpdate event, ⟨[], none⟩)
  else
    match resolveUserAddress event with
    | none => (model, ⟨[], none⟩)
    | some account =>
        if !model.positions.has account.toLowerCase && !isReserveInAllowlist config event.reserve
        then (model, ⟨[], none⟩)
        else applyAccountEvent config model event account nowSec

/-- The changes of a feed update, followed by those of the peg whose account is
not among them yet. -/
def mergeChanges (directChanges pegChanges : List TierChange) : List TierChange :=
  pegChanges.foldl (fun merged change =>
    if merged.any (fun other => decide (other.account.toLowerCase = change.account.toLowerCase))
    then merged else merged ++ [change]) directChanges

/-- `applyFeedPriceUpdate`. The clock of the recomputation is the round's own
update time. -/
def applyFeedPriceUpdate (config : LocalPositionModelConfig) (model : LocalPositionModel)
    (asset feed : Address) (answer : Int) (decimals : Nat) (updatedAtSec : Int) :
    LocalPositionModel × List TierChange :=
  if answer ≤ 0 then (model, [])
  else if decimals > 18 then (model, [])
  else
    let normalizedPrice := answer.toNat * 10 ^ (18 - decimals)
    let registered := model.registerBootstrapPrice asset normalizedPrice
      { answer := answer
        decimals := decimals
        updatedAt := updatedAtSec
        feedAddress := feed
        asset := asset
        source := none }
    let pegged := syncDerivedPegPrices config registered updatedAtSec (some asset)
    let direct := recomputeTierChangesForAsset config pegged.1 asset updatedAtSec
    (direct.1, mergeChanges direct.2 pegged.2)

/-- `applyPriceEvent`: decimals of the registered feed, time of the round. -/
def applyPriceEvent (config : LocalPositionModelConfig) (model : LocalPositionModel)
    (event : ParsedChainlinkPriceEvent) (nowSec : Int) : LocalPositionModel × List TierChange :=
  let existingFeedState := model.feedStates.get? event.asset.toLowerCase
  let decimals := (existingFeedState.map FeedState.decimals).getD DEFAULT_FEED_DECIMALS
  applyFeedPriceUpdate config model event.asset event.feed event.price decimals
    (event.oracleUpdatedAtSec.getD nowSec)

/-- `confirmOnChain`: totals and health factor of an on-chain read. -/
def confirmOnChain (model : LocalPositionModel) (account : Address)
    (totalCollateralBase totalDebtBase liquidationThreshold healthFactor blockNumber
      eModeCategoryId : Nat) : LocalPositionModel :=
  let position := model.getOrCreate account blockNumber
  { model with
    positions := model.positions.put
      { position with
        confidence := .high
        isFullySeeded := true
        lastConfirmedBlock := blockNumber
        eModeCategoryId := eModeCategoryId
        lastTotalCollateralBase := some totalCollateralBase
        lastTotalDebtBase := some totalDebtBase
        lastLiquidationThreshold := some liquidationThreshold
        cachedHfWad :=
          if healthFactor > 0 then healthFactor
          else calculateHealthFactor totalCollateralBase totalDebtBase liquidationThreshold } }

/-- One reserve of an on-chain snapshot. -/
structure SnapshotReserve where
  asset : Address
  scaledCollateral : Nat
  scaledDebt : Nat
deriving DecidableEq

/-- The input of `seedFromOnChainSnapshot`. -/
structure AccountSnapshot where
  account : Address
  blockNumber : Nat
  eModeCategoryId : Nat
  healthFactorWad : Nat
  totalCollateralBase : Nat
  totalDebtBase : Nat
  liquidationThreshold : Nat
  reserves : List SnapshotReserve
deriving DecidableEq

/-- One row of a snapshot: register its reserve and store its balances with the
reserve's current indices. -/
def seedReserve (state : LocalPositionModel × UserPosition) (row : SnapshotReserve) :
    LocalPositionModel × UserPosition :=
  let key := row.asset.toLowerCase
  let registered := state.1.registerReserve row.asset BASE_LT_BPS
  match registered.reserveConfig.get? key with
  | none => (registered, state.2)
  | some reserve =>
      let collateralized :=
        if row.scaledCollateral > 0 then
          { state.2 with
            collateral := state.2.collateral.set key row.scaledCollateral
            collateralIndexAtUpdate :=
              state.2.collateralIndexAtUpdate.set key reserve.liquidityIndex }
        else state.2
      let indebted :=
        if row.scaledDebt > 0 then
          { collateralized with
            debt := collateralized.debt.set key row.scaledDebt
            debtIndexAtUpdate :=
              collateralized.debtIndexAtUpdate.set key reserve.variableBorrowIndex }
        else collateralized
      (registered, indebted)

/-- `seedFromOnChainSnapshot`. -/
def seedFromOnChainSnapshot (config : LocalPositionModelConfig) (model : LocalPositionModel)
    (input : AccountSnapshot) : LocalPositionModel :=
  let cleared := { model.getOrCreate input.account input.blockNumber with
    collateral := .empty
    debt := .empty
    collateralIndexAtUpdate := .empty
    debtIndexAtUpdate := .empty }
  let rows := input.reserves.foldl seedReserve (model, cleared)
  let position := { rows.2 with
    eModeCategoryId := input.eModeCategoryId
    confidence := .high
    isFullySeeded := true
    lastConfirmedBlock := input.blockNumber
    lastActivityBlock := input.blockNumber
    lastTotalCollateralBase := some input.totalCollateralBase
    lastTotalDebtBase := some input.totalDebtBase
    lastLiquidationThreshold := some input.liquidationThreshold
    cachedHfWad :=
      if input.healthFactorWad > 0 then input.healthFactorWad
      else calculateHealthFactor input.totalCollateralBase input.totalDebtBase
        input.liquidationThreshold }
  enforceHardCap config { rows.1 with positions := rows.1.positions.put position }
    input.blockNumber

end LocalPositionModel

end LiquidationBot
