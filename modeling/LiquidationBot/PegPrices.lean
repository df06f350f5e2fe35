import LiquidationBot.Addresses
import LiquidationBot.Library.InsertionMap
import Mathlib.Data.Rat.Floor

/-!
# Prices and the USDbC peg

Prices carry eighteen decimals and are stored under lower-cased asset addresses.
USDbC follows USDC one to one. Where USDbC has no price of its own, the USDC
price stands in as long as the USDC feed is fresh enough.

The freshness multiplier is an environment setting; it is read at every use and
stays a parameter here.
-/

namespace LiquidationBot

/-- Where a registered price comes from; a price-feed round leaves it unset. -/
inductive PriceSource where
  | chainlink
  | aave
  | peg
deriving DecidableEq

/-- The last round registered for an asset. -/
structure FeedState where
  answer : Int
  decimals : Nat
  updatedAt : Int
  feedAddress : Address
  asset : Address
  source : Option PriceSource
deriving DecidableEq

abbrev Prices := InsertionMap Address Nat

abbrev FeedStates := InsertionMap Address FeedState

/-- Prices and feed states together with the time they are judged at. -/
structure PegReferenceHealthInput where
  prices : Prices
  feedStates : FeedStates
  nowSec : Int
  freshnessMultiplier : ℚ

/-- `pegUsdbcFromUsdcPrice`: the peg is one to one. -/
def pegUsdbcFromUsdcPrice (usdcNormalizedPriceWad18 : Nat) : Nat := usdcNormalizedPriceWad18

def isUsdbcAsset (asset : Address) : Bool :=
  decide (asset.toLowerCase = BASE_USDBC.toLowerCase)

/-- `pegReferenceAsset`: USDbC is the only pegged asset. -/
def pegReferenceAsset (asset : Address) : Option Address :=
  if isUsdbcAsset asset then some BASE_USDC else none

/-- `pegAssetsDerivedFrom`: the assets to refresh with a reference. -/
def pegAssetsDerivedFrom (referenceAsset : Address) : List Address :=
  if referenceAsset.toLowerCase = BASE_USDC.toLowerCase then [BASE_USDBC] else []

/-- `resolvePegPriceWad18`: the reference price, unless it is the placeholder. -/
def resolvePegPriceWad18 (asset : Address) (prices : Prices) : Option Nat :=
  match pegReferenceAsset asset with
  | none => none
  | some reference =>
      match prices.get? reference.toLowerCase with
      | none => none
      | some referencePrice =>
          if referencePrice ≤ 1 then none
          else if isUsdbcAsset asset then some (pegUsdbcFromUsdcPrice referencePrice)
          else none

/-- `isUsdcFreshEnoughForPegDerivation`. -/
def isUsdcFreshEnoughForPegDerivation (usdcFeed : FeedState) (nowSec : Int)
    (freshnessMultiplier : ℚ) : Bool :=
  decide (((nowSec - usdcFeed.updatedAt : Int) : ℚ) ≤
    heartbeatOf usdcFeed.feedAddress * freshnessMultiplier)

/-- `shouldRelaxFreshnessForHealthyPeg`: USDbC may inherit the USDC price. -/
def shouldRelaxFreshnessForHealthyPeg (asset : Address) (input : PegReferenceHealthInput) :
    Bool :=
  if !isUsdbcAsset asset then false
  else
    match input.prices.get? BASE_USDC.toLowerCase with
    | none => false
    | some usdcPrice =>
        if usdcPrice ≤ 1 then false
        else
          match input.feedStates.get? BASE_USDC.toLowerCase with
          | none => true
          | some usdcFeed =>
              if usdcFeed.source = some .aave ∨ usdcFeed.source = some .peg then true
              else isUsdcFreshEnoughForPegDerivation usdcFeed input.nowSec
                input.freshnessMultiplier

def resolveHealthyPegPriceWad18 (asset : Address) (input : PegReferenceHealthInput) :
    Option Nat :=
  if !shouldRelaxFreshnessForHealthyPeg asset input then none
  else resolvePegPriceWad18 asset input.prices

/-- `resolveEffectiveAssetPriceWad18`: the asset's own price, or a healthy peg. -/
def resolveEffectiveAssetPriceWad18 (asset : Address) (input : PegReferenceHealthInput) :
    Option Nat :=
  match input.prices.get? asset.toLowerCase with
  | some direct => if direct > 1 then some direct else resolveHealthyPegPriceWad18 asset input
  | none => resolveHealthyPegPriceWad18 asset input

/-- `pegUsdbcPriceFromHealthyReference`. -/
def pegUsdbcPriceFromHealthyReference (input : PegReferenceHealthInput) : Option Nat :=
  if !shouldRelaxFreshnessForHealthyPeg BASE_USDBC input then none
  else
    match input.prices.get? BASE_USDC.toLowerCase with
    | none => none
    | some usdcPrice => if usdcPrice ≤ 1 then none else some (pegUsdbcFromUsdcPrice usdcPrice)

end LiquidationBot
