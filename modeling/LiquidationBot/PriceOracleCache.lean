import LiquidationBot.Addresses
import LiquidationBot.Library.AsyncPool
import LiquidationBot.Library.InsertionMap
import LiquidationBot.NonceManager
import Mathlib.Algebra.Order.Ring.Nat

/-!
# The oracle price cache

Prices of tokens are read from their Chainlink feeds and, where that fails, from
the Aave oracle. A price is kept for a few seconds. Calls for a single token share
a read that is under way; a batch joins such reads and makes one multicall for the
rest; a forced refresh forgets the tokens' prices and reads first.

Calls run side by side. A read takes what the node has at its own moment, and what
was read is stored in a later turn, after anything else. Moments count the turns.
A price remembers for the proofs where it comes from; no function looks at that.
-/

namespace LiquidationBot

/-- A feed of a token, with its decimals where they are configured. -/
structure OracleFeedConfig where
  feed : Address
  priceDecimals : Option Nat
deriving DecidableEq

/-- `PriceOracleCacheConfig` of one chain. `getAddress` gives the letters that the
checksum of an address spells in upper case. -/
structure PriceOracleCacheConfig where
  feedRegistry : InsertionMap Address OracleFeedConfig
  cacheTtlMs : Int := 5000
  maxStaleMs : Int := 900000
  aaveOracleAddress : Option Address
  getAddress : BitVec 160 → BitVec 40

/-- What `latestRoundData` answers, by what is read of it. -/
structure Round where
  answer : Int
  updatedAt : Nat
deriving DecidableEq

/-- Where the decimals of a feed are taken from: the configuration, the contract,
or nowhere. -/
inductive DecimalsSource where
  | configured
  | read
  | assumed
deriving DecidableEq

/-- A round with the moment of its read, and the decimals that it is scaled with. -/
structure Reading where
  feed : Address
  round : Round
  readAt : Nat
  decimals : Nat
  decimalsFrom : DecimalsSource
deriving DecidableEq

/-- Where a price comes from. A reading has its time of check. -/
inductive PriceOrigin where
  | nowhere
  | chainlink (reading : Reading) (checkedMs : Int)
  | aave (readAt : Nat)
deriving DecidableEq

/-- A returned price with its origin. -/
structure OraclePrice where
  raw : Int
  origin : PriceOrigin
deriving DecidableEq

namespace OraclePrice

/-- `0n`. -/
def zero : OraclePrice := ⟨0, .nowhere⟩

/-- The moment at which the price was read. -/
def readAt (price : OraclePrice) : Option Nat :=
  match price.origin with
  | .nowhere => none
  | .chainlink reading _ => some reading.readAt
  | .aave readAt => some readAt

end OraclePrice

/-- `PriceCacheEntry`; its source is the origin of the price. The last Chainlink
round stored since the entry was cleared is kept for the proofs. -/
structure PriceCacheEntry where
  price : OraclePrice
  updatedAtMs : Int
  oracleUpdatedAtSec : Int
  freshnessMs : Int
  lastRound : Option (Nat × Int)
deriving DecidableEq

/-- The maps of `PriceOracleCache`. A promise in flight is named by the moment at
which it was registered. -/
structure PriceOracleCache where
  cache : InsertionMap Address PriceCacheEntry
  inFlight : InsertionMap Address Nat
  feedDecimalsCache : InsertionMap Address Nat

namespace PriceOracleCache

open Async

/-- `DEFAULT_USD_DECIMALS`. -/
def DEFAULT_USD_DECIMALS : Nat := 8

/-- `NON_CHAINLINK_FEED_ADDRESSES`: the Base protocol data provider and the Base
Aave oracle. -/
def NON_CHAINLINK_FEED_ADDRESSES : List Address :=
  [⟨0x2d8a3c5677189723c4cb8873cfc9c8976dfe292c, 0⟩,
    ⟨0x2cc0fc26ed4563a5ce5e8bdcfe1a2878676ae156, 0⟩]

/-- `validateAndNormalizeFeedAddress` of a well-formed address. -/
def validateAndNormalizeFeedAddress (config : PriceOracleCacheConfig) (feed : Address) :
    Option Address :=
  let normalized : Address := ⟨feed.value, config.getAddress feed.value⟩
  if normalized.toLowerCase ∈ NON_CHAINLINK_FEED_ADDRESSES then none else some normalized

/-- `sanitizeFeedsByToken`. -/
def feedsByToken (config : PriceOracleCacheConfig) : InsertionMap Address OracleFeedConfig :=
  config.feedRegistry.entries.foldl (fun sanitized entry =>
    match validateAndNormalizeFeedAddress config entry.2.feed with
    | none => sanitized
    | some normalizedFeed => sanitized.set entry.1 { entry.2 with feed := normalizedFeed }) .empty

def resolveValidatedFeedConfig (config : PriceOracleCacheConfig) (token : Address) :
    Option OracleFeedConfig :=
  match (feedsByToken config).get? token with
  | none => none
  | some feed => (validateAndNormalizeFeedAddress config feed.feed).map
      (fun normalizedFeed => { feed with feed := normalizedFeed })

def sanitizeOraclePrice (price : Int) : Int := if 0 < price then price else 0

/-- The scaling of `scaleToUsd8`, by the decimals that were resolved. -/
def scaleToUsd8 (feedDecimals : Nat) (rawPrice : Int) : Int :=
  if feedDecimals = DEFAULT_USD_DECIMALS then rawPrice
  else if feedDecimals > DEFAULT_USD_DECIMALS then
    rawPrice / 10 ^ (feedDecimals - DEFAULT_USD_DECIMALS)
  else rawPrice * 10 ^ (DEFAULT_USD_DECIMALS - feedDecimals)

/-- The price that a reading is turned into. -/
def scaled (reading : Reading) : Int :=
  scaleToUsd8 reading.decimals (sanitizeOraclePrice reading.round.answer)

/-- The entry is too old to answer a call. -/
def expired (config : PriceOracleCacheConfig) (nowMs : Int) (entry : PriceCacheEntry) : Bool :=
  decide (config.cacheTtlMs ≤ nowMs - entry.updatedAtMs)

def getFreshCached (config : PriceOracleCacheConfig) (oracle : PriceOracleCache) (nowMs : Int)
    (token : Address) : Option OraclePrice :=
  match oracle.cache.get? token with
  | none => none
  | some cached => if expired config nowMs cached then none else some cached.price

/-- The last Chainlink round stored for the token since its entry was cleared. -/
def lastRound (config : PriceOracleCacheConfig) (oracle : PriceOracleCache) (nowMs : Int)
    (token : Address) : Option (Nat × Int) :=
  match oracle.cache.get? token with
  | none => none
  | some cached => if expired config nowMs cached then none else cached.lastRound

/-- The last Chainlink round of an entry that is stored now. -/
def roundAfter (config : PriceOracleCacheConfig) (oracle : PriceOracleCache) (nowMs : Int)
    (token : Address) (price : OraclePrice) (updatedAtSec : Int) : Option (Nat × Int) :=
  match price.origin with
  | .chainlink reading _ => some (reading.readAt, updatedAtSec)
  | _ => lastRound config oracle nowMs token

/-- `storePrice`. -/
def storePrice (config : PriceOracleCacheConfig) (oracle : PriceOracleCache) (nowMs : Int)
    (token : Address) (price : OraclePrice) (updatedAtSec freshnessMs : Int) :
    PriceOracleCache × OraclePrice :=
  if price.raw ≤ 0 then (oracle, .zero)
  else
    let round := roundAfter config oracle nowMs token price updatedAtSec
    ({ oracle with cache := oracle.cache.set token ⟨price, nowMs, updatedAtSec, freshnessMs, round⟩ },
      price)

/-- `guardFreshness` of a Chainlink reading. -/
def guardFreshness (config : PriceOracleCacheConfig) (oracle : PriceOracleCache) (nowMs : Int)
    (token : Address) (reading : Reading) : PriceOracleCache × OraclePrice :=
  let priceInUsdRaw := scaled reading
  let updatedAtSec := (reading.round.updatedAt : Int)
  if priceInUsdRaw ≤ 0 then (oracle, .zero)
  else if updatedAtSec ≤ 0 then (oracle, .zero)
  else
    let freshnessMs := nowMs - updatedAtSec * 1000
    if config.maxStaleMs < freshnessMs then (oracle, .zero)
    else storePrice config oracle nowMs token ⟨priceInUsdRaw, .chainlink reading nowMs⟩ updatedAtSec
      freshnessMs

/-- The store of `readAaveFallback`, whose round is of now. -/
def storeAavePrice (config : PriceOracleCacheConfig) (oracle : PriceOracleCache) (nowMs : Int)
    (token : Address) (price : Int) (readAt : Nat) : PriceOracleCache × OraclePrice :=
  let updatedAtSec := nowMs / 1000
  storePrice config oracle nowMs token ⟨price, .aave readAt⟩ updatedAtSec
    (nowMs - updatedAtSec * 1000)

/-- What a call finds for a token. -/
inductive Lookup where
  | cached (price : OraclePrice)
  | inFlight (promise : Nat)
  | missing
deriving DecidableEq

def look (config : PriceOracleCacheConfig) (oracle : PriceOracleCache) (nowMs : Int)
    (token : Address) : Lookup :=
  match getFreshCached config oracle nowMs token with
  | some price => .cached price
  | none =>
      match oracle.inFlight.get? token with
      | some promise => .inFlight promise
      | none => .missing

/-- What a forced refresh forgets. -/
def forget (oracle : PriceOracleCache) (token : Address) : PriceOracleCache :=
  { oracle with cache := oracle.cache.delete token, inFlight := oracle.inFlight.delete token }

/-! ## The calls -/

/-- The turns of the cache's functions, which run without interruption between
their waits. `lookup` is `getUsdPrice` up to its read, which it registers;
`lookupMany` is a batch up to its reads, after a forced refresh has forgotten the
tokens. -/
inductive OracleOp where
  | lookup (token : Address)
  | lookupMany (tokens : List Address) (forced : Bool)
  | join (token : Address) (promise : Nat)
  | settle (token : Address) (promise : Nat) (price : OraclePrice)
  | latestRoundData (feed : Address)
  | multicall (feeds : List Address)
  | cachedDecimals (feed : Address)
  | decimals (feed : Address)
  | rememberDecimals (feed : Address) (decimals : Nat)
  | guardFreshness (token : Address) (reading : Reading)
  | getAssetPrice (token : Address)
  | storeAavePrice (token : Address) (price : Int) (readAt : Nat)
  | clear

/-- Lookups and reads are answered with their moment. -/
@[reducible] def OracleOp.Answer : OracleOp → Type
  | .lookup _ => Nat × Lookup
  | .lookupMany _ _ => Nat × List (Address × Lookup)
  | .join _ _ => OraclePrice
  | .settle _ _ _ => Unit
  | .latestRoundData _ => Except Thrown (Round × Nat)
  | .multicall _ => Except Thrown (List (Option Round) × Nat)
  | .cachedDecimals _ => Option Nat
  | .decimals _ => Except Thrown Nat
  | .rememberDecimals _ _ => Unit
  | .guardFreshness _ _ => OraclePrice
  | .getAssetPrice _ => Except Thrown (Int × Nat)
  | .storeAavePrice _ _ _ => OraclePrice
  | .clear => Unit

abbrev OracleProgram := Async OracleOp OracleOp.Answer Thrown

/-- The prices of a batch. -/
abbrev Sink := InsertionMap Address OraclePrice

def readAaveFallback (config : PriceOracleCacheConfig) (token : Address) :
    OracleProgram OraclePrice :=
  match config.aaveOracleAddress with
  | none => .pure .zero
  | some _ => do
      let raw ← perform (OracleOp.getAssetPrice token)
      match raw with
      | .error _ => .pure .zero
      | .ok (raw, readAt) =>
          let sanitized := sanitizeOraclePrice raw
          if sanitized ≤ 0 then .pure .zero
          else perform (OracleOp.storeAavePrice token sanitized readAt)

def resolveFeedDecimals (config : PriceOracleCacheConfig) (feed : OracleFeedConfig) :
    OracleProgram (Nat × DecimalsSource) :=
  match feed.priceDecimals with
  | some priceDecimals => .pure (priceDecimals, .configured)
  | none =>
      match validateAndNormalizeFeedAddress config feed.feed with
      | none => .pure (DEFAULT_USD_DECIMALS, .assumed)
      | some normalizedFeed => do
          let cached ← perform (OracleOp.cachedDecimals normalizedFeed)
          match cached with
          | some cached => .pure (cached, .read)
          | none => do
              let decimals ← perform (OracleOp.decimals normalizedFeed)
              match decimals with
              | .error _ => .pure (DEFAULT_USD_DECIMALS, .assumed)
              | .ok normalized => do
                  let _ ← perform (OracleOp.rememberDecimals normalizedFeed normalized)
                  .pure (normalized, .read)

/-- A round is scaled, checked and stored. -/
def priceRound (config : PriceOracleCacheConfig) (token : Address) (feed : OracleFeedConfig)
    (round : Round) (readAt : Nat) : OracleProgram OraclePrice := do
  let resolved ← resolveFeedDecimals config feed
  perform (OracleOp.guardFreshness token ⟨feed.feed, round, readAt, resolved.1, resolved.2⟩)

/-- The price of a round, or else of the Aave oracle. -/
def priceOrFallback (config : PriceOracleCacheConfig) (token : Address) (feed : OracleFeedConfig)
    (round : Round) (readAt : Nat) : OracleProgram OraclePrice := do
  let fresh ← priceRound config token feed round readAt
  if 0 < fresh.raw then .pure fresh else readAaveFallback config token

def fetchOne (config : PriceOracleCacheConfig) (token : Address) : OracleProgram OraclePrice :=
  match resolveValidatedFeedConfig config token with
  | none => readAaveFallback config token
  | some feed => do
      let roundData ← perform (OracleOp.latestRoundData feed.feed)
      match roundData with
      | .error _ => readAaveFallback config token
      | .ok (round, readAt) => priceOrFallback config token feed round readAt

/-- One after the other into the sink. -/
def fillSink (price : Address → OracleProgram OraclePrice) :
    List Address → Sink → OracleProgram Sink
  | [], sink => .pure sink
  | token :: rest, sink => do
      let fetched ← price token
      fillSink price rest (sink.set token fetched)

/-- The turn of `fetchMany` for one response of its multicall. -/
def priceResponse (config : PriceOracleCacheConfig) (token : Address) (feed : OracleFeedConfig)
    (readAt : Nat) : Option Round → OracleProgram OraclePrice
  | none => readAaveFallback config token
  | some round => priceOrFallback config token feed round readAt

/-- The loop of `fetchMany` over the responses. -/
def priceEntries (config : PriceOracleCacheConfig) (readAt : Nat) :
    List (Address × OracleFeedConfig) → List (Option Round) → Sink → OracleProgram Sink
  | [], _, sink => .pure sink
  | (token, feed) :: rest, responses, sink => do
      let price ← priceResponse config token feed readAt responses.head?.join
      priceEntries config readAt rest responses.tail (sink.set token price)

def feedEntries (config : PriceOracleCacheConfig) (tokens : List Address) :
    List (Address × OracleFeedConfig) :=
  tokens.filterMap (fun token => (resolveValidatedFeedConfig config token).map (token, ·))

def fetchMany (config : PriceOracleCacheConfig) (tokens : List Address) (sink : Sink) :
    OracleProgram Sink :=
  let entries := feedEntries config tokens
  if entries.isEmpty then fillSink (readAaveFallback config) tokens sink
  else do
    let unfed ← fillSink (readAaveFallback config)
      (tokens.filter (fun token => (resolveValidatedFeedConfig config token).isNone)) sink
    let responses ← perform (OracleOp.multicall (entries.map (fun entry => entry.2.feed)))
    match responses with
    | .error _ => fillSink (fetchOne config) (entries.map Prod.fst) unfed
    | .ok (responses, readAt) => priceEntries config readAt entries responses unfed

def getUsdPrice (config : PriceOracleCacheConfig) (token : Address) :
    OracleProgram OraclePrice := do
  let looked ← perform (OracleOp.lookup token)
  match looked.2 with
  | .cached price => .pure price
  | .inFlight promise => perform (OracleOp.join token promise)
  | .missing => do
      let price ← fetchOne config token
      let _ ← perform (OracleOp.settle token looked.1 price)
      .pure price

/-- The cached prices that a batch starts its result with. -/
def cachedSink (looked : List (Address × Lookup)) : Sink :=
  looked.foldl (fun sink entry => match entry.2 with
    | .cached price => sink.set entry.1 price
    | _ => sink) .empty

/-- The tokens whose price a batch has to fetch itself. -/
def immediate (looked : List (Address × Lookup)) : List Address :=
  (looked.filter (fun entry => entry.2 = .missing)).map Prod.fst

/-- Wait for the reads that were in flight. -/
def joinPending : List (Address × Lookup) → Sink → OracleProgram Sink
  | [], sink => .pure sink
  | (token, .inFlight promise) :: rest, sink => do
      let price ← perform (OracleOp.join token promise)
      joinPending rest (sink.set token price)
  | _ :: rest, sink => joinPending rest sink

/-- Fetch what has to be fetched. -/
def fetchImmediate (config : PriceOracleCacheConfig) (tokens : List Address) (result : Sink) :
    OracleProgram Sink :=
  if tokens.isEmpty then .pure result else fetchMany config tokens result

/-- `batchGetUsdPrices`, and `forceRefreshUsdPrices` when forced. -/
def batch (config : PriceOracleCacheConfig) (tokens : List Address) (forced : Bool) :
    OracleProgram Sink :=
  let unique := tokens.eraseDups
  if unique.isEmpty then .pure .empty
  else do
    let looked ← perform (OracleOp.lookupMany unique forced)
    let result := cachedSink looked.2
    let fetched ← fetchImmediate config (immediate looked.2) result
    joinPending looked.2 fetched

def batchGetUsdPrices (config : PriceOracleCacheConfig) (tokens : List Address) :
    OracleProgram Sink := batch config tokens false

def forceRefreshUsdPrices (config : PriceOracleCacheConfig) (tokens : List Address) :
    OracleProgram Sink := batch config tokens true

/-- The calls that others make. -/
inductive OracleCall where
  | getUsdPrice (token : Address)
  | batchGetUsdPrices (tokens : List Address)
  | forceRefreshUsdPrices (tokens : List Address)
  | clear
deriving DecidableEq

/-- What a call runs, with its result as a sink. -/
def OracleCall.program (config : PriceOracleCacheConfig) : OracleCall → OracleProgram Sink
  | .getUsdPrice token => do
      let price ← PriceOracleCache.getUsdPrice config token
      .pure (InsertionMap.empty.set token price)
  | .batchGetUsdPrices tokens => PriceOracleCache.batchGetUsdPrices config tokens
  | .forceRefreshUsdPrices tokens => PriceOracleCache.forceRefreshUsdPrices config tokens
  | .clear => do
      let _ ← perform OracleOp.clear
      .pure .empty

/-! ## The world -/

/-- What the node answers at each moment: rounds of any feed, and Aave prices. The
decimals of a feed do not change. -/
structure OracleNode where
  latestRound : Nat → Address → Round
  decimals : Address → Nat
  assetPrice : Nat → Address → Int

/-- What the outside decides of a turn: the time, whether its read fails, and which
entries of a multicall fail. -/
structure OracleTurn where
  nowMs : Int
  fails : Bool
  failing : List Nat

/-- A price that was stored, and the last Chainlink round stored for the token
before it since its entry was cleared. -/
structure Stored where
  token : Address
  price : OraclePrice
  previous : Option (Nat × Int)
deriving DecidableEq

/-- A reading that was checked. -/
structure Checked where
  token : Address
  reading : Reading
  nowMs : Int
deriving DecidableEq

/-- The cache with the promises that are settled, and what has happened: forced
refreshes of tokens at their moments, checks and stores. -/
structure OracleWorld where
  oracle : PriceOracleCache
  settled : InsertionMap (Address × Nat) OraclePrice
  moment : Nat
  refreshes : List (Address × Nat)
  checks : List Checked
  stores : List Stored

/-- A new cache. -/
def OracleWorld.initial : OracleWorld where
  oracle := ⟨.empty, .empty, .empty⟩
  settled := .empty
  moment := 0
  refreshes := []
  checks := []
  stores := []

/-- The next moment, with a change of the cache. -/
def OracleWorld.next (world : OracleWorld) (oracle : PriceOracleCache) : OracleWorld :=
  { world with oracle := oracle, moment := world.moment + 1 }

/-- The next moment, after a price may have been stored. -/
def OracleWorld.nextStored (config : PriceOracleCacheConfig) (world : OracleWorld) (nowMs : Int)
    (token : Address) (outcome : PriceOracleCache × OraclePrice) : OracleWorld :=
  { world.next outcome.1 with
    stores := world.stores ++ if 0 < outcome.2.raw then
      [⟨token, outcome.2, lastRound config world.oracle nowMs token⟩] else [] }

/-- A waiting call has no answer before its promise is settled. -/
def serve (config : PriceOracleCacheConfig) (node : OracleNode) :
    Server OracleTurn OracleWorld OracleOp OracleOp.Answer :=
  fun turn world op => match op with
  | .lookup token =>
      let looked := look config world.oracle turn.nowMs token
      let oracle := if looked = .missing then
          { world.oracle with inFlight := world.oracle.inFlight.set token world.moment }
        else world.oracle
      some (world.next oracle, (world.moment, looked))
  | .lookupMany tokens forced =>
      let oracle := if forced then tokens.foldl forget world.oracle else world.oracle
      let looked := tokens.map (fun token => (token, look config oracle turn.nowMs token))
      let refreshed := if forced then tokens.map (·, world.moment) else []
      some ({ world.next oracle with refreshes := world.refreshes ++ refreshed },
        (world.moment, looked))
  | .join token promise =>
      (world.settled.get? (token, promise)).map (fun price => (world.next world.oracle, price))
  | .settle token promise price =>
      let oracle := { world.oracle with inFlight := world.oracle.inFlight.delete token }
      some ({ world.next oracle with settled := world.settled.set (token, promise) price }, ())
  | .latestRoundData feed =>
      some (world.next world.oracle, if turn.fails then .error ⟨false⟩
        else .ok (node.latestRound world.moment feed, world.moment))
  | .multicall feeds =>
      let responses := feeds.zipIdx.map (fun entry =>
        if entry.2 ∈ turn.failing then none else some (node.latestRound world.moment entry.1))
      some (world.next world.oracle, if turn.fails then .error ⟨false⟩
        else .ok (responses, world.moment))
  | .cachedDecimals feed =>
      some (world.next world.oracle, world.oracle.feedDecimalsCache.get? feed)
  | .decimals feed =>
      some (world.next world.oracle, if turn.fails then .error ⟨false⟩ else .ok (node.decimals feed))
  | .rememberDecimals feed decimals =>
      let oracle := { world.oracle with
        feedDecimalsCache := world.oracle.feedDecimalsCache.set feed decimals }
      some (world.next oracle, ())
  | .guardFreshness token reading =>
      let outcome := guardFreshness config world.oracle turn.nowMs token reading
      let after := world.nextStored config turn.nowMs token outcome
      some ({ after with checks := world.checks ++ [⟨token, reading, turn.nowMs⟩] }, outcome.2)
  | .getAssetPrice token =>
      some (world.next world.oracle, if turn.fails then .error ⟨false⟩
        else .ok (node.assetPrice world.moment token, world.moment))
  | .storeAavePrice token price readAt =>
      let outcome := storeAavePrice config world.oracle turn.nowMs token price readAt
      some (world.nextStored config turn.nowMs token outcome, outcome.2)
  | .clear =>
      some (world.next { world.oracle with cache := .empty, inFlight := .empty }, ())

abbrev OraclePool := Pool OracleWorld OracleOp OracleOp.Answer Thrown Sink

abbrev OracleAct := Act OracleTurn OracleOp OracleOp.Answer Thrown Sink

/-- Only the calls of the cache are started. -/
def Calls (config : PriceOracleCacheConfig) (act : OracleAct) : Prop :=
  ∀ program, act = .start program → ∃ call : OracleCall, program = call.program config

/-! ## Stores and lookups -/

variable {config : PriceOracleCacheConfig}

/-- The checks of `guardFreshness` let the reading pass. -/
structure Usable (config : PriceOracleCacheConfig) (reading : Reading) (nowMs : Int) : Prop where
  positive : 0 < scaled reading
  dated : 0 < reading.round.updatedAt
  fresh : nowMs - (reading.round.updatedAt : Int) * 1000 ≤ config.maxStaleMs

/-- The entry of a positive price that is stored. -/
structure EntryOf (config : PriceOracleCacheConfig) (oracle : PriceOracleCache) (nowMs : Int)
    (token : Address) (price : OraclePrice) (updatedAtSec : Int) (entry : PriceCacheEntry) :
    Prop where
  priced : entry.price = price
  recalls : entry.lastRound = roundAfter config oracle nowMs token price updatedAtSec

theorem storePrice_positive (config : PriceOracleCacheConfig) (oracle : PriceOracleCache)
    (nowMs : Int) (token : Address) {price : OraclePrice} (positive : 0 < price.raw)
    (updatedAtSec freshnessMs : Int) :
    ∃ entry, EntryOf config oracle nowMs token price updatedAtSec entry ∧
      storePrice config oracle nowMs token price updatedAtSec freshnessMs =
        ({ oracle with cache := oracle.cache.set token entry }, price) :=
  ⟨⟨price, nowMs, updatedAtSec, freshnessMs, roundAfter config oracle nowMs token price updatedAtSec⟩,
    ⟨rfl, rfl⟩, if_neg (not_le.mpr positive)⟩

theorem guardFreshness_eq_storePrice (oracle : PriceOracleCache) {nowMs : Int} (token : Address)
    {reading : Reading} (usable : Usable config reading nowMs) :
    guardFreshness config oracle nowMs token reading =
      storePrice config oracle nowMs token ⟨scaled reading, .chainlink reading nowMs⟩
        reading.round.updatedAt (nowMs - (reading.round.updatedAt : Int) * 1000) := by
  have positive := usable.positive
  have dated := usable.dated
  have fresh := usable.fresh
  unfold guardFreshness
  dsimp only
  rw [if_neg (by omega), if_neg (by omega), if_neg (by omega)]

/-- A usable reading is stored and returned. -/
theorem guardFreshness_usable (oracle : PriceOracleCache) {nowMs : Int} (token : Address)
    {reading : Reading} (usable : Usable config reading nowMs) :
    ∃ entry, EntryOf config oracle nowMs token ⟨scaled reading, .chainlink reading nowMs⟩
        reading.round.updatedAt entry ∧
      guardFreshness config oracle nowMs token reading =
        ({ oracle with cache := oracle.cache.set token entry },
          ⟨scaled reading, .chainlink reading nowMs⟩) := by
  rw [guardFreshness_eq_storePrice oracle token usable]
  exact storePrice_positive config oracle nowMs token usable.positive _ _

/-- Any other reading is dropped. -/
theorem guardFreshness_unusable (oracle : PriceOracleCache) {nowMs : Int} (token : Address)
    {reading : Reading} (unusable : ¬ Usable config reading nowMs) :
    guardFreshness config oracle nowMs token reading = (oracle, .zero) := by
  unfold guardFreshness
  dsimp only
  split
  · rfl
  next positive =>
    split
    · rfl
    next dated =>
      split
      · rfl
      next fresh => exact absurd ⟨by omega, by omega, by omega⟩ unusable

theorem storeAavePrice_cases (config : PriceOracleCacheConfig) (oracle : PriceOracleCache)
    (nowMs : Int) (token : Address) (price : Int) (readAt : Nat) :
    storeAavePrice config oracle nowMs token price readAt = (oracle, .zero) ∨
      0 < price ∧ ∃ entry,
        EntryOf config oracle nowMs token ⟨price, .aave readAt⟩ (nowMs / 1000) entry ∧
        storeAavePrice config oracle nowMs token price readAt =
          ({ oracle with cache := oracle.cache.set token entry }, ⟨price, .aave readAt⟩) := by
  rcases le_or_gt price 0 with dropped | positive
  · exact Or.inl (if_pos dropped)
  · have stored := storePrice_positive config oracle nowMs token
      (show 0 < (OraclePrice.mk price (.aave readAt)).raw from positive) (nowMs / 1000)
      (nowMs - nowMs / 1000 * 1000)
    exact Or.inr ⟨positive, stored⟩

/-- What a lookup takes from the cache or the map of promises is there. -/
theorem look_cached {oracle : PriceOracleCache} {nowMs : Int} {token : Address}
    {price : OraclePrice} (looked : look config oracle nowMs token = .cached price) :
    ∃ entry, oracle.cache.get? token = some entry ∧ entry.price = price := by
  unfold look at looked
  split at looked
  next fresh =>
    cases looked
    unfold getFreshCached at fresh
    split at fresh
    · cases fresh
    next entry found =>
      split at fresh
      · cases fresh
      · exact ⟨entry, found, Option.some.inj fresh⟩
  next => split at looked <;> cases looked

theorem look_inFlight {oracle : PriceOracleCache} {nowMs : Int} {token : Address} {promise : Nat}
    (looked : look config oracle nowMs token = .inFlight promise) :
    oracle.inFlight.get? token = some promise := by
  unfold look at looked
  split at looked
  · cases looked
  · split at looked
    next found =>
      cases looked
      exact found
    next => cases looked

/-- What is left of the cache after tokens were forgotten. -/
theorem forget_foldl (tokens : List Address) (oracle : PriceOracleCache) :
    (tokens.foldl forget oracle).feedDecimalsCache = oracle.feedDecimalsCache ∧
      (∀ token entry, (tokens.foldl forget oracle).cache.get? token = some entry →
        token ∉ tokens ∧ oracle.cache.get? token = some entry) ∧
      ∀ token promise, (tokens.foldl forget oracle).inFlight.get? token = some promise →
        token ∉ tokens ∧ oracle.inFlight.get? token = some promise := by
  induction tokens generalizing oracle with
  | nil => exact ⟨rfl, fun token entry found => ⟨by simp, found⟩,
      fun token promise found => ⟨by simp, found⟩⟩
  | cons first rest inductionHypothesis =>
    obtain ⟨same, fewer, fewerPromises⟩ := inductionHypothesis (forget oracle first)
    refine ⟨same, fun token entry found => ?_, fun token promise found => ?_⟩
    · obtain ⟨absent, kept⟩ := fewer token entry found
      obtain ⟨different, before⟩ := InsertionMap.of_get?_delete kept
      exact ⟨by simp [different, absent], before⟩
    · obtain ⟨absent, kept⟩ := fewerPromises token promise found
      obtain ⟨different, before⟩ := InsertionMap.of_get?_delete kept
      exact ⟨by simp [different, absent], before⟩

end PriceOracleCache

end LiquidationBot
