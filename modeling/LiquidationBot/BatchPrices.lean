import LiquidationBot.Library.AsyncAlone
import LiquidationBot.PriceOracleCache

/-!
# Prices in a batch and one by one

Over oracles that do not change, a token has one price: that of its feed's round
where the round can be read and used, else that of the Aave oracle, else none. A
batch and a call for the single token come to it on different ways, and leave the
same entry in the cache.
-/

namespace LiquidationBot

/-- `OraclePriceSource`. -/
inductive OraclePriceSource where
  | chainlink
  | aave
deriving DecidableEq

/-- The fields of a cache entry, without what is kept for the proofs. -/
structure EntryFields where
  priceInUsdRaw : Int
  updatedAtMs : Int
  oracleUpdatedAtSec : Int
  source : Option OraclePriceSource
  freshnessMs : Int
deriving DecidableEq

def PriceOrigin.source : PriceOrigin → Option OraclePriceSource
  | .nowhere => none
  | .chainlink _ _ => some .chainlink
  | .aave _ => some .aave

def PriceCacheEntry.fields (entry : PriceCacheEntry) : EntryFields :=
  ⟨entry.price.raw, entry.updatedAtMs, entry.oracleUpdatedAtSec, entry.price.origin.source,
    entry.freshnessMs⟩

namespace PriceOracleCache

open Async

/-- What the oracles answer, where none is a read that fails, and the time. -/
structure FixedOracles where
  nowMs : Int
  latestRoundData : Address → Option Round
  decimals : Address → Option Nat
  assetPrice : Address → Option Int
  multicallFails : Bool

namespace FixedOracles

def node (oracles : FixedOracles) : OracleNode where
  latestRound := fun _ feed => (oracles.latestRoundData feed).getD ⟨0, 0⟩
  decimals := fun feed => (oracles.decimals feed).getD 0
  assetPrice := fun _ token => (oracles.assetPrice token).getD 0

def fails (oracles : FixedOracles) : OracleOp → Bool
  | .latestRoundData feed => (oracles.latestRoundData feed).isNone
  | .multicall _ => oracles.multicallFails
  | .decimals feed => (oracles.decimals feed).isNone
  | .getAssetPrice token => (oracles.assetPrice token).isNone
  | _ => false

/-- An entry of a multicall fails when the direct read does. -/
def failing (oracles : FixedOracles) : OracleOp → List Nat
  | .multicall feeds =>
      (feeds.zipIdx.filter (fun entry => (oracles.latestRoundData entry.1).isNone)).map Prod.snd
  | _ => []

def turn (oracles : FixedOracles) (op : OracleOp) : OracleTurn :=
  ⟨oracles.nowMs, oracles.fails op, oracles.failing op⟩

/-- The server over fixed oracles. -/
def answers (config : PriceOracleCacheConfig) (oracles : FixedOracles) (world : OracleWorld)
    (op : OracleOp) : Option (OracleWorld × op.Answer) :=
  serve config oracles.node (oracles.turn op) world op

end FixedOracles

/-- The entry of a token in the cache of a world. -/
def entryIn (world : OracleWorld) (token : Address) : Option EntryFields :=
  (world.oracle.cache.get? token).map PriceCacheEntry.fields

theorem entryIn_congr {world other : OracleWorld} (same : other.oracle.cache = world.oracle.cache)
    (token : Address) : entryIn other token = entryIn world token := by
  rw [entryIn, entryIn, same]

/-! ## The reads -/

section Reads

variable (config : PriceOracleCacheConfig) (oracles : FixedOracles) (world : OracleWorld)

theorem answers_latestRoundData (feed : Address) :
    oracles.answers config world (.latestRoundData feed) = some (world.next world.oracle,
      (oracles.latestRoundData feed).elim (.error ⟨false⟩)
        (fun round => .ok (round, world.moment))) := by
  cases found : oracles.latestRoundData feed <;>
    simp [FixedOracles.answers, serve, FixedOracles.turn, FixedOracles.fails, FixedOracles.node, found]

theorem answers_decimals (feed : Address) :
    oracles.answers config world (.decimals feed) = some (world.next world.oracle,
      (oracles.decimals feed).elim (.error ⟨false⟩) .ok) := by
  cases found : oracles.decimals feed <;>
    simp [FixedOracles.answers, serve, FixedOracles.turn, FixedOracles.fails, FixedOracles.node, found]

theorem answers_getAssetPrice (token : Address) :
    oracles.answers config world (.getAssetPrice token) = some (world.next world.oracle,
      (oracles.assetPrice token).elim (.error ⟨false⟩)
        (fun price => .ok (price, world.moment))) := by
  cases found : oracles.assetPrice token <;>
    simp [FixedOracles.answers, serve, FixedOracles.turn, FixedOracles.fails, FixedOracles.node, found]

theorem FixedOracles.mem_failing_iff {feeds : List Address} {entry : Address × Nat}
    (member : entry ∈ feeds.zipIdx) :
    entry.2 ∈ oracles.failing (.multicall feeds) ↔ oracles.latestRoundData entry.1 = none := by
  have found := List.mem_zipIdx_iff_getElem?.mp member
  simp only [FixedOracles.failing, List.mem_map, List.mem_filter, Option.isNone_iff_eq_none]
  constructor
  · rintro ⟨other, ⟨listed, absent⟩, same⟩
    have also := List.mem_zipIdx_iff_getElem?.mp listed
    rw [same, found, Option.some.injEq] at also
    rw [also]
    exact absent
  · exact fun absent => ⟨entry, ⟨member, absent⟩, rfl⟩

/-- The responses of a multicall are those of the direct reads. -/
theorem answers_multicall (feeds : List Address) :
    oracles.answers config world (.multicall feeds) = some (world.next world.oracle,
      if oracles.multicallFails then .error ⟨false⟩
      else .ok (feeds.map oracles.latestRoundData, world.moment)) := by
  have responses : feeds.zipIdx.map (fun entry =>
      if entry.2 ∈ oracles.failing (.multicall feeds) then none
      else some (oracles.node.latestRound world.moment entry.1)) =
        feeds.map oracles.latestRoundData := by
    have each : feeds.zipIdx.map (fun entry =>
        if entry.2 ∈ oracles.failing (.multicall feeds) then none
        else some (oracles.node.latestRound world.moment entry.1)) =
          feeds.zipIdx.map (oracles.latestRoundData ∘ Prod.fst) := by
      apply List.map_congr_left
      intro entry member
      have read : oracles.node.latestRound world.moment entry.1 =
          (oracles.latestRoundData entry.1).getD ⟨0, 0⟩ := rfl
      rw [Function.comp_apply, if_congr (oracles.mem_failing_iff member) rfl rfl, read]
      cases oracles.latestRoundData entry.1 with
      | none => rfl
      | some round => rfl
    rw [each, ← List.map_map, List.zipIdx_map_fst]
  rw [← responses]
  rfl

end Reads

/-! ## The price of a token -/

def decimalsOf (config : PriceOracleCacheConfig) (oracles : FixedOracles) (feed : OracleFeedConfig) :
    Nat :=
  match feed.priceDecimals with
  | some priceDecimals => priceDecimals
  | none =>
      match validateAndNormalizeFeedAddress config feed.feed with
      | none => DEFAULT_USD_DECIMALS
      | some normalizedFeed => (oracles.decimals normalizedFeed).getD DEFAULT_USD_DECIMALS

/-- The entry that a round is stored as, if it can be used. -/
def chainlinkEntry (config : PriceOracleCacheConfig) (oracles : FixedOracles)
    (feed : OracleFeedConfig) (round : Round) : Option EntryFields :=
  let price := scaleToUsd8 (decimalsOf config oracles feed) (sanitizeOraclePrice round.answer)
  let freshnessMs := oracles.nowMs - (round.updatedAt : Int) * 1000
  if 0 < price ∧ 0 < round.updatedAt ∧ freshnessMs ≤ config.maxStaleMs then
    some ⟨price, oracles.nowMs, round.updatedAt, some .chainlink, freshnessMs⟩
  else none

/-- The entry that the Aave price of a token is stored as. -/
def aaveEntry (config : PriceOracleCacheConfig) (oracles : FixedOracles) (token : Address) :
    Option EntryFields :=
  if config.aaveOracleAddress.isNone then none
  else (oracles.assetPrice token).bind (fun price =>
    if 0 < price then
      some ⟨price, oracles.nowMs, oracles.nowMs / 1000, some .aave,
        oracles.nowMs - oracles.nowMs / 1000 * 1000⟩
    else none)

/-- The entry of a token: of its feed's round, else of the Aave oracle. -/
def entryOf (config : PriceOracleCacheConfig) (oracles : FixedOracles) (token : Address) :
    Option EntryFields :=
  ((resolveValidatedFeedConfig config token).bind (fun feed =>
    (oracles.latestRoundData feed.feed).bind (chainlinkEntry config oracles feed))).or
      (aaveEntry config oracles token)

/-- The price that an entry answers with; there is none without an entry. -/
def priceOf (entry : Option EntryFields) : Int := (entry.map EntryFields.priceInUsdRaw).getD 0

/-- The decimals that the cache remembers are those of the oracles. -/
def Agrees (oracles : FixedOracles) (world : OracleWorld) : Prop :=
  ∀ feed decimals, world.oracle.feedDecimalsCache.get? feed = some decimals →
    oracles.decimals feed = some decimals

/-- A way to a token's price stores the token's entry, if there is one, and returns
its price; nothing else changes. -/
structure Prices (oracles : FixedOracles) (entry : Option EntryFields) (token : Address)
    (before after : OracleWorld) (price : OraclePrice) : Prop where
  agrees : Agrees oracles after
  raw : price.raw = priceOf entry
  stored : entryIn after token = entry.or (entryIn before token)
  others : ∀ other, other ≠ token → entryIn after other = entryIn before other

section Single

variable {config : PriceOracleCacheConfig} {oracles : FixedOracles} {world : OracleWorld}

/-- The program comes to the price of an entry. -/
def ComesTo (config : PriceOracleCacheConfig) (oracles : FixedOracles) (token : Address)
    (entry : Option EntryFields) (program : OracleProgram OraclePrice) : Prop :=
  ∀ world, Agrees oracles world → ∃ after price,
    runToEnd (oracles.answers config) world program = some (after, .ok price) ∧
      Prices oracles entry token world after price

/-- A turn that only counts changes nothing. -/
theorem prices_nothing {after : OracleWorld} (agrees : Agrees oracles world) (token : Address)
    (same : after.oracle = world.oracle) : Prices oracles none token world after .zero where
  agrees := by
    rw [Agrees, same]
    exact agrees
  raw := rfl
  stored := entryIn_congr (congrArg PriceOracleCache.cache same) token
  others := fun other _ => entryIn_congr (congrArg PriceOracleCache.cache same) other

/-- A stored price. -/
theorem prices_stored {after : OracleWorld} (agrees : Agrees oracles world) (token : Address)
    (price : OraclePrice) (updatedAtSec freshnessMs : Int) (positive : 0 < price.raw)
    (stored : after.oracle =
      (storePrice config world.oracle oracles.nowMs token price updatedAtSec freshnessMs).1) :
    Prices oracles (some ⟨price.raw, oracles.nowMs, updatedAtSec, price.origin.source, freshnessMs⟩)
      token world after price := by
  rw [storePrice, if_neg (not_le.mpr positive)] at stored
  have lookups : ∀ other, entryIn after other = if other = token then
      some ⟨price.raw, oracles.nowMs, updatedAtSec, price.origin.source, freshnessMs⟩
      else entryIn world other := by
    intro other
    rw [entryIn, stored]
    dsimp only
    rw [InsertionMap.get?_set]
    split <;> rfl
  refine ⟨?_, rfl, ?_, ?_⟩
  · rw [Agrees, stored]
    exact agrees
  · rw [lookups, if_pos rfl, Option.some_or]
  · intro other different
    rw [lookups, if_neg different]

theorem readAaveFallback_comesTo (token : Address) :
    ComesTo config oracles token (aaveEntry config oracles token)
      (readAaveFallback config token) := by
  intro world agrees
  unfold readAaveFallback aaveEntry
  cases config.aaveOracleAddress with
  | none => exact ⟨world, .zero, rfl, prices_nothing agrees token rfl⟩
  | some address =>
    dsimp only
    rw [bind_eq, perform, call_bind, runToEnd_call (answers_getAssetPrice config oracles world token),
      pure_bind]
    cases oracles.assetPrice token with
    | none => exact ⟨world.next world.oracle, .zero, rfl, prices_nothing agrees token rfl⟩
    | some price =>
      dsimp only [Option.elim_some]
      rw [sanitizeOraclePrice, Option.isNone_some, if_neg Bool.false_ne_true, Option.bind_some]
      by_cases positive : 0 < price
      · rw [if_pos positive, if_neg (not_le.mpr positive), if_pos positive]
        have returned : (storeAavePrice config world.oracle oracles.nowMs token price
            world.moment).2 = ⟨price, .aave world.moment⟩ :=
          congrArg Prod.snd (if_neg (not_le.mpr positive))
        have ran : runToEnd (oracles.answers config) (world.next world.oracle)
            (perform (OracleOp.storeAavePrice token price world.moment)) =
              some ((world.next world.oracle).nextStored config oracles.nowMs token
                (storeAavePrice config world.oracle oracles.nowMs token price world.moment),
                (.ok ⟨price, .aave world.moment⟩ : Except Thrown OraclePrice)) := by
          rw [← returned]
          rfl
        exact ⟨_, _, ran, prices_stored agrees token ⟨price, .aave world.moment⟩ _ _ positive rfl⟩
      · rw [if_neg positive, if_pos (le_refl 0), if_neg positive]
        exact ⟨_, .zero, rfl, prices_nothing agrees token rfl⟩

/-- Only the cached prices count of the world before. -/
theorem Prices.of_cache_eq {entry : Option EntryFields} {token : Address}
    {between after : OracleWorld} {price : OraclePrice}
    (prices : Prices oracles entry token between after price)
    (same : between.oracle.cache = world.oracle.cache) :
    Prices oracles entry token world after price := by
  refine ⟨prices.agrees, prices.raw, ?_, ?_⟩
  · rw [← entryIn_congr same]
    exact prices.stored
  · intro other different
    rw [← entryIn_congr same]
    exact prices.others other different

/-- The decimals of a feed are found, and leave the cached prices alone. -/
theorem resolveFeedDecimals_ends (config : PriceOracleCacheConfig) (feed : OracleFeedConfig)
    (agrees : Agrees oracles world) :
    ∃ after source,
      runToEnd (oracles.answers config) world (resolveFeedDecimals config feed) =
          some (after, .ok (decimalsOf config oracles feed, source)) ∧
        Agrees oracles after ∧ after.oracle.cache = world.oracle.cache := by
  unfold resolveFeedDecimals decimalsOf
  cases feed.priceDecimals with
  | some priceDecimals => exact ⟨world, .configured, rfl, agrees, rfl⟩
  | none =>
    dsimp only
    cases validateAndNormalizeFeedAddress config feed.feed with
    | none => exact ⟨world, .assumed, rfl, agrees, rfl⟩
    | some normalizedFeed =>
      have looked : oracles.answers config world (.cachedDecimals normalizedFeed) =
          some (world.next world.oracle, world.oracle.feedDecimalsCache.get? normalizedFeed) := rfl
      dsimp only
      rw [bind_eq, perform, call_bind, runToEnd_call looked, pure_bind]
      cases remembered : world.oracle.feedDecimalsCache.get? normalizedFeed with
      | some decimals =>
        rw [agrees normalizedFeed decimals remembered]
        exact ⟨_, .read, rfl, agrees, rfl⟩
      | none =>
        dsimp only
        rw [bind_eq, perform, call_bind,
          runToEnd_call (answers_decimals config oracles (world.next world.oracle) normalizedFeed),
          pure_bind]
        cases found : oracles.decimals normalizedFeed with
        | none => exact ⟨_, .assumed, rfl, agrees, rfl⟩
        | some decimals =>
          refine ⟨_, .read, rfl, ?_, rfl⟩
          intro tested known held
          rcases InsertionMap.of_get?_set held with ⟨rfl, rfl⟩ | before
          · exact found
          · exact agrees tested known before

/-- A usable round has an entry, and any other has none. -/
theorem chainlinkEntry_usable {feed : OracleFeedConfig} {reading : Reading}
    (scaledBy : reading.decimals = decimalsOf config oracles feed)
    (usable : Usable config reading oracles.nowMs) :
    chainlinkEntry config oracles feed reading.round =
      some ⟨scaled reading, oracles.nowMs, reading.round.updatedAt, some .chainlink,
        oracles.nowMs - (reading.round.updatedAt : Int) * 1000⟩ := by
  have positive := usable.positive
  rw [scaled, scaledBy] at positive
  rw [scaled, scaledBy]
  exact if_pos ⟨positive, usable.dated, usable.fresh⟩

theorem chainlinkEntry_unusable {feed : OracleFeedConfig} {reading : Reading}
    (scaledBy : reading.decimals = decimalsOf config oracles feed)
    (unusable : ¬ Usable config reading oracles.nowMs) :
    chainlinkEntry config oracles feed reading.round = none := by
  apply if_neg
  rintro ⟨positive, dated, fresh⟩
  rw [← scaledBy, ← scaled] at positive
  exact unusable ⟨positive, dated, fresh⟩

/-- The check of a reading stores its price and returns it, if it is usable. -/
theorem guardFreshness_ends (agrees : Agrees oracles world) (token : Address) {reading : Reading}
    (usable : Usable config reading oracles.nowMs) :
    ∃ after price, runToEnd (oracles.answers config) world
        (perform (OracleOp.guardFreshness token reading)) =
          some (after, (.ok price : Except Thrown OraclePrice)) ∧ 0 < price.raw ∧
      Prices oracles (some ⟨scaled reading, oracles.nowMs, reading.round.updatedAt, some .chainlink,
        oracles.nowMs - (reading.round.updatedAt : Int) * 1000⟩) token world after price := by
  have passes := guardFreshness_eq_storePrice world.oracle token usable
  have returned : (guardFreshness config world.oracle oracles.nowMs token reading).2 =
      ⟨scaled reading, .chainlink reading oracles.nowMs⟩ := by
    rw [passes, storePrice, if_neg (not_le.mpr usable.positive)]
  have ran : runToEnd (oracles.answers config) world
      (perform (OracleOp.guardFreshness token reading)) =
        some ({ world.nextStored config oracles.nowMs token
            (guardFreshness config world.oracle oracles.nowMs token reading) with
              checks := world.checks ++ [⟨token, reading, oracles.nowMs⟩] },
          (.ok ⟨scaled reading, .chainlink reading oracles.nowMs⟩ : Except Thrown OraclePrice)) := by
    rw [← returned]
    rfl
  have stored := congrArg Prod.fst passes
  exact ⟨_, _, ran, usable.positive, prices_stored agrees token
    ⟨scaled reading, .chainlink reading oracles.nowMs⟩ _ _ usable.positive stored⟩

/-- Any other reading leaves the cache alone. -/
theorem guardFreshness_drops (world : OracleWorld) (token : Address) {reading : Reading}
    (unusable : ¬ Usable config reading oracles.nowMs) :
    ∃ after, runToEnd (oracles.answers config) world
        (perform (OracleOp.guardFreshness token reading)) =
          some (after, (.ok .zero : Except Thrown OraclePrice)) ∧ after.oracle = world.oracle := by
  have drops := guardFreshness_unusable world.oracle token unusable
  have returned : (guardFreshness config world.oracle oracles.nowMs token reading).2 = .zero :=
    congrArg Prod.snd drops
  have ran : runToEnd (oracles.answers config) world
      (perform (OracleOp.guardFreshness token reading)) =
        some ({ world.nextStored config oracles.nowMs token
            (guardFreshness config world.oracle oracles.nowMs token reading) with
              checks := world.checks ++ [⟨token, reading, oracles.nowMs⟩] },
          (.ok .zero : Except Thrown OraclePrice)) := by
    rw [← returned]
    rfl
  exact ⟨_, ran, congrArg Prod.fst drops⟩

/-- A round that can be read comes to the price it stands for, or to the Aave price. -/
theorem priceOrFallback_comesTo (token : Address) (feed : OracleFeedConfig) (round : Round)
    (readAt : Nat) :
    ComesTo config oracles token
      ((chainlinkEntry config oracles feed round).or (aaveEntry config oracles token))
      (priceOrFallback config token feed round readAt) := by
  intro world agrees
  obtain ⟨resolved, source, ran, agreesResolved, sameCache⟩ :=
    resolveFeedDecimals_ends config feed agrees
  obtain ⟨reading, made⟩ : ∃ reading : Reading,
      reading = ⟨feed.feed, round, readAt, decimalsOf config oracles feed, source⟩ := ⟨_, rfl⟩
  have checking : runToEnd (oracles.answers config) world (priceRound config token feed round readAt) =
      runToEnd (oracles.answers config) resolved
        (perform (OracleOp.guardFreshness token reading)) := by
    rw [priceRound, bind_eq, runToEnd_bind ran, made]
  have scaledBy : reading.decimals = decimalsOf config oracles feed := by rw [made]
  have ofRound : reading.round = round := by rw [made]
  rw [priceOrFallback, bind_eq, ← ofRound]
  by_cases usable : Usable config reading oracles.nowMs
  · obtain ⟨after, price, checked, positive, prices⟩ := guardFreshness_ends agreesResolved token usable
    rw [chainlinkEntry_usable scaledBy usable, Option.some_or, ofRound,
      runToEnd_bind (checking.trans checked), if_pos positive]
    exact ⟨after, price, rfl, ofRound ▸ prices.of_cache_eq sameCache⟩
  · obtain ⟨dropped, checked, kept⟩ := guardFreshness_drops resolved token usable
    rw [chainlinkEntry_unusable scaledBy usable, Option.none_or, ofRound,
      runToEnd_bind (checking.trans checked), if_neg (by decide)]
    have agreesDropped : Agrees oracles dropped := by
      rw [Agrees, kept]
      exact agreesResolved
    obtain ⟨after, price, fell, prices⟩ := readAaveFallback_comesTo token dropped agreesDropped
    exact ⟨after, price, fell, prices.of_cache_eq (kept ▸ sameCache)⟩

/-- A read changes nothing before the price. -/
theorem comesTo_call {token : Address} {entry : Option EntryFields} {op : OracleOp}
    {resume : op.Answer → OracleProgram OraclePrice}
    (reads : ∀ world, ∃ answer, oracles.answers config world op =
        some (world.next world.oracle, answer) ∧ ComesTo config oracles token entry (resume answer)) :
    ComesTo config oracles token entry (.call op resume) := by
  intro world agrees
  obtain ⟨answer, served, comesTo⟩ := reads world
  obtain ⟨after, price, ran, prices⟩ := comesTo (world.next world.oracle) agrees
  exact ⟨after, price, (runToEnd_call served resume).trans ran, prices.of_cache_eq rfl⟩

/-- The single read of a token comes to its price. -/
theorem fetchOne_comesTo (config : PriceOracleCacheConfig) (oracles : FixedOracles)
    (token : Address) :
    ComesTo config oracles token (entryOf config oracles token) (fetchOne config token) := by
  unfold fetchOne entryOf
  cases resolveValidatedFeedConfig config token with
  | none => exact readAaveFallback_comesTo token
  | some feed =>
    apply comesTo_call
    intro world
    refine ⟨_, answers_latestRoundData config oracles world feed.feed, ?_⟩
    rw [Option.bind_some]
    cases oracles.latestRoundData feed.feed with
    | none => exact readAaveFallback_comesTo token
    | some round => exact priceOrFallback_comesTo token feed round world.moment

/-- The turn of a batch for the feed's response comes to the same price. -/
theorem priceResponse_comesTo {token : Address} {feed : OracleFeedConfig}
    (resolved : resolveValidatedFeedConfig config token = some feed) (readAt : Nat) :
    ComesTo config oracles token (entryOf config oracles token)
      (priceResponse config token feed readAt (oracles.latestRoundData feed.feed)) := by
  rw [entryOf, resolved, Option.bind_some]
  cases oracles.latestRoundData feed.feed with
  | none => exact readAaveFallback_comesTo token
  | some round => exact priceOrFallback_comesTo token feed round readAt

end Single

/-! ## The prices of a batch -/

/-- The way of a batch to the prices of tokens: each is in the result with its price,
and in the cache with its entry; nothing else changes. -/
structure PricesAll (config : PriceOracleCacheConfig) (oracles : FixedOracles)
    (tokens : List Address) (before after : OracleWorld) (sink result : Sink) : Prop where
  agrees : Agrees oracles after
  raw : ∀ token ∈ tokens,
    (result.get? token).map OraclePrice.raw = some (priceOf (entryOf config oracles token))
  kept : ∀ token, token ∉ tokens → result.get? token = sink.get? token
  stored : ∀ token ∈ tokens,
    entryIn after token = (entryOf config oracles token).or (entryIn before token)
  others : ∀ token, token ∉ tokens → entryIn after token = entryIn before token

section Batch

variable {config : PriceOracleCacheConfig} {oracles : FixedOracles} {tokens : List Address}

/-- The program fills a result with the prices of tokens. -/
def Fills (config : PriceOracleCacheConfig) (oracles : FixedOracles) (tokens : List Address)
    (sink : Sink) (program : OracleProgram Sink) : Prop :=
  ∀ world, Agrees oracles world → ∃ after result,
    runToEnd (oracles.answers config) world program = some (after, .ok result) ∧
      PricesAll config oracles tokens world after sink result

/-- Only the cached prices count of the world before. -/
theorem PricesAll.of_cache_eq {before between after : OracleWorld} {sink result : Sink}
    (all : PricesAll config oracles tokens between after sink result)
    (same : between.oracle.cache = before.oracle.cache) :
    PricesAll config oracles tokens before after sink result := by
  refine ⟨all.agrees, all.raw, all.kept, ?_, ?_⟩
  · intro token member
    rw [← entryIn_congr same]
    exact all.stored token member
  · intro token absent
    rw [← entryIn_congr same]
    exact all.others token absent

theorem fills_nil (sink : Sink) : Fills config oracles [] sink (.pure sink) := fun world agrees =>
  ⟨world, sink, rfl, agrees, by simp, fun _ _ => rfl, by simp, fun _ _ => rfl⟩

/-- One token, and then the rest. -/
theorem fills_cons {token : Address} {sink : Sink} {price : OracleProgram OraclePrice}
    {rest : OraclePrice → OracleProgram Sink}
    (first : ComesTo config oracles token (entryOf config oracles token) price)
    (later : ∀ fetched, Fills config oracles tokens (sink.set token fetched) (rest fetched)) :
    Fills config oracles (token :: tokens) sink (price.bind rest) := by
  intro world agrees
  obtain ⟨between, fetched, ran, prices⟩ := first world agrees
  obtain ⟨after, result, ranLater, all⟩ := later fetched between prices.agrees
  refine ⟨after, result, (runToEnd_bind ran).trans ranLater, all.agrees, ?_, ?_, ?_, ?_⟩
  · intro tested member
    by_cases again : tested ∈ tokens
    · exact all.raw tested again
    · have same : tested = token := (List.mem_cons.mp member).resolve_right again
      rw [all.kept tested again, same, InsertionMap.get?_set_same, Option.map_some, prices.raw]
  · intro tested absent
    rw [List.mem_cons, not_or] at absent
    rw [all.kept tested absent.2, InsertionMap.get?_set_other _ _ absent.1]
  · intro tested member
    by_cases again : tested ∈ tokens
    · rw [all.stored tested again]
      by_cases same : tested = token
      · rw [same, prices.stored, ← Option.or_assoc, Option.or_self]
      · rw [prices.others tested same]
    · have same : tested = token := (List.mem_cons.mp member).resolve_right again
      rw [all.others tested again, same, prices.stored]
  · intro tested absent
    rw [List.mem_cons, not_or] at absent
    rw [all.others tested absent.2, prices.others tested absent.1]

/-- Some tokens, and then others. -/
theorem fills_append {others : List Address} {sink : Sink} {program : OracleProgram Sink}
    {rest : Sink → OracleProgram Sink} (first : Fills config oracles tokens sink program)
    (later : ∀ result, Fills config oracles others result (rest result)) :
    Fills config oracles (tokens ++ others) sink (program.bind rest) := by
  intro world agrees
  obtain ⟨between, filled, ran, front⟩ := first world agrees
  obtain ⟨after, result, ranLater, back⟩ := later filled between front.agrees
  refine ⟨after, result, (runToEnd_bind ran).trans ranLater, back.agrees, ?_, ?_, ?_, ?_⟩
  · intro token member
    by_cases again : token ∈ others
    · exact back.raw token again
    · rw [back.kept token again]
      exact front.raw token ((List.mem_append.mp member).resolve_right again)
  · intro token absent
    rw [List.mem_append, not_or] at absent
    rw [back.kept token absent.2, front.kept token absent.1]
  · intro token member
    by_cases again : token ∈ others
    · rw [back.stored token again]
      by_cases before : token ∈ tokens
      · rw [front.stored token before, ← Option.or_assoc, Option.or_self]
      · rw [front.others token before]
    · rw [back.others token again]
      exact front.stored token ((List.mem_append.mp member).resolve_right again)
  · intro token absent
    rw [List.mem_append, not_or] at absent
    rw [back.others token absent.2, front.others token absent.1]

/-- Only which tokens are filled in counts. -/
theorem Fills.of_mem {others : List Address} {sink : Sink} {program : OracleProgram Sink}
    (fills : Fills config oracles tokens sink program)
    (same : ∀ token, token ∈ tokens ↔ token ∈ others) :
    Fills config oracles others sink program := by
  intro world agrees
  obtain ⟨after, result, ran, all⟩ := fills world agrees
  refine ⟨after, result, ran, all.agrees, ?_, ?_, ?_, ?_⟩
  · exact fun token member => all.raw token ((same token).mpr member)
  · exact fun token absent => all.kept token (fun member => absent ((same token).mp member))
  · exact fun token member => all.stored token ((same token).mpr member)
  · exact fun token absent => all.others token (fun member => absent ((same token).mp member))

theorem fillSink_fills {price : Address → OracleProgram OraclePrice}
    (comesTo : ∀ token ∈ tokens,
      ComesTo config oracles token (entryOf config oracles token) (price token)) (sink : Sink) :
    Fills config oracles tokens sink (fillSink price tokens sink) := by
  induction tokens generalizing sink with
  | nil => exact fills_nil sink
  | cons token rest inductionHypothesis =>
    refine fills_cons (comesTo token List.mem_cons_self) (fun fetched => ?_)
    exact inductionHypothesis (fun other member => comesTo other (List.mem_cons_of_mem _ member)) _

/-- The loop over the responses comes to the price of every entry. -/
theorem priceEntries_fills {entries : List (Address × OracleFeedConfig)} (readAt : Nat)
    (resolved : ∀ entry ∈ entries, resolveValidatedFeedConfig config entry.1 = some entry.2)
    (sink : Sink) :
    Fills config oracles (entries.map Prod.fst) sink (priceEntries config readAt entries
      (entries.map (fun entry => oracles.latestRoundData entry.2.feed)) sink) := by
  induction entries generalizing sink with
  | nil => exact fills_nil sink
  | cons entry rest inductionHypothesis =>
    refine fills_cons (priceResponse_comesTo (resolved entry List.mem_cons_self) readAt)
      (fun fetched => ?_)
    exact inductionHypothesis (fun other member => resolved other (List.mem_cons_of_mem _ member)) _

/-- The tokens without a feed have the price of the Aave oracle. -/
theorem readAaveFallback_unfed {token : Address}
    (unfed : resolveValidatedFeedConfig config token = none) :
    ComesTo config oracles token (entryOf config oracles token) (readAaveFallback config token) := by
  rw [entryOf, unfed]
  exact readAaveFallback_comesTo token

theorem mem_feedEntries {entry : Address × OracleFeedConfig} :
    entry ∈ feedEntries config tokens ↔
      entry.1 ∈ tokens ∧ resolveValidatedFeedConfig config entry.1 = some entry.2 := by
  obtain ⟨token, feed⟩ := entry
  simp only [feedEntries, List.mem_filterMap, Option.map_eq_some_iff, Prod.mk.injEq]
  constructor
  · rintro ⟨tested, member, found, resolved, rfl, rfl⟩
    exact ⟨member, resolved⟩
  · rintro ⟨member, resolved⟩
    exact ⟨token, member, feed, resolved, rfl, rfl⟩

/-- A multicall fails, or is answered with the direct reads. -/
theorem multicall_fills {feeds : List Address} {sink : Sink}
    {resume : (OracleOp.multicall feeds).Answer → OracleProgram Sink}
    (failed : ∀ error, Fills config oracles tokens sink (resume (.error error)))
    (answered : ∀ readAt, Fills config oracles tokens sink
      (resume (.ok (feeds.map oracles.latestRoundData, readAt)))) :
    Fills config oracles tokens sink (.call (.multicall feeds) resume) := by
  intro world agrees
  have fills : Fills config oracles tokens sink (resume (if oracles.multicallFails then .error ⟨false⟩
      else .ok (feeds.map oracles.latestRoundData, world.moment))) := by
    split
    · exact failed ⟨false⟩
    · exact answered world.moment
  obtain ⟨after, result, ran, all⟩ := fills (world.next world.oracle) agrees
  exact ⟨after, result,
    (runToEnd_call (answers_multicall config oracles world feeds) resume).trans ran, all.of_cache_eq rfl⟩

theorem fetchMany_fills (tokens : List Address) (sink : Sink) :
    Fills config oracles tokens sink (fetchMany config tokens sink) := by
  unfold fetchMany
  dsimp only
  split
  next nobody =>
    apply fillSink_fills
    intro token member
    apply readAaveFallback_unfed
    rw [Option.eq_none_iff_forall_ne_some]
    intro feed resolved
    have entry : (token, feed) ∈ feedEntries config tokens := mem_feedEntries.mpr ⟨member, resolved⟩
    rw [List.isEmpty_iff.mp nobody] at entry
    cases entry
  next =>
    have all : ∀ token, token ∈ tokens.filter
          (fun token => (resolveValidatedFeedConfig config token).isNone) ++
            (feedEntries config tokens).map Prod.fst ↔ token ∈ tokens := by
      intro token
      rw [List.mem_append, List.mem_filter, List.mem_map]
      constructor
      · rintro (⟨member, _⟩ | ⟨entry, listed, rfl⟩)
        · exact member
        · exact (mem_feedEntries.mp listed).1
      · intro member
        cases resolved : resolveValidatedFeedConfig config token with
        | none => exact Or.inl ⟨member, rfl⟩
        | some feed => exact Or.inr ⟨(token, feed), mem_feedEntries.mpr ⟨member, resolved⟩, rfl⟩
    refine Fills.of_mem (fills_append ?_ (fun unfed => multicall_fills (fun error => ?_)
      (fun readAt => ?_))) all
    · apply fillSink_fills
      intro token member
      exact readAaveFallback_unfed (Option.isNone_iff_eq_none.mp (List.mem_filter.mp member).2)
    · exact fillSink_fills (fun token _ => fetchOne_comesTo config oracles token) unfed
    · rw [List.map_map]
      exact priceEntries_fills readAt (fun entry member => (mem_feedEntries.mp member).2) unfed

theorem fetchImmediate_fills (tokens : List Address) (sink : Sink) :
    Fills config oracles tokens sink (fetchImmediate config tokens sink) := by
  unfold fetchImmediate
  split
  next empty =>
    rw [List.isEmpty_iff.mp empty]
    exact fills_nil sink
  next => exact fetchMany_fills tokens sink

end Batch

/-! ## From a new cache -/

section NewCache

variable (config : PriceOracleCacheConfig) (oracles : FixedOracles)

theorem agrees_initial : Agrees oracles .initial := by
  intro feed decimals held
  cases held

/-- A batch that finds nothing starts without prices, fetches all, and waits for none. -/
theorem cachedSink_missing (tokens : List Address) :
    cachedSink (tokens.map (·, Lookup.missing)) = .empty := by
  rw [cachedSink, List.foldl_map]
  exact List.foldl_fixed tokens

theorem immediate_missing (tokens : List Address) :
    immediate (tokens.map (·, Lookup.missing)) = tokens := by
  rw [immediate, List.filter_eq_self.mpr, List.map_map]
  · exact List.map_id tokens
  · simp

theorem joinPending_missing (tokens : List Address) (sink : Sink) :
    joinPending (tokens.map (·, Lookup.missing)) sink = .pure sink := by
  induction tokens with
  | nil => rfl
  | cons token rest inductionHypothesis => exact inductionHypothesis

/-- A batch fills an empty result with the prices of its tokens. -/
theorem batchGetUsdPrices_ends (tokens : List Address) :
    ∃ after sink,
      runToEnd (oracles.answers config) .initial (batchGetUsdPrices config tokens) =
          some (after, .ok sink) ∧
        PricesAll config oracles tokens .initial after .empty sink := by
  unfold batchGetUsdPrices batch
  dsimp only
  split
  next empty =>
    have nobody : tokens = [] := by
      cases tokens with
      | nil => rfl
      | cons token rest =>
        have member : token ∈ (token :: rest).eraseDups := List.mem_eraseDups.mpr List.mem_cons_self
        rw [List.isEmpty_iff.mp empty] at member
        cases member
    rw [nobody]
    exact fills_nil .empty .initial (agrees_initial oracles)
  next =>
    obtain ⟨unique, deduped⟩ : ∃ unique, unique = tokens.eraseDups := ⟨_, rfl⟩
    have looked : oracles.answers config .initial (.lookupMany unique false) =
        some (OracleWorld.initial.next OracleWorld.initial.oracle,
          (0, unique.map (·, .missing))) := rfl
    rw [← deduped, bind_eq, perform, call_bind, runToEnd_call looked, pure_bind]
    dsimp only
    rw [cachedSink_missing, immediate_missing]
    have fills : Fills config oracles tokens .empty (fetchImmediate config unique .empty) :=
      (fetchImmediate_fills unique .empty).of_mem (fun token => by rw [deduped, List.mem_eraseDups])
    obtain ⟨after, sink, ran, all⟩ :=
      fills (OracleWorld.initial.next OracleWorld.initial.oracle) (agrees_initial oracles)
    rw [bind_eq, runToEnd_bind ran, joinPending_missing]
    exact ⟨after, sink, rfl, all.of_cache_eq rfl⟩

/-- A call for a token of which nothing is known comes to its price. -/
theorem getUsdPrice_ends (token : Address) :
    ∃ after price,
      runToEnd (oracles.answers config) .initial (getUsdPrice config token) =
          some (after, .ok price) ∧
        Prices oracles (entryOf config oracles token) token .initial after price := by
  have looked : oracles.answers config .initial (.lookup token) =
      some (OracleWorld.initial.next { OracleWorld.initial.oracle with
        inFlight := OracleWorld.initial.oracle.inFlight.set token 0 }, (0, .missing)) := rfl
  unfold getUsdPrice
  rw [bind_eq, perform, call_bind, runToEnd_call looked, pure_bind]
  dsimp only
  obtain ⟨fetched, price, ran, prices⟩ := fetchOne_comesTo config oracles token
    (OracleWorld.initial.next { OracleWorld.initial.oracle with
        inFlight := OracleWorld.initial.oracle.inFlight.set token 0 }) (agrees_initial oracles)
  rw [bind_eq, runToEnd_bind ran]
  exact ⟨_, price, rfl, prices.agrees, prices.raw, prices.stored, prices.others⟩

/-- A batch answers every token as a call for the token alone does, and leaves the
same entries; it has no other prices, and stores no others. -/
theorem batch_agrees_with_single (tokens : List Address) :
    ∃ after sink,
      runToEnd (oracles.answers config) .initial (batchGetUsdPrices config tokens) =
          some (after, .ok sink) ∧
        (∀ token ∈ tokens, ∃ single price,
          runToEnd (oracles.answers config) .initial (getUsdPrice config token) =
              some (single, .ok price) ∧
            (sink.get? token).map OraclePrice.raw = some price.raw ∧
            entryIn after token = entryIn single token) ∧
        ∀ token, token ∉ tokens → sink.get? token = none ∧ entryIn after token = none := by
  obtain ⟨after, sink, ran, all⟩ := batchGetUsdPrices_ends config oracles tokens
  refine ⟨after, sink, ran, ?_, ?_⟩
  · intro token member
    obtain ⟨single, price, alone, prices⟩ := getUsdPrice_ends config oracles token
    refine ⟨single, price, alone, ?_, ?_⟩
    · rw [all.raw token member, prices.raw]
    · rw [all.stored token member, prices.stored]
  · intro token absent
    exact ⟨all.kept token absent, all.others token absent⟩

end NewCache

end PriceOracleCache

end LiquidationBot
