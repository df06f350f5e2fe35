import LiquidationBot.LocalPositionModel
import LiquidationBot.TieredConfirmQueue

/-!
# The event purity stack

The stack turns ingested events into model updates, routes the resulting tier
changes to the confirm queue, and hands accounts that an on-chain read confirms
below one to the executor's side.

Its handlers are asynchronous. A segment is what runs between two awaits; other
handlers may run between the segments of one. What an awaited call answers is
the segment's argument, and segments that continue an earlier one may come at
any time, so the runs here include every order the event loop can produce. The
shadow validator recomputes positions while changes are routed; its samples are
left out.
-/

namespace LiquidationBot

open LocalPositionModel

/-- What the stack reads of its configuration. `feeds` lists the assets of the
chain's feed registry with their feeds. -/
structure EventPurityStackConfig where
  model : LocalPositionModelConfig
  enableWatchTierConfirm : Bool
  feeds : List (Address × Option Address)

/-- One round of a feed with its decimals. -/
structure FeedAnswer where
  answer : Int
  updatedAt : Int
  decimals : Nat
deriving DecidableEq

/-- What the reads of a reconciliation answer. -/
inductive ReconcileAnswer where
  | failed
  | debtFree
  | snapshot (found : AccountSnapshot)

/-- The stack's state. `pending` holds tier changes that a handler has computed
and not yet passed on. -/
structure EventPurityStack where
  model : LocalPositionModel
  confirmQueue : TieredConfirmQueue
  pending : List (List TierChange)

/-- What runs between two awaits. -/
inductive Segment where
  | chainlinkPrice (event : ParsedChainlinkPriceEvent)
  | aavePool (event : ParsedAavePoolEvent)
  | reconcile (account : Address) (blockNumber : Nat) (answer : ReconcileAnswer)
  | firstTouch (account : Address)
  | pollFeeds (answers : List (Option FeedAnswer))
  | resume (index : Nat)
  | confirm (row : ConfirmResult) (blockNumber : Nat)
  | flashblockTick
  | refreshReserveIndex (reserve : ReserveConfig) (liquidityIndex variableBorrowIndex : Nat)
  | registerBootstrapPrice (asset : Address) (normalizedPrice : Nat) (feedState : FeedState)
  | registerReserve (asset : Address)
  | setReserveLiquidationBonus (asset : Address) (bonus : Option Nat)
  | seed (snapshot : AccountSnapshot)
  | markPricesBootstrapped
  | evictUnderMemoryPressure (blockNumber : Nat)

namespace EventPurityStack

/-- A new stack: every asset with a feed starts at price one. -/
def initial (config : EventPurityStackConfig) : EventPurityStack where
  model := config.feeds.foldl (fun model entry => match entry.2 with
    | none => model
    | some _ => model.registerPriceFeed entry.1 1) LocalPositionModel.initial
  confirmQueue := .initial config.enableWatchTierConfirm
  pending := []

/-! ## Producers of tier changes -/

/-- One entry of `pollLocalFeedFreshness`, with its answer. Failed reads, answers
that are not positive and rounds older than one and a half heartbeats are
skipped. -/
def pollFeed (config : LocalPositionModelConfig) (nowSec : Int)
    (state : LocalPositionModel × List TierChange)
    (entry : (Address × Address) × Option FeedAnswer) : LocalPositionModel × List TierChange :=
  match entry.2 with
  | none => state
  | some round =>
      if round.answer ≤ 0 then state
      else if 2 * (nowSec - round.updatedAt) > 3 * (heartbeatOf entry.1.2 : Int) then state
      else
        let updated := applyFeedPriceUpdate config state.1 entry.1.1 entry.1.2 round.answer
          round.decimals round.updatedAt
        (updated.1, state.2 ++ updated.2)

/-- `pollLocalFeedFreshness` once its reads have answered. -/
def pollLocalFeedFreshness (config : EventPurityStackConfig) (model : LocalPositionModel)
    (answers : List (Option FeedAnswer)) (nowSec : Int) : LocalPositionModel × List TierChange :=
  let entries := config.feeds.filterMap (fun entry => entry.2.map (fun feed => (entry.1, feed)))
  (entries.zip answers).foldl (pollFeed config.model nowSec) (model, [])

/-- `reservesTouchAllowlist` on the rows of a snapshot. -/
def reservesTouchAllowlist (reserves : List SnapshotReserve) (allowlist : List Address) : Bool :=
  allowlist.isEmpty || reserves.any (fun row =>
    (decide (row.scaledDebt > 0) || decide (row.scaledCollateral > 0)) &&
      (allowlist.map Address.toLowerCase).contains row.asset.toLowerCase)

/-- `seedModelFromAccountSnapshot`. -/
def seedModelFromAccountSnapshot (config : LocalPositionModelConfig) (model : LocalPositionModel)
    (snapshot : AccountSnapshot) : LocalPositionModel :=
  seedFromOnChainSnapshot config
    (snapshot.reserves.foldl (fun model row => model.registerReserve row.asset BASE_LT_BPS) model)
    snapshot

/-- `reconcileAndSeedPosition` once its reads have answered. -/
def reconcileAndSeedPosition (config : LocalPositionModelConfig) (model : LocalPositionModel)
    (account : Address) (blockNumber : Nat) : ReconcileAnswer → LocalPositionModel
  | .failed => model
  | .debtFree => model.removePosition account
  | .snapshot found =>
      if !reservesTouchAllowlist found.reserves (config.reserveAllowlist.getD []) then
        model.removePosition account
      else
        seedModelFromAccountSnapshot config model
          { found with account := account, blockNumber := blockNumber }

/-! ## Routing -/

/-- `maybeSample`: the recomputation it starts with. -/
def maybeSample (config : LocalPositionModelConfig) (model : LocalPositionModel)
    (account : Address) (nowSec : Int) : LocalPositionModel :=
  match model.positions.get? account.toLowerCase with
  | none => model
  | some position => (recomputeHf config model position nowSec).1

/-- The queue after one change has been routed. -/
def route (queue : TieredConfirmQueue) (change : TierChange) : TieredConfirmQueue :=
  if change.isNew && decide (change.tier ≠ .healthy) then queue.enqueueUrgent change.account
  else if change.tier = .urgent then queue.enqueueUrgent change.account
  else if change.tier = .watch then queue.enqueueWatch change.account
  else queue

/-- Changes of positions that are not seeded, and of the zero account, are
skipped. -/
def eligible (change : TierChange) : Bool :=
  change.isFullySeeded && decide (change.account.toLowerCase ≠ ZERO_ADDRESS)

/-- One turn of the loop of `handleTierChanges`. -/
def handleTierChange (config : LocalPositionModelConfig) (nowSec : Int) (stack : EventPurityStack)
    (change : TierChange) : EventPurityStack :=
  if !eligible change then stack
  else
    { stack with
      confirmQueue := route stack.confirmQueue change
      model := maybeSample config stack.model change.account nowSec }

/-- `handleTierChanges` up to the reads of its flush: the stack there, and the
accounts the flush reads. -/
def handleTierChanges (config : LocalPositionModelConfig) (stack : EventPurityStack)
    (changes : List TierChange) (nowSec : Int) : EventPurityStack × List Address :=
  if !stack.model.pricesBootstrapped then (stack, [])
  else
    let routed := changes.foldl (handleTierChange config nowSec) stack
    let flushed := routed.confirmQueue.flushUrgent
    ({ routed with confirmQueue := flushed.1 }, flushed.2)

/-! ## Segments -/

def withModel (stack : EventPurityStack) (model : LocalPositionModel) : EventPurityStack :=
  { stack with model := model }

/-- The stack when a segment comes to `handleTierChanges`, with the changes it
passes; segments that do not come there end with none. -/
def produce (config : EventPurityStackConfig) (stack : EventPurityStack) (nowSec : Int) :
    Segment → EventPurityStack × Option (List TierChange)
  | .chainlinkPrice event =>
      let applied := applyPriceEvent config.model stack.model event nowSec
      (stack.withModel applied.1, some applied.2)
  | .aavePool event =>
      let applied := applyAaveEvent config.model stack.model event nowSec
      match applied.2.firstTouchReconcile with
      | none => (stack.withModel applied.1, some applied.2.changes)
      | some _ =>
          ({ stack with model := applied.1, pending := stack.pending ++ [applied.2.changes] }, none)
  | .reconcile account blockNumber answer =>
      (stack.withModel (reconcileAndSeedPosition config.model stack.model account blockNumber
        answer), none)
  | .firstTouch account =>
      match tierChangeForAccount config.model stack.model account true with
      | none => (stack, none)
      | some change => (stack, if stack.model.pricesBootstrapped then some [change] else none)
  | .pollFeeds answers =>
      let polled := pollLocalFeedFreshness config stack.model answers nowSec
      ({ stack with model := polled.1, pending := stack.pending ++ [polled.2] }, none)
  | .resume index =>
      ({ stack with pending := stack.pending.eraseIdx index }, stack.pending[index]?)
  | .confirm row blockNumber =>
      (stack.withModel (stack.model.confirmOnChain row.address row.totalCollateralBase
        row.totalDebtBase row.liquidationThreshold row.healthFactor blockNumber
        row.eModeCategoryId), none)
  | .flashblockTick => (stack.withModel (onFlashblockTick config.model stack.model).1, none)
  | .refreshReserveIndex reserve liquidityIndex variableBorrowIndex =>
      (stack.withModel (stack.model.refreshReserveIndex reserve liquidityIndex
        variableBorrowIndex), none)
  | .registerBootstrapPrice asset normalizedPrice feedState =>
      (stack.withModel (stack.model.registerBootstrapPrice asset normalizedPrice feedState), none)
  | .registerReserve asset =>
      (stack.withModel (stack.model.registerReserve asset BASE_LT_BPS), none)
  | .setReserveLiquidationBonus asset bonus =>
      (stack.withModel (stack.model.setReserveLiquidationBonus asset bonus), none)
  | .seed snapshot =>
      (stack.withModel (seedFromOnChainSnapshot config.model stack.model snapshot), none)
  | .markPricesBootstrapped => (stack.withModel stack.model.markPricesBootstrapped, none)
  | .evictUnderMemoryPressure blockNumber =>
      (stack.withModel (LocalPositionModel.evictUnderMemoryPressure config.model stack.model
        blockNumber), none)

/-- The changes a segment passes to `handleTierChanges`. -/
def changesOf (config : EventPurityStackConfig) (stack : EventPurityStack)
    (segment : Segment × Int) : List TierChange :=
  (produce config stack segment.2 segment.1).2.getD []

/-- One segment: the next stack, and the accounts read in its flush. -/
def step (config : EventPurityStackConfig) (stack : EventPurityStack) (segment : Segment × Int) :
    EventPurityStack × List Address :=
  match produce config stack segment.2 segment.1 with
  | (after, none) => (after, [])
  | (after, some changes) => handleTierChanges config.model after changes segment.2

/-- A run of segments from a new stack, each with the time it runs at. -/
def runAll (config : EventPurityStackConfig) (segments : List (Segment × Int)) :
    EventPurityStack :=
  segments.foldl (fun stack segment => (step config stack segment).1) (initial config)

theorem runAll_snoc (config : EventPurityStackConfig) (segments : List (Segment × Int))
    (segment : Segment × Int) :
    runAll config (segments ++ [segment]) = (step config (runAll config segments) segment).1 := by
  rw [runAll, List.foldl_append]
  rfl

end EventPurityStack

end LiquidationBot
