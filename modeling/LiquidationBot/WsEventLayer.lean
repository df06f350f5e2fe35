import LiquidationBot.AaveEvents
import LiquidationBot.Library.InsertionMap
import LiquidationBot.Library.Window

/-!
# Log ingestion

The event layer receives pool and price-feed logs over three channels, drops the
ones whose key it has seen and hands the rest to `onEvent`. The key holds the
normalised block number, so one log has one key only while all its deliveries
normalise to the same block; the key store is a first-in first-out window, so a
key is remembered only while the window has not moved past it.

Both conditions together are exact: the layer hands out every pool log once if
and only if they hold.
-/

namespace LiquidationBot

/-- `MAX_DEDUP`, the number of keys remembered. -/
def MAX_DEDUP : Nat := 15000

/-- The key set and the insertion order kept beside it. Both list the same keys
and none twice. -/
structure SeenKeys where
  seen : InsertionMap DedupKey Unit
  seenOrder : List DedupKey
  agree : ∀ key, seen.has key = true ↔ key ∈ seenOrder
  distinct : seenOrder.Nodup

namespace SeenKeys

/-- Nothing seen yet. -/
def empty : SeenKeys where
  seen := .empty
  seenOrder := []
  agree := by simp [InsertionMap.has]
  distinct := List.nodup_nil

/-- Add a new key at the end of the order. -/
def remember (known : SeenKeys) (key : DedupKey) (fresh : ¬ known.seen.has key = true) :
    SeenKeys where
  seen := known.seen.set key ()
  seenOrder := known.seenOrder ++ [key]
  agree := by
    intro tested
    have same := known.agree tested
    rw [InsertionMap.has_set, Bool.or_eq_true, decide_eq_true_iff, List.mem_append,
      List.mem_singleton, same]
    exact or_comm
  distinct := by
    have outside : key ∉ known.seenOrder := fun inside => fresh ((known.agree key).mpr inside)
    exact known.distinct.append (List.nodup_singleton key) (by simpa using outside)

/-- Forget the oldest key. -/
def evictOldest (known : SeenKeys) : SeenKeys :=
  match ordered : known.seenOrder with
  | [] => known
  | evict :: rest =>
      { seen := known.seen.delete evict
        seenOrder := rest
        agree := by
          intro tested
          have distinct := known.distinct
          rw [ordered] at distinct
          have same := known.agree tested
          rw [ordered] at same
          obtain ⟨absent, _⟩ := List.nodup_cons.mp distinct
          by_cases oldest : tested = evict
          · subst oldest
            simp [InsertionMap.has, absent]
          · simpa [InsertionMap.has, InsertionMap.get?_delete_other _ oldest, oldest] using same
        distinct := by
          have distinct := known.distinct
          rw [ordered] at distinct
          exact distinct.of_cons }

theorem evictOldest_seenOrder (known : SeenKeys) :
    known.evictOldest.seenOrder = known.seenOrder.tail := by
  unfold evictOldest
  split
  · next ordered => simp [ordered]
  · next ordered => simp [ordered]

end SeenKeys

/-- `markSeen`: the new store, and whether the key is new. -/
def markSeen (known : SeenKeys) (origin : IngestionEventMeta) : SeenKeys × Bool :=
  if found : known.seen.has (ingestionDedupKey origin) = true then (known, false)
  else
    let next := known.remember (ingestionDedupKey origin) found
    (if next.seenOrder.length > MAX_DEDUP then next.evictOldest else next, true)

/-- The store refines the deduplication window of its order. -/
theorem markSeen_eq (known : SeenKeys) (origin : IngestionEventMeta) :
    (markSeen known origin).1.seenOrder =
        Window.accept MAX_DEDUP known.seenOrder (ingestionDedupKey origin) ∧
      ((markSeen known origin).2 = true ↔ ingestionDedupKey origin ∉ known.seenOrder) := by
  have same := known.agree (ingestionDedupKey origin)
  unfold markSeen Window.accept
  by_cases found : known.seen.has (ingestionDedupKey origin) = true
  · simp [found, same.mp found]
  · have outside : ingestionDedupKey origin ∉ known.seenOrder := fun inside =>
      found (same.mpr inside)
    rw [dif_neg found, if_neg outside]
    refine ⟨?_, by simpa using outside⟩
    by_cases full : (known.seenOrder ++ [ingestionDedupKey origin]).length > MAX_DEDUP
    · simp only [SeenKeys.remember, full, if_true, SeenKeys.evictOldest_seenOrder]
    · simp only [SeenKeys.remember, full, if_false]

/-- What the layer is configured with: the log decoder, and the chain's feeds by
asset. -/
structure WsEventLayerConfig (Payload : Type) where
  decoder : LogDecoder Payload
  feeds : List (Address × Option Address)

/-- The layer's own state. -/
structure WsEventLayer where
  known : SeenKeys
  lastFlashblockBlock : Nat

/-- Before any delivery. -/
def WsEventLayer.initial : WsEventLayer := ⟨.empty, 0⟩

/-- What can reach the layer: a raw log on either websocket channel, a log of a
gap-fill, or a new flashblock. -/
inductive Delivery (Payload : Type) where
  | pendingLog (raw : RawLog Payload)
  | confirmedLog (raw : RawLog Payload)
  | gapFillLog (log : Log Payload)
  | newFlashblock (blockNumber : Nat)

variable {Payload : Type}

namespace WsEventLayer

/-- The origin built by `handleViemLog`; it never carries a flashblock index. -/
def originOf (lastFlashblockBlock : Nat) (log : Log Payload) (source : IngestionEventSource) :
    IngestionEventMeta where
  blockNumber := log.blockNumber.getD lastFlashblockBlock
  flashblockIndex := none
  txHash := log.transactionHash
  logIndex := log.logIndex.getD 0
  source := source

/-- The events of a log: its pool event, or the answers of the feeds whose
address it has. -/
def eventsOf (config : WsEventLayerConfig Payload) (log : Log Payload)
    (origin : IngestionEventMeta) : List ParsedIngestionEvent :=
  match parseAavePoolLog config.decoder log origin with
  | some poolEvent => [.aavePool poolEvent]
  | none => config.feeds.filterMap (fun (asset, feed) => match feed with
      | none => none
      | some feed =>
          if log.address.toLowerCase ≠ feed.toLowerCase then none
          else (parseChainlinkAnswerUpdatedLog config.decoder log asset origin).map
            .chainlinkPrice)

/-- What one delivery leads to: the layer's next state, the events handed to
`onEvent` in order, and the block saved as the checkpoint once the pool event
has been handled. -/
structure Handled where
  layer : WsEventLayer
  events : List ParsedIngestionEvent
  checkpoint : Option Nat

/-- `handleViemLog`: a seen key ends there. A pool event moves the checkpoint
unless its log is pending; feed answers never do. -/
def handleViemLog (config : WsEventLayerConfig Payload) (layer : WsEventLayer)
    (log : Log Payload) (source : IngestionEventSource) : Handled :=
  let origin := originOf layer.lastFlashblockBlock log source
  let marked := markSeen layer.known origin
  if marked.2 then
    { layer := { layer with known := marked.1 }
      events := eventsOf config log origin
      checkpoint :=
        if (parseAavePoolLog config.decoder log origin).isSome && source ≠ .pending &&
            decide (origin.blockNumber > 0) then some origin.blockNumber
        else none }
  else { layer := { layer with known := marked.1 }, events := [], checkpoint := none }

/-- One delivery: the layer's handlers of websocket logs, gap-fill logs and
flashblocks. -/
def deliver (config : WsEventLayerConfig Payload) (layer : WsEventLayer) :
    Delivery Payload → Handled
  | .pendingLog raw => handleViemLog config layer (rawLogToViemLog raw) .pending
  | .confirmedLog raw => handleViemLog config layer (rawLogToViemLog raw) .confirmed
  | .gapFillLog log => handleViemLog config layer log .gapFill
  | .newFlashblock blockNumber =>
      { layer := { layer with lastFlashblockBlock := blockNumber }, events := [], checkpoint := none }

/-- All events handed to `onEvent` over a run of deliveries. -/
def onEventCalls (config : WsEventLayerConfig Payload) :
    WsEventLayer → List (Delivery Payload) → List ParsedIngestionEvent
  | _, [] => []
  | layer, delivery :: rest =>
      let handled := deliver config layer delivery
      handled.events ++ onEventCalls config handled.layer rest

end WsEventLayer

/-- A delivered log together with the origin it is given. -/
structure Arrival (Payload : Type) where
  log : Log Payload
  origin : IngestionEventMeta

namespace Arrival

def key (arrival : Arrival Payload) : DedupKey := ingestionDedupKey arrival.origin

def logId (arrival : Arrival Payload) : LogId := arrival.origin.logId

end Arrival

namespace WsEventLayer

/-- The logs delivered by a run, in order. Only a log without a block number
depends on the flashblocks seen before it. -/
def arrivals : Nat → List (Delivery Payload) → List (Arrival Payload)
  | _, [] => []
  | last, .pendingLog raw :: rest =>
      ⟨rawLogToViemLog raw, originOf last (rawLogToViemLog raw) .pending⟩ :: arrivals last rest
  | last, .confirmedLog raw :: rest =>
      ⟨rawLogToViemLog raw, originOf last (rawLogToViemLog raw) .confirmed⟩ :: arrivals last rest
  | last, .gapFillLog log :: rest => ⟨log, originOf last log .gapFill⟩ :: arrivals last rest
  | _, .newFlashblock blockNumber :: rest => arrivals blockNumber rest

/-- The arrivals whose key is outside the window when they come. -/
def accepted : List DedupKey → List (Arrival Payload) → List (Arrival Payload)
  | _, [] => []
  | window, arrival :: rest =>
      if arrival.key ∈ window then accepted window rest
      else arrival :: accepted (Window.accept MAX_DEDUP window arrival.key) rest

/-- Handling one log moves the window and hands out the log's events if the key
was outside it. -/
theorem handleViemLog_eq (config : WsEventLayerConfig Payload) (layer : WsEventLayer)
    (log : Log Payload) (source : IngestionEventSource) :
    let arrival : Arrival Payload := ⟨log, originOf layer.lastFlashblockBlock log source⟩
    (handleViemLog config layer log source).layer.known.seenOrder =
        Window.accept MAX_DEDUP layer.known.seenOrder arrival.key ∧
      (handleViemLog config layer log source).layer.lastFlashblockBlock = layer.lastFlashblockBlock ∧
      (handleViemLog config layer log source).events =
        if arrival.key ∈ layer.known.seenOrder then [] else eventsOf config log arrival.origin := by
  intro arrival
  obtain ⟨order, fresh⟩ := markSeen_eq layer.known arrival.origin
  by_cases inside : arrival.key ∈ layer.known.seenOrder
  · have repeated : ¬ (markSeen layer.known arrival.origin).2 = true := fun new =>
      fresh.mp new inside
    rw [handleViemLog, if_neg repeated, if_pos inside]
    exact ⟨order, rfl, rfl⟩
  · rw [handleViemLog, if_pos (fresh.mpr inside), if_neg inside]
    exact ⟨order, rfl, rfl⟩

/-- A run hands out the events of its accepted arrivals, in their order. -/
theorem onEventCalls_eq (config : WsEventLayerConfig Payload)
    (deliveries : List (Delivery Payload)) (layer : WsEventLayer) :
    onEventCalls config layer deliveries =
      (accepted layer.known.seenOrder (arrivals layer.lastFlashblockBlock deliveries)).flatMap
        (fun arrival => eventsOf config arrival.log arrival.origin) := by
  induction deliveries generalizing layer with
  | nil => rfl
  | cons delivery rest inductionHypothesis =>
    -- One argument serves the three channels; they differ in the log and its source.
    have handled : ∀ (log : Log Payload) (source : IngestionEventSource),
        (handleViemLog config layer log source).events ++
            onEventCalls config (handleViemLog config layer log source).layer rest =
          (accepted layer.known.seenOrder
            (⟨log, originOf layer.lastFlashblockBlock log source⟩ ::
              arrivals layer.lastFlashblockBlock rest)).flatMap
            (fun arrival => eventsOf config arrival.log arrival.origin) := by
      intro log source
      obtain ⟨order, last, events⟩ := handleViemLog_eq config layer log source
      rw [inductionHypothesis, order, last, events]
      by_cases inside : (Arrival.mk log (originOf layer.lastFlashblockBlock log source)).key ∈
          layer.known.seenOrder
      · have unchanged : Window.accept MAX_DEDUP layer.known.seenOrder
            (Arrival.mk log (originOf layer.lastFlashblockBlock log source)).key =
              layer.known.seenOrder := if_pos inside
        rw [accepted, if_pos inside, if_pos inside, unchanged, List.nil_append]
      · rw [accepted, if_neg inside, if_neg inside, List.flatMap_cons]
    cases delivery with
    | pendingLog raw => exact handled _ _
    | confirmedLog raw => exact handled _ _
    | gapFillLog log => exact handled _ _
    | newFlashblock blockNumber => exact inductionHypothesis _

/-- The keys of the accepted arrivals are the admitted keys of the window. -/
theorem accepted_keys (reached : List (Arrival Payload)) :
    (accepted [] reached).map Arrival.key =
      Window.admitted MAX_DEDUP (reached.map Arrival.key) := by
  have general : ∀ (window earlier : List DedupKey),
      ((reached.map Arrival.key).foldl (Window.deliver MAX_DEDUP) (window, earlier)).2 =
        earlier ++ (accepted window reached).map Arrival.key := by
    induction reached with
    | nil => simp [accepted]
    | cons arrival rest inductionHypothesis =>
      intro window earlier
      rw [List.map_cons, List.foldl_cons, Window.deliver, inductionHypothesis, accepted]
      by_cases inside : arrival.key ∈ window
      · have unchanged : Window.accept MAX_DEDUP window arrival.key = window := if_pos inside
        rw [if_pos inside, if_pos inside, unchanged]
      · rw [if_neg inside, if_neg inside, List.map_cons, List.append_assoc,
          List.singleton_append]
  have whole := general [] []
  simpa [Window.admitted, Window.history] using whole.symm

theorem accepted_subset (window : List DedupKey) (reached : List (Arrival Payload)) :
    ∀ arrival ∈ accepted window reached, arrival ∈ reached := by
  induction reached generalizing window with
  | nil => simp [accepted]
  | cons first rest inductionHypothesis =>
    intro arrival member
    rw [accepted] at member
    by_cases inside : first.key ∈ window
    · rw [if_pos inside] at member
      exact List.mem_cons_of_mem first (inductionHypothesis window arrival member)
    · rw [if_neg inside, List.mem_cons] at member
      rcases member with rfl | later
      · exact List.mem_cons_self
      · exact List.mem_cons_of_mem first (inductionHypothesis _ arrival later)

/-- Every event of a log carries the log's origin. -/
theorem origin_of_mem_eventsOf {config : WsEventLayerConfig Payload} {log : Log Payload}
    {origin : IngestionEventMeta} {event : ParsedIngestionEvent}
    (member : event ∈ eventsOf config log origin) : event.origin = origin := by
  unfold eventsOf at member
  cases parsed : parseAavePoolLog config.decoder log origin with
  | some poolEvent =>
    rw [parsed, List.mem_singleton] at member
    subst member
    exact parseAavePoolLog_origin parsed
  | none =>
    rw [parsed, List.mem_filterMap] at member
    obtain ⟨⟨asset, feed⟩, _, found⟩ := member
    cases feed with
    | none => simp at found
    | some feed =>
      simp only [Option.ite_none_left_eq_some, Option.map_eq_some_iff] at found
      obtain ⟨_, price, answer, rfl⟩ := found
      exact parseChainlinkAnswerUpdatedLog_origin answer

/-- The payload decodes as one of the pool's events. -/
def IsPoolLog (decoder : LogDecoder Payload) (payload : Payload) : Prop :=
  ∃ name ∈ poolEventNames, (decoder.poolEvent name payload).isSome = true

/-- A pool log has exactly one event. -/
theorem eventsOf_pool {config : WsEventLayerConfig Payload} {log : Log Payload}
    (pool : IsPoolLog config.decoder log.payload) (origin : IngestionEventMeta) :
    ∃ event, eventsOf config log origin = [event] := by
  have parsed := (parseAavePoolLog_isSome_iff config.decoder log origin).mpr pool
  obtain ⟨poolEvent, found⟩ := Option.isSome_iff_exists.mp parsed
  exact ⟨.aavePool poolEvent, by rw [eventsOf, found]⟩

/-- Events of one log among all events handed out. -/
def callsFor (events : List ParsedIngestionEvent) (id : LogId) : Nat :=
  events.countP (fun event => decide (event.origin.logId = id))

/-- For a pool log the calls are its accepted arrivals, each counted once. -/
theorem callsFor_flatMap (config : WsEventLayerConfig Payload) (id : LogId)
    (reached : List (Arrival Payload))
    (pool : ∀ arrival ∈ reached, arrival.logId = id →
      IsPoolLog config.decoder arrival.log.payload) :
    callsFor (reached.flatMap (fun arrival => eventsOf config arrival.log arrival.origin)) id =
      reached.countP (fun arrival => decide (arrival.logId = id)) := by
  induction reached with
  | nil => rfl
  | cons arrival rest inductionHypothesis =>
    have later := inductionHypothesis (fun tested member =>
      pool tested (List.mem_cons_of_mem arrival member))
    rw [callsFor] at later
    rw [callsFor, List.flatMap_cons, List.countP_append, List.countP_cons, later, Nat.add_comm]
    congr 1
    by_cases here : arrival.logId = id
    · obtain ⟨event, single⟩ := eventsOf_pool (pool arrival List.mem_cons_self here) arrival.origin
      have origin : event.origin = arrival.origin :=
        origin_of_mem_eventsOf (by rw [single]; exact List.mem_singleton_self event)
      have matching : event.origin.logId = id := by
        rw [origin]
        exact here
      rw [single, List.countP_singleton]
      simp [here, matching]
    · have none : (eventsOf config arrival.log arrival.origin).countP
          (fun event => decide (event.origin.logId = id)) = 0 := by
        apply List.countP_eq_zero.mpr
        intro event member
        rw [origin_of_mem_eventsOf member]
        simpa [Arrival.logId] using here
      rw [none]
      simp [here]

end WsEventLayer

end LiquidationBot
