import LiquidationBot.WsEventLayer

/-!
# Every pool log is handed out once

A log's key depends on the block number its delivery normalises to. Two
deliveries of one log with different numbers are two keys, and each is handed
out. The theorem shows that this and a key's departure from the window are the
only ways to hand out a pool log twice, and that no delivered pool log is lost.
-/

namespace LiquidationBot.WsEventLayer

variable {Payload : Type}

/-- Deliveries of one log agree on what the log says. -/
def Genuine (content : LogId → Payload) (reached : List (Arrival Payload)) : Prop :=
  ∀ arrival ∈ reached, arrival.log.payload = content arrival.logId

/-- The key belongs to a pool log. -/
def PoolKey (decoder : LogDecoder Payload) (content : LogId → Payload) (key : DedupKey) : Prop :=
  IsPoolLog decoder (content key.logId)

/-- All deliveries of a pool log normalise to one block number. -/
def SameBlock (decoder : LogDecoder Payload) (reached : List (Arrival Payload)) : Prop :=
  ∀ first ∈ reached, ∀ second ∈ reached, first.logId = second.logId →
    IsPoolLog decoder first.log.payload → first.origin.blockNumber = second.origin.blockNumber

/-- The keys of a run's deliveries, in order. -/
def deliveredKeys (deliveries : List (Delivery Payload)) : List DedupKey :=
  (arrivals 0 deliveries).map Arrival.key

/-- No channel sets a flashblock index, so a key is a block and an identity. -/
theorem flashblockIndex_of_mem_arrivals {last : Nat} {deliveries : List (Delivery Payload)}
    {arrival : Arrival Payload} (member : arrival ∈ arrivals last deliveries) :
    arrival.origin.flashblockIndex = none := by
  induction deliveries generalizing last with
  | nil => simp [arrivals] at member
  | cons delivery rest inductionHypothesis =>
    cases delivery with
    | newFlashblock blockNumber => exact inductionHypothesis member
    | pendingLog raw =>
      rcases List.mem_cons.mp member with rfl | later
      · rfl
      · exact inductionHypothesis later
    | confirmedLog raw =>
      rcases List.mem_cons.mp member with rfl | later
      · rfl
      · exact inductionHypothesis later
    | gapFillLog log =>
      rcases List.mem_cons.mp member with rfl | later
      · rfl
      · exact inductionHypothesis later

/-- Two deliveries of one log have one key exactly when their blocks agree. -/
theorem key_eq_iff {last : Nat} {deliveries : List (Delivery Payload)}
    {first second : Arrival Payload} (firstMember : first ∈ arrivals last deliveries)
    (secondMember : second ∈ arrivals last deliveries) (sameLog : first.logId = second.logId) :
    first.key = second.key ↔ first.origin.blockNumber = second.origin.blockNumber := by
  have firstIndex := flashblockIndex_of_mem_arrivals firstMember
  have secondIndex := flashblockIndex_of_mem_arrivals secondMember
  obtain ⟨sameHash, samePosition⟩ := Prod.mk.inj sameLog
  simp [Arrival.key, ingestionDedupKey, firstIndex, secondIndex, sameHash, samePosition]

/-- The calls for a pool log are the admitted keys of that log. -/
theorem callsFor_eq_countP (config : WsEventLayerConfig Payload) (content : LogId → Payload)
    (deliveries : List (Delivery Payload)) (genuine : Genuine content (arrivals 0 deliveries))
    (id : LogId) (pool : IsPoolLog config.decoder (content id)) :
    callsFor (onEventCalls config initial deliveries) id =
      (Window.admitted MAX_DEDUP (deliveredKeys deliveries)).countP
        (fun key => decide (key.logId = id)) := by
  have poolArrivals : ∀ arrival ∈ accepted [] (arrivals 0 deliveries), arrival.logId = id →
      IsPoolLog config.decoder arrival.log.payload := by
    intro arrival member here
    rw [genuine arrival (accepted_subset [] _ arrival member), here]
    exact pool
  rw [onEventCalls_eq]
  have counted := callsFor_flatMap config id _ poolArrivals
  refine counted.trans ?_
  rw [deliveredKeys, ← accepted_keys, List.countP_map]
  rfl

/-- In a list where a property holds once, its holders are equal. -/
theorem eq_of_countP_eq_one {α : Type} {values : List α} {holds : α → Bool}
    (once : values.countP holds = 1) {left right : α} (leftMember : left ∈ values)
    (rightMember : right ∈ values) (leftHolds : holds left = true)
    (rightHolds : holds right = true) : left = right := by
  rw [List.countP_eq_length_filter, List.length_eq_one_iff] at once
  obtain ⟨only, single⟩ := once
  have leftOnly : left ∈ values.filter holds := List.mem_filter.mpr ⟨leftMember, leftHolds⟩
  have rightOnly : right ∈ values.filter holds := List.mem_filter.mpr ⟨rightMember, rightHolds⟩
  rw [single, List.mem_singleton] at leftOnly rightOnly
  rw [leftOnly, rightOnly]

/-- Over any run, every delivered pool log is handed to `onEvent` exactly once
if and only if its deliveries normalise to one block number and each redelivery
comes before the window has taken in `MAX_DEDUP` later keys. Price-feed logs
share the window; they are assumed to be redelivered within it. -/
theorem on_event_once_iff (config : WsEventLayerConfig Payload) (content : LogId → Payload)
    (deliveries : List (Delivery Payload)) (genuine : Genuine content (arrivals 0 deliveries))
    (feedsRecent : Window.Recent MAX_DEDUP (fun key => ¬ PoolKey config.decoder content key)
      (deliveredKeys deliveries)) :
    (∀ arrival ∈ arrivals 0 deliveries, IsPoolLog config.decoder arrival.log.payload →
        callsFor (onEventCalls config initial deliveries) arrival.logId = 1) ↔
      SameBlock config.decoder (arrivals 0 deliveries) ∧
        Window.Recent MAX_DEDUP (PoolKey config.decoder content) (deliveredKeys deliveries) := by
  have delivered : ∀ {arrival : Arrival Payload}, arrival ∈ arrivals 0 deliveries →
      arrival.key ∈ Window.admitted MAX_DEDUP (deliveredKeys deliveries) := by
    intro arrival member
    exact (Window.mem_admitted _ _ _).mpr (List.mem_map_of_mem member)
  have poolContent : ∀ {arrival : Arrival Payload}, arrival ∈ arrivals 0 deliveries →
      (IsPoolLog config.decoder arrival.log.payload ↔
        IsPoolLog config.decoder (content arrival.logId)) := by
    intro arrival member
    rw [genuine arrival member]
  rw [← Window.admitted_once_iff MAX_DEDUP _ _ feedsRecent]
  constructor
  · intro once
    have onceKeys : ∀ arrival ∈ arrivals 0 deliveries,
        IsPoolLog config.decoder arrival.log.payload →
        (Window.admitted MAX_DEDUP (deliveredKeys deliveries)).countP
          (fun key => decide (key.logId = arrival.logId)) = 1 := by
      intro arrival member pool
      rw [← callsFor_eq_countP config content deliveries genuine _
        ((poolContent member).mp pool)]
      exact once arrival member pool
    constructor
    · intro first firstMember second secondMember sameLog pool
      apply (key_eq_iff firstMember secondMember sameLog).mp
      apply eq_of_countP_eq_one (onceKeys first firstMember pool) (delivered firstMember)
        (delivered secondMember)
      · exact decide_eq_true rfl
      · exact decide_eq_true sameLog.symm
    · intro key keyDelivered pool
      obtain ⟨arrival, member, rfl⟩ := List.mem_map.mp keyDelivered
      have single := onceKeys arrival member ((poolContent member).mpr pool)
      have atLeast : 0 < (Window.admitted MAX_DEDUP (deliveredKeys deliveries)).count
          arrival.key := List.count_pos_iff.mpr (delivered member)
      have atMost : (Window.admitted MAX_DEDUP (deliveredKeys deliveries)).count arrival.key ≤
          (Window.admitted MAX_DEDUP (deliveredKeys deliveries)).countP
            (fun key => decide (key.logId = arrival.logId)) := by
        apply List.countP_mono_left
        intro key _ same
        rw [beq_iff_eq] at same
        rw [same]
        exact decide_eq_true rfl
      omega
  · rintro ⟨sameBlock, onceKeys⟩ arrival member pool
    have poolKey := (poolContent member).mp pool
    rw [callsFor_eq_countP config content deliveries genuine _ poolKey]
    rw [← onceKeys arrival.key (List.mem_map_of_mem member) poolKey, List.count]
    apply List.countP_congr
    intro key admitted
    obtain ⟨other, otherMember, rfl⟩ := List.mem_map.mp ((Window.mem_admitted _ _ _).mp admitted)
    rw [decide_eq_true_iff, beq_iff_eq]
    constructor
    · intro sameLog
      have sameNumber := sameBlock arrival member other otherMember sameLog.symm pool
      exact (key_eq_iff otherMember member sameLog).mpr sameNumber.symm
    · intro sameKey
      exact congrArg DedupKey.logId sameKey

/-- A decoder for payloads that spell out their event. -/
def spelledDecoder : LogDecoder (AavePoolEventName × PoolEventArgs) where
  poolEvent := fun name payload => if payload.1 = name then some payload.2 else none
  answerUpdated := fun _ => none

/-- A supply of one thousand units to the reserve of USDC. -/
def suppliedPayload : AavePoolEventName × PoolEventArgs :=
  (.Supply,
    { reserve := some BASE_USDC, collateralAsset := none, debtAsset := none, user := none
      onBehalfOf := some ⟨1, 0⟩, amount := some 1000, debtToCover := none
      liquidatedCollateralAmount := none, liquidityIndex := none, variableBorrowIndex := none })

/-- The supply's log as a websocket channel spells it. -/
def suppliedLog (blockNumber : RawQuantity) : RawLog (AavePoolEventName × PoolEventArgs) where
  address := none
  blockNumber := blockNumber
  transactionHash := some 5
  logIndex := .text 0
  payload := suppliedPayload

def spelledConfig : WsEventLayerConfig (AavePoolEventName × PoolEventArgs) := ⟨spelledDecoder, []⟩

theorem suppliedPayload_pool : IsPoolLog spelledDecoder suppliedPayload :=
  ⟨.Supply, by decide, by decide⟩

/-- Pending and confirmed delivery with the block number in both. -/
theorem on_event_once_iff_supplied :
    (∀ arrival ∈ arrivals 0 [.pendingLog (suppliedLog (.text 7)),
          .confirmedLog (suppliedLog (.text 7))],
        IsPoolLog spelledConfig.decoder arrival.log.payload →
        callsFor (onEventCalls spelledConfig initial [.pendingLog (suppliedLog (.text 7)),
          .confirmedLog (suppliedLog (.text 7))]) arrival.logId = 1) ↔
      SameBlock spelledConfig.decoder (arrivals 0 [.pendingLog (suppliedLog (.text 7)),
          .confirmedLog (suppliedLog (.text 7))]) ∧
        Window.Recent MAX_DEDUP (PoolKey spelledConfig.decoder (fun _ => suppliedPayload))
          (deliveredKeys [.pendingLog (suppliedLog (.text 7)),
            .confirmedLog (suppliedLog (.text 7))]) := by
  apply on_event_once_iff spelledConfig (fun _ => suppliedPayload)
  · intro arrival member
    simp only [arrivals, List.mem_cons, List.not_mem_nil, or_false] at member
    rcases member with rfl | rfl <;> rfl
  · intro past key _ notPool
    exact absurd suppliedPayload_pool notPool

/-- A pending delivery without a block number and a confirmed one with it: the
pending log is keyed under block zero, and `onEvent` is called for both. -/
theorem on_event_twice_without_block :
    IsPoolLog spelledDecoder suppliedPayload ∧
      (arrivals 0 [.pendingLog (suppliedLog .missing),
        .confirmedLog (suppliedLog (.text 7))]).map Arrival.logId = [(some 5, 0), (some 5, 0)] ∧
      callsFor (onEventCalls spelledConfig initial [.pendingLog (suppliedLog .missing),
        .confirmedLog (suppliedLog (.text 7))]) (some 5, 0) = 2 := by
  refine ⟨suppliedPayload_pool, by decide, by decide⟩

end LiquidationBot.WsEventLayer
