import LiquidationBot.Library.InsertionMap
import LiquidationBot.Library.JsonText

/-!
# The client of the flashblocks socket

One client object outlives its sockets. It keeps the socket that it sends on, the
requests that wait for an answer and the table of subscriptions, and every socket
that it ever opened shares one handler of messages. A request goes on with the next
subscription of its connection when it is answered or given up.

Sockets behave as the standard has it: a socket delivers messages while it is open,
closes once, and delivers nothing between a call of `close` and its close event.
What arrives on a socket, and when, is up to the other side. A continuation runs
before the next event.
-/

namespace LiquidationBot

inductive FlashblocksSubscriptionKind where
  | pendingLogs
  | logs
  | newFlashblocks
  | newHeads
deriving DecidableEq

/-- An element of the list that `start` is given. -/
structure FlashblocksSubscription where
  kind : FlashblocksSubscriptionKind
  params : Option Json
  role : Option String

/-- `FlashblocksWsClientConfig`, with the callbacks that are there. -/
structure FlashblocksWsClientConfig where
  hasOnConfirmedLog : Bool
  hasOnNewFlashblock : Bool
  maxReconnectDelayMs : Option Nat
  gracefulSubscribe : Bool
  subscribeTimeoutMs : Option Nat

/-- Why a subscription failed. The text of a rejection is that of its JSON value. -/
inductive SubscribeFailure where
  | eth_subscribe_timeout (timeoutMs : Nat)
  | rejected (error : Json)
  | non_string_id
  | socket_not_open

structure SkippedSubscription where
  kind : FlashblocksSubscriptionKind
  role : Option String
  reason : SubscribeFailure

structure FlashblocksWsStartResult where
  active : List FlashblocksSubscriptionKind
  activeRoles : List String
  skipped : List SkippedSubscription

/-- `subscribeAll` while it waits for one of its subscriptions. -/
structure SubscribeTask where
  current : FlashblocksSubscription
  remaining : List FlashblocksSubscription
  result : FlashblocksWsStartResult

/-- `PendingRequest`, with what goes on when it settles: nothing for a request that
was never sent and has failed already. -/
structure PendingRequest where
  kind : FlashblocksSubscriptionKind
  task : Option SubscribeTask

/-- `FlashblocksWsClient`. The timer of a reconnect keeps its delay and the list of
its connection. -/
structure FlashblocksWsClient where
  ws : Option Nat
  requestId : Nat
  pendingRequests : InsertionMap Nat PendingRequest
  reconnectAttempt : Nat
  stopped : Bool
  reconnectTimer : Option (Nat × List FlashblocksSubscription)
  subscriptions : InsertionMap JsString FlashblocksSubscriptionKind

/-- A call of one of the configured functions. A flashblock index that is no finite
number is none. -/
inductive FlashblocksCallback where
  | onPendingLog (log : Json)
  | onConfirmedLog (log : Json)
  | onNewFlashblock (blockNumber : Int) (flashblockIndex : Option (Option ℚ))

/-- A call, with the subscription that it was made for. -/
structure FlashblocksDispatch where
  subscriptionId : JsString
  kind : FlashblocksSubscriptionKind
  callback : FlashblocksCallback

/-- What the handler throws: a `TypeError` where it reads a property of null, and the
`SyntaxError` of a text that is no big integer. -/
inductive HandlerError where
  | property_of_null
  | not_a_bigint (text : JsString)

/-- What a message does. -/
structure HandledMessage where
  client : FlashblocksWsClient
  settled : Option (PendingRequest × Except SubscribeFailure JsString)
  dispatched : Option FlashblocksDispatch

/-! ## Blocks in results -/

/-- The left side of `??`, none for null as for undefined. -/
def nullish : Option Json → Option Json
  | some .null => none
  | value => value

/-- `BigInt(text)`. -/
def bigIntOrThrow (text : JsString) : Except HandlerError (Option Int) :=
  match Json.bigInt text with
  | some value => .ok (some value)
  | none => .error (.not_a_bigint text)

/-- `raw` of `extractSubscriptionBlockNumber`. -/
def rawBlockNumber (result : Json) : Option Json :=
  (nullish (result.property "blockNumber")).or (result.property "number")

/-- The result is none where it is undefined. -/
def extractSubscriptionBlockNumber : Option Json → Except HandlerError (Option Int)
  | some (.string text) => bigIntOrThrow text
  | some result =>
      match rawBlockNumber result with
      | some (.string text) => bigIntOrThrow text
      | some (.number (some value)) => .ok (if value.den = 1 then some value.num else none)
      | _ => .ok none
  | none => .ok none

def extractFlashblockIndex (result : Json) : Option (Option ℚ) :=
  match (nullish (result.property "index")).or (result.property "flashblockIndex") with
  | some (.number value) => some value
  | some (.string text) => some (Json.parseInt text)
  | _ => none

/-- `typeof result === "object"`, which null is as well. -/
def isObjectType : Option Json → Bool
  | some .null => true
  | some (.array _) => true
  | some (.object _) => true
  | _ => false

namespace FlashblocksWsClient

/-- A new client. -/
def initial : FlashblocksWsClient := ⟨none, 1, .empty, 0, false, none, .empty⟩

def getActiveSubscriptionCount (client : FlashblocksWsClient) : Nat := client.subscriptions.size

/-! ## The handler of messages -/

/-- A key of `pendingRequests` that a number is. -/
def requestKey (value : ℚ) : Option Nat :=
  if value.den = 1 ∧ 0 ≤ value.num then some value.num.toNat else none

/-- The number of a response: its id, if that is a number. -/
def responseId (parsed : Json) : Option Nat :=
  match parsed.property "id" with
  | some (.number (some value)) => requestKey value
  | _ => none

/-- The request that waits for the response. -/
def pendingOf (client : FlashblocksWsClient) (parsed : Json) : Option (Nat × PendingRequest) :=
  (responseId parsed).bind (fun id =>
    (client.pendingRequests.get? id).map (fun pending => (id, pending)))

/-- The branch of a response. -/
def settleRequest (client : FlashblocksWsClient) (id : Nat) (pending : PendingRequest)
    (parsed : Json) : HandledMessage :=
  let answered := { client with pendingRequests := client.pendingRequests.delete id }
  match nullish (parsed.property "error") with
  | some error => ⟨answered, some (pending, .error (.rejected error)), none⟩
  | none =>
      match parsed.property "result" with
      | some (.string result) =>
          ⟨{ answered with subscriptions := client.subscriptions.set result pending.kind },
            some (pending, .ok result), none⟩
      | _ => ⟨answered, some (pending, .error .non_string_id), none⟩

/-- `subscriptionId` and `kind` of a notification. -/
def knownSubscription (client : FlashblocksWsClient) (parsed : Json) :
    Option (JsString × FlashblocksSubscriptionKind) :=
  match (parsed.property "params").bind (Json.property "subscription") with
  | some (.string id) => (client.subscriptions.get? id).map (fun kind => (id, kind))
  | _ => none

/-- `result` of a notification. -/
def notificationResult (parsed : Json) : Option Json :=
  (parsed.property "params").bind (Json.property "result")

def isNotification (parsed : Json) : Bool :=
  match parsed.property "method" with
  | some (.string method) => method = jsString "eth_subscription"
  | _ => false

/-- The call for a block, if the result has a number. -/
def blockCallback (config : FlashblocksWsClientConfig) (kind : FlashblocksSubscriptionKind)
    (result : Option Json) : Except HandlerError (Option FlashblocksCallback) := do
  let blockNumber ← extractSubscriptionBlockNumber result
  return (blockNumber.filter (fun _ => config.hasOnNewFlashblock)).map (fun blockNumber =>
    .onNewFlashblock blockNumber
      (if kind = .newFlashblocks then result.bind extractFlashblockIndex else none))

/-- The call for a result under a kind. -/
def callbackFor (config : FlashblocksWsClientConfig) (kind : FlashblocksSubscriptionKind)
    (result : Option Json) : Except HandlerError (Option FlashblocksCallback) :=
  match kind with
  | .newFlashblocks => blockCallback config kind result
  | .newHeads => blockCallback config kind result
  | .pendingLogs =>
      .ok ((result.filter (fun log => isObjectType (some log))).map .onPendingLog)
  | .logs =>
      .ok ((result.filter (fun log => isObjectType (some log) && config.hasOnConfirmedLog)).map
        .onConfirmedLog)

/-- Whatever the message does not do. -/
def ignored (client : FlashblocksWsClient) : HandledMessage := ⟨client, none, none⟩

/-- The branch of a notification. -/
def notify (config : FlashblocksWsClientConfig) (client : FlashblocksWsClient) (parsed : Json) :
    Except HandlerError HandledMessage :=
  match client.knownSubscription parsed with
  | none => .ok client.ignored
  | some (id, kind) => do
      let callback ← callbackFor config kind (notificationResult parsed)
      return ⟨client, none, callback.map (FlashblocksDispatch.mk id kind)⟩

def handleMessage (config : FlashblocksWsClientConfig) (client : FlashblocksWsClient)
    (raw : String) : Except HandlerError HandledMessage :=
  match Json.parse raw with
  | none => .ok client.ignored
  | some .null => .error .property_of_null
  | some parsed =>
      match client.pendingOf parsed with
      | some (id, pending) => .ok (client.settleRequest id pending parsed)
      | none => if isNotification parsed then client.notify config parsed else .ok client.ignored

end FlashblocksWsClient

end LiquidationBot
