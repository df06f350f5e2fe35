import LiquidationBot.FlashblocksFrames
import LiquidationBot.Library.Prefixes
import Mathlib.Data.List.Basic

/-!
# The subscription table over the sockets

The client connects anew whenever a socket closes, and its table of subscriptions
is emptied by `stop` alone. A closed socket therefore leaves its subscriptions in
the table, where those of the next socket are added to them. The table is that of
the live socket in every run in which no socket is lost or replaced while the table
has entries, and in which a request is answered on the live socket that it was sent
on, before it is given up.

Beside the world stands what the sockets were sent and what they acknowledged, by
the frames alone.
-/

namespace LiquidationBot

/-- `readyState`. -/
inductive SocketPhase where
  | connecting
  | opened
  | closing
  | closed
deriving DecidableEq

/-- A socket, with the list that its listeners subscribe and connect with. -/
structure FlashblocksSocket where
  phase : SocketPhase
  requested : List FlashblocksSubscription

/-- The client and every socket that it opened, by its number. -/
structure FlashblocksWorld where
  client : FlashblocksWsClient
  sockets : List FlashblocksSocket

/-- What happens next: a call from outside, an event of a socket, or a timer. -/
inductive FlashblocksEvent where
  | start (subscriptions : List FlashblocksSubscription)
  | stop
  | opens (socket : Nat)
  | message (socket : Nat) (raw : String)
  | closes (socket : Nat)
  | error (socket : Nat)
  | requestTimeout (id : Nat)
  | reconnect

/-- What an event does to the outside. -/
inductive FlashblocksEffect where
  | onConnect
  | onDisconnect
  | sent (socket id : Nat) (subscription : FlashblocksSubscription)
  | dispatched (dispatch : FlashblocksDispatch)
  | handler_threw (error : HandlerError)
  | subscribe_skipped (skipped : SkippedSubscription)
  | started (result : Except SubscribeFailure FlashblocksWsStartResult)

namespace FlashblocksWsClient

/-! ## Subscribing -/

/-- What `send` does: it needs an open socket, throws on one that is connecting, and
drops the frame on one that is closed. -/
inductive Sending where
  | sends (socket : Nat)
  | drops
  | throws

def sending (client : FlashblocksWsClient) (sockets : List FlashblocksSocket) : Sending :=
  match client.ws with
  | none => .drops
  | some socket =>
      match (sockets[socket]?).map FlashblocksSocket.phase with
      | some .opened => .sends socket
      | some .connecting => .throws
      | _ => .drops

/-- A new entry of `pendingRequests`. -/
def addRequest (client : FlashblocksWsClient) (kind : FlashblocksSubscriptionKind)
    (task : Option SubscribeTask) : FlashblocksWsClient :=
  { client with
    requestId := client.requestId + 1
    pendingRequests := client.pendingRequests.set client.requestId ⟨kind, task⟩ }

/-- `subscribeAll` from a subscription on, until it waits for one or ends. -/
def proceed (config : FlashblocksWsClientConfig) (sockets : List FlashblocksSocket) :
    List FlashblocksSubscription → FlashblocksWsStartResult → FlashblocksWsClient →
      FlashblocksWsClient × List FlashblocksEffect
  | [], result, client => (client, [.started (.ok result)])
  | current :: remaining, result, client =>
      match client.sending sockets with
      | .sends socket =>
          (client.addRequest current.kind (some ⟨current, remaining, result⟩),
            [.sent socket client.requestId current])
      | .drops => (client.addRequest current.kind (some ⟨current, remaining, result⟩), [])
      | .throws =>
          let failed := client.addRequest current.kind none
          if config.gracefulSubscribe then
            let skipped := ⟨current.kind, current.role, .socket_not_open⟩
            let (after, effects) := proceed config sockets remaining
              { result with skipped := result.skipped ++ [skipped] } failed
            (after, .subscribe_skipped skipped :: effects)
          else (failed, [.started (.error .socket_not_open)])

/-- `subscribeAll` after a subscription was acknowledged or has failed. -/
def resume (config : FlashblocksWsClientConfig) (sockets : List FlashblocksSocket)
    (client : FlashblocksWsClient) (task : SubscribeTask) :
    Except SubscribeFailure JsString → FlashblocksWsClient × List FlashblocksEffect
  | .ok _ =>
      proceed config sockets task.remaining
        { task.result with
          active := task.result.active ++ [task.current.kind]
          activeRoles := task.result.activeRoles ++ task.current.role.toList } client
  | .error reason =>
      if config.gracefulSubscribe then
        let skipped := ⟨task.current.kind, task.current.role, reason⟩
        let (after, effects) := proceed config sockets task.remaining
          { task.result with skipped := task.result.skipped ++ [skipped] } client
        (after, .subscribe_skipped skipped :: effects)
      else (client, [.started (.error reason)])

/-- A settled request goes on with its task, if it has one. -/
def settled (config : FlashblocksWsClientConfig) (sockets : List FlashblocksSocket)
    (client : FlashblocksWsClient) (pending : PendingRequest)
    (outcome : Except SubscribeFailure JsString) : FlashblocksWsClient × List FlashblocksEffect :=
  match pending.task with
  | none => (client, [])
  | some task => client.resume config sockets task outcome

def scheduleReconnect (config : FlashblocksWsClientConfig) (client : FlashblocksWsClient)
    (subscriptions : List FlashblocksSubscription) : FlashblocksWsClient :=
  if client.stopped || client.reconnectTimer.isSome then client
  else
    { client with
      reconnectAttempt := client.reconnectAttempt + 1
      reconnectTimer :=
        some (min (config.maxReconnectDelayMs.getD 30000) (250 * 2 ^ client.reconnectAttempt),
          subscriptions) }

end FlashblocksWsClient

namespace FlashblocksWorld

def initial : FlashblocksWorld := ⟨.initial, []⟩

def phaseOf (world : FlashblocksWorld) (socket : Nat) : Option SocketPhase :=
  (world.sockets[socket]?).map FlashblocksSocket.phase

/-- The socket that the client sends on, if it is open. -/
def connected (world : FlashblocksWorld) : Option Nat :=
  world.client.ws.filter (fun socket => world.phaseOf socket = some .opened)

def setPhase (sockets : List FlashblocksSocket) (socket : Nat) (phase : SocketPhase) :
    List FlashblocksSocket :=
  sockets.modify socket (fun found => { found with phase := phase })

/-! ## Events -/

def connect (world : FlashblocksWorld) (subscriptions : List FlashblocksSubscription) :
    FlashblocksWorld × List FlashblocksEffect :=
  if world.client.stopped then (world, [.started (.ok ⟨[], [], []⟩)])
  else
    ({ client := { world.client with ws := some world.sockets.length }
       sockets := world.sockets ++ [⟨.connecting, subscriptions⟩] }, [])

def start (world : FlashblocksWorld) (subscriptions : List FlashblocksSubscription) :
    FlashblocksWorld × List FlashblocksEffect :=
  connect { world with client := { world.client with stopped := false } } subscriptions

/-- The sockets after `ws.close()`. -/
def closeSocket (world : FlashblocksWorld) : List FlashblocksSocket :=
  match world.client.ws with
  | none => world.sockets
  | some socket =>
      if world.phaseOf socket = some .closed then world.sockets
      else setPhase world.sockets socket .closing

def stop (world : FlashblocksWorld) : FlashblocksWorld where
  client :=
    { world.client with
      stopped := true
      reconnectTimer := none
      ws := none
      subscriptions := .empty }
  sockets := world.closeSocket

/-- The listener of `open`. -/
def onOpen (config : FlashblocksWsClientConfig) (world : FlashblocksWorld) (socket : Nat)
    (requested : List FlashblocksSubscription) : FlashblocksWorld × List FlashblocksEffect :=
  let sockets := setPhase world.sockets socket .opened
  let (client, effects) := FlashblocksWsClient.proceed config sockets requested ⟨[], [], []⟩
    { world.client with reconnectAttempt := 0 }
  (⟨client, sockets⟩, .onConnect :: effects)

/-- The listener of `message`, with what goes on after an answer. -/
def onMessage (config : FlashblocksWsClientConfig) (world : FlashblocksWorld) (raw : String) :
    FlashblocksWorld × List FlashblocksEffect :=
  match world.client.handleMessage config raw with
  | .error error => (world, [.handler_threw error])
  | .ok handled =>
      let calls := handled.dispatched.toList.map FlashblocksEffect.dispatched
      match handled.settled with
      | none => ({ world with client := handled.client }, calls)
      | some (pending, outcome) =>
          let (client, effects) := handled.client.settled config world.sockets pending outcome
          ({ world with client := client }, calls ++ effects)

/-- The listener of `close`. -/
def onClose (config : FlashblocksWsClientConfig) (world : FlashblocksWorld) (socket : Nat)
    (requested : List FlashblocksSubscription) : FlashblocksWorld × List FlashblocksEffect :=
  ({ client := world.client.scheduleReconnect config requested
     sockets := setPhase world.sockets socket .closed }, [.onDisconnect])

/-- The timer of a request. It is cleared with the request, so it finds none if the
request was answered. -/
def onRequestTimeout (config : FlashblocksWsClientConfig) (world : FlashblocksWorld) (id : Nat) :
    FlashblocksWorld × List FlashblocksEffect :=
  match world.client.pendingRequests.get? id with
  | none => (world, [])
  | some pending =>
      let (client, effects) := FlashblocksWsClient.settled config world.sockets
        { world.client with pendingRequests := world.client.pendingRequests.delete id } pending
        (.error (.eth_subscribe_timeout (config.subscribeTimeoutMs.getD 15000)))
      ({ world with client := client }, effects)

def onReconnect (world : FlashblocksWorld) : FlashblocksWorld × List FlashblocksEffect :=
  match world.client.reconnectTimer with
  | none => (world, [])
  | some (_, subscriptions) =>
      connect { world with client := { world.client with reconnectTimer := none } } subscriptions

/-- One event. A socket opens once, delivers messages while it is open and closes once;
anything else does not happen. -/
def step (config : FlashblocksWsClientConfig) (world : FlashblocksWorld) :
    FlashblocksEvent → FlashblocksWorld × List FlashblocksEffect
  | .start subscriptions => world.start subscriptions
  | .stop => (world.stop, [])
  | .opens socket =>
      match world.sockets[socket]? with
      | some ⟨.connecting, requested⟩ => world.onOpen config socket requested
      | _ => (world, [])
  | .message socket raw =>
      if world.phaseOf socket = some .opened then world.onMessage config raw else (world, [])
  | .closes socket =>
      match world.sockets[socket]? with
      | some ⟨.closed, _⟩ => (world, [])
      | some ⟨_, requested⟩ => world.onClose config socket requested
      | none => (world, [])
  | .error _ => (world, [])
  | .requestTimeout id => world.onRequestTimeout config id
  | .reconnect => world.onReconnect

end FlashblocksWorld

/-! ## What the sockets acknowledged -/

/-- The request and the subscription id of an acknowledging frame. -/
def acknowledgement (raw : String) : Option (Nat × JsString) :=
  match Json.parse raw with
  | none => none
  | some parsed =>
      match FlashblocksWsClient.responseId parsed, nullish (parsed.property "error"),
        parsed.property "result" with
      | some id, none, some (.string result) => some (id, result)
      | _, _, _ => none

/-- The world with the socket and the kind of every request that was sent, and what
each socket acknowledged of those sent on it. -/
structure ObservedSockets where
  world : FlashblocksWorld
  sentOn : InsertionMap Nat (Nat × FlashblocksSubscriptionKind)
  acknowledged : Nat → InsertionMap JsString FlashblocksSubscriptionKind

namespace ObservedSockets

def initial : ObservedSockets := ⟨.initial, .empty, fun _ => .empty⟩

def noteSent (sentOn : InsertionMap Nat (Nat × FlashblocksSubscriptionKind)) :
    FlashblocksEffect → InsertionMap Nat (Nat × FlashblocksSubscriptionKind)
  | .sent socket id subscription => sentOn.set id (socket, subscription.kind)
  | _ => sentOn

/-- The subscriptions that a socket has acknowledged, after a frame. -/
def noteFrame (observed : ObservedSockets) (socket : Nat) (raw : String) :
    InsertionMap JsString FlashblocksSubscriptionKind :=
  match acknowledgement raw with
  | none => observed.acknowledged socket
  | some (id, result) =>
      match observed.sentOn.get? id with
      | none => observed.acknowledged socket
      | some (sentOn, kind) =>
          if sentOn = socket then (observed.acknowledged socket).set result kind
          else observed.acknowledged socket

def noteAcknowledged (observed : ObservedSockets) :
    FlashblocksEvent → Nat → InsertionMap JsString FlashblocksSubscriptionKind
  | .message socket raw, tested =>
      if tested = socket ∧ observed.world.phaseOf socket = some .opened then
        observed.noteFrame socket raw
      else observed.acknowledged tested
  | _, tested => observed.acknowledged tested

def observe (config : FlashblocksWsClientConfig) (observed : ObservedSockets)
    (event : FlashblocksEvent) : ObservedSockets where
  world := (observed.world.step config event).1
  sentOn := (observed.world.step config event).2.foldl noteSent observed.sentOn
  acknowledged := observed.noteAcknowledged event

/-- After a run. -/
def after (config : FlashblocksWsClientConfig) (run : List FlashblocksEvent) : ObservedSockets :=
  run.foldl (observe config) initial

/-- The subscriptions acknowledged on the currently connected socket. -/
def live (observed : ObservedSockets) : InsertionMap JsString FlashblocksSubscriptionKind :=
  match observed.world.connected with
  | none => .empty
  | some socket => observed.acknowledged socket

/-- The table has as many entries as the connected socket acknowledged subscriptions. -/
def CountFollows (observed : ObservedSockets) : Prop :=
  observed.world.client.getActiveSubscriptionCount = observed.live.size

/-- What an event dispatches comes from the connected socket, under the kind that was
requested for the subscription on it. -/
def DispatchesFollow (config : FlashblocksWsClientConfig) (observed : ObservedSockets)
    (event : FlashblocksEvent) : Prop :=
  ∀ dispatch, .dispatched dispatch ∈ (observed.world.step config event).2 →
    ∃ socket raw, event = .message socket raw ∧ observed.world.connected = some socket ∧
      (observed.acknowledged socket).get? dispatch.subscriptionId = some dispatch.kind

/-- A frame answers in order: what answers a pending request comes on the connected
socket, on which the request was sent, and the connected socket acknowledges a request
that was sent on it while the request is pending. -/
def AnswersInOrder (observed : ObservedSockets) (socket : Nat) (raw : String) : Prop :=
  ∀ id result, acknowledgement raw = some (id, result) →
    (observed.world.client.pendingRequests.has id = true →
      observed.world.connected = some socket ∧
        ∃ kind, observed.sentOn.get? id = some (socket, kind)) ∧
    (observed.world.connected = some socket →
      (∃ kind, observed.sentOn.get? id = some (socket, kind)) →
        observed.world.client.pendingRequests.has id = true)

/-- A frame that reaches a callback comes on the connected socket. -/
def NotifiesInOrder (config : FlashblocksWsClientConfig) (observed : ObservedSockets)
    (socket : Nat) (raw : String) : Prop :=
  ¬ FlashblocksWsClient.Responds observed.world.client raw → ∀ id kind result callback,
    FlashblocksWsClient.Notifies observed.world.client raw id kind result →
      FlashblocksWsClient.callbackFor config kind result = .ok (some callback) →
        observed.world.connected = some socket

/-- The events that keep the table that of the connected socket: no connection is begun
and the connected socket does not close while the table has entries, and frames come in
order. -/
def Orderly (config : FlashblocksWsClientConfig) (observed : ObservedSockets) :
    FlashblocksEvent → Prop
  | .start _ => observed.world.client.subscriptions.size = 0
  | .reconnect =>
      observed.world.client.reconnectTimer.isSome = true → observed.world.client.stopped = false →
        observed.world.client.subscriptions.size = 0
  | .closes socket =>
      observed.world.connected = some socket → observed.world.client.subscriptions.size = 0
  | .message socket raw =>
      observed.world.phaseOf socket = some .opened →
        observed.AnswersInOrder socket raw ∧ observed.NotifiesInOrder config socket raw
  | _ => True

/-! ## Requests -/

/-- A sent request that is pending has the kind that it was sent with, and the numbers
of sent requests are used up. -/
structure Sound (client : FlashblocksWsClient)
    (sentOn : InsertionMap Nat (Nat × FlashblocksSubscriptionKind)) : Prop where
  kinds : ∀ id pending socket kind, client.pendingRequests.get? id = some pending →
    sentOn.get? id = some (socket, kind) → kind = pending.kind
  numbered : ∀ id sent, sentOn.get? id = some sent → id < client.requestId

/-- What `subscribeAll` does is to send requests: it leaves the table and the socket
alone, dispatches nothing and keeps the requests sound. -/
structure OnlyRequests (client : FlashblocksWsClient)
    (sentOn : InsertionMap Nat (Nat × FlashblocksSubscriptionKind))
    (progress : FlashblocksWsClient × List FlashblocksEffect) : Prop where
  ws : progress.1.ws = client.ws
  subscriptions : progress.1.subscriptions = client.subscriptions
  sound : Sound progress.1 (progress.2.foldl noteSent sentOn)
  quiet : ∀ dispatch, .dispatched dispatch ∉ progress.2

section Requests

variable {client : FlashblocksWsClient}
  {sentOn : InsertionMap Nat (Nat × FlashblocksSubscriptionKind)}

theorem Sound.addRequest (sound : Sound client sentOn) (kind : FlashblocksSubscriptionKind)
    (task : Option SubscribeTask) : Sound (client.addRequest kind task) sentOn := by
  constructor
  · intro id pending socket sentKind found sent
    rcases InsertionMap.of_get?_set found with ⟨rfl, _⟩ | earlier
    · exact absurd (sound.numbered _ _ sent) (lt_irrefl _)
    · exact sound.kinds id pending socket sentKind earlier sent
  · intro id sent found
    exact (sound.numbered id sent found).trans (Nat.lt_succ_self _)

theorem Sound.sendRequest (sound : Sound client sentOn) (kind : FlashblocksSubscriptionKind)
    (task : Option SubscribeTask) (socket : Nat) :
    Sound (client.addRequest kind task) (sentOn.set client.requestId (socket, kind)) := by
  have added := sound.addRequest kind task
  constructor
  · intro id pending other sentKind found sent
    rcases InsertionMap.of_get?_set sent with ⟨rfl, same⟩ | earlier
    · cases same
      have same := (InsertionMap.get?_set_same _ _ _).symm.trans found
      cases same
      rfl
    · exact added.kinds id pending other sentKind found earlier
  · intro id sent found
    rcases InsertionMap.of_get?_set found with ⟨rfl, _⟩ | earlier
    · exact Nat.lt_succ_self _
    · exact added.numbered id sent earlier

theorem Sound.delete (sound : Sound client sentOn) (id : Nat) :
    Sound { client with pendingRequests := client.pendingRequests.delete id } sentOn := by
  constructor
  · intro tested pending socket kind found sent
    exact sound.kinds tested pending socket kind (InsertionMap.of_get?_delete found).2 sent
  · exact sound.numbered

/-- A skipped subscription is reported and sends nothing. -/
theorem OnlyRequests.skip {progress : FlashblocksWsClient × List FlashblocksEffect}
    (requests : OnlyRequests client sentOn progress) (skipped : SkippedSubscription) :
    OnlyRequests client sentOn (progress.1, .subscribe_skipped skipped :: progress.2) where
  ws := requests.ws
  subscriptions := requests.subscriptions
  sound := requests.sound
  quiet := by simpa using requests.quiet

variable {config : FlashblocksWsClientConfig} {sockets : List FlashblocksSocket}

theorem proceed_onlyRequests (subscriptions : List FlashblocksSubscription)
    (result : FlashblocksWsStartResult) (sound : Sound client sentOn) :
    OnlyRequests client sentOn
      (FlashblocksWsClient.proceed config sockets subscriptions result client) := by
  induction subscriptions generalizing result client with
  | nil => exact ⟨rfl, rfl, sound, by simp [FlashblocksWsClient.proceed]⟩
  | cons current remaining inductionHypothesis =>
    unfold FlashblocksWsClient.proceed
    split
    next => exact ⟨rfl, rfl, sound.sendRequest _ _ _, by simp⟩
    next => exact ⟨rfl, rfl, sound.addRequest _ _, by simp⟩
    next =>
      split
      next =>
        have later := inductionHypothesis
          { result with skipped :=
              result.skipped ++ [⟨current.kind, current.role, .socket_not_open⟩] }
          (sound.addRequest current.kind none)
        have requests : OnlyRequests client sentOn _ :=
          ⟨later.ws, later.subscriptions, later.sound, later.quiet⟩
        exact requests.skip _
      next => exact ⟨rfl, rfl, sound.addRequest _ _, by simp⟩

theorem settled_onlyRequests (pending : PendingRequest)
    (outcome : Except SubscribeFailure JsString) (sound : Sound client sentOn) :
    OnlyRequests client sentOn
      (FlashblocksWsClient.settled config sockets client pending outcome) := by
  unfold FlashblocksWsClient.settled
  split
  next => exact ⟨rfl, rfl, sound, by simp⟩
  next task _ =>
    cases outcome with
    | ok result => exact proceed_onlyRequests _ _ sound
    | error reason =>
      by_cases graceful : config.gracefulSubscribe = true
      · simp only [FlashblocksWsClient.resume, graceful, if_true]
        exact (proceed_onlyRequests _ _ sound).skip _
      · simp only [FlashblocksWsClient.resume, graceful]
        exact ⟨rfl, rfl, sound, by simp⟩

end Requests

/-! ## Frames -/

section Frames

open FlashblocksWsClient (Responds Notifies callbackFor responseId)

variable {config : FlashblocksWsClientConfig} {client : FlashblocksWsClient}
  {world : FlashblocksWorld} {raw : String}

theorem acknowledgement_eq_some_iff {id : Nat} {result : JsString} :
    acknowledgement raw = some (id, result) ↔ ∃ parsed, Json.parse raw = some parsed ∧
      responseId parsed = some id ∧ nullish (parsed.property "error") = none ∧
        parsed.property "result" = some (.string result) := by
  unfold acknowledgement
  cases Json.parse raw with
  | none => simp
  | some parsed =>
    simp only [Option.some.injEq, exists_eq_left']
    split
    next found error text =>
      simp only [found, error, text, Option.some.injEq, Prod.mk.injEq, Json.string.injEq, true_and]
    next other =>
      simp only [reduceCtorEq, false_iff]
      rintro ⟨found, error, text⟩
      exact other id result found error text

/-- A frame that is no response acknowledges nothing that is pending. -/
theorem not_pending_of_not_responds (silent : ¬ Responds client raw) {id : Nat}
    {result : JsString} (acknowledged : acknowledgement raw = some (id, result)) :
    client.pendingRequests.has id = false := by
  obtain ⟨parsed, read, numbered, _⟩ := acknowledgement_eq_some_iff.mp acknowledged
  rw [InsertionMap.has_eq_false_iff]
  cases found : client.pendingRequests.get? id with
  | none => rfl
  | some pending =>
    exact absurd ⟨parsed, read, by simp [FlashblocksWsClient.pendingOf, numbered, found]⟩ silent

theorem get?_of_knownSubscription {parsed : Json} {id : JsString}
    {kind : FlashblocksSubscriptionKind}
    (known : client.knownSubscription parsed = some (id, kind)) :
    client.subscriptions.get? id = some kind := by
  unfold FlashblocksWsClient.knownSubscription at known
  split at known
  next named =>
    obtain ⟨found, held, same⟩ := Option.map_eq_some_iff.mp known
    cases same
    exact held
  next => cases known

/-- What an effect of a frame that is no response may be. -/
def ReportsOrNotifies (config : FlashblocksWsClientConfig) (client : FlashblocksWsClient)
    (raw : String) (effect : FlashblocksEffect) : Prop :=
  (∃ error, effect = .handler_threw error) ∨
    ∃ dispatch result, effect = .dispatched dispatch ∧
      Notifies client raw dispatch.subscriptionId dispatch.kind result ∧
      callbackFor config dispatch.kind result = .ok (some dispatch.callback) ∧
      client.subscriptions.get? dispatch.subscriptionId = some dispatch.kind

/-- A frame that is no response leaves the world alone. What it dispatches is a
notification of a subscription in the table. -/
theorem onMessage_of_not_responds (silent : ¬ Responds world.client raw) :
    (world.onMessage config raw).1 = world ∧
      ∀ effect ∈ (world.onMessage config raw).2,
        ReportsOrNotifies config world.client raw effect := by
  unfold FlashblocksWorld.onMessage
  cases read : Json.parse raw with
  | none => simp [FlashblocksWsClient.handleMessage, read, FlashblocksWsClient.ignored]
  | some parsed =>
    by_cases isNull : parsed = .null
    · subst isNull
      simp [FlashblocksWsClient.handleMessage, read, ReportsOrNotifies]
    have unasked : world.client.pendingOf parsed = none := by
      simpa [FlashblocksWsClient.responds_iff read] using silent
    rw [FlashblocksWsClient.handleMessage_of_parse read isNull, unasked]
    cases notification : FlashblocksWsClient.isNotification parsed with
    | false => simp [FlashblocksWsClient.ignored]
    | true =>
      simp only [if_true, FlashblocksWsClient.notify]
      cases known : world.client.knownSubscription parsed with
      | none => simp [FlashblocksWsClient.ignored]
      | some subscription =>
        obtain ⟨id, kind⟩ := subscription
        cases called : callbackFor config kind
            (FlashblocksWsClient.notificationResult parsed) with
        | error error => simp [called, bind, Except.bind, ReportsOrNotifies]
        | ok callback =>
          cases callback with
          | none => simp [called, bind, Except.bind, pure, Except.pure]
          | some callback =>
            have notifies : Notifies world.client raw id kind
                (FlashblocksWsClient.notificationResult parsed) :=
              ⟨parsed, read, notification, known, rfl⟩
            have held := get?_of_knownSubscription known
            simp only [called, bind, Except.bind, pure, Except.pure, Option.map_some,
              Option.toList_some, List.map_cons, List.map_nil, List.mem_singleton, forall_eq,
              true_and]
            exact Or.inr ⟨_, _, rfl, notifies, called, held⟩

/-- The table after a response to a request of the kind. -/
def tableAfter (client : FlashblocksWsClient) (raw : String) (kind : FlashblocksSubscriptionKind) :
    InsertionMap JsString FlashblocksSubscriptionKind :=
  match acknowledgement raw with
  | some (_, result) => client.subscriptions.set result kind
  | none => client.subscriptions

/-- The client after a response: without the request, and with the table. -/
def answered (client : FlashblocksWsClient) (raw : String) (id : Nat) (pending : PendingRequest) :
    FlashblocksWsClient :=
  { client with
    pendingRequests := client.pendingRequests.delete id
    subscriptions := tableAfter client raw pending.kind }

theorem settleRequest_eq (client : FlashblocksWsClient) {parsed : Json} {id : Nat}
    (read : Json.parse raw = some parsed) (numbered : responseId parsed = some id)
    (pending : PendingRequest) :
    ∃ outcome, client.settleRequest id pending parsed =
      ⟨answered client raw id pending, some (pending, outcome), none⟩ := by
  unfold FlashblocksWsClient.settleRequest answered tableAfter acknowledgement
  rw [read]
  simp only [numbered]
  cases failed : nullish (parsed.property "error") with
  | some error => exact ⟨_, rfl⟩
  | none =>
    dsimp only
    cases parsed.property "result" with
    | none => exact ⟨_, rfl⟩
    | some result =>
      cases result with
      | string text => exact ⟨_, rfl⟩
      | null => exact ⟨_, rfl⟩
      | bool value => exact ⟨_, rfl⟩
      | number value => exact ⟨_, rfl⟩
      | array items => exact ⟨_, rfl⟩
      | object members => exact ⟨_, rfl⟩

/-- A response deletes its request, and goes on with the task of the request. -/
theorem onMessage_of_responds (responds : Responds world.client raw) :
    ∃ id pending outcome, world.client.pendingRequests.get? id = some pending ∧
      (∀ acknowledged result, acknowledgement raw = some (acknowledged, result) →
        acknowledged = id) ∧
      world.onMessage config raw =
        (⟨(FlashblocksWsClient.settled config world.sockets
            (answered world.client raw id pending) pending outcome).1, world.sockets⟩,
          (FlashblocksWsClient.settled config world.sockets
            (answered world.client raw id pending) pending outcome).2) := by
  obtain ⟨parsed, read, asked⟩ := responds
  obtain ⟨⟨id, pending⟩, found⟩ := Option.isSome_iff_exists.mp asked
  obtain ⟨numbered, held⟩ : responseId parsed = some id ∧
      world.client.pendingRequests.get? id = some pending := by
    obtain ⟨number, isNumber, same⟩ := Option.bind_eq_some_iff.mp found
    obtain ⟨request, held, same⟩ := Option.map_eq_some_iff.mp same
    cases same
    exact ⟨isNumber, held⟩
  have notNull : parsed ≠ .null := by
    rintro rfl
    cases numbered
  obtain ⟨outcome, settles⟩ := settleRequest_eq world.client read numbered pending
  refine ⟨id, pending, outcome, held, ?_, ?_⟩
  · intro acknowledged result acknowledging
    obtain ⟨other, same, number, _⟩ := acknowledgement_eq_some_iff.mp acknowledging
    rw [read] at same
    cases same
    exact Option.some.inj (number.symm.trans numbered)
  · unfold FlashblocksWorld.onMessage
    rw [FlashblocksWsClient.handleMessage_of_parse read notNull, found]
    simp [settles]

end Frames

/-! ## The invariant -/

theorem phaseOf_setPhase (client : FlashblocksWsClient) (sockets : List FlashblocksSocket)
    (socket : Nat) (phase : SocketPhase) (tested : Nat) :
    FlashblocksWorld.phaseOf ⟨client, FlashblocksWorld.setPhase sockets socket phase⟩ tested =
      if tested = socket then ((sockets[tested]?).map (fun _ => phase))
      else (sockets[tested]?).map FlashblocksSocket.phase := by
  unfold FlashblocksWorld.phaseOf FlashblocksWorld.setPhase
  rw [List.getElem?_modify]
  by_cases same : tested = socket
  · subst same
    cases sockets[tested]? <;> simp
  · cases sockets[tested]? <;> simp [same, Ne.symm same]

/-- A socket is connecting, or not there yet. -/
def Young (world : FlashblocksWorld) (socket : Nat) : Prop :=
  world.phaseOf socket = none ∨ world.phaseOf socket = some .connecting

/-- The table is that of the connected socket, no socket that is still connecting has
acknowledged anything, and the requests are sound. -/
structure Kept (observed : ObservedSockets) : Prop where
  table : observed.world.client.subscriptions = observed.live
  unopened : ∀ socket, Young observed.world socket → observed.acknowledged socket = .empty
  sound : Sound observed.world.client observed.sentOn

theorem Kept.countFollows {observed : ObservedSockets} (kept : Kept observed) :
    observed.CountFollows :=
  congrArg InsertionMap.size kept.table

theorem eq_empty_of_size {table : InsertionMap JsString FlashblocksSubscriptionKind}
    (none_in : table.size = 0) : table = .empty :=
  InsertionMap.ext_entries (List.length_eq_zero_iff.mp none_in)

theorem kept_initial : Kept initial where
  table := rfl
  unopened := fun _ _ => rfl
  sound := ⟨fun _ _ _ _ found => (by cases found), fun _ _ found => (by cases found)⟩

section Steps

variable {config : FlashblocksWsClientConfig} {observed : ObservedSockets}

/-- The table of a client without an open socket is empty. -/
theorem live_of_not_connected (closed : observed.world.connected = none) :
    observed.live = .empty := by
  rw [live, closed]

theorem live_of_connected {socket : Nat} (opened : observed.world.connected = some socket) :
    observed.live = observed.acknowledged socket := by
  rw [live, opened]

/-- A new connection starts with an empty table. -/
theorem kept_connect (kept : Kept observed) (client : FlashblocksWsClient)
    (ws : client.ws = observed.world.client.ws)
    (subscriptions : client.subscriptions = observed.world.client.subscriptions)
    (sound : Sound client observed.sentOn)
    (begins : client.stopped = false → observed.world.client.subscriptions.size = 0)
    (requested : List FlashblocksSubscription) :
    Kept ⟨(FlashblocksWorld.connect ⟨client, observed.world.sockets⟩ requested).1,
      (FlashblocksWorld.connect ⟨client, observed.world.sockets⟩ requested).2.foldl noteSent
        observed.sentOn, observed.acknowledged⟩ := by
  unfold FlashblocksWorld.connect
  split
  next =>
    refine ⟨?_, kept.unopened, sound⟩
    have table := kept.table
    simp only [live, FlashblocksWorld.connected, FlashblocksWorld.phaseOf, ws, subscriptions]
      at table ⊢
    exact table
  next running =>
    have noTable := eq_empty_of_size (begins (by simpa using running))
    constructor
    · rw [live_of_not_connected]
      · exact subscriptions.trans noTable
      · simp [FlashblocksWorld.connected, FlashblocksWorld.phaseOf]
    · intro socket young
      apply kept.unopened
      simp only [Young, FlashblocksWorld.phaseOf] at young ⊢
      by_cases old : socket < observed.world.sockets.length
      · rwa [List.getElem?_append_left old] at young
      · left
        simp [List.getElem?_eq_none (not_lt.mp old)]
    · exact ⟨sound.kinds, sound.numbered⟩

/-- No socket becomes young by leaving its phase. -/
theorem young_of_setPhase {world : FlashblocksWorld} {client : FlashblocksWsClient}
    {socket tested : Nat} {phase : SocketPhase} (later : phase ≠ .connecting)
    (young : Young ⟨client, FlashblocksWorld.setPhase world.sockets socket phase⟩ tested) :
    Young world tested := by
  unfold Young at young ⊢
  rw [phaseOf_setPhase] at young
  unfold FlashblocksWorld.phaseOf
  by_cases same : tested = socket
  · simp only [same, if_true, Option.map_eq_none_iff, Option.map_eq_some_iff] at young ⊢
    rcases young with absent | ⟨_, _, isPhase⟩
    · exact Or.inl absent
    · exact absurd isPhase later
  · simpa only [same, if_false] using young

theorem kept_stop (kept : Kept observed) :
    Kept ⟨observed.world.stop, observed.sentOn, observed.acknowledged⟩ := by
  constructor
  · exact (live_of_not_connected rfl).symm
  · intro socket young
    apply kept.unopened
    unfold FlashblocksWorld.stop FlashblocksWorld.closeSocket at young
    split at young
    · exact young
    · split at young
      · exact young
      · exact young_of_setPhase (by decide) young
  · exact ⟨kept.sound.kinds, kept.sound.numbered⟩

theorem connected_of_ws {world : FlashblocksWorld} {socket : Nat}
    (ws : world.client.ws = some socket) :
    world.connected = if world.phaseOf socket = some .opened then some socket else none := by
  rw [FlashblocksWorld.connected, ws, Option.filter_some]
  simp

theorem connected_of_no_ws {world : FlashblocksWorld} (ws : world.client.ws = none) :
    world.connected = none := by
  rw [FlashblocksWorld.connected, ws, Option.filter_none]

/-- A client that only sends requests keeps the table of its sockets. -/
theorem Kept.requests (kept : Kept observed) {client : FlashblocksWsClient}
    {progress : FlashblocksWsClient × List FlashblocksEffect}
    (requests : OnlyRequests client observed.sentOn progress)
    (ws : client.ws = observed.world.client.ws)
    (subscriptions : client.subscriptions = observed.world.client.subscriptions) :
    Kept ⟨⟨progress.1, observed.world.sockets⟩, progress.2.foldl noteSent observed.sentOn,
      observed.acknowledged⟩ := by
  refine ⟨?_, kept.unopened, requests.sound⟩
  have table := kept.table
  have sends := requests.ws.trans ws
  simp only [live, FlashblocksWorld.connected, FlashblocksWorld.phaseOf] at table ⊢
  rw [requests.subscriptions, subscriptions, sends]
  exact table

/-- Only the phase of the client's own socket decides whether one is connected. -/
theorem live_of_other (client : FlashblocksWsClient) {socket : Nat} (phase : SocketPhase)
    (ws : client.ws = observed.world.client.ws)
    (other : observed.world.client.ws ≠ some socket)
    (sentOn : InsertionMap Nat (Nat × FlashblocksSubscriptionKind)) :
    live ⟨⟨client, FlashblocksWorld.setPhase observed.world.sockets socket phase⟩, sentOn,
      observed.acknowledged⟩ = observed.live := by
  have same : FlashblocksWorld.connected
      ⟨client, FlashblocksWorld.setPhase observed.world.sockets socket phase⟩ =
        observed.world.connected := by
    cases sends : observed.world.client.ws with
    | none => rw [connected_of_no_ws sends, connected_of_no_ws (ws.trans sends)]
    | some mine =>
      have different : mine ≠ socket := fun same => other (by rw [sends, same])
      rw [connected_of_ws sends, connected_of_ws (ws.trans sends), phaseOf_setPhase,
        if_neg different]
      rfl
  unfold live
  rw [same]

theorem live_of_ws (client : FlashblocksWsClient) {socket : Nat} (phase : SocketPhase)
    (ws : client.ws = some socket) (sentOn : InsertionMap Nat (Nat × FlashblocksSubscriptionKind))
    (bare : phase = .opened → observed.acknowledged socket = .empty) :
    live ⟨⟨client, FlashblocksWorld.setPhase observed.world.sockets socket phase⟩, sentOn,
      observed.acknowledged⟩ = .empty := by
  unfold live
  rw [connected_of_ws ws, phaseOf_setPhase, if_pos rfl]
  by_cases isOpen : phase = .opened
  · split
    next => rfl
    next found connected =>
      split at connected
      · cases connected
        exact bare isOpen
      · cases connected
  · rw [if_neg]
    intro opened
    obtain ⟨_, _, same⟩ := Option.map_eq_some_iff.mp opened
    exact isOpen same

/-- A socket opens with nothing acknowledged. -/
theorem kept_onOpen (kept : Kept observed) {socket : Nat}
    (connecting : observed.world.phaseOf socket = some .connecting)
    (requested : List FlashblocksSubscription) :
    Kept ⟨(observed.world.onOpen config socket requested).1,
      (observed.world.onOpen config socket requested).2.foldl noteSent observed.sentOn,
      observed.acknowledged⟩ := by
  have sound : Sound { observed.world.client with reconnectAttempt := 0 } observed.sentOn :=
    ⟨kept.sound.kinds, kept.sound.numbered⟩
  have requests : OnlyRequests _ observed.sentOn (FlashblocksWsClient.proceed config
      (FlashblocksWorld.setPhase observed.world.sockets socket .opened) requested ⟨[], [], []⟩
        { observed.world.client with reconnectAttempt := 0 }) :=
    proceed_onlyRequests requested ⟨[], [], []⟩ sound
  have bare : observed.acknowledged socket = .empty := kept.unopened socket (Or.inr connecting)
  constructor
  · refine (requests.subscriptions.trans kept.table).trans ?_
    by_cases mine : observed.world.client.ws = some socket
    · have closed : observed.world.connected = none := by
        rw [connected_of_ws mine, connecting, if_neg (by decide)]
      rw [live_of_not_connected closed]
      exact (live_of_ws _ .opened (requests.ws.trans mine) _ (fun _ => bare)).symm
    · exact (live_of_other _ .opened requests.ws mine _).symm
  · intro tested young
    exact kept.unopened tested (young_of_setPhase (by decide) young)
  · exact requests.sound

/-- The connected socket closes with an empty table. -/
theorem kept_onClose (kept : Kept observed) {socket : Nat}
    (lost : observed.world.connected = some socket →
      observed.world.client.subscriptions.size = 0)
    (requested : List FlashblocksSubscription) :
    Kept ⟨(observed.world.onClose config socket requested).1, observed.sentOn,
      observed.acknowledged⟩ := by
  have frame : (observed.world.client.scheduleReconnect config requested).ws =
        observed.world.client.ws ∧
      (observed.world.client.scheduleReconnect config requested).subscriptions =
        observed.world.client.subscriptions ∧
      Sound (observed.world.client.scheduleReconnect config requested) observed.sentOn := by
    unfold FlashblocksWsClient.scheduleReconnect
    split
    · exact ⟨rfl, rfl, kept.sound⟩
    · exact ⟨rfl, rfl, kept.sound.kinds, kept.sound.numbered⟩
  obtain ⟨ws, subscriptions, sound⟩ := frame
  constructor
  · refine subscriptions.trans ?_
    by_cases mine : observed.world.client.ws = some socket
    · have noTable : observed.world.client.subscriptions = .empty := by
        by_cases opened : observed.world.connected = some socket
        · exact eq_empty_of_size (lost opened)
        · rw [connected_of_ws mine] at opened
          rw [kept.table, live_of_not_connected]
          rw [connected_of_ws mine]
          exact if_neg (fun phase => opened (if_pos phase))
      rw [noTable]
      exact (live_of_ws _ .closed (ws.trans mine) _ (fun opened => by cases opened)).symm
    · exact kept.table.trans (live_of_other _ .closed ws mine _).symm
  · intro tested young
    exact kept.unopened tested (young_of_setPhase (by decide) young)
  · exact sound

/-- A request that is given up changes nothing in the table. -/
theorem kept_onRequestTimeout (kept : Kept observed) (id : Nat) :
    Kept ⟨(observed.world.onRequestTimeout config id).1,
      (observed.world.onRequestTimeout config id).2.foldl noteSent observed.sentOn,
      observed.acknowledged⟩ := by
  unfold FlashblocksWorld.onRequestTimeout
  split
  next => exact ⟨kept.table, kept.unopened, kept.sound⟩
  next pending _ =>
    exact kept.requests (settled_onlyRequests pending _ (kept.sound.delete id)) rfl rfl

theorem noteSent_of_reports {client : FlashblocksWsClient} {raw : String}
    {effects : List FlashblocksEffect}
    (reports : ∀ effect ∈ effects, ReportsOrNotifies config client raw effect)
    (sentOn : InsertionMap Nat (Nat × FlashblocksSubscriptionKind)) :
    effects.foldl noteSent sentOn = sentOn := by
  induction effects with
  | nil => rfl
  | cons effect rest inductionHypothesis =>
    have later := inductionHypothesis (fun tested member =>
      reports tested (List.mem_cons_of_mem effect member))
    rcases reports effect List.mem_cons_self with ⟨error, rfl⟩ | ⟨dispatch, result, rfl, _⟩
    · exact later
    · exact later

/-- A frame that the client does not take for an answer acknowledges nothing on the
connected socket. -/
theorem noteFrame_of_not_responds {socket : Nat} {raw : String}
    (inOrder : observed.AnswersInOrder socket raw)
    (opened : observed.world.connected = some socket)
    (silent : ¬ FlashblocksWsClient.Responds observed.world.client raw) :
    observed.noteFrame socket raw = observed.acknowledged socket := by
  unfold noteFrame
  cases acknowledging : acknowledgement raw with
  | none => rfl
  | some answer =>
    obtain ⟨id, result⟩ := answer
    dsimp only
    split
    next => rfl
    next sentOn kind sent =>
      split
      next here =>
        subst here
        have pending := (inOrder id result acknowledging).2 opened ⟨kind, sent⟩
        rw [not_pending_of_not_responds silent acknowledging] at pending
        cases pending
      next => rfl

/-- The subscriptions of the connected socket after one of its frames. -/
theorem live_noteAcknowledged {socket : Nat} {raw : String} (world : FlashblocksWorld)
    (sentOn : InsertionMap Nat (Nat × FlashblocksSubscriptionKind))
    (connected : world.connected = observed.world.connected)
    (opened : observed.world.phaseOf socket = some .opened) :
    live ⟨world, sentOn, observed.noteAcknowledged (.message socket raw)⟩ =
      if observed.world.connected = some socket then observed.noteFrame socket raw
      else observed.live := by
  unfold live
  rw [connected]
  cases observed.world.connected with
  | none => rfl
  | some mine =>
    simp only [noteAcknowledged, opened, and_true, Option.some.injEq]

theorem kept_silent (kept : Kept observed) {socket : Nat} {raw : String}
    (opened : observed.world.phaseOf socket = some .opened)
    (inOrder : observed.AnswersInOrder socket raw)
    (silent : ¬ FlashblocksWsClient.Responds observed.world.client raw) :
    observed.world.client.subscriptions =
      live ⟨observed.world, observed.sentOn, observed.noteAcknowledged (.message socket raw)⟩ := by
  rw [live_noteAcknowledged _ _ rfl opened]
  split
  next connected =>
    rw [noteFrame_of_not_responds inOrder connected silent, kept.table,
      live_of_connected connected]
  next => exact kept.table

/-- An answer in order changes the table as it changes what its socket acknowledged. -/
theorem tableAfter_eq (kept : Kept observed) {socket id : Nat} {raw : String}
    {pending : PendingRequest} (opened : observed.world.phaseOf socket = some .opened)
    (inOrder : observed.AnswersInOrder socket raw)
    (found : observed.world.client.pendingRequests.get? id = some pending)
    (own : ∀ acknowledged result, acknowledgement raw = some (acknowledged, result) →
      acknowledged = id) {world : FlashblocksWorld}
    (connected : world.connected = observed.world.connected)
    (sentOn : InsertionMap Nat (Nat × FlashblocksSubscriptionKind)) :
    tableAfter observed.world.client raw pending.kind =
      live ⟨world, sentOn, observed.noteAcknowledged (.message socket raw)⟩ := by
  rw [live_noteAcknowledged _ _ connected opened]
  unfold tableAfter noteFrame
  cases acknowledging : acknowledgement raw with
  | none =>
    dsimp only
    split
    next here => exact kept.table.trans (live_of_connected here)
    next => exact kept.table
  | some answer =>
    obtain ⟨answered, result⟩ := answer
    cases own answered result acknowledging
    have isPending : observed.world.client.pendingRequests.has id = true := by
      simp [InsertionMap.has, found]
    obtain ⟨here, kind, sent⟩ := (inOrder id result acknowledging).1 isPending
    have sameKind := kept.sound.kinds id pending socket kind found sent
    have table := kept.table.trans (live_of_connected here)
    simp only [here, sent, if_true, sameKind, table]

/-- Going on after an answer only sends requests. -/
theorem answered_onlyRequests (sound : Sound observed.world.client observed.sentOn)
    (raw : String) (id : Nat) (pending : PendingRequest)
    (outcome : Except SubscribeFailure JsString) :
    OnlyRequests (answered observed.world.client raw id pending) observed.sentOn
      (FlashblocksWsClient.settled config observed.world.sockets
        (answered observed.world.client raw id pending) pending outcome) :=
  settled_onlyRequests pending outcome ⟨(sound.delete id).kinds, (sound.delete id).numbered⟩

theorem kept_message (kept : Kept observed) {socket : Nat} {raw : String}
    (opened : observed.world.phaseOf socket = some .opened)
    (inOrder : observed.AnswersInOrder socket raw) :
    Kept ⟨(observed.world.onMessage config raw).1,
      (observed.world.onMessage config raw).2.foldl noteSent observed.sentOn,
      observed.noteAcknowledged (.message socket raw)⟩ := by
  have unopened : ∀ tested, Young observed.world tested →
      observed.noteAcknowledged (.message socket raw) tested = .empty := by
    intro tested young
    have other : tested ≠ socket := by
      rintro rfl
      rcases young with absent | connecting
      · rw [opened] at absent
        cases absent
      · rw [opened] at connecting
        cases connecting
    simp only [noteAcknowledged, other, false_and, if_false]
    exact kept.unopened tested young
  by_cases responds : FlashblocksWsClient.Responds observed.world.client raw
  · obtain ⟨id, pending, outcome, found, own, result⟩ :=
      onMessage_of_responds responds
    have requests := @answered_onlyRequests config observed kept.sound raw id pending outcome
    rw [result]
    refine ⟨?_, unopened, requests.sound⟩
    apply requests.subscriptions.trans
    apply tableAfter_eq kept opened inOrder found own
    simp only [FlashblocksWorld.connected, FlashblocksWorld.phaseOf, requests.ws]
    rfl
  · obtain ⟨same, reports⟩ := onMessage_of_not_responds responds
    rw [same, noteSent_of_reports reports]
    exact ⟨kept_silent kept opened inOrder responds, unopened, kept.sound⟩

/-- An orderly event keeps the table that of the connected socket. -/
theorem kept_observe (kept : Kept observed) {event : FlashblocksEvent}
    (orderly : observed.Orderly config event) : Kept (observed.observe config event) := by
  cases event with
  | start subscriptions =>
    exact kept_connect kept { observed.world.client with stopped := false } rfl rfl
      ⟨kept.sound.kinds, kept.sound.numbered⟩ (fun _ => orderly) subscriptions
  | stop => exact kept_stop kept
  | opens socket =>
    unfold observe FlashblocksWorld.step
    dsimp only
    split
    next requested found =>
      exact kept_onOpen kept (by simp [FlashblocksWorld.phaseOf, found]) requested
    next => exact ⟨kept.table, kept.unopened, kept.sound⟩
  | message socket raw =>
    by_cases opened : observed.world.phaseOf socket = some .opened
    · simp only [observe, FlashblocksWorld.step, opened, if_true]
      exact kept_message kept opened (orderly opened).1
    · have nothing : observed.noteAcknowledged (.message socket raw) = observed.acknowledged := by
        funext tested
        simp [noteAcknowledged, opened]
      simp only [observe, FlashblocksWorld.step, opened, if_false, nothing]
      exact ⟨kept.table, kept.unopened, kept.sound⟩
  | closes socket =>
    unfold observe FlashblocksWorld.step
    dsimp only
    split
    next => exact ⟨kept.table, kept.unopened, kept.sound⟩
    next phase requested _ _ => exact kept_onClose kept orderly requested
    next => exact ⟨kept.table, kept.unopened, kept.sound⟩
  | error socket => exact ⟨kept.table, kept.unopened, kept.sound⟩
  | requestTimeout id => exact kept_onRequestTimeout kept id
  | reconnect =>
    unfold observe FlashblocksWorld.step FlashblocksWorld.onReconnect
    dsimp only
    cases timer : observed.world.client.reconnectTimer with
    | none => exact ⟨kept.table, kept.unopened, kept.sound⟩
    | some entry =>
      exact kept_connect kept { observed.world.client with reconnectTimer := none } rfl rfl
        ⟨kept.sound.kinds, kept.sound.numbered⟩
        (fun running => orderly (by simp [timer]) running) entry.2

theorem connect_quiet (world : FlashblocksWorld) (requested : List FlashblocksSubscription)
    (dispatch : FlashblocksDispatch) : .dispatched dispatch ∉ (world.connect requested).2 := by
  unfold FlashblocksWorld.connect
  split
  · simp
  · simp

theorem onOpen_quiet (sound : Sound observed.world.client observed.sentOn) (socket : Nat)
    (requested : List FlashblocksSubscription) (dispatch : FlashblocksDispatch) :
    .dispatched dispatch ∉ (observed.world.onOpen config socket requested).2 := by
  have requests : OnlyRequests _ observed.sentOn (FlashblocksWsClient.proceed config
      (FlashblocksWorld.setPhase observed.world.sockets socket .opened) requested ⟨[], [], []⟩
        { observed.world.client with reconnectAttempt := 0 }) :=
    proceed_onlyRequests requested ⟨[], [], []⟩ ⟨sound.kinds, sound.numbered⟩
  simpa [FlashblocksWorld.onOpen] using requests.quiet dispatch

theorem onRequestTimeout_quiet (sound : Sound observed.world.client observed.sentOn) (id : Nat)
    (dispatch : FlashblocksDispatch) :
    .dispatched dispatch ∉ (observed.world.onRequestTimeout config id).2 := by
  unfold FlashblocksWorld.onRequestTimeout
  split
  · simp
  · exact (settled_onlyRequests _ _ (sound.delete id)).quiet dispatch

/-- No event but a frame dispatches anything. -/
theorem quiet_of_no_message {event : FlashblocksEvent}
    (sound : Sound observed.world.client observed.sentOn)
    (noFrame : ∀ socket raw, event ≠ .message socket raw) (dispatch : FlashblocksDispatch) :
    .dispatched dispatch ∉ (observed.world.step config event).2 := by
  cases event with
  | start subscriptions => exact connect_quiet _ subscriptions dispatch
  | stop => simp [FlashblocksWorld.step]
  | opens socket =>
    unfold FlashblocksWorld.step
    dsimp only
    split
    next requested _ => exact onOpen_quiet sound socket requested dispatch
    next => simp
  | message socket raw => exact absurd rfl (noFrame socket raw)
  | closes socket =>
    unfold FlashblocksWorld.step
    dsimp only
    split
    · simp
    · simp [FlashblocksWorld.onClose]
    · simp
  | error socket => simp [FlashblocksWorld.step]
  | requestTimeout id => exact onRequestTimeout_quiet sound id dispatch
  | reconnect =>
    unfold FlashblocksWorld.step FlashblocksWorld.onReconnect
    dsimp only
    split
    · simp
    · exact connect_quiet _ _ dispatch

/-- What a frame dispatches was acknowledged under its kind on the connected socket, where
that is the socket of every notification that the client reacts to. -/
theorem dispatched_by_message (kept : Kept observed) {socket : Nat} {raw : String}
    (fromConnected : observed.NotifiesInOrder config socket raw)
    {dispatch : FlashblocksDispatch}
    (dispatched : .dispatched dispatch ∈ (observed.world.onMessage config raw).2) :
    observed.world.connected = some socket ∧
      (observed.acknowledged socket).get? dispatch.subscriptionId = some dispatch.kind := by
  by_cases responds : FlashblocksWsClient.Responds observed.world.client raw
  · obtain ⟨id, pending, outcome, _, _, result⟩ := onMessage_of_responds responds
    rw [result] at dispatched
    have requests := @answered_onlyRequests config observed kept.sound raw id pending outcome
    exact absurd dispatched (requests.quiet dispatch)
  · have reports := (onMessage_of_not_responds responds).2 _ dispatched
    rcases reports with ⟨error, same⟩ | ⟨made, result, same, notifies, called, held⟩
    · cases same
    · cases same
      have connected := fromConnected responds _ _ _ _ notifies called
      refine ⟨connected, ?_⟩
      rw [← live_of_connected connected, ← kept.table]
      exact held

/-- What an orderly event dispatches was acknowledged under its kind on the connected
socket, from which it comes. -/
theorem dispatchesFollow_of_orderly (kept : Kept observed) {event : FlashblocksEvent}
    (orderly : observed.Orderly config event) : observed.DispatchesFollow config event := by
  intro dispatch dispatched
  by_cases frame : ∃ socket raw, event = .message socket raw
  · obtain ⟨socket, raw, rfl⟩ := frame
    by_cases opened : observed.world.phaseOf socket = some .opened
    · simp only [FlashblocksWorld.step, opened, if_true] at dispatched
      exact ⟨socket, raw, rfl, dispatched_by_message kept (orderly opened).2 dispatched⟩
    · simp [FlashblocksWorld.step, opened] at dispatched
  · have noFrame : ∀ socket raw, event ≠ .message socket raw :=
      fun socket raw same => frame ⟨socket, raw, same⟩
    exact absurd dispatched (quiet_of_no_message kept.sound noFrame dispatch)

end Steps

theorem after_append_singleton (config : FlashblocksWsClientConfig)
    (past : List FlashblocksEvent) (event : FlashblocksEvent) :
    after config (past ++ [event]) = (after config past).observe config event := by
  simp [after]

/-- In every run whose events are orderly, the table counts the subscriptions that the
connected socket acknowledged, in every state, and what is dispatched comes from that
socket under the kind that was requested on it. -/
theorem table_follows_of_orderly (config : FlashblocksWsClientConfig)
    (run : List FlashblocksEvent)
    (orderly : Prefixes.EachStep (fun past => (after config past).Orderly config) run) :
    Prefixes.Always (fun past => (after config past).CountFollows) run ∧
      Prefixes.EachStep (fun past => (after config past).DispatchesFollow config) run := by
  have keeps : ∀ past, past <+: run → Kept (after config past) := by
    intro past initial
    have each : Prefixes.EachStep (fun past => (after config past).Orderly config) past :=
      fun earlier event shorter => orderly earlier event (shorter.trans initial)
    refine @Prefixes.EachStep.invariant _ (fun past => Kept (after config past)) _ _ each
      kept_initial ?_
    intro earlier event kept safely
    rw [after_append_singleton]
    exact kept_observe kept safely
  constructor
  · exact fun past initial => (keeps past initial).countFollows
  · intro past event initial
    have shorter : past <+: run := (List.prefix_append past [event]).trans initial
    exact dispatchesFollow_of_orderly (keeps past shorter) (orderly past event initial)

section Example

/-- A configuration that skips what cannot be subscribed. -/
def gracefully : FlashblocksWsClientConfig := ⟨true, true, none, true, none⟩

/-- The frame that acknowledges a request as a subscription. -/
def acknowledging (id subscription : String) : String :=
  "\x7b\"jsonrpc\":\"2.0\",\"id\":" ++ id ++ ",\"result\":\"" ++ subscription ++ "\"\x7d"

/-- The first socket opens. -/
def openedRun : List FlashblocksEvent := [.start [⟨.newHeads, none, some "heads"⟩], .opens 0]

/-- The heads are subscribed on it. -/
def subscribedRun : List FlashblocksEvent :=
  openedRun ++ [.message 0 (acknowledging "1" "0xa")]

theorem openedRun_orderly :
    Prefixes.EachStep (fun past => (after gracefully past).Orderly gracefully) openedRun := by
  change Prefixes.EachStep _ (([] ++ [FlashblocksEvent.start _]) ++ [FlashblocksEvent.opens 0])
  rw [Prefixes.eachStep_snoc, Prefixes.eachStep_snoc]
  refine ⟨⟨?_, rfl⟩, trivial⟩
  intro past event initial
  simp at initial

theorem subscribedRun_orderly :
    Prefixes.EachStep (fun past => (after gracefully past).Orderly gracefully) subscribedRun := by
  refine (Prefixes.eachStep_snoc _ openedRun _).mpr ⟨openedRun_orderly, ?_⟩
  intro opened
  constructor
  · intro id result acknowledged
    have one : acknowledgement (acknowledging "1" "0xa") = some (1, jsString "0xa") := by
      decide +kernel
    rw [one] at acknowledged
    cases acknowledged
    exact ⟨fun _ => ⟨by decide +kernel, .newHeads, by decide +kernel⟩,
      fun _ _ => by decide +kernel⟩
  · intro _ id kind result callback _ _
    decide +kernel

theorem table_follows_subscribed :
    Prefixes.Always (fun past => (after gracefully past).CountFollows) subscribedRun :=
  (table_follows_of_orderly gracefully subscribedRun subscribedRun_orderly).1

theorem closed_socket_counted :
    ¬ (after gracefully (subscribedRun ++ [.closes 0])).CountFollows ∧
      (after gracefully (subscribedRun ++ [.closes 0])).world.connected = none ∧
      (after gracefully (subscribedRun ++ [.closes 0, .reconnect, .opens 1,
        .message 1 (acknowledging "2" "0xb")])).world.client.getActiveSubscriptionCount = 2 ∧
      (after gracefully (subscribedRun ++ [.closes 0, .reconnect, .opens 1,
        .message 1 (acknowledging "2" "0xb")])).live.size = 1 := by
  refine ⟨?_, ?_, ?_, ?_⟩
  · unfold CountFollows
    decide +kernel
  · decide +kernel
  · decide +kernel
  · decide +kernel

end Example

end ObservedSockets

end LiquidationBot
