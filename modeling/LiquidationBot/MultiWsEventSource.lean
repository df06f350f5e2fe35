import LiquidationBot.Library.InsertionMap
import LiquidationBot.Library.Prefixes
import Mathlib.Data.List.Count
import Mathlib.Data.List.Perm.Basic
import Mathlib.Data.List.Sort
import Mathlib.Data.Rat.Defs
import Mathlib.Algebra.Order.Ring.Rat

/-!
# The event source over several websockets

The source subscribes to the same logs at up to three providers. A provider that
errs or falls silent is given up for another one after a delay, and every half
minute the provider that scores best becomes the primary, whose heads are
forwarded.

Subscribing a provider stops its earlier subscriptions and starts a heartbeat
timer. Nothing ever stops a heartbeat timer, and a provider that was given up is
not subscribed again, so the topology lasts exactly until the first provider is
subscribed anew. Delays are left out, and so is the stop of the whole source: a
timer comes due at any point.
-/

namespace LiquidationBot

namespace MultiWsEventSource

inductive ProviderName where
  | primary
  | secondary
  | tertiary
deriving DecidableEq

/-- An endpoint with its url. -/
structure Endpoint where
  name : ProviderName
  wsUrl : String
deriving DecidableEq

/-- `trackedEvents`. -/
inductive TrackedEventName where
  | ReserveDataUpdated
  | Borrow
  | Supply
  | Repay
  | Withdraw
  | LiquidationCall
deriving DecidableEq

def trackedEvents : List TrackedEventName :=
  [.ReserveDataUpdated, .Borrow, .Supply, .Repay, .Withdraw, .LiquidationCall]

/-- What a subscription watches. Heads are forwarded to `onBlock`. -/
inductive WatchKind where
  | logs (event : TrackedEventName)
  | flashblocks
  | heads
deriving DecidableEq

/-- A live subscription; its number stands for its stop function. -/
structure Subscription where
  number : Nat
  endpoint : Endpoint
  kind : WatchKind
deriving DecidableEq

/-- `ProviderState`, by what the promotion reads of it. -/
structure ProviderState where
  name : ProviderName
  score : ℚ
  eventCount : Nat
  lastFlashblockLeadMs : Int
deriving DecidableEq

/-- `MultiWsEventSourceConfig`, with the chain's detection entry and `hostFromUrl`. -/
structure MultiWsEventSourceConfig where
  wsPrimary : Option String
  wsSecondary : Option String
  wsTertiary : Option String
  flashblocksEnabled : Bool
  onBlock : Bool
  hostFromUrl : String → String
  heartbeatTimeoutMs : Int := 30000

/-- `wsEndpoints`. -/
def MultiWsEventSourceConfig.wsEndpoints (config : MultiWsEventSourceConfig) : List Endpoint :=
  [config.wsPrimary.map (Endpoint.mk .primary), config.wsSecondary.map (Endpoint.mk .secondary),
    config.wsTertiary.map (Endpoint.mk .tertiary)].filterMap id

end MultiWsEventSource

/-- `MultiWsEventSource`, with the subscriptions and timers that are live. -/
structure MultiWsEventSource where
  endpointUrls : List MultiWsEventSource.Endpoint
  providerStates : InsertionMap MultiWsEventSource.ProviderName MultiWsEventSource.ProviderState
  heartbeatByProvider : InsertionMap MultiWsEventSource.ProviderName Int
  primaryProviderName : MultiWsEventSource.ProviderName
  started : Bool
  nextNumber : Nat
  live : List MultiWsEventSource.Subscription
  stopFns : List Nat
  providerStopFns : InsertionMap MultiWsEventSource.ProviderName (List Nat)
  heartbeatTimers : List MultiWsEventSource.Endpoint
  pendingReconnects : List MultiWsEventSource.Endpoint

namespace MultiWsEventSource

/-- The constructor. -/
def create : MultiWsEventSource where
  endpointUrls := []
  providerStates := .empty
  heartbeatByProvider := .empty
  primaryProviderName := .primary
  started := false
  nextNumber := 0
  live := []
  stopFns := []
  providerStopFns := .empty
  heartbeatTimers := []
  pendingReconnects := []

def stopProviderSubscriptions (source : MultiWsEventSource) (provider : ProviderName) :
    MultiWsEventSource :=
  let providerStops := (source.providerStopFns.get? provider).getD []
  { source with
    live := source.live.filter (fun subscription => subscription.number ∉ providerStops)
    providerStopFns := source.providerStopFns.delete provider
    stopFns := source.stopFns.filter (· ∉ providerStops) }

/-- Start one subscription and keep its stop function in both registries. -/
def watch (endpoint : Endpoint) (source : MultiWsEventSource) (kind : WatchKind) :
    MultiWsEventSource :=
  { source with
    nextNumber := source.nextNumber + 1
    live := source.live ++ [⟨source.nextNumber, endpoint, kind⟩]
    stopFns := source.stopFns ++ [source.nextNumber]
    providerStopFns := source.providerStopFns.set endpoint.name
      ((source.providerStopFns.get? endpoint.name).getD [] ++ [source.nextNumber]) }

/-- What a provider is subscribed to. -/
def kinds (config : MultiWsEventSourceConfig) (isPrimary : Bool) : List WatchKind :=
  trackedEvents.map .logs ++ (if config.flashblocksEnabled then [.flashblocks] else []) ++
    (if isPrimary && config.onBlock then [.heads] else [])

/-- `subscribeProvider`. -/
def subscribeProvider (config : MultiWsEventSourceConfig) (source : MultiWsEventSource)
    (endpoint : Endpoint) (isPrimary : Bool) : MultiWsEventSource :=
  let subscribed := (kinds config isPrimary).foldl (watch endpoint)
    (source.stopProviderSubscriptions endpoint.name)
  { subscribed with heartbeatTimers := subscribed.heartbeatTimers ++ [endpoint] }

/-- The turn of `start` for one endpoint. -/
def startEndpoint (config : MultiWsEventSourceConfig) (source : MultiWsEventSource)
    (endpoint : Endpoint) : MultiWsEventSource :=
  let seeded := { source with
    providerStates := source.providerStates.set endpoint.name ⟨endpoint.name, 0, 0, 0⟩ }
  seeded.subscribeProvider config endpoint (decide (endpoint.name = seeded.primaryProviderName))

/-- `start`, which throws without an endpoint. -/
def start (config : MultiWsEventSourceConfig) (source : MultiWsEventSource) : MultiWsEventSource :=
  let endpoints := config.wsEndpoints
  let listed := { source with endpointUrls := endpoints }
  if endpoints.isEmpty then listed
  else endpoints.foldl (startEndpoint config) { listed with started := true }

/-- The lead of a provider's flashblocks, where there is one. -/
def leadOf (state : ProviderState) : Int :=
  if 0 < state.lastFlashblockLeadMs then state.lastFlashblockLeadMs else 9999

/-- The sort of `promoteBestProvider` leaves the left one in front. -/
def ranksBefore (left right : ProviderState) : Prop :=
  if left.score ≠ right.score then right.score < left.score
  else if leadOf left ≠ leadOf right then leadOf left < leadOf right
  else right.eventCount ≤ left.eventCount

instance : DecidableRel ranksBefore := fun left right => by
  unfold ranksBefore
  infer_instance

/-- The provider that ranks first. -/
def bestProvider (source : MultiWsEventSource) : Option ProviderState :=
  (source.providerStates.values.insertionSort ranksBefore).head?

/-- The provider that a promotion would make the primary. -/
def promoted (source : MultiWsEventSource) : Option ProviderName :=
  if source.providerStates.size ≤ 1 ∨ source.started = false then none
  else match source.bestProvider with
    | none => none
    | some best => if best.name = source.primaryProviderName then none else some best.name

/-- `promoteBestProvider`. -/
def promoteBestProvider (config : MultiWsEventSourceConfig) (source : MultiWsEventSource) :
    MultiWsEventSource :=
  match source.promoted with
  | none => source
  | some best =>
      source.endpointUrls.foldl (fun source endpoint =>
        (source.stopProviderSubscriptions endpoint.name).subscribeProvider config endpoint
          (decide (endpoint.name = best)))
        { source with primaryProviderName := best }

/-- `pickAlternateEndpoint`. -/
def pickAlternateEndpoint (config : MultiWsEventSourceConfig) (source : MultiWsEventSource)
    (failed : Endpoint) : Endpoint :=
  let candidates := source.endpointUrls.filter (fun entry => entry.wsUrl ≠ failed.wsUrl)
  match candidates with
  | [] => failed
  | first :: _ =>
      (candidates.find? (fun entry =>
        config.hostFromUrl entry.wsUrl ≠ config.hostFromUrl failed.wsUrl)).getD first

/-- `scheduleReconnect`. -/
def scheduleReconnect (source : MultiWsEventSource) (endpoint : Endpoint) : MultiWsEventSource :=
  { source with pendingReconnects := source.pendingReconnects ++ [endpoint] }

/-- What a reconnect timer does. -/
def reconnect (config : MultiWsEventSourceConfig) (source : MultiWsEventSource)
    (failed : Endpoint) : MultiWsEventSource :=
  let stopped := source.stopProviderSubscriptions failed.name
  let alternate := stopped.pickAlternateEndpoint config failed
  stopped.subscribeProvider config alternate (decide (alternate.name = .primary))

/-- `onError` of a log subscription. -/
def onLogError (source : MultiWsEventSource) (endpoint : Endpoint) : MultiWsEventSource :=
  let scored := { source with
    providerStates := source.providerStates.modify endpoint.name
      (fun state => { state with score := state.score - 2 }) }
  scored.scheduleReconnect endpoint

/-- A heartbeat timer looks at the provider's last sign of life. -/
def onHeartbeat (config : MultiWsEventSourceConfig) (source : MultiWsEventSource)
    (endpoint : Endpoint) (nowMs : Int) : MultiWsEventSource :=
  let elapsed := nowMs - (source.heartbeatByProvider.get? endpoint.name).getD 0
  if elapsed < config.heartbeatTimeoutMs then source else source.scheduleReconnect endpoint

/-- What happens to the source. Timers and subscriptions are named by their place
among those that are live; logs and heads leave signs of life and scores. -/
inductive SourceEvent where
  | start
  | logError (subscription : Nat)
  | heartbeat (timer : Nat) (nowMs : Int)
  | reconnect (timer : Nat)
  | promote
  | heard (provider : ProviderName) (nowMs : Int)
  | scored (state : ProviderState)

/-- An event of a timer or a subscription that is not live does nothing. -/
def step (config : MultiWsEventSourceConfig) (source : MultiWsEventSource) :
    SourceEvent → MultiWsEventSource
  | .start => source.start config
  | .logError subscription =>
      match source.live[subscription]? with
      | some ⟨_, endpoint, .logs _⟩ => source.onLogError endpoint
      | _ => source
  | .heartbeat timer nowMs =>
      match source.heartbeatTimers[timer]? with
      | some endpoint => source.onHeartbeat config endpoint nowMs
      | none => source
  | .reconnect timer =>
      match source.pendingReconnects[timer]? with
      | some endpoint =>
          let fired := { source with
            pendingReconnects := source.pendingReconnects.eraseIdx timer }
          fired.reconnect config endpoint
      | none => source
  | .promote => source.promoteBestProvider config
  | .heard provider nowMs =>
      { source with heartbeatByProvider := source.heartbeatByProvider.set provider nowMs }
  | .scored state =>
      { source with
        providerStates := source.providerStates.modify state.name (fun _ => state) }

/-- The source after its first start and what happened since. -/
def after (config : MultiWsEventSourceConfig) (run : List SourceEvent) : MultiWsEventSource :=
  run.foldl (step config) (create.start config)

/-! ## The topology -/

/-- How often a provider is subscribed to something. -/
def watching (source : MultiWsEventSource) (provider : ProviderName) (kind : WatchKind) : Nat :=
  source.live.countP (fun subscription =>
    decide (subscription.endpoint.name = provider ∧ subscription.kind = kind))

/-- The heartbeat timers of a provider. -/
def heartbeats (source : MultiWsEventSource) (provider : ProviderName) : Nat :=
  source.heartbeatTimers.countP (fun endpoint => decide (endpoint.name = provider))

/-- The providers whose heads are forwarded. -/
def headFeeds (source : MultiWsEventSource) : List ProviderName :=
  (source.live.filter (fun subscription => decide (subscription.kind = .heads))).map
    (fun subscription => subscription.endpoint.name)

/-- One set of log subscriptions and one heartbeat timer for each provider, and the
heads of the primary only, where they are wanted. -/
structure Topology (config : MultiWsEventSourceConfig) (source : MultiWsEventSource) : Prop where
  logs : ∀ endpoint ∈ config.wsEndpoints, ∀ event,
    source.watching endpoint.name (.logs event) = 1
  heartbeats : ∀ endpoint ∈ config.wsEndpoints, source.heartbeats endpoint.name = 1
  heads : config.onBlock = true → source.headFeeds = [source.primaryProviderName]

/-- The event subscribes a provider anew. -/
def resubscribes (source : MultiWsEventSource) : SourceEvent → Bool
  | .start => true
  | .reconnect timer => source.pendingReconnects[timer]?.isSome
  | .promote => source.promoted.isSome
  | _ => false

/-! ## The start -/

variable {config : MultiWsEventSourceConfig} {source : MultiWsEventSource}

/-- Endpoint names are the ones of their places. -/
theorem names_distinct (config : MultiWsEventSourceConfig) :
    (config.wsEndpoints.map Endpoint.name).Nodup := by
  unfold MultiWsEventSourceConfig.wsEndpoints
  cases config.wsPrimary <;> cases config.wsSecondary <;> cases config.wsTertiary <;> simp

theorem primary_listed_iff (config : MultiWsEventSourceConfig) :
    ProviderName.primary ∈ config.wsEndpoints.map Endpoint.name ↔ config.wsPrimary.isSome := by
  unfold MultiWsEventSourceConfig.wsEndpoints
  cases config.wsPrimary <;> cases config.wsSecondary <;> cases config.wsTertiary <;> simp

theorem count_trackedEvents (event : TrackedEventName) : trackedEvents.count event = 1 := by
  cases event <;> rfl

theorem count_logs_kinds (config : MultiWsEventSourceConfig) (isPrimary : Bool)
    (event : TrackedEventName) : (kinds config isPrimary).count (.logs event) = 1 := by
  have injective : Function.Injective WatchKind.logs := fun _ _ same => WatchKind.logs.inj same
  have tracked := (List.count_map_of_injective trackedEvents WatchKind.logs injective event).trans
    (count_trackedEvents event)
  rw [kinds, List.count_append, List.count_append, tracked]
  split <;> split <;> rfl

theorem count_heads_kinds (config : MultiWsEventSourceConfig) (isPrimary : Bool) :
    (kinds config isPrimary).count .heads = if isPrimary && config.onBlock then 1 else 0 := by
  have tracked : (trackedEvents.map WatchKind.logs).count .heads = 0 := rfl
  rw [kinds, List.count_append, List.count_append, tracked]
  split <;> split <;> rfl

/-- Starting subscriptions adds them for their provider. -/
theorem watching_watch (endpoint : Endpoint) (started : List WatchKind)
    (source : MultiWsEventSource) (provider : ProviderName) (kind : WatchKind) :
    (started.foldl (watch endpoint) source).watching provider kind =
      source.watching provider kind + if endpoint.name = provider then started.count kind else 0 := by
  induction started generalizing source with
  | nil => simp
  | cons first rest inductionHypothesis =>
    rw [List.foldl_cons, inductionHypothesis]
    have here : (watch endpoint source first).watching provider kind =
        source.watching provider kind +
          if endpoint.name = provider ∧ first = kind then 1 else 0 := by
      simp [watching, watch, List.countP_append, List.countP_singleton]
    rw [here]
    by_cases same : endpoint.name = provider <;> by_cases equal : first = kind <;>
      simp [same, equal]
    omega

theorem headFeeds_watch (endpoint : Endpoint) (started : List WatchKind)
    (source : MultiWsEventSource) :
    (started.foldl (watch endpoint) source).headFeeds =
      source.headFeeds ++ List.replicate (started.count .heads) endpoint.name := by
  induction started generalizing source with
  | nil => simp
  | cons first rest inductionHypothesis =>
    rw [List.foldl_cons, inductionHypothesis]
    by_cases heads : first = .heads
    · have here : (watch endpoint source first).headFeeds = source.headFeeds ++ [endpoint.name] := by
        simp [headFeeds, watch, List.filter_append, heads]
      rw [here, heads, List.count_cons_self, List.replicate_succ, List.append_assoc,
        List.singleton_append]
    · have here : (watch endpoint source first).headFeeds = source.headFeeds := by
        simp [headFeeds, watch, List.filter_append, heads]
      rw [here, List.count_cons_of_ne heads]

/-- Subscriptions leave everything but the live ones and their registries. -/
structure SameBut (source other : MultiWsEventSource) : Prop where
  endpointUrls : other.endpointUrls = source.endpointUrls
  primaryProviderName : other.primaryProviderName = source.primaryProviderName
  heartbeatTimers : other.heartbeatTimers = source.heartbeatTimers
  pendingReconnects : other.pendingReconnects = source.pendingReconnects

/-- Timers added one lot after another are added together. -/
theorem SameBut.appended {source next other : MultiWsEventSource} {before after : List Endpoint}
    (first : SameBut { source with heartbeatTimers := source.heartbeatTimers ++ before } next)
    (second : SameBut { next with heartbeatTimers := next.heartbeatTimers ++ after } other) :
    SameBut { source with heartbeatTimers := source.heartbeatTimers ++ (before ++ after) }
      other where
  endpointUrls := second.endpointUrls.trans first.endpointUrls
  primaryProviderName := second.primaryProviderName.trans first.primaryProviderName
  heartbeatTimers := by
    rw [second.heartbeatTimers, first.heartbeatTimers, List.append_assoc]
  pendingReconnects := second.pendingReconnects.trans first.pendingReconnects

theorem sameBut_watch (endpoint : Endpoint) (started : List WatchKind)
    (source : MultiWsEventSource) : SameBut source (started.foldl (watch endpoint) source) := by
  induction started generalizing source with
  | nil => exact ⟨rfl, rfl, rfl, rfl⟩
  | cons first rest inductionHypothesis =>
    have later := inductionHypothesis (watch endpoint source first)
    exact ⟨later.endpointUrls, later.primaryProviderName, later.heartbeatTimers,
      later.pendingReconnects⟩

theorem registered_watch (endpoint : Endpoint) (started : List WatchKind)
    (source : MultiWsEventSource) {other : ProviderName} (different : other ≠ endpoint.name) :
    (started.foldl (watch endpoint) source).providerStopFns.get? other =
      source.providerStopFns.get? other := by
  induction started generalizing source with
  | nil => rfl
  | cons first rest inductionHypothesis =>
    rw [List.foldl_cons, inductionHypothesis]
    exact InsertionMap.get?_set_other _ _ different

/-- Stopping a provider only ends subscriptions. -/
theorem sameBut_stop (source : MultiWsEventSource) (provider : ProviderName) :
    SameBut source (source.stopProviderSubscriptions provider) :=
  ⟨rfl, rfl, rfl, rfl⟩

/-- Subscriptions and a heartbeat timer for a provider. -/
def subscribed (started : List WatchKind) (source : MultiWsEventSource) (endpoint : Endpoint) :
    MultiWsEventSource :=
  let watched := started.foldl (watch endpoint) (source.stopProviderSubscriptions endpoint.name)
  { watched with heartbeatTimers := watched.heartbeatTimers ++ [endpoint] }

theorem subscribeProvider_eq (config : MultiWsEventSourceConfig) (source : MultiWsEventSource)
    (endpoint : Endpoint) (isPrimary : Bool) :
    source.subscribeProvider config endpoint isPrimary =
      subscribed (kinds config isPrimary) source endpoint := rfl

/-- Subscribing a provider adds its heartbeat timer. -/
theorem sameBut_subscribed (started : List WatchKind) (source : MultiWsEventSource)
    (endpoint : Endpoint) :
    SameBut { source with heartbeatTimers := source.heartbeatTimers ++ [endpoint] }
      (subscribed started source endpoint) := by
  have watched := sameBut_watch endpoint started (source.stopProviderSubscriptions endpoint.name)
  refine ⟨watched.endpointUrls, watched.primaryProviderName, ?_, watched.pendingReconnects⟩
  exact congrArg (· ++ [endpoint]) watched.heartbeatTimers

/-- A provider without stop functions has nothing to stop. -/
theorem live_stop_of_absent {provider : ProviderName}
    (absent : source.providerStopFns.get? provider = none) :
    (source.stopProviderSubscriptions provider).live = source.live := by
  simp [stopProviderSubscriptions, absent]

theorem watching_subscribed {endpoint : Endpoint}
    (absent : source.providerStopFns.get? endpoint.name = none) (started : List WatchKind)
    (provider : ProviderName) (kind : WatchKind) :
    (subscribed started source endpoint).watching provider kind = source.watching provider kind +
      if endpoint.name = provider then started.count kind else 0 := by
  have counted := watching_watch endpoint started (source.stopProviderSubscriptions endpoint.name)
    provider kind
  simp only [watching, live_stop_of_absent absent] at counted
  exact counted

theorem headFeeds_subscribed {endpoint : Endpoint}
    (absent : source.providerStopFns.get? endpoint.name = none) (started : List WatchKind) :
    (subscribed started source endpoint).headFeeds =
      source.headFeeds ++ List.replicate (started.count .heads) endpoint.name := by
  have counted := headFeeds_watch endpoint started (source.stopProviderSubscriptions endpoint.name)
  simp only [headFeeds, live_stop_of_absent absent] at counted
  exact counted

theorem registered_subscribed (started : List WatchKind) (endpoint : Endpoint)
    {other : ProviderName} (different : other ≠ endpoint.name) :
    (subscribed started source endpoint).providerStopFns.get? other =
      source.providerStopFns.get? other :=
  (registered_watch endpoint started _ different).trans
    (InsertionMap.get?_delete_other _ different)

/-- A provider's state is seeded before it is subscribed. -/
theorem startEndpoint_eq (source : MultiWsEventSource) (config : MultiWsEventSourceConfig)
    (endpoint : Endpoint) :
    ∃ seeded : MultiWsEventSource, seeded.live = source.live ∧
      seeded.providerStopFns = source.providerStopFns ∧
      SameBut source seeded ∧
      source.startEndpoint config endpoint = subscribed
        (kinds config (decide (endpoint.name = source.primaryProviderName))) seeded endpoint :=
  ⟨{ source with
      providerStates := source.providerStates.set endpoint.name ⟨endpoint.name, 0, 0, 0⟩ },
    rfl, rfl, ⟨rfl, rfl, rfl, rfl⟩, rfl⟩

/-- What `start` has done after some of the endpoints. -/
structure StartedWith (config : MultiWsEventSourceConfig) (source : MultiWsEventSource)
    (endpoints : List Endpoint) (started : MultiWsEventSource) : Prop where
  watching : ∀ provider kind, started.watching provider kind = source.watching provider kind +
    if provider ∈ endpoints.map Endpoint.name then
      (kinds config (decide (provider = source.primaryProviderName))).count kind else 0
  headFeeds : started.headFeeds = source.headFeeds ++
    if source.primaryProviderName ∈ endpoints.map Endpoint.name ∧ config.onBlock = true then
      [source.primaryProviderName] else []
  same : SameBut { source with heartbeatTimers := source.heartbeatTimers ++ endpoints } started

/-- Induct on the endpoints; the names differ, so each finds its provider without
stop functions. -/
theorem startedWith_foldl (endpoints : List Endpoint) (source : MultiWsEventSource)
    (distinct : (endpoints.map Endpoint.name).Nodup)
    (absent : ∀ endpoint ∈ endpoints, source.providerStopFns.get? endpoint.name = none) :
    StartedWith config source endpoints (endpoints.foldl (startEndpoint config) source) := by
  induction endpoints generalizing source with
  | nil => exact ⟨by simp, by simp, ⟨rfl, rfl, by simp, rfl⟩⟩
  | cons endpoint rest inductionHypothesis =>
    obtain ⟨fresh, restDistinct⟩ := List.nodup_cons.mp distinct
    obtain ⟨seeded, live, stops, same, here⟩ := source.startEndpoint_eq config endpoint
    have unregistered : seeded.providerStopFns.get? endpoint.name = none := by
      rw [stops]
      exact absent endpoint List.mem_cons_self
    have added := sameBut_subscribed
      (kinds config (decide (endpoint.name = source.primaryProviderName))) seeded endpoint
    rw [← here] at added
    have later := inductionHypothesis (source.startEndpoint config endpoint) restDistinct
      (fun other member => by
        have different : other.name ≠ endpoint.name := fun same =>
          fresh (same ▸ List.mem_map_of_mem member)
        rw [here, registered_subscribed _ endpoint different, stops]
        exact absent other (List.mem_cons_of_mem _ member))
    have begun : SameBut { source with heartbeatTimers := source.heartbeatTimers ++ [endpoint] }
        (source.startEndpoint config endpoint) := by
      refine ⟨added.endpointUrls.trans same.endpointUrls,
        added.primaryProviderName.trans same.primaryProviderName, ?_,
        added.pendingReconnects.trans same.pendingReconnects⟩
      rw [added.heartbeatTimers, same.heartbeatTimers]
    have primary : (source.startEndpoint config endpoint).primaryProviderName =
        source.primaryProviderName := begun.primaryProviderName
    refine ⟨fun provider kind => ?_, ?_, ?_⟩
    · have before : seeded.watching provider kind = source.watching provider kind := by
        simp only [watching, live]
      rw [List.foldl_cons, later.watching, primary, here,
        watching_subscribed unregistered, before, List.map_cons]
      by_cases equal : endpoint.name = provider
      · subst equal
        simp [fresh]
      · simp [equal, Ne.symm equal]
    · have before : seeded.headFeeds = source.headFeeds := by
        simp only [headFeeds, live]
      rw [List.foldl_cons, later.headFeeds, primary, here, headFeeds_subscribed unregistered,
        before, count_heads_kinds, List.map_cons]
      by_cases equal : endpoint.name = source.primaryProviderName
      · rw [← equal]
        cases heads : config.onBlock <;> simp [fresh]
      · simp [equal, Ne.symm equal]
    · rw [List.foldl_cons]
      exact begun.appended later.same

/-- The first start subscribes each endpoint once. -/
theorem startedWith_start (config : MultiWsEventSourceConfig) :
    StartedWith config { create with endpointUrls := config.wsEndpoints } config.wsEndpoints
      (create.start config) := by
  unfold start
  by_cases none : config.wsEndpoints.isEmpty = true
  · simp only [none, if_true]
    rw [List.isEmpty_iff.mp none]
    exact ⟨by simp, by simp, ⟨rfl, rfl, by simp, rfl⟩⟩
  · simp only [none]
    have began : StartedWith config _ _ _ := startedWith_foldl config.wsEndpoints
      { create with endpointUrls := config.wsEndpoints, started := true }
      (names_distinct config) (fun _ _ => rfl)
    exact ⟨began.watching, began.headFeeds, began.same.endpointUrls,
      began.same.primaryProviderName, began.same.heartbeatTimers, began.same.pendingReconnects⟩

/-- A started source has the topology, unless heads are wanted and there is no
primary endpoint. -/
theorem topology_start_iff (config : MultiWsEventSourceConfig) :
    Topology config (create.start config) ↔
      (config.onBlock = true → config.wsPrimary.isSome) := by
  have began := startedWith_start config
  have timers : (create.start config).heartbeatTimers = config.wsEndpoints :=
    began.same.heartbeatTimers
  have primary : (create.start config).primaryProviderName = .primary :=
    began.same.primaryProviderName
  have feeds : (create.start config).headFeeds =
      if ProviderName.primary ∈ config.wsEndpoints.map Endpoint.name ∧ config.onBlock = true then
        [.primary] else [] := began.headFeeds
  constructor
  · intro topology wanted
    have heads := topology.heads wanted
    rw [feeds, primary] at heads
    rw [← primary_listed_iff]
    by_contra absent
    simp [absent] at heads
  · intro listed
    refine ⟨fun endpoint member event => ?_, fun endpoint member => ?_, fun wanted => ?_⟩
    · have named := List.mem_map_of_mem (f := Endpoint.name) member
      rw [began.watching, if_pos named, count_logs_kinds]
      rfl
    · have named := List.mem_map_of_mem (f := Endpoint.name) member
      have once := List.count_eq_one_of_mem (names_distinct config) named
      rw [List.count, List.countP_map] at once
      rw [heartbeats, timers, ← once]
      rfl
    · have named := (primary_listed_iff config).mpr (listed wanted)
      rw [feeds, primary, if_pos ⟨named, wanted⟩]

/-! ## Steps -/

/-- Everything that is live or due belongs to a configured endpoint. -/
structure Listed (config : MultiWsEventSourceConfig) (source : MultiWsEventSource) : Prop where
  urls : source.endpointUrls = config.wsEndpoints
  live : ∀ subscription ∈ source.live, subscription.endpoint ∈ config.wsEndpoints
  timers : ∀ endpoint ∈ source.heartbeatTimers, endpoint ∈ config.wsEndpoints
  pending : ∀ endpoint ∈ source.pendingReconnects, endpoint ∈ config.wsEndpoints

theorem Listed.stop (listed : Listed config source) (provider : ProviderName) :
    Listed config (source.stopProviderSubscriptions provider) :=
  ⟨listed.urls, fun subscription member => listed.live subscription (List.mem_filter.mp member).1,
    listed.timers, listed.pending⟩

theorem Listed.watch (listed : Listed config source) {endpoint : Endpoint}
    (configured : endpoint ∈ config.wsEndpoints) (started : List WatchKind) :
    Listed config (started.foldl (watch endpoint) source) := by
  induction started generalizing source with
  | nil => exact listed
  | cons first rest inductionHypothesis =>
    refine inductionHypothesis ⟨listed.urls, fun subscription member => ?_, listed.timers,
      listed.pending⟩
    rcases List.mem_append.mp member with earlier | new
    · exact listed.live subscription earlier
    · rw [List.mem_singleton.mp new]
      exact configured

theorem Listed.subscribed (listed : Listed config source) {endpoint : Endpoint}
    (configured : endpoint ∈ config.wsEndpoints) (started : List WatchKind) :
    Listed config (subscribed started source endpoint) := by
  have watched := (listed.stop endpoint.name).watch configured started
  refine ⟨watched.urls, watched.live, fun timer member => ?_, watched.pending⟩
  rcases List.mem_append.mp member with earlier | new
  · exact watched.timers timer earlier
  · rw [List.mem_singleton.mp new]
    exact configured

theorem Listed.pickAlternateEndpoint (listed : Listed config source) {failed : Endpoint}
    (configured : failed ∈ config.wsEndpoints) :
    source.pickAlternateEndpoint config failed ∈ config.wsEndpoints := by
  have among : ∀ entry ∈ source.endpointUrls.filter (fun entry => entry.wsUrl ≠ failed.wsUrl),
      entry ∈ config.wsEndpoints := fun entry member =>
    listed.urls ▸ (List.mem_filter.mp member).1
  unfold MultiWsEventSource.pickAlternateEndpoint
  cases candidates : source.endpointUrls.filter (fun entry => entry.wsUrl ≠ failed.wsUrl) with
  | nil => exact configured
  | cons first rest =>
    rw [candidates] at among
    simp only
    cases found : (first :: rest).find? (fun entry =>
        config.hostFromUrl entry.wsUrl ≠ config.hostFromUrl failed.wsUrl) with
    | none => exact among first List.mem_cons_self
    | some other => exact among other (List.mem_of_find?_eq_some found)

theorem Listed.schedule (listed : Listed config source) {endpoint : Endpoint}
    (configured : endpoint ∈ config.wsEndpoints) :
    Listed config (source.scheduleReconnect endpoint) := by
  refine ⟨listed.urls, listed.live, listed.timers, fun due member => ?_⟩
  rcases List.mem_append.mp member with earlier | new
  · exact listed.pending due earlier
  · rw [List.mem_singleton.mp new]
    exact configured

/-- A turn for each endpoint that subscribes it. -/
theorem Listed.foldl {turn : MultiWsEventSource → Endpoint → MultiWsEventSource}
    (keeps : ∀ {source endpoint}, Listed config source → endpoint ∈ config.wsEndpoints →
      Listed config (turn source endpoint))
    (endpoints : List Endpoint) (configured : ∀ endpoint ∈ endpoints, endpoint ∈ config.wsEndpoints)
    (listed : Listed config source) : Listed config (endpoints.foldl turn source) := by
  induction endpoints generalizing source with
  | nil => exact listed
  | cons endpoint rest inductionHypothesis =>
    exact inductionHypothesis (fun other member => configured other (List.mem_cons_of_mem _ member))
      (keeps listed (configured endpoint List.mem_cons_self))

theorem timers_foldl {turn : MultiWsEventSource → Endpoint → MultiWsEventSource}
    (adds : ∀ source endpoint,
      (turn source endpoint).heartbeatTimers = source.heartbeatTimers ++ [endpoint])
    (endpoints : List Endpoint) (source : MultiWsEventSource) :
    (endpoints.foldl turn source).heartbeatTimers = source.heartbeatTimers ++ endpoints := by
  induction endpoints generalizing source with
  | nil => simp
  | cons endpoint rest inductionHypothesis =>
    rw [List.foldl_cons, inductionHypothesis, adds, List.append_assoc, List.singleton_append]

theorem timers_startEndpoint (source : MultiWsEventSource) (endpoint : Endpoint) :
    (source.startEndpoint config endpoint).heartbeatTimers =
      source.heartbeatTimers ++ [endpoint] := by
  obtain ⟨seeded, -, -, same, here⟩ := source.startEndpoint_eq config endpoint
  rw [here, (sameBut_subscribed _ seeded endpoint).heartbeatTimers, same.heartbeatTimers]

theorem Listed.startEndpoint (listed : Listed config source) {endpoint : Endpoint}
    (configured : endpoint ∈ config.wsEndpoints) :
    Listed config (source.startEndpoint config endpoint) := by
  obtain ⟨seeded, live, -, same, here⟩ := source.startEndpoint_eq config endpoint
  rw [here]
  have before : Listed config seeded :=
    ⟨same.endpointUrls.trans listed.urls, live ▸ listed.live,
      same.heartbeatTimers ▸ listed.timers, same.pendingReconnects ▸ listed.pending⟩
  exact before.subscribed configured _

theorem Listed.start (listed : Listed config source) : Listed config (source.start config) := by
  have relisted : ∀ started : Bool, Listed config
      { source with endpointUrls := config.wsEndpoints, started := started } := fun _ =>
    ⟨rfl, listed.live, listed.timers, listed.pending⟩
  unfold MultiWsEventSource.start
  dsimp only
  split
  · exact relisted source.started
  · exact (relisted true).foldl (fun before => before.startEndpoint) config.wsEndpoints
      (fun _ member => member)

theorem Listed.promoteBestProvider (listed : Listed config source) :
    Listed config (source.promoteBestProvider config) := by
  unfold MultiWsEventSource.promoteBestProvider
  cases source.promoted with
  | none => exact listed
  | some best =>
    have renamed : Listed config { source with primaryProviderName := best } :=
      ⟨listed.urls, listed.live, listed.timers, listed.pending⟩
    exact renamed.foldl (fun before configured => (before.stop _).subscribed configured _)
      source.endpointUrls (fun _ member => listed.urls ▸ member)

theorem Listed.reconnect (listed : Listed config source) {failed : Endpoint}
    (configured : failed ∈ config.wsEndpoints) :
    Listed config (source.reconnect config failed) := by
  have stopped := listed.stop failed.name
  exact stopped.subscribed (stopped.pickAlternateEndpoint configured) _

theorem Listed.step (listed : Listed config source) (event : SourceEvent) :
    Listed config (step config source event) := by
  cases event with
  | start => exact listed.start
  | logError subscription =>
    simp only [MultiWsEventSource.step]
    split
    · next endpoint event found =>
      have scored : Listed config { source with
          providerStates := source.providerStates.modify endpoint.name
            (fun state => { state with score := state.score - 2 }) } :=
        ⟨listed.urls, listed.live, listed.timers, listed.pending⟩
      exact scored.schedule (listed.live _ (List.mem_of_getElem? found))
    · exact listed
  | heartbeat timer nowMs =>
    simp only [MultiWsEventSource.step]
    split
    · next endpoint found =>
      unfold onHeartbeat
      dsimp only
      split
      · exact listed
      · exact listed.schedule (listed.timers _ (List.mem_of_getElem? found))
    · exact listed
  | reconnect timer =>
    simp only [MultiWsEventSource.step]
    split
    · next endpoint found =>
      have fired : Listed config { source with
          pendingReconnects := source.pendingReconnects.eraseIdx timer } :=
        ⟨listed.urls, listed.live, listed.timers,
          fun due member => listed.pending due (List.mem_of_mem_eraseIdx member)⟩
      exact fired.reconnect (listed.pending _ (List.mem_of_getElem? found))
    · exact listed
  | promote => exact listed.promoteBestProvider
  | heard provider nowMs => exact ⟨listed.urls, listed.live, listed.timers, listed.pending⟩
  | scored state => exact ⟨listed.urls, listed.live, listed.timers, listed.pending⟩

/-- Subscribing anew adds heartbeat timers, as none is ever stopped. -/
theorem timers_step (listed : Listed config source) (configured : config.wsEndpoints ≠ [])
    {event : SourceEvent} (anew : resubscribes source event = true) :
    source.heartbeatTimers.length < (step config source event).heartbeatTimers.length := by
  have positive : 0 < config.wsEndpoints.length := List.length_pos_of_ne_nil configured
  cases event with
  | start =>
    have nonempty : config.wsEndpoints.isEmpty = false := by
      simpa using configured
    simp only [MultiWsEventSource.step, start, nonempty, Bool.false_eq_true, if_false]
    rw [timers_foldl timers_startEndpoint, List.length_append]
    dsimp only
    omega
  | reconnect timer =>
    obtain ⟨failed, found⟩ := Option.isSome_iff_exists.mp anew
    simp only [MultiWsEventSource.step, found, MultiWsEventSource.reconnect, subscribeProvider_eq,
      (sameBut_subscribed _ _ _).heartbeatTimers, List.length_append, List.length_singleton]
    exact Nat.lt_succ_self _
  | promote =>
    obtain ⟨best, found⟩ := Option.isSome_iff_exists.mp anew
    simp only [MultiWsEventSource.step, MultiWsEventSource.promoteBestProvider, found]
    rw [timers_foldl (fun source endpoint => by
      rw [subscribeProvider_eq, (sameBut_subscribed _ _ _).heartbeatTimers,
        (sameBut_stop source endpoint.name).heartbeatTimers]), List.length_append, listed.urls]
    dsimp only
    omega
  | logError subscription => cases anew
  | heartbeat timer nowMs => cases anew
  | heard provider nowMs => cases anew
  | scored state => cases anew

/-- Every other step leaves what is live and the primary as they are. -/
theorem step_settled (config : MultiWsEventSourceConfig) {event : SourceEvent}
    (settled : resubscribes source event = false) :
    (step config source event).live = source.live ∧
      (step config source event).heartbeatTimers = source.heartbeatTimers ∧
      (step config source event).primaryProviderName = source.primaryProviderName := by
  cases event with
  | start => cases settled
  | logError subscription =>
    simp only [MultiWsEventSource.step]
    split <;> exact ⟨rfl, rfl, rfl⟩
  | heartbeat timer nowMs =>
    simp only [MultiWsEventSource.step, onHeartbeat]
    split
    · split <;> exact ⟨rfl, rfl, rfl⟩
    · exact ⟨rfl, rfl, rfl⟩
  | reconnect timer =>
    have absent : source.pendingReconnects[timer]? = none := Option.isSome_eq_false_iff.mp settled
      |> Option.isNone_iff_eq_none.mp
    simp [MultiWsEventSource.step, absent]
  | promote =>
    have absent : source.promoted = none := Option.isSome_eq_false_iff.mp settled
      |> Option.isNone_iff_eq_none.mp
    simp [MultiWsEventSource.step, MultiWsEventSource.promoteBestProvider, absent]
  | heard provider nowMs => exact ⟨rfl, rfl, rfl⟩
  | scored state => exact ⟨rfl, rfl, rfl⟩

/-! ## Runs -/

theorem after_snoc (config : MultiWsEventSourceConfig) (run : List SourceEvent)
    (event : SourceEvent) : after config (run ++ [event]) = step config (after config run) event := by
  simp [after]

theorem listed_after (config : MultiWsEventSourceConfig) (run : List SourceEvent) :
    Listed config (after config run) := by
  induction run using List.reverseRecOn with
  | nil =>
    have began := (startedWith_start config).same
    have created : Listed config { create with endpointUrls := config.wsEndpoints } :=
      ⟨rfl, by simp [create], by simp [create], by simp [create]⟩
    exact (show Listed config (create.start config) from created.start)
  | append_singleton run event inductionHypothesis =>
    rw [after_snoc]
    exact inductionHypothesis.step event

/-- There are at least as many heartbeat timers as endpoints, and no more exactly
while nothing was subscribed anew. -/
theorem timers_after (configured : config.wsEndpoints ≠ []) (run : List SourceEvent) :
    config.wsEndpoints.length ≤ (after config run).heartbeatTimers.length ∧
      ((after config run).heartbeatTimers.length = config.wsEndpoints.length ↔
        Prefixes.EachStep (fun past event => resubscribes (after config past) event = false) run) := by
  induction run using List.reverseRecOn with
  | nil =>
    have timers : (create.start config).heartbeatTimers = config.wsEndpoints :=
      (startedWith_start config).same.heartbeatTimers
    have none : Prefixes.EachStep
        (fun past event => resubscribes (after config past) event = false) [] := by
      intro past event initial
      simp at initial
    simpa [after, timers] using none
  | append_singleton run event inductionHypothesis =>
    obtain ⟨enough, exactly⟩ := inductionHypothesis
    rw [Prefixes.eachStep_snoc, after_snoc, ← exactly]
    cases anew : resubscribes (after config run) event with
    | false =>
      obtain ⟨-, timers, -⟩ := step_settled config anew
      simp [timers, enough]
    | true =>
      have more := timers_step (listed_after config run) configured anew
      constructor
      · omega
      · simp only [Bool.true_eq_false, and_false, iff_false]
        omega

/-- Until something is subscribed anew, the source is as the start left it. -/
theorem settled_after {run : List SourceEvent}
    (settled : Prefixes.EachStep
      (fun past event => resubscribes (after config past) event = false) run) :
    (after config run).live = (create.start config).live ∧
      (after config run).heartbeatTimers = (create.start config).heartbeatTimers ∧
      (after config run).primaryProviderName = (create.start config).primaryProviderName := by
  induction run using List.reverseRecOn with
  | nil => exact ⟨rfl, rfl, rfl⟩
  | append_singleton run event inductionHypothesis =>
    rw [Prefixes.eachStep_snoc] at settled
    obtain ⟨live, timers, primary⟩ := inductionHypothesis settled.1
    obtain ⟨sameLive, sameTimers, samePrimary⟩ := step_settled config settled.2
    rw [after_snoc, sameLive, sameTimers, samePrimary]
    exact ⟨live, timers, primary⟩

/-- One heartbeat timer for each endpoint is as many timers as endpoints. -/
theorem Topology.timers_length (topology : Topology config source)
    (listed : Listed config source) :
    source.heartbeatTimers.length = config.wsEndpoints.length := by
  have counted : ∀ name, (source.heartbeatTimers.map Endpoint.name).count name =
      source.heartbeats name := by
    intro name
    rw [List.count, List.countP_map]
    rfl
  have same : (source.heartbeatTimers.map Endpoint.name).Perm
      (config.wsEndpoints.map Endpoint.name) := by
    rw [List.perm_iff_count]
    intro name
    by_cases named : name ∈ config.wsEndpoints.map Endpoint.name
    · obtain ⟨endpoint, member, rfl⟩ := List.mem_map.mp named
      rw [counted, topology.heartbeats endpoint member,
        List.count_eq_one_of_mem (names_distinct config) named]
    · rw [List.count_eq_zero_of_not_mem named, List.count_eq_zero]
      intro timed
      obtain ⟨endpoint, member, rfl⟩ := List.mem_map.mp timed
      exact named (List.mem_map_of_mem (listed.timers endpoint member))
  simpa using same.length_eq

/-- The topology reads the live subscriptions, the timers and the primary only. -/
theorem Topology.transfer {other : MultiWsEventSource} (topology : Topology config source)
    (live : other.live = source.live) (timers : other.heartbeatTimers = source.heartbeatTimers)
    (primary : other.primaryProviderName = source.primaryProviderName) :
    Topology config other := by
  refine ⟨fun endpoint member event => ?_, fun endpoint member => ?_, fun wanted => ?_⟩
  · rw [← topology.logs endpoint member event]
    simp only [watching, live]
  · rw [← topology.heartbeats endpoint member]
    simp only [MultiWsEventSource.heartbeats, timers]
  · rw [primary, ← topology.heads wanted]
    simp only [headFeeds, live]

/-- Whether or not a reconnect is pending, the topology holds exactly when nothing was
subscribed anew since the start, and there is a primary endpoint where heads are
wanted. -/
theorem topology_iff (config : MultiWsEventSourceConfig)
    (several : 2 ≤ config.wsEndpoints.length) (run : List SourceEvent) :
    Topology config (after config run) ↔
      (config.onBlock = true → config.wsPrimary.isSome) ∧
        Prefixes.EachStep (fun past event => resubscribes (after config past) event = false)
          run := by
  have configured : config.wsEndpoints ≠ [] := by
    intro none
    simp [none] at several
  constructor
  · intro topology
    have settled := (timers_after configured run).2.mp
      (topology.timers_length (listed_after config run))
    obtain ⟨live, timers, primary⟩ := settled_after settled
    have began := topology.transfer live.symm timers.symm primary.symm
    exact ⟨(topology_start_iff config).mp began, settled⟩
  · rintro ⟨listed, settled⟩
    obtain ⟨live, timers, primary⟩ := settled_after settled
    exact ((topology_start_iff config).mpr listed).transfer live timers primary

/-- Two endpoints at two vendors. -/
def twoVendors : MultiWsEventSourceConfig where
  wsPrimary := some "wss://a.example/ws"
  wsSecondary := some "wss://b.example/ws"
  wsTertiary := none
  flashblocksEnabled := false
  onBlock := true
  hostFromUrl := fun url => if url = "wss://a.example/ws" then "a.example" else "b.example"

theorem topology_iff_twoVendors :
    Topology twoVendors (after twoVendors [.heard .primary 1000, .promote]) ↔
      (twoVendors.onBlock = true → twoVendors.wsPrimary.isSome) ∧
        Prefixes.EachStep (fun past event => resubscribes (after twoVendors past) event = false)
          [.heard .primary 1000, .promote] :=
  topology_iff twoVendors (by decide) [.heard .primary 1000, .promote]

/-- The primary errs and its reconnect subscribes the other provider, which then has
two heartbeat timers, while the primary has no subscription left. -/
theorem failed_provider_left_out :
    (after twoVendors [.logError 0, .reconnect 0]).pendingReconnects = [] ∧
      (after twoVendors [.logError 0, .reconnect 0]).heartbeats .secondary = 2 ∧
      (after twoVendors [.logError 0, .reconnect 0]).live.length = 6 ∧
      ¬ Topology twoVendors (after twoVendors [.logError 0, .reconnect 0]) := by
  refine ⟨by decide, by decide, by decide, fun topology => ?_⟩
  have once := topology.heartbeats ⟨.secondary, "wss://b.example/ws"⟩ (by decide)
  revert once
  decide

end MultiWsEventSource

end LiquidationBot
