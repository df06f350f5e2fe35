import Mathlib.Algebra.Order.Group.Int
import Mathlib.Data.List.Induction

/-!
# The gas price oracle

A price is served from the cache for a while after the node answered it. A call that finds it
too old joins the request that is in flight, or starts one. A request that settles stores its
price first, and is no longer in flight in a later turn; in between other calls may come.

In any interleaving of calls and requests one request at most is unsettled, every price is that
of the latest request, and the node is not asked again before the last price is too old.
-/

namespace LiquidationBot

/-- `GasPriceOracle`: the price and its time, and the number of the request in flight. -/
structure GasPriceOracle where
  cached : Option (Int × Int)
  inFlight : Option Nat
deriving DecidableEq

/-- What the promise of a call is: a price, or the answer of a request, of its own or not. -/
inductive GasPriceReply where
  | cached (gasPrice : Int)
  | joined (request : Nat)
  | started (request : Nat)
deriving DecidableEq

namespace GasPriceOracle

def defaultTtlMs : Int := 30000

/-- `getGasPrice`; a request that it starts has the number `next`. -/
def getGasPrice (ttlMs : Int) (oracle : GasPriceOracle) (nowMs : Int) (next : Nat) :
    GasPriceOracle × GasPriceReply :=
  match oracle.cached.filter (fun current => decide (nowMs - current.2 < ttlMs)) with
  | some current => (oracle, .cached current.1)
  | none =>
      match oracle.inFlight with
      | some request => (oracle, .joined request)
      | none => ({ oracle with inFlight := some next }, .started next)

/-- The callback of `then`, which a request that fails does not call. -/
def store (oracle : GasPriceOracle) (answer : Except String Int) (nowMs : Int) : GasPriceOracle :=
  match answer with
  | .ok gasPrice => { oracle with cached := some (gasPrice, nowMs) }
  | .error _ => oracle

/-- The callback of `finally`. -/
def clear (oracle : GasPriceOracle) : GasPriceOracle := { oracle with inFlight := none }

/-! ## Runs -/

/-- A call, the end of a request, and the turn after it. -/
inductive Event where
  | getGasPrice (nowMs : Int)
  | settled (request : Nat) (answer : Except String Int) (nowMs : Int)
  | cleared (request : Nat)

/-- The oracle with the latest time seen, the times at which its requests were started, their
outcomes with the times of the prices, those that were cleared, and all calls. -/
structure Trace where
  clockMs : Int
  oracle : GasPriceOracle
  starts : List Int
  outcomes : List (Nat × Except String (Int × Int))
  cleared : List Nat
  calls : List (Int × GasPriceReply)

/-- The request has settled. -/
def Trace.Settled (trace : Trace) (request : Nat) : Prop :=
  ∃ outcome ∈ trace.outcomes, outcome.1 = request

instance (trace : Trace) (request : Nat) : Decidable (trace.Settled request) :=
  inferInstanceAs (Decidable (∃ outcome ∈ trace.outcomes, outcome.1 = request))

def Trace.new (nowMs : Int) : Trace := ⟨nowMs, ⟨none, none⟩, [], [], [], []⟩

/-- One event. The clock does not go back, a request settles once, and is cleared once after
that; what cannot happen changes nothing. -/
def step (ttlMs : Int) (trace : Trace) : Event → Trace
  | .getGasPrice nowMs =>
      if nowMs < trace.clockMs then trace
      else
        let asked := getGasPrice ttlMs trace.oracle nowMs trace.starts.length
        { trace with
          clockMs := nowMs
          oracle := asked.1
          starts :=
            match asked.2 with
            | .started _ => trace.starts ++ [nowMs]
            | _ => trace.starts
          calls := trace.calls ++ [(nowMs, asked.2)] }
  | .settled request answer nowMs =>
      if nowMs < trace.clockMs ∨ trace.starts.length ≤ request ∨ trace.Settled request then trace
      else
        { trace with
          clockMs := nowMs
          oracle := trace.oracle.store answer nowMs
          outcomes :=
            trace.outcomes ++ [(request, answer.map (fun gasPrice => (gasPrice, nowMs)))] }
  | .cleared request =>
      if trace.Settled request ∧ request ∉ trace.cleared then
        { trace with
          oracle := trace.oracle.clear
          cleared := trace.cleared ++ [request] }
      else trace

def run (ttlMs nowMs : Int) (events : List Event) : Trace :=
  events.foldl (step ttlMs) (.new nowMs)

/-! ## Shared requests -/

variable {ttlMs : Int} {trace : Trace}

/-- No request after this one was started before the time. -/
def Trace.LatestAt (trace : Trace) (request : Nat) (nowMs : Int) : Prop :=
  ∀ later start, request < later → trace.starts[later]? = some start → nowMs ≤ start

/-- What a call is given: the price of the latest request, which is not too old, or the answer
of the latest request, which was started by then. -/
def Answered (ttlMs : Int) (trace : Trace) (call : Int × GasPriceReply) : Prop :=
  match call.2 with
  | .cached gasPrice => ∃ request updatedAtMs,
      (request, .ok (gasPrice, updatedAtMs)) ∈ trace.outcomes ∧ updatedAtMs ≤ call.1 ∧
        call.1 < updatedAtMs + ttlMs ∧ trace.LatestAt request call.1
  | .joined request => ∃ start, trace.starts[request]? = some start ∧ start ≤ call.1 ∧
      trace.LatestAt request call.1
  | .started request => trace.starts[request]? = some call.1

/-- One request at most is unsettled, the latest; none is started before the price of an earlier
one is too old; and every call is answered. -/
structure Shared (ttlMs : Int) (trace : Trace) : Prop where
  single : ∀ request < trace.starts.length, ¬ trace.Settled request →
    request + 1 = trace.starts.length ∧ trace.oracle.inFlight = some request
  spaced : ∀ earlier gasPrice updatedAtMs, (earlier, .ok (gasPrice, updatedAtMs)) ∈ trace.outcomes →
    ∀ later start, earlier < later → trace.starts[later]? = some start →
      updatedAtMs + ttlMs ≤ start
  answered : ∀ call ∈ trace.calls, Answered ttlMs trace call

/-- With what keeps it: the cache holds the latest price, and a request is in flight until it is
cleared. -/
structure Kept (ttlMs : Int) (trace : Trace) : Prop extends Shared ttlMs trace where
  inFlight : ∀ request, trace.oracle.inFlight = some request →
    request + 1 = trace.starts.length ∧ request ∉ trace.cleared
  pending : ∀ request < trace.starts.length, request ∉ trace.cleared →
    trace.oracle.inFlight = some request
  settled : ∀ request ∈ trace.cleared, trace.Settled request
  known : ∀ outcome ∈ trace.outcomes, outcome.1 < trace.starts.length
  begun : ∀ start ∈ trace.starts, start ≤ trace.clockMs
  called : ∀ call ∈ trace.calls, call.1 ≤ trace.clockMs
  stored : ∀ gasPrice updatedAtMs, trace.oracle.cached = some (gasPrice, updatedAtMs) →
    updatedAtMs ≤ trace.clockMs ∧ ∃ request, (request, .ok (gasPrice, updatedAtMs)) ∈ trace.outcomes
  newest : ∀ request gasPrice updatedAtMs,
    (request, .ok (gasPrice, updatedAtMs)) ∈ trace.outcomes →
      ∃ latest, trace.oracle.cached = some latest ∧ updatedAtMs ≤ latest.2

theorem kept_new (nowMs : Int) : Kept ttlMs (.new nowMs) where
  single := by simp [Trace.new]
  spaced := by simp [Trace.new]
  answered := by simp [Trace.new]
  inFlight := by simp [Trace.new]
  pending := by simp [Trace.new]
  settled := by simp [Trace.new]
  known := by simp [Trace.new]
  begun := by simp [Trace.new]
  called := by simp [Trace.new]
  stored := by simp [Trace.new]
  newest := by simp [Trace.new]

/-- What a call does: it is served from the cache, joins the request in flight or starts one. -/
theorem getGasPrice_cases (ttlMs : Int) (oracle : GasPriceOracle) (nowMs : Int) (next : Nat) :
    (∃ current, oracle.cached = some current ∧ nowMs < current.2 + ttlMs ∧
        getGasPrice ttlMs oracle nowMs next = (oracle, .cached current.1)) ∨
      (∀ current, oracle.cached = some current → current.2 + ttlMs ≤ nowMs) ∧
        ((∃ request, oracle.inFlight = some request ∧
            getGasPrice ttlMs oracle nowMs next = (oracle, .joined request)) ∨
          oracle.inFlight = none ∧ getGasPrice ttlMs oracle nowMs next =
            ({ oracle with inFlight := some next }, .started next)) := by
  unfold getGasPrice
  split
  next current found =>
    obtain ⟨held, fresh⟩ := Option.filter_eq_some_iff.mp found
    have young : nowMs - current.2 < ttlMs := of_decide_eq_true fresh
    exact Or.inl ⟨current, held, by omega, rfl⟩
  next absent =>
    refine Or.inr ⟨?_, ?_⟩
    · intro current held
      have old := Option.filter_eq_none_iff.mp absent current held
      have aged : ¬ nowMs - current.2 < ttlMs := fun young => old (decide_eq_true young)
      omega
    · split
      next request flying => exact Or.inl ⟨request, flying, rfl⟩
      next idle => exact Or.inr ⟨idle, rfl⟩

/-- Nothing that is seen of an answered call goes away when more happens. -/
theorem Answered.mono {more : Trace} {call : Int × GasPriceReply}
    (answered : Answered ttlMs trace call)
    (starts : ∀ (request : Nat) start, trace.starts[request]? = some start →
      more.starts[request]? = some start)
    (fresh : ∀ (request : Nat) start, more.starts[request]? = some start →
      trace.starts[request]? = some start ∨ call.1 ≤ start)
    (outcomes : ∀ outcome ∈ trace.outcomes, outcome ∈ more.outcomes) :
    Answered ttlMs more call := by
  have latestAt : ∀ request, trace.LatestAt request call.1 → more.LatestAt request call.1 := by
    intro request latest later start after found
    rcases fresh later start found with known | late
    · exact latest later start after known
    · exact late
  obtain ⟨nowMs, reply⟩ := call
  cases reply with
  | cached gasPrice =>
    obtain ⟨request, updatedAtMs, listed, before, young, latest⟩ := answered
    exact ⟨request, updatedAtMs, outcomes _ listed, before, young, latestAt request latest⟩
  | joined request =>
    obtain ⟨start, begun, before, latest⟩ := answered
    exact ⟨start, starts request start begun, before, latestAt request latest⟩
  | started request => exact starts request nowMs answered

namespace Kept

/-- A call that changes neither the oracle nor its requests. -/
theorem replied (kept : Kept ttlMs trace) {nowMs : Int} {reply : GasPriceReply}
    (rising : trace.clockMs ≤ nowMs) (answered : Answered ttlMs trace (nowMs, reply)) :
    Kept ttlMs { trace with clockMs := nowMs, calls := trace.calls ++ [(nowMs, reply)] } where
  single := kept.single
  spaced := kept.spaced
  answered := by
    refine List.forall_mem_append.mpr ⟨kept.answered, ?_⟩
    exact List.forall_mem_singleton.mpr answered
  inFlight := kept.inFlight
  pending := kept.pending
  settled := kept.settled
  known := kept.known
  begun := fun start member => (kept.begun start member).trans rising
  called := by
    refine List.forall_mem_append.mpr ⟨fun call earlier => ?_, by simp⟩
    exact (kept.called call earlier).trans rising
  stored := by
    intro gasPrice updatedAtMs held
    obtain ⟨before, listed⟩ := kept.stored gasPrice updatedAtMs held
    exact ⟨before.trans rising, listed⟩
  newest := kept.newest

/-- A call that starts a request, since the price is too old and none is in flight. -/
theorem started (kept : Kept ttlMs trace) {nowMs : Int} (rising : trace.clockMs ≤ nowMs)
    (old : ∀ current, trace.oracle.cached = some current → current.2 + ttlMs ≤ nowMs)
    (idle : trace.oracle.inFlight = none) :
    Kept ttlMs { trace with
      clockMs := nowMs
      oracle := { trace.oracle with inFlight := some trace.starts.length }
      starts := trace.starts ++ [nowMs]
      calls := trace.calls ++ [(nowMs, .started trace.starts.length)] } := by
  have done : ∀ request < trace.starts.length, request ∈ trace.cleared := by
    intro request before
    by_contra uncleared
    cases idle.symm.trans (kept.pending request before uncleared)
  have split : ∀ (request : Nat) start, (trace.starts ++ [nowMs])[request]? = some start →
      trace.starts[request]? = some start ∨ start = nowMs := by
    intro request start found
    rw [List.getElem?_append] at found
    split at found
    next => exact Or.inl found
    next => exact Or.inr (List.mem_singleton.mp (List.mem_of_getElem? found))
  exact
    { single := by
        intro request before unsettled
        rw [List.length_append, List.length_singleton] at before ⊢
        rcases Nat.lt_succ_iff_lt_or_eq.mp before with earlier | rfl
        · exact absurd (kept.settled request (done request earlier)) unsettled
        · exact ⟨rfl, rfl⟩
      spaced := by
        intro earlier gasPrice updatedAtMs listed later start after found
        rcases split later start found with known | rfl
        · exact kept.spaced earlier gasPrice updatedAtMs listed later start after known
        · obtain ⟨latest, held, newer⟩ := kept.newest earlier gasPrice updatedAtMs listed
          have aged := old latest held
          omega
      answered := by
        refine List.forall_mem_append.mpr ⟨fun call earlier => ?_, ?_⟩
        · refine (kept.answered call earlier).mono (fun request start found => ?_)
            (fun request start found => ?_) (fun _ listed => listed)
          · rw [List.getElem?_append_left (List.getElem?_eq_some_iff.mp found).1]
            exact found
          · refine (split request start found).imp_right ?_
            rintro rfl
            exact (kept.called call earlier).trans rising
        · exact List.forall_mem_singleton.mpr List.getElem?_concat_length
      inFlight := by
        rintro request ⟨⟩
        refine ⟨by rw [List.length_append, List.length_singleton], fun cleared => ?_⟩
        obtain ⟨outcome, listed, same⟩ := kept.settled _ cleared
        have inside := kept.known outcome listed
        omega
      pending := by
        intro request before uncleared
        rw [List.length_append, List.length_singleton] at before
        rcases Nat.lt_succ_iff_lt_or_eq.mp before with earlier | rfl
        · exact absurd (done request earlier) uncleared
        · rfl
      settled := kept.settled
      known := by
        intro outcome listed
        rw [List.length_append]
        exact Nat.lt_add_right _ (kept.known outcome listed)
      begun := by
        refine List.forall_mem_append.mpr ⟨fun start member => ?_, by simp⟩
        exact (kept.begun start member).trans rising
      called := by
        refine List.forall_mem_append.mpr ⟨fun call earlier => ?_, by simp⟩
        exact (kept.called call earlier).trans rising
      stored := by
        intro gasPrice updatedAtMs held
        obtain ⟨before, listed⟩ := kept.stored gasPrice updatedAtMs held
        exact ⟨before.trans rising, listed⟩
      newest := kept.newest }

theorem getGasPrice (kept : Kept ttlMs trace) {nowMs : Int} (rising : trace.clockMs ≤ nowMs) :
    Kept ttlMs (step ttlMs trace (.getGasPrice nowMs)) := by
  rw [step, if_neg (not_lt.mpr rising)]
  dsimp only
  rcases getGasPrice_cases ttlMs trace.oracle nowMs trace.starts.length with
    ⟨⟨gasPrice, updatedAtMs⟩, held, young, served⟩ |
      ⟨old, ⟨request, flying, served⟩ | ⟨idle, served⟩⟩
  · rw [served]
    obtain ⟨before, request, listed⟩ := kept.stored gasPrice updatedAtMs held
    refine kept.replied rising ⟨request, updatedAtMs, listed, before.trans rising, young, ?_⟩
    -- a later request would have been started once the price was too old
    intro later start after found
    have spaced := kept.spaced request gasPrice updatedAtMs listed later start after found
    have begun := kept.begun start (List.mem_of_getElem? found)
    dsimp only at young
    omega
  · rw [served]
    have last := (kept.inFlight request flying).1
    have inside : request < trace.starts.length := by omega
    refine kept.replied rising ⟨_, List.getElem?_eq_getElem inside, ?_, ?_⟩
    · exact (kept.begun _ (List.getElem_mem inside)).trans rising
    · intro later start after found
      have := (List.getElem?_eq_some_iff.mp found).1
      omega
  · rw [served]
    exact kept.started rising old idle

/-- A request that settles is the one in flight, so no later one was started. -/
theorem answer (kept : Kept ttlMs trace) {nowMs : Int} (rising : trace.clockMs ≤ nowMs)
    {request : Nat} (inside : request < trace.starts.length) (unsettled : ¬ trace.Settled request)
    (answer : Except String Int) :
    Kept ttlMs { trace with
      clockMs := nowMs
      oracle := trace.oracle.store answer nowMs
      outcomes :=
        trace.outcomes ++ [(request, answer.map (fun gasPrice => (gasPrice, nowMs)))] } := by
  have last := (kept.single request inside unsettled).1
  have flying : (trace.oracle.store answer nowMs).inFlight = trace.oracle.inFlight := by
    cases answer <;> rfl
  have split : ∀ earlier gasPrice updatedAtMs, (earlier, .ok (gasPrice, updatedAtMs)) ∈
      trace.outcomes ++ [(request, answer.map (fun gasPrice => (gasPrice, nowMs)))] →
      (earlier, .ok (gasPrice, updatedAtMs)) ∈ trace.outcomes ∨
        earlier = request ∧ updatedAtMs = nowMs ∧ answer = .ok gasPrice := by
    intro earlier gasPrice updatedAtMs listed
    refine (List.mem_append.mp listed).imp_right (fun now => ?_)
    cases answer with
    | ok price =>
      cases List.mem_singleton.mp now
      exact ⟨rfl, rfl, rfl⟩
    | error error => cases List.mem_singleton.mp now
  exact
    { single := by
        intro tested before still
        rw [flying]
        refine kept.single tested before (fun known => ?_)
        obtain ⟨outcome, listed, same⟩ := known
        exact still ⟨outcome, List.mem_append_left _ listed, same⟩
      spaced := by
        intro earlier gasPrice updatedAtMs listed later start after found
        rcases split earlier gasPrice updatedAtMs listed with known | ⟨rfl, _, _⟩
        · exact kept.spaced earlier gasPrice updatedAtMs known later start after found
        · have begun : later < trace.starts.length := (List.getElem?_eq_some_iff.mp found).1
          omega
      answered := fun call earlier => (kept.answered call earlier).mono (fun _ _ found => found)
        (fun _ _ found => Or.inl found) (fun _ listed => List.mem_append_left _ listed)
      inFlight := fun tested flies => kept.inFlight tested (flying.symm.trans flies)
      pending := fun tested before uncleared =>
        flying.trans (kept.pending tested before uncleared)
      settled := by
        intro tested cleared
        obtain ⟨outcome, listed, same⟩ := kept.settled tested cleared
        exact ⟨outcome, List.mem_append_left _ listed, same⟩
      known := List.forall_mem_append.mpr ⟨kept.known, List.forall_mem_singleton.mpr inside⟩
      begun := fun start member => (kept.begun start member).trans rising
      called := fun call member => (kept.called call member).trans rising
      stored := by
        intro gasPrice updatedAtMs held
        cases answer with
        | ok price =>
          cases held
          exact ⟨le_rfl, request, List.mem_append_right _ (List.mem_singleton_self _)⟩
        | error error =>
          obtain ⟨before, earlier, listed⟩ := kept.stored gasPrice updatedAtMs held
          exact ⟨before.trans rising, earlier, List.mem_append_left _ listed⟩
      newest := by
        intro earlier gasPrice updatedAtMs listed
        rcases split earlier gasPrice updatedAtMs listed with known | ⟨_, rfl, rfl⟩
        · obtain ⟨⟨price, storedAtMs⟩, held, newer⟩ :=
            kept.newest earlier gasPrice updatedAtMs known
          cases answer with
          | ok price =>
            exact ⟨_, rfl, newer.trans ((kept.stored _ _ held).1.trans rising)⟩
          | error error => exact ⟨_, held, newer⟩
        · exact ⟨_, rfl, le_rfl⟩ }

/-- What is cleared is the request in flight. -/
theorem clear (kept : Kept ttlMs trace) {request : Nat} (settled : trace.Settled request)
    (uncleared : request ∉ trace.cleared) :
    Kept ttlMs { trace with
      oracle := trace.oracle.clear
      cleared := trace.cleared ++ [request] } where
  single := by
    intro tested before unsettled
    have flying := (kept.single tested before unsettled).2
    obtain ⟨outcome, listed, rfl⟩ := settled
    have same := flying.symm.trans (kept.pending _ (kept.known outcome listed) uncleared)
    cases same
    exact absurd ⟨outcome, listed, rfl⟩ unsettled
  spaced := kept.spaced
  answered := fun call earlier => (kept.answered call earlier).mono (fun _ _ found => found)
    (fun _ _ found => Or.inl found) (fun _ listed => listed)
  inFlight := nofun
  pending := by
    intro tested before still
    obtain ⟨outcome, listed, rfl⟩ := settled
    rw [List.mem_append, List.mem_singleton, not_or] at still
    have flying := kept.pending tested before still.1
    cases flying.symm.trans (kept.pending _ (kept.known outcome listed) uncleared)
    exact absurd rfl still.2
  settled := List.forall_mem_append.mpr ⟨kept.settled, List.forall_mem_singleton.mpr settled⟩
  known := kept.known
  begun := kept.begun
  called := kept.called
  stored := kept.stored
  newest := kept.newest

theorem step (kept : Kept ttlMs trace) (event : Event) :
    Kept ttlMs (GasPriceOracle.step ttlMs trace event) := by
  cases event with
  | getGasPrice nowMs =>
    rcases lt_or_ge nowMs trace.clockMs with back | rising
    · rw [GasPriceOracle.step, if_pos back]
      exact kept
    · exact kept.getGasPrice rising
  | settled request answer nowMs =>
    rw [GasPriceOracle.step]
    split
    next => exact kept
    next possible =>
      rw [not_or, not_or, not_lt, not_le] at possible
      exact kept.answer possible.1 possible.2.1 possible.2.2 answer
  | cleared request =>
    rw [GasPriceOracle.step]
    split
    next possible => exact kept.clear possible.1 possible.2
    next => exact kept

end Kept

/-- In every run one request at most is unsettled, the latest. A call is given a price that is not
too old or shares the answer of the latest request, and the node is not asked again before the
last price is too old. -/
theorem requests_shared (ttlMs nowMs : Int) (events : List Event) :
    Shared ttlMs (run ttlMs nowMs events) := by
  have kept : Kept ttlMs (run ttlMs nowMs events) := by
    induction events using List.reverseRecOn with
    | nil => exact kept_new nowMs
    | append_singleton events event inductionHypothesis =>
      rw [run, List.foldl_append]
      exact inductionHypothesis.step event
  exact kept.toShared

/-- Two calls share a request, one comes between its end and the next turn, and one after. -/
example : (run defaultTtlMs 0 [.getGasPrice 0, .getGasPrice 5, .settled 0 (.ok 7) 9,
    .getGasPrice 10, .cleared 0, .getGasPrice 30009]).calls =
      [(0, .started 0), (5, .joined 0), (10, .cached 7), (30009, .started 1)] := by decide

end GasPriceOracle

end LiquidationBot
