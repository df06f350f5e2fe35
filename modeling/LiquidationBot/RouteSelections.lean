import LiquidationBot.FlashLoanFees
import LiquidationBot.Library.FirstGreatest

/-!
# Route selections under a running clock

A selection waits after each provider it has quoted, and fees, breakers and the
clock may move in between. Its result is stored for thirty seconds under the
route's figures, which name neither fees nor breakers. A later answer may repeat
it, so an answer is that of some evaluation, its own or a recent one, and not
always that of the moment at which it was asked for.
-/

namespace LiquidationBot

namespace RouteSelections

/-- `FlashLoanProviderRouterConfig`. The simulator's answers do not change. -/
structure RouterConfig (N : Type) [Zero N] [LE N] where
  registry : ChainRegistry
  simulator : ProfitSimulationInput N → Except RouteError (EthCallSimulationResult N)
  providerFees : FlashLoanProviderId → Option (TypedAssetAmount N)

/-- The figures for one provider, and the moment at which its fee was read. -/
structure Quote (N : Type) [Zero N] [LE N] where
  figures : ProfitSimulationInput N
  moment : Nat

/-- A call of `selectBestRoute` that waits for the judgement of its last quote. -/
structure Waiting (N : Type) [Zero N] [LE N] where
  input : RouteSelectionInput N
  began : Nat
  quotes : List (Quote N)
  approved : List (FlashLoanProviderRouter.Approved N)
  quote : Quote N
  rest : List FlashLoanProviderId

/-- What a call was answered, and the moment at which it was made. -/
structure Answer (N : Type) [Zero N] [LE N] where
  input : RouteSelectionInput N
  asked : Nat
  result : RouteSelection N

/-- The router with its registry's breakers, the clock and all calls. A moment
is the number of acts before it. -/
structure RouterWorld (N : Type) [Zero N] [LE N] where
  router : FlashLoanProviderRouter N
  execution : SupportedChain → CircuitBreakerStatus
  nowMs : Int
  moment : Nat
  waiting : List (Waiting N)
  answers : List (Answer N)

/-- What can happen next. -/
inductive RouterAct (N : Type) [Zero N] [LE N] where
  | setProviderFee (provider : FlashLoanProviderId) (fee : TypedAssetAmount N)
  | clearRouteCache
  | setExecution (chain : SupportedChain) (status : CircuitBreakerStatus)
  | elapse (ms : Nat)
  | selectBestRoute (input : RouteSelectionInput N)
  | resume (index : Nat)

section Acts

variable {N : Type} [CommRing N] [LinearOrder N] [Div N] (config : RouterConfig N)

def RouterWorld.registry (world : RouterWorld N) : ChainRegistry :=
  { config.registry with execution := world.execution }

/-- Store a result and answer the call with it. -/
def RouterWorld.finish (world : RouterWorld N) (input : RouteSelectionInput N) (began : Nat)
    (result : RouteSelection N) : RouterWorld N :=
  { world with
    router := world.router.remember input result world.nowMs
    answers := world.answers ++ [⟨input, began, result⟩] }

/-- The loop of `selectBestRoute`, up to its next wait. A missing fee throws. -/
def RouterWorld.proceed (world : RouterWorld N) (input : RouteSelectionInput N) (began : Nat)
    (quotes : List (Quote N)) (approved : List (FlashLoanProviderRouter.Approved N)) :
    List FlashLoanProviderId → RouterWorld N
  | [] => world.finish input began (FlashLoanProviderRouter.best approved)
  | provider :: rest =>
      match world.router.toSimulationInput input provider with
      | .error _ => world
      | .ok figures =>
          { world with
            waiting := world.waiting ++
              [⟨input, began, quotes, approved, ⟨figures, world.moment⟩, rest⟩] }

/-- `selectBestRoute`, up to its first wait. -/
def RouterWorld.selectBestRoute (world : RouterWorld N) (input : RouteSelectionInput N) :
    RouterWorld N :=
  match world.router.freshResult input world.nowMs with
  | some result => { world with answers := world.answers ++ [⟨input, world.moment, result⟩] }
  | none =>
      match (world.registry config).get input.chain with
      | .error _ => world
      | .ok execution =>
          if execution = .open then
            world.finish input world.moment (.rejected .execution_circuit_open)
          else
            world.proceed input world.moment [] [] config.registry.flashLoanProviders

/-- The judgement of a quote arrives. An error of `evaluate` ends the call. -/
def RouterWorld.resume (world : RouterWorld N) (index : Nat) : RouterWorld N :=
  match world.waiting[index]? with
  | none => world
  | some call =>
      let others := { world with waiting := world.waiting.eraseIdx index }
      match ProfitabilityEngine.evaluate (world.registry config) config.simulator
          call.quote.figures with
      | .error _ => others
      | .ok result =>
          others.proceed call.input call.began (call.quotes ++ [call.quote])
            (call.approved ++ (FlashLoanProviderRouter.approvedOf result).toList) call.rest

def RouterAct.run (world : RouterWorld N) : RouterAct N → RouterWorld N
  | .setProviderFee provider fee =>
      { world with router := world.router.setProviderFee provider fee }
  | .clearRouteCache => { world with router := world.router.clearRouteCache }
  | .setExecution chain status =>
      { world with
        execution := fun other => if other = chain then status else world.execution other }
  | .elapse ms => { world with nowMs := world.nowMs + ms }
  | .selectBestRoute input => world.selectBestRoute config input
  | .resume index => world.resume config index

/-- One act, and the moment is over. -/
def RouterWorld.after (world : RouterWorld N) (act : RouterAct N) : RouterWorld N :=
  { act.run config world with moment := world.moment + 1 }

def RouterWorld.start (startMs : Int) : RouterWorld N where
  router := ⟨config.providerFees, .empty⟩
  execution := config.registry.execution
  nowMs := startMs
  moment := 0
  waiting := []
  answers := []

/-- The world before the act with this number, and the last world from there on. -/
def worldAt (startMs : Int) (run : List (RouterAct N)) (moment : Nat) : RouterWorld N :=
  (run.take moment).foldl (RouterWorld.after config) (.start config startMs)

def worldAfter (startMs : Int) (run : List (RouterAct N)) : RouterWorld N :=
  run.foldl (RouterWorld.after config) (.start config startMs)

end Acts

/-! ## Evaluations -/

section Selects

variable {N : Type} [CommRing N] [LinearOrder N]

/-- The net profit of an approved route. -/
def profitOf (route : FlashLoanProviderRouter.Approved N) : N := route.2.1.raw

/-- The approved route of highest net profit, the first one on ties, or the
rejection if there is none. -/
def Selects (approved : List (FlashLoanProviderRouter.Approved N)) : RouteSelection N → Prop
  | .selected provider netProfit marginBps =>
      FirstGreatest.IsFirst profitOf approved (provider, netProfit, marginBps)
  | .rejected reason => reason = .no_profitable_provider ∧ approved = []

/-- The best of approved routes is never the breaker's rejection. -/
theorem Selects.ne_open {approved : List (FlashLoanProviderRouter.Approved N)}
    {result : RouteSelection N} (selects : Selects approved result) :
    result ≠ .rejected .execution_circuit_open := by
  rintro rfl
  cases selects.1

theorem best_of_empty {approved : List (FlashLoanProviderRouter.Approved N)}
    (empty : (FirstGreatest.sortDescending profitOf approved).head? = none) :
    FlashLoanProviderRouter.best approved = .rejected .no_profitable_provider := by
  have nothing : (approved.mergeSort
      (fun left right => decide (right.2.1.raw ≤ left.2.1.raw))).head? = none := empty
  simp only [FlashLoanProviderRouter.best, nothing]

theorem best_of_head {approved : List (FlashLoanProviderRouter.Approved N)}
    {route : FlashLoanProviderRouter.Approved N}
    (head : (FirstGreatest.sortDescending profitOf approved).head? = some route) :
    FlashLoanProviderRouter.best approved = .selected route.1 route.2.1 route.2.2 := by
  have first : (approved.mergeSort
      (fun left right => decide (right.2.1.raw ≤ left.2.1.raw))).head? = some route := head
  simp only [FlashLoanProviderRouter.best, first]

/-- The router's choice is the only one. -/
theorem selects_iff (approved : List (FlashLoanProviderRouter.Approved N))
    (result : RouteSelection N) :
    Selects approved result ↔ FlashLoanProviderRouter.best approved = result := by
  have none_iff := FirstGreatest.head?_sortDescending_eq_none_iff profitOf approved
  have some_iff := FirstGreatest.head?_sortDescending_iff profitOf approved
  cases sorted : (FirstGreatest.sortDescending profitOf approved).head? with
  | none =>
    rw [best_of_empty sorted]
    cases result with
    | selected provider netProfit marginBps =>
      have absent := some_iff (provider, netProfit, marginBps)
      rw [sorted] at absent
      exact ⟨fun first => (nomatch absent.mpr first), fun same => (nomatch same)⟩
    | rejected reason =>
      exact ⟨fun selects => congrArg RouteSelection.rejected selects.1.symm,
        fun same => ⟨(RouteSelection.rejected.inj same).symm, none_iff.mp sorted⟩⟩
  | some route =>
    rw [best_of_head sorted]
    obtain ⟨firstProvider, firstProfit, firstMargin⟩ := route
    cases result with
    | selected provider netProfit marginBps =>
      have only := some_iff (provider, netProfit, marginBps)
      rw [sorted, Option.some.injEq, Prod.mk.injEq, Prod.mk.injEq] at only
      exact only.symm.trans (by simp)
    | rejected reason =>
      refine ⟨?_, fun same => (nomatch same)⟩
      rintro ⟨_, nothing⟩
      rw [none_iff.mpr nothing] at sorted
      cases sorted

theorem selects_best (approved : List (FlashLoanProviderRouter.Approved N)) :
    Selects approved (FlashLoanProviderRouter.best approved) := (selects_iff approved _).mpr rfl

end Selects

section Evaluations

variable {N : Type} [CommRing N] [LinearOrder N] [Div N] (config : RouterConfig N)

/-- The approved routes among the quoted ones. -/
def approvedQuotes : List (Quote N) → Except RouteError (List (FlashLoanProviderRouter.Approved N))
  | [] => .ok []
  | quote :: rest => do
      let result ← ProfitabilityEngine.evaluate config.registry config.simulator quote.figures
      let later ← approvedQuotes rest
      return (FlashLoanProviderRouter.approvedOf result).toList ++ later

/-- The figures of a quote hold the fee that its provider had at its moment. -/
def Quoted (worlds : Nat → RouterWorld N) (input : RouteSelectionInput N) (began ended : Nat)
    (provider : FlashLoanProviderId) (quote : Quote N) : Prop :=
  began ≤ quote.moment ∧ quote.moment ≤ ended ∧
    (worlds quote.moment).router.toSimulationInput input provider = .ok quote.figures

/-- What a router without the cache returns to a call that lasts from one
moment to another. -/
structure Fresh (worlds : Nat → RouterWorld N) (input : RouteSelectionInput N)
    (began ended : Nat) (result : RouteSelection N) : Prop where
  registered : input.chain ∈ config.registry.chains
  order : began ≤ ended
  tripped : result = .rejected .execution_circuit_open ↔
    (worlds began).execution input.chain = .open
  judged : (worlds began).execution input.chain ≠ .open → ∃ quotes approved,
    List.Forall₂ (Quoted worlds input began ended) config.registry.flashLoanProviders quotes ∧
      approvedQuotes config quotes = .ok approved ∧ Selects approved result

/-- The answer is that of an evaluation with the same figures: its own, or one
that ended less than thirty seconds before the call. -/
def Accounted (worlds : Nat → RouterWorld N) (answer : Answer N) : Prop :=
  ∃ input began ended, Fresh config worlds input began ended answer.result ∧
    FlashLoanProviderRouter.cacheKey input = FlashLoanProviderRouter.cacheKey answer.input ∧
      (input = answer.input ∧ began = answer.asked ∨
        ended ≤ answer.asked ∧ (worlds answer.asked).nowMs - (worlds ended).nowMs <
          FlashLoanProviderRouter.routeCacheTtlMs)

variable {config} {worlds : Nat → RouterWorld N}

omit [Div N] in
theorem get_registry {world : RouterWorld N} {chain : SupportedChain}
    {execution : CircuitBreakerStatus} :
    (world.registry config).get chain = .ok execution ↔
      chain ∈ config.registry.chains ∧ world.execution chain = execution := by
  simp only [ChainRegistry.get]
  split
  next registered =>
    exact ⟨fun same => ⟨registered, Except.ok.inj same⟩, fun both => congrArg Except.ok both.2⟩
  next missing =>
    constructor
    · intro same
      cases same
    · rintro ⟨registered, _⟩
      exact absurd registered missing

/-- The breakers play no part in the judgement of a quote. -/
theorem evaluate_registry (world : RouterWorld N) (figures : ProfitSimulationInput N) :
    ProfitabilityEngine.evaluate (world.registry config) config.simulator figures =
      ProfitabilityEngine.evaluate config.registry config.simulator figures := by
  by_cases registered : figures.chain ∈ config.registry.chains
  · simp [ProfitabilityEngine.evaluate, ChainRegistry.get, RouterWorld.registry, registered, bind,
      Except.bind]
  · simp [ProfitabilityEngine.evaluate, ChainRegistry.get, RouterWorld.registry, registered, bind,
      Except.bind]

/-- One more quote adds its own route, if that is approved. -/
theorem approvedQuotes_snoc {quotes : List (Quote N)}
    {approved : List (FlashLoanProviderRouter.Approved N)} {quote : Quote N}
    {result : ProfitabilityResult N} (earlier : approvedQuotes config quotes = .ok approved)
    (judged : ProfitabilityEngine.evaluate config.registry config.simulator quote.figures =
      .ok result) :
    approvedQuotes config (quotes ++ [quote]) =
      .ok (approved ++ (FlashLoanProviderRouter.approvedOf result).toList) := by
  induction quotes generalizing approved with
  | nil =>
    cases earlier
    simp [approvedQuotes, judged, bind, Except.bind, pure, Except.pure]
  | cons first rest inductionHypothesis =>
    simp only [approvedQuotes, Throwing.bind_eq_ok_iff, Throwing.pure_eq_ok_iff] at earlier
    obtain ⟨firstResult, evaluated, later, approvedLater, rfl⟩ := earlier
    have extended := inductionHypothesis approvedLater
    simp only [List.cons_append, approvedQuotes, Throwing.bind_eq_ok_iff, Throwing.pure_eq_ok_iff]
    exact ⟨firstResult, evaluated, _, extended, (List.append_assoc _ _ _).symm⟩

end Evaluations

/-! ## Every run -/

section Runs

variable {N : Type} [CommRing N] [LinearOrder N] [Div N] (config : RouterConfig N)
variable (worlds : Nat → RouterWorld N)

/-- The quotes of a call so far, and the providers that are left. -/
structure Judged (now : Nat) (input : RouteSelectionInput N) (began : Nat)
    (quotes : List (Quote N)) (approved : List (FlashLoanProviderRouter.Approved N))
    (rest : List FlashLoanProviderId) : Prop where
  registered : input.chain ∈ config.registry.chains
  closed : (worlds began).execution input.chain ≠ .open
  order : began ≤ now
  quoted : ∃ asked, config.registry.flashLoanProviders = asked ++ rest ∧
    List.Forall₂ (Quoted worlds input began now) asked quotes
  judged : approvedQuotes config quotes = .ok approved

/-- A waiting call has one quote more than it has judged. -/
def Underway (now : Nat) (call : Waiting N) : Prop :=
  ∃ provider, Quoted worlds call.input call.began now provider call.quote ∧
    Judged config worlds now call.input call.began call.quotes call.approved
      (provider :: call.rest)

/-- Stored results and answers come from evaluations, and waiting calls are on
the way to one. -/
structure Traced (now : Nat) (world : RouterWorld N) : Prop where
  cached : ∀ key result cachedAtMs,
    world.router.routeCache.get? key = some (result, cachedAtMs) →
      ∃ input began ended, Fresh config worlds input began ended result ∧
        FlashLoanProviderRouter.cacheKey input = key ∧ ended ≤ now ∧
          (worlds ended).nowMs = cachedAtMs
  waiting : ∀ call ∈ world.waiting, Underway config worlds now call
  answered : ∀ answer ∈ world.answers, Accounted config worlds answer

/-- A world within one act: only its calls, answers and stored results may differ
from the world before the act. -/
structure Within (now : Nat) (world : RouterWorld N) : Prop where
  fees : world.router.providerFees = (worlds now).router.providerFees
  execution : world.execution = (worlds now).execution
  nowMs : world.nowMs = (worlds now).nowMs
  moment : world.moment = now

variable {config worlds} {now : Nat} {world : RouterWorld N}

omit [Div N] in
theorem Quoted.later {input : RouteSelectionInput N} {began : Nat}
    {provider : FlashLoanProviderId} {quote : Quote N}
    (quoted : Quoted worlds input began now provider quote) :
    Quoted worlds input began (now + 1) provider quote :=
  ⟨quoted.1, Nat.le_succ_of_le quoted.2.1, quoted.2.2⟩

theorem Judged.later {input : RouteSelectionInput N} {began : Nat} {quotes : List (Quote N)}
    {approved : List (FlashLoanProviderRouter.Approved N)} {rest : List FlashLoanProviderId}
    (judged : Judged config worlds now input began quotes approved rest) :
    Judged config worlds (now + 1) input began quotes approved rest where
  registered := judged.registered
  closed := judged.closed
  order := Nat.le_succ_of_le judged.order
  quoted := by
    obtain ⟨asked, providers, quoted⟩ := judged.quoted
    exact ⟨asked, providers, quoted.imp (fun _ _ inTime => inTime.later)⟩
  judged := judged.judged

/-- The next moment keeps what this one has traced, whatever happened to fees,
breakers and the clock. -/
theorem Traced.later (traced : Traced config worlds now world) {next : RouterWorld N}
    (cache : next.router.routeCache = world.router.routeCache)
    (waiting : next.waiting = world.waiting) (answers : next.answers = world.answers) :
    Traced config worlds (now + 1) next where
  cached := by
    intro key result cachedAtMs stored
    rw [cache] at stored
    obtain ⟨input, began, ended, fresh, same, order, time⟩ := traced.cached _ _ _ stored
    exact ⟨input, began, ended, fresh, same, Nat.le_succ_of_le order, time⟩
  waiting := by
    intro call member
    rw [waiting] at member
    obtain ⟨provider, quoted, judged⟩ := traced.waiting call member
    exact ⟨provider, quoted.later, judged.later⟩
  answered := by
    intro answer member
    rw [answers] at member
    exact traced.answered answer member

/-- A call ends with the result of its own evaluation. -/
theorem Traced.finish (traced : Traced config worlds now world) (within : Within worlds now world)
    {input : RouteSelectionInput N} {began : Nat} {result : RouteSelection N}
    (fresh : Fresh config worlds input began now result) :
    Traced config worlds now (world.finish input began result) where
  cached := by
    intro key stored cachedAtMs found
    simp only [RouterWorld.finish, FlashLoanProviderRouter.remember, InsertionMap.get?_set]
      at found
    split at found
    next same =>
      cases found
      exact ⟨input, began, now, fresh, same.symm, le_refl now, within.nowMs.symm⟩
    next => exact traced.cached key stored cachedAtMs found
  waiting := traced.waiting
  answered := by
    intro answer member
    rcases List.mem_append.mp member with earlier | last
    · exact traced.answered answer earlier
    · cases List.mem_singleton.mp last
      exact ⟨input, began, now, fresh, rfl, Or.inl ⟨rfl, rfl⟩⟩

/-- When no provider is left, the best of the approved routes is the result. -/
theorem Judged.fresh {input : RouteSelectionInput N} {began : Nat} {quotes : List (Quote N)}
    {approved : List (FlashLoanProviderRouter.Approved N)}
    (judged : Judged config worlds now input began quotes approved []) :
    Fresh config worlds input began now (FlashLoanProviderRouter.best approved) where
  registered := judged.registered
  order := judged.order
  tripped := iff_of_false (selects_best approved).ne_open judged.closed
  judged := by
    intro _
    obtain ⟨asked, providers, quoted⟩ := judged.quoted
    rw [List.append_nil] at providers
    rw [providers]
    exact ⟨quotes, approved, quoted, judged.judged, selects_best approved⟩

/-- Proceeding either throws, waits for one more quote, or ends. -/
theorem Traced.proceed (traced : Traced config worlds now world)
    (within : Within worlds now world) {input : RouteSelectionInput N} {began : Nat}
    {quotes : List (Quote N)} {approved : List (FlashLoanProviderRouter.Approved N)}
    {rest : List FlashLoanProviderId}
    (judged : Judged config worlds now input began quotes approved rest) :
    Traced config worlds now (world.proceed input began quotes approved rest) := by
  cases rest with
  | nil => exact traced.finish within judged.fresh
  | cons provider rest =>
    simp only [RouterWorld.proceed]
    split
    next => exact traced
    next figures quoted =>
      have inTime : Quoted worlds input began now provider ⟨figures, world.moment⟩ := by
        refine ⟨within.moment.symm ▸ judged.order, within.moment.le, ?_⟩
        simp only [FlashLoanProviderRouter.toSimulationInput, within.fees] at quoted
        rw [within.moment]
        exact quoted
      refine ⟨traced.cached, ?_, traced.answered⟩
      intro call member
      rcases List.mem_append.mp member with earlier | last
      · exact traced.waiting call earlier
      · cases List.mem_singleton.mp last
        exact ⟨provider, inTime, judged⟩

omit [Div N] in
theorem freshResult_eq_some {router : FlashLoanProviderRouter N} {input : RouteSelectionInput N}
    {nowMs : Int} {result : RouteSelection N} (hit : router.freshResult input nowMs = some result) :
    ∃ cachedAtMs, router.routeCache.get? (FlashLoanProviderRouter.cacheKey input) =
        some (result, cachedAtMs) ∧
      nowMs - cachedAtMs < FlashLoanProviderRouter.routeCacheTtlMs := by
  simp only [FlashLoanProviderRouter.freshResult] at hit
  split at hit
  next => cases hit
  next stored cachedAtMs found =>
    obtain ⟨young, same⟩ := Option.ite_none_right_eq_some.mp hit
    cases same
    exact ⟨cachedAtMs, found, young⟩

/-- An answer from the cache comes from the evaluation that was stored. -/
theorem Traced.hit (traced : Traced config worlds now world) (within : Within worlds now world)
    {input : RouteSelectionInput N} {result : RouteSelection N}
    (hit : world.router.freshResult input world.nowMs = some result) :
    Accounted config worlds ⟨input, world.moment, result⟩ := by
  obtain ⟨cachedAtMs, found, young⟩ := freshResult_eq_some hit
  obtain ⟨source, began, ended, fresh, same, order, time⟩ := traced.cached _ _ _ found
  refine ⟨source, began, ended, fresh, same, Or.inr ⟨?_, ?_⟩⟩
  · rw [within.moment]
    exact order
  · rw [within.moment, time, ← within.nowMs]
    exact young

/-- A call is answered from the cache, throws, is rejected at once or begins. -/
theorem Traced.selectBestRoute (traced : Traced config worlds now world)
    (within : Within worlds now world) (input : RouteSelectionInput N) :
    Traced config worlds now (world.selectBestRoute config input) := by
  simp only [RouterWorld.selectBestRoute]
  split
  next result hit =>
    refine ⟨traced.cached, traced.waiting, ?_⟩
    intro answer member
    rcases List.mem_append.mp member with earlier | last
    · exact traced.answered answer earlier
    · cases List.mem_singleton.mp last
      exact traced.hit within hit
  next =>
    split
    next => exact traced
    next execution got =>
      obtain ⟨registered, rfl⟩ := get_registry.mp got
      rw [within.execution, within.moment]
      split
      next tripped =>
        exact traced.finish within ⟨registered, le_refl now, iff_of_true rfl tripped,
          fun closed => absurd tripped closed⟩
      next closed =>
        exact traced.proceed within ⟨registered, closed, le_refl now, ⟨[], rfl, .nil⟩, rfl⟩

/-- A call that goes on has one more judgement. -/
theorem Traced.resume (traced : Traced config worlds now world) (within : Within worlds now world)
    (index : Nat) : Traced config worlds now (world.resume config index) := by
  simp only [RouterWorld.resume]
  split
  next => exact traced
  next call found =>
    have remaining : Traced config worlds now
        { world with waiting := world.waiting.eraseIdx index } :=
      ⟨traced.cached, fun other member => traced.waiting other (List.mem_of_mem_eraseIdx member),
        traced.answered⟩
    split
    next => exact remaining
    next result evaluated =>
      rw [evaluate_registry] at evaluated
      obtain ⟨provider, quoted, judged⟩ := traced.waiting call (List.mem_of_getElem? found)
      obtain ⟨asked, providers, earlier⟩ := judged.quoted
      have extended : List.Forall₂ (Quoted worlds call.input call.began now)
          (asked ++ [provider]) (call.quotes ++ [call.quote]) :=
        List.rel_append earlier (.cons quoted .nil)
      exact remaining.proceed ⟨within.fees, within.execution, within.nowMs, within.moment⟩
        ⟨judged.registered, judged.closed, judged.order,
          ⟨asked ++ [provider], by simp [providers], extended⟩,
          approvedQuotes_snoc judged.judged evaluated⟩

/-- One act keeps the trace. -/
theorem Traced.after (traced : Traced config worlds now (worlds now))
    (moment : (worlds now).moment = now) (act : RouterAct N) :
    Traced config worlds (now + 1) ((worlds now).after config act) := by
  have within : Within worlds now (worlds now) := ⟨rfl, rfl, rfl, moment⟩
  cases act with
  | setProviderFee provider fee => exact traced.later rfl rfl rfl
  | clearRouteCache =>
    have emptied : Traced config worlds now
        { worlds now with router := (worlds now).router.clearRouteCache } := by
      refine ⟨?_, traced.waiting, traced.answered⟩
      intro _ _ _ stored
      cases stored
    exact emptied.later rfl rfl rfl
  | setExecution chain status => exact traced.later rfl rfl rfl
  | elapse ms => exact traced.later rfl rfl rfl
  | selectBestRoute input => exact (traced.selectBestRoute within input).later rfl rfl rfl
  | resume index => exact (traced.resume within index).later rfl rfl rfl

variable (config) (startMs : Int) (run : List (RouterAct N))

theorem worldAt_length : worldAt config startMs run run.length = worldAfter config startMs run := by
  rw [worldAt, List.take_length, worldAfter]

theorem worldAt_succ {moment : Nat} {act : RouterAct N} (next : run[moment]? = some act) :
    worldAt config startMs run (moment + 1) =
      (worldAt config startMs run moment).after config act := by
  simp only [worldAt, List.take_add_one, next, List.foldl_append]
  rfl

/-- Every world of a run knows its moment and is traced in the run. Induct on
the moment; each act keeps the trace. -/
theorem traced_worldAt (moment : Nat) (inRun : moment ≤ run.length) :
    (worldAt config startMs run moment).moment = moment ∧
      Traced config (worldAt config startMs run) moment (worldAt config startMs run moment) := by
  induction moment with
  | zero =>
    refine ⟨rfl, ?_, ?_, ?_⟩
    · intro _ _ _ stored
      cases stored
    · intro _ member
      cases member
    · intro _ member
      cases member
  | succ moment inductionHypothesis =>
    obtain ⟨counted, traced⟩ := inductionHypothesis (Nat.le_of_succ_le inRun)
    have next : run[moment]? = some run[moment] := List.getElem?_eq_getElem inRun
    have stepped := worldAt_succ config startMs run next
    refine ⟨?_, ?_⟩
    · rw [stepped]
      exact congrArg (· + 1) counted
    · rw [stepped]
      exact traced.after counted _

end Runs

/-- In every run, each answer is the result of an evaluation of the same
figures, its own or one less than thirty seconds old. -/
theorem answers_accounted {N : Type} [CommRing N] [LinearOrder N] [Div N]
    (config : RouterConfig N) (startMs : Int) (run : List (RouterAct N)) :
    ∀ answer ∈ (worldAfter config startMs run).answers,
      Accounted config (worldAt config startMs run) answer := by
  have traced := (traced_worldAt config startMs run run.length (le_refl _)).2
  rw [worldAt_length] at traced
  exact traced.answered

/-- One provider, with a fee of five dollars. -/
def aaveOnly : RouterConfig ℤ where
  registry := ⟨[.base], [.aaveV3], fun _ => .closed⟩
  simulator := FlashLoanProviderRouter.echoSimulator
  providerFees := fun _ => some (FlashLoanFees.dollars 5)

/-- The breaker opens after a route was selected, and the route is asked for again. -/
def openedAfter : List (RouterAct ℤ) :=
  [.selectBestRoute FlashLoanFees.largeDebt.input, .resume 0, .setExecution .base .open,
    .selectBestRoute FlashLoanFees.largeDebt.input]

theorem openedAfter_second :
    ((worldAfter aaveOnly 0 openedAfter).answers[1]?).map Answer.asked = some 3 := by
  decide +kernel

/-- The theorem for the second answer. -/
theorem answers_accounted_openedAfter :
    ∃ answer ∈ (worldAfter aaveOnly 0 openedAfter).answers, answer.asked = 3 ∧
      Accounted aaveOnly (worldAt aaveOnly 0 openedAfter) answer := by
  obtain ⟨answer, found, asked⟩ := Option.map_eq_some_iff.mp openedAfter_second
  have member := List.mem_of_getElem? found
  exact ⟨answer, member, asked, answers_accounted aaveOnly 0 openedAfter answer member⟩

/-- `RouteSelectionResult` with status `selected`. -/
def isSelected {N : Type} [Zero N] [LE N] : RouteSelection N → Bool
  | .selected _ _ _ => true
  | .rejected _ => false

/-- The second answer selects a provider though the breaker is open, and a router
without the cache rejects. -/
theorem selected_while_open :
    (worldAt aaveOnly 0 openedAfter 3).execution .base = .open ∧
      (worldAt aaveOnly 0 openedAfter 3).router.selectAfresh
          ((worldAt aaveOnly 0 openedAfter 3).registry aaveOnly) aaveOnly.simulator
          FlashLoanFees.largeDebt.input = .ok (.rejected .execution_circuit_open) ∧
      (worldAfter aaveOnly 0 openedAfter).answers.map
        (fun answer => (answer.asked, isSelected answer.result)) = [(0, true), (3, true)] := by
  refine ⟨rfl, rfl, ?_⟩
  decide +kernel

/-! ## Steady fees -/

section Steady

variable {N : Type} [CommRing N] [LinearOrder N] [Div N] {config : RouterConfig N}
variable {worlds : Nat → RouterWorld N} {input : RouteSelectionInput N} {began ended : Nat}

/-- Quotes at one table of fees are what the router's loop computes. Induct on
the providers along with their quotes. -/
theorem approvedRoutes_of_quoted {world : RouterWorld N} {providers : List FlashLoanProviderId}
    {quotes : List (Quote N)}
    (quoted : List.Forall₂
      (fun provider quote => world.router.toSimulationInput input provider = .ok quote.figures)
      providers quotes) :
    world.router.approvedRoutes (world.registry config) config.simulator input providers =
      approvedQuotes config quotes := by
  induction quoted with
  | nil => rfl
  | cons here _ inductionHypothesis =>
    simp only [FlashLoanProviderRouter.approvedRoutes, approvedQuotes, here, evaluate_registry,
      inductionHypothesis]
    rfl

/-- While the fees stand still, an evaluation returns what `selectAfresh` returns
at its beginning. -/
theorem Fresh.selectAfresh {result : RouteSelection N}
    (fresh : Fresh config worlds input began ended result)
    (steady : ∀ moment, began ≤ moment → moment ≤ ended →
      (worlds moment).router.providerFees = (worlds began).router.providerFees) :
    (worlds began).router.selectAfresh ((worlds began).registry config) config.simulator input =
      .ok result := by
  have got : ((worlds began).registry config).get input.chain =
      .ok ((worlds began).execution input.chain) := get_registry.mpr ⟨fresh.registered, rfl⟩
  simp only [FlashLoanProviderRouter.selectAfresh, got, Throwing.bind_eq_ok_iff, Except.ok.injEq,
    exists_eq_left']
  by_cases tripped : (worlds began).execution input.chain = .open
  · rw [if_pos tripped, Throwing.pure_eq_ok_iff]
    exact (fresh.tripped.mpr tripped).symm
  · rw [if_neg tripped]
    obtain ⟨quotes, approved, quoted, judged, selects⟩ := fresh.judged tripped
    have here : List.Forall₂ (fun provider quote =>
        (worlds began).router.toSimulationInput input provider = .ok quote.figures)
        config.registry.flashLoanProviders quotes := by
      refine quoted.imp ?_
      rintro provider quote ⟨after, before, figures⟩
      rw [FlashLoanProviderRouter.toSimulationInput, ← steady quote.moment after before]
      exact figures
    rw [Throwing.bind_eq_ok_iff]
    refine ⟨approved, (approvedRoutes_of_quoted here).trans judged, ?_⟩
    rw [Throwing.pure_eq_ok_iff]
    exact (selects_iff approved result).mp selects

end Steady

end RouteSelections

end LiquidationBot
