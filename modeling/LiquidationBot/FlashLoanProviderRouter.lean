import LiquidationBot.Library.InsertionMap
import LiquidationBot.Library.Throwing
import LiquidationBot.ProfitabilityEngine

/-!
# The flash-loan provider router

The router judges a route once for every registered provider and selects the
approved one with the highest net profit. Each provider has one fee, an amount
that was set before; a registered provider without one makes the selection
throw. Results are cached for thirty seconds under the route's figures.
-/

namespace LiquidationBot

/-- `RouteSelectionInput`. -/
structure RouteSelectionInput (N : Type) [Zero N] [LE N] where
  chain : SupportedChain
  opportunityId : OpportunityId
  revenue : TypedAssetAmount N
  debt : TypedAssetAmount N
  gas : TypedAssetAmount N
  swapCost : TypedAssetAmount N
  slippageBuffer : TypedAssetAmount N
  safetyBuffer : TypedAssetAmount N
  capitalAtRisk : TypedAssetAmount N
  minimumMarginBps : ℚ

/-- The figures under which a result is cached. The fee is not among them. -/
structure RouteCacheKey (N : Type) where
  chain : SupportedChain
  opportunityId : OpportunityId
  amounts : List N
  minimumMarginBps : ℚ
deriving DecidableEq

/-- `reason` of a rejected selection. -/
inductive RouteRejection where
  | no_profitable_provider
  | execution_circuit_open
deriving DecidableEq

/-- `RouteSelectionResult`, with all that the router returns. -/
inductive RouteSelection (N : Type) [Zero N] [LE N] where
  | selected (provider : FlashLoanProviderId) (netProfit : TypedAssetAmount N) (marginBps : N)
  | rejected (reason : RouteRejection)

/-- The router: a fee for each provider that has one, and the cached results. -/
structure FlashLoanProviderRouter (N : Type) [Zero N] [LE N] where
  providerFees : FlashLoanProviderId → Option (TypedAssetAmount N)
  routeCache : InsertionMap (RouteCacheKey N) (RouteSelection N × Int)

/-- The figures of a route, with a provider and its fee. -/
def RouteSelectionInput.withFee {N : Type} [Zero N] [LE N] (input : RouteSelectionInput N)
    (provider : FlashLoanProviderId) (flashLoanFee : TypedAssetAmount N) :
    ProfitSimulationInput N where
  chain := input.chain
  opportunityId := input.opportunityId
  provider := provider
  revenue := input.revenue
  debt := input.debt
  gas := input.gas
  flashLoanFee := flashLoanFee
  swapCost := input.swapCost
  slippageBuffer := input.slippageBuffer
  safetyBuffer := input.safetyBuffer
  capitalAtRisk := input.capitalAtRisk
  minimumMarginBps := input.minimumMarginBps

namespace FlashLoanProviderRouter

/-- `routeCacheTtlMs`. -/
def routeCacheTtlMs : Int := 30000

section Router

variable {N : Type} [CommRing N] [LinearOrder N]

/-- A router without fees. -/
def initial : FlashLoanProviderRouter N := ⟨fun _ => none, .empty⟩

def setProviderFee (router : FlashLoanProviderRouter N) (provider : FlashLoanProviderId)
    (fee : TypedAssetAmount N) : FlashLoanProviderRouter N :=
  { router with
    providerFees := fun other => if other = provider then some fee else router.providerFees other }

def clearRouteCache (router : FlashLoanProviderRouter N) : FlashLoanProviderRouter N :=
  { router with routeCache := .empty }

def cacheKey (input : RouteSelectionInput N) : RouteCacheKey N where
  chain := input.chain
  opportunityId := input.opportunityId
  amounts := [input.revenue.raw, input.debt.raw, input.gas.raw, input.swapCost.raw,
    input.slippageBuffer.raw, input.safetyBuffer.raw, input.capitalAtRisk.raw]
  minimumMarginBps := input.minimumMarginBps

/-- The cached result of a route, unless it is too old. -/
def freshResult (router : FlashLoanProviderRouter N) (input : RouteSelectionInput N)
    (nowMs : Int) : Option (RouteSelection N) :=
  match router.routeCache.get? (cacheKey input) with
  | none => none
  | some (result, cachedAtMs) =>
      if nowMs - cachedAtMs < routeCacheTtlMs then some result else none

def remember (router : FlashLoanProviderRouter N) (input : RouteSelectionInput N)
    (result : RouteSelection N) (nowMs : Int) : FlashLoanProviderRouter N :=
  { router with routeCache := router.routeCache.set (cacheKey input) (result, nowMs) }

def toSimulationInput (router : FlashLoanProviderRouter N) (input : RouteSelectionInput N)
    (provider : FlashLoanProviderId) : Except RouteError (ProfitSimulationInput N) :=
  match router.providerFees provider with
  | none => .error (.missingFee provider)
  | some flashLoanFee => .ok (input.withFee provider flashLoanFee)

variable [Div N]

/-- An approved route: its provider, net profit and margin. -/
abbrev Approved (N : Type) [Zero N] [LE N] := FlashLoanProviderId × TypedAssetAmount N × N

/-- The approved route in a result, if it is one. -/
def approvedOf : ProfitabilityResult N → Option (Approved N)
  | .approved provider netProfit marginBps => some (provider, netProfit, marginBps)
  | .rejected _ _ _ _ => none

/-- The loop of `selectBestRoute` over the providers. -/
def approvedRoutes (router : FlashLoanProviderRouter N) (registry : ChainRegistry)
    (simulate : ProfitSimulationInput N → Except RouteError (EthCallSimulationResult N))
    (input : RouteSelectionInput N) :
    List FlashLoanProviderId → Except RouteError (List (Approved N))
  | [] => .ok []
  | provider :: rest => do
      let simulationInput ← router.toSimulationInput input provider
      let result ← ProfitabilityEngine.evaluate registry simulate simulationInput
      let later ← approvedRoutes router registry simulate input rest
      return (approvedOf result).toList ++ later

/-- The first of the approved routes with the highest net profit. -/
def best (approved : List (Approved N)) : RouteSelection N :=
  match (approved.mergeSort (fun left right => decide (right.2.1.raw ≤ left.2.1.raw))).head? with
  | none => .rejected .no_profitable_provider
  | some (provider, netProfit, marginBps) => .selected provider netProfit marginBps

/-- `selectBestRoute` without the cache. -/
def selectAfresh (router : FlashLoanProviderRouter N) (registry : ChainRegistry)
    (simulate : ProfitSimulationInput N → Except RouteError (EthCallSimulationResult N))
    (input : RouteSelectionInput N) : Except RouteError (RouteSelection N) := do
  let execution ← registry.get input.chain
  if execution = .open then return .rejected .execution_circuit_open
  let approved ← router.approvedRoutes registry simulate input registry.flashLoanProviders
  return best approved

/-- `selectBestRoute`, asked at one time and done at another. -/
def selectBestRoute (router : FlashLoanProviderRouter N) (registry : ChainRegistry)
    (simulate : ProfitSimulationInput N → Except RouteError (EthCallSimulationResult N))
    (askedMs doneMs : Int) (input : RouteSelectionInput N) :
    Except RouteError (RouteSelection N × FlashLoanProviderRouter N) :=
  match router.freshResult input askedMs with
  | some result => .ok (result, router)
  | none => do
      let result ← router.selectAfresh registry simulate input
      return (result, router.remember input result doneMs)

/-- A selection leaves the fees alone. -/
theorem providerFees_selectBestRoute {router after : FlashLoanProviderRouter N}
    {registry : ChainRegistry}
    {simulate : ProfitSimulationInput N → Except RouteError (EthCallSimulationResult N)}
    {askedMs doneMs : Int} {input : RouteSelectionInput N} {result : RouteSelection N}
    (returned : router.selectBestRoute registry simulate askedMs doneMs input =
      .ok (result, after)) : after.providerFees = router.providerFees := by
  simp only [selectBestRoute] at returned
  split at returned
  next =>
    cases returned
    rfl
  next =>
    simp only [Throwing.bind_eq_ok_iff, Throwing.pure_eq_ok_iff, Prod.mk.injEq] at returned
    obtain ⟨_, _, _, rfl⟩ := returned
    rfl

/-- A selection returns from the cache, or when it returns without it. -/
theorem returns_selectBestRoute_iff (router : FlashLoanProviderRouter N) (registry : ChainRegistry)
    (simulate : ProfitSimulationInput N → Except RouteError (EthCallSimulationResult N))
    (askedMs doneMs : Int) (input : RouteSelectionInput N) :
    Throwing.Returns (router.selectBestRoute registry simulate askedMs doneMs input) ↔
      (router.freshResult input askedMs).isSome = true ∨
        Throwing.Returns (router.selectAfresh registry simulate input) := by
  simp only [selectBestRoute]
  cases router.freshResult input askedMs with
  | some result => simp
  | none =>
    simp only [Throwing.returns_bind_iff, Option.isSome_none, Bool.false_eq_true, false_or,
      Throwing.returns_pure, and_true]
    rfl

end Router

/-! ## Selections that return -/

/-- All amounts of a route are in one asset. -/
structure InAsset {N : Type} [Zero N] [LE N] (asset : Asset) (input : RouteSelectionInput N) :
    Prop where
  revenue : input.revenue.asset = asset
  debt : input.debt.asset = asset
  gas : input.gas.asset = asset
  swapCost : input.swapCost.asset = asset
  slippageBuffer : input.slippageBuffer.asset = asset
  safetyBuffer : input.safetyBuffer.asset = asset
  capitalAtRisk : input.capitalAtRisk.asset = asset

theorem InAsset.withFee {N : Type} [Zero N] [LE N] {asset : Asset} {input : RouteSelectionInput N}
    (same : InAsset asset input) (provider : FlashLoanProviderId) {fee : TypedAssetAmount N}
    (inAsset : fee.asset = asset) :
    ProfitabilityEngine.InAsset asset (input.withFee provider fee) where
  revenue := same.revenue
  debt := same.debt
  gas := same.gas
  flashLoanFee := inAsset
  swapCost := same.swapCost
  slippageBuffer := same.slippageBuffer
  safetyBuffer := same.safetyBuffer
  capitalAtRisk := same.capitalAtRisk

section Echo

variable {N : Type} [CommRing N] [LinearOrder N]

/-- The simulator of the production pipeline: it answers with the figures it is
given, as dollars. -/
def echoSimulator (input : ProfitSimulationInput N) :
    Except RouteError (EthCallSimulationResult N) :=
  .ok (.success ⟨usd, input.revenue.raw, input.revenue.nonneg⟩
    ⟨usd, input.gas.raw, input.gas.nonneg⟩ ⟨usd, input.swapCost.raw, input.swapCost.nonneg⟩)

/-- The echo of figures in dollars is the figures. -/
theorem echoSimulator_eq {input : ProfitSimulationInput N}
    (same : ProfitabilityEngine.InAsset usd input) :
    echoSimulator input = .ok (.success input.revenue input.gas input.swapCost) := by
  have restored (amount : TypedAssetAmount N) (inUsd : amount.asset = usd) :
      (⟨usd, amount.raw, amount.nonneg⟩ : TypedAssetAmount N) = amount := by
    cases amount
    cases inUsd
    rfl
  simp [echoSimulator, restored _ same.revenue, restored _ same.gas, restored _ same.swapCost]

variable [Div N] {registry : ChainRegistry} {input : ProfitSimulationInput N}

/-- The echoed figures are judged as they were before. -/
theorem judgeSimulation_echo {net : TypedAssetAmount N}
    (same : net.asset = input.capitalAtRisk.asset)
    (profit : ProfitabilityEngine.calculateDeterministicProfit input = .ok net)
    (meets : ProfitabilityEngine.meetsMargin net input = .ok true)
    (deterministic : TypedAssetAmount N) :
    ProfitabilityEngine.judgeSimulation input deterministic
        (.success input.revenue input.gas input.swapCost) =
      .ok (.approved input.provider net (marginOf net input.capitalAtRisk)) := by
  simp only [ProfitabilityEngine.judgeSimulation, profit, meets, bind, Except.bind,
    calculateMarginBps_eq same]
  rfl

/-- With the echo, the second judgement repeats the first one. -/
theorem evaluate_echo (registered : input.chain ∈ registry.chains)
    (same : ProfitabilityEngine.InAsset usd input) {net : TypedAssetAmount N}
    (inUsd : net.asset = usd)
    (profit : ProfitabilityEngine.calculateDeterministicProfit input = .ok net) :
    ProfitabilityEngine.evaluate registry echoSimulator input =
      match wholeBps input.minimumMarginBps with
      | none => .error (.asset .minimumMarginBps)
      | some bps =>
          if input.capitalAtRisk.raw ≠ 0 ∧ input.capitalAtRisk.raw * (bps : N) ≤ net.raw * 10000
          then .ok (.approved input.provider net (marginOf net input.capitalAtRisk))
          else .ok (.rejected input.provider .below_min_profit_margin net
            (marginOf net input.capitalAtRisk)) := by
  have here : net.asset = input.capitalAtRisk.asset := inUsd.trans same.capitalAtRisk.symm
  have tested := ProfitabilityEngine.meetsMargin_eq net inUsd same
  simp only [ProfitabilityEngine.evaluate, ChainRegistry.get, registered, if_true, bind,
    Except.bind, profit, ofAsset, tested, echoSimulator_eq same]
  cases whole : wholeBps input.minimumMarginBps with
  | none => rfl
  | some bps =>
    rw [whole] at tested
    by_cases meets : input.capitalAtRisk.raw ≠ 0 ∧
        input.capitalAtRisk.raw * (bps : N) ≤ net.raw * 10000
    · have passes : ProfitabilityEngine.meetsMargin net input = .ok true := by
        rw [tested]
        simp [meets]
      simp [meets, judgeSimulation_echo here profit passes]
    · simp [meets, ProfitabilityEngine.reject, calculateMarginBps_eq here, bind, Except.bind,
        pure, Except.pure]

variable [IsStrictOrderedRing N]

/-- With the echo, a route is judged without an exception exactly when its
margin is a whole number. -/
theorem returns_evaluate_echo_iff (registered : input.chain ∈ registry.chains)
    (same : ProfitabilityEngine.InAsset usd input) :
    Throwing.Returns (ProfitabilityEngine.evaluate registry echoSimulator input) ↔
      (wholeBps input.minimumMarginBps).isSome = true := by
  obtain ⟨net, profit, inUsd, _⟩ := ProfitabilityEngine.calculateDeterministicProfit_eq same
  rw [evaluate_echo registered same inUsd profit]
  cases wholeBps input.minimumMarginBps with
  | none => simp
  | some bps =>
    simp only [Option.isSome_some, iff_true]
    split
    · exact Throwing.returns_ok _
    · exact Throwing.returns_ok _

section Selection

variable {router : FlashLoanProviderRouter N} {route : RouteSelectionInput N}

/-- Induct on the providers: each of them needs a fee, and the margin a whole
number. -/
theorem returns_approvedRoutes_iff (registered : route.chain ∈ registry.chains)
    (same : InAsset usd route)
    (feesInUsd : ∀ provider fee, router.providerFees provider = some fee → fee.asset = usd)
    (providers : List FlashLoanProviderId) :
    Throwing.Returns (router.approvedRoutes registry echoSimulator route providers) ↔
      ∀ provider ∈ providers, (router.providerFees provider).isSome = true ∧
        (wholeBps route.minimumMarginBps).isSome = true := by
  induction providers with
  | nil => simp [approvedRoutes]
  | cons provider rest inductionHypothesis =>
    simp only [approvedRoutes, toSimulationInput, List.forall_mem_cons, ← inductionHypothesis]
    cases quoted : router.providerFees provider with
    | none => simp [Throwing.returns_bind_iff]
    | some fee =>
      have judged : Throwing.Returns (ProfitabilityEngine.evaluate registry echoSimulator
            (route.withFee provider fee)) ↔ (wholeBps route.minimumMarginBps).isSome = true :=
        returns_evaluate_echo_iff registered
          (same.withFee provider (feesInUsd provider fee quoted))
      simp only [RouteSelectionInput.withFee] at judged
      simp only [Throwing.returns_bind_iff, Throwing.returns_pure, and_true, Except.ok.injEq,
        exists_eq_left', Option.isSome_some, true_and, ← judged]
      constructor
      · rintro ⟨result, evaluated, later⟩
        exact ⟨⟨result, evaluated⟩, later⟩
      · rintro ⟨⟨result, evaluated⟩, later⟩
        exact ⟨result, evaluated, later⟩

theorem returns_selectAfresh_iff (registered : route.chain ∈ registry.chains)
    (same : InAsset usd route)
    (feesInUsd : ∀ provider fee, router.providerFees provider = some fee → fee.asset = usd) :
    Throwing.Returns (router.selectAfresh registry echoSimulator route) ↔
      registry.execution route.chain = .open ∨ ∀ provider ∈ registry.flashLoanProviders,
        (router.providerFees provider).isSome = true ∧
          (wholeBps route.minimumMarginBps).isSome = true := by
  rw [← returns_approvedRoutes_iff registered same feesInUsd]
  simp only [selectAfresh, ChainRegistry.get, registered, if_true]
  by_cases tripped : registry.execution route.chain = .open
  · simp [Throwing.returns_bind_iff, tripped]
  · simp only [Throwing.returns_bind_iff, Except.ok.injEq, exists_eq_left', tripped, if_false,
      Throwing.returns_pure, and_true, false_or]
    rfl

end Selection

end Echo

end FlashLoanProviderRouter

end LiquidationBot
