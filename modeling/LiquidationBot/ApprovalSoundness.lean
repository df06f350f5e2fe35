import LiquidationBot.Library.Throwing
import LiquidationBot.ProfitabilityEngine
import Mathlib.Algebra.Order.Ring.Int

/-!
# What an approved route earns

An approved route reports the net profit of the simulated figures, and that net
profit has passed the margin test. A loss counts as a net profit of zero, which
passes the test of a margin of zero. With any other margin an approved route makes
no loss.
-/

namespace LiquidationBot

section Assets

variable {N : Type} [CommRing N] [LinearOrder N]

/-- Amounts that do not throw when added are in one asset. Induct on the amounts
behind the first; a sum has the asset of the first. -/
theorem assets_of_addAssetAmounts {first total : TypedAssetAmount N}
    {rest : List (TypedAssetAmount N)} (added : addAssetAmounts first rest = .ok total) :
    ∀ amount ∈ rest, amount.asset = first.asset := by
  induction rest generalizing first with
  | nil => simp
  | cons amount rest inductionHypothesis =>
    simp only [addAssetAmounts, List.foldlM_cons, assertSameAsset, createAssetAmount,
      Throwing.bind_eq_ok_iff] at added
    obtain ⟨sum, ⟨_, checked, created⟩, later⟩ := added
    split at checked
    next same =>
      split at created
      next nonneg =>
        cases created
        refine List.forall_mem_cons.mpr ⟨same.symm, ?_⟩
        exact @inductionHypothesis ⟨first.asset, first.raw + amount.raw, nonneg⟩ later
      next => cases created
    next => cases checked

variable [IsStrictOrderedRing N]

/-- The only exception of a sum is a mismatch. -/
theorem addAssetAmounts_error {first : TypedAssetAmount N} {rest : List (TypedAssetAmount N)}
    {error : AssetError} (thrown : addAssetAmounts first rest = .error error) :
    error = .assetMismatch := by
  induction rest generalizing first with
  | nil => cases thrown
  | cons amount rest inductionHypothesis =>
    by_cases same : first.asset = amount.asset
    · have nonneg : 0 ≤ first.raw + amount.raw := add_nonneg first.nonneg amount.nonneg
      apply @inductionHypothesis ⟨first.asset, first.raw + amount.raw, nonneg⟩
      rw [← thrown]
      simp [addAssetAmounts, assertSameAsset, createAssetAmount, same, nonneg, bind, Except.bind]
    · simp [addAssetAmounts, assertSameAsset, same, bind, Except.bind] at thrown
      exact thrown.symm

/-- A net profit, or a loss, is known of amounts in one asset only. -/
theorem assets_of_calculateNetProfit {input : NetProfitInput N}
    (known : (∃ net, calculateNetProfit input = .ok net) ∨
      calculateNetProfit input = .error .negativeSubtraction) :
    input.revenue.asset = input.debt.asset ∧
      ∀ amount ∈ input.costs, amount.asset = input.debt.asset := by
  cases added : addAssetAmounts input.debt input.costs with
  | error error =>
    obtain rfl := addAssetAmounts_error added
    simp [calculateNetProfit, added, bind, Except.bind] at known
  | ok total =>
    have costs := assets_of_addAssetAmounts added
    obtain ⟨sum, again, asset, _⟩ := addAssetAmounts_eq input.debt input.costs costs
    obtain rfl : sum = total := Except.ok.inj (again.symm.trans added)
    refine ⟨?_, costs⟩
    by_contra apart
    have other : input.revenue.asset ≠ sum.asset := fun same => apart (same.trans asset)
    simp [calculateNetProfit, added, subtractAssetAmounts, assertSameAsset, other, bind,
      Except.bind] at known

end Assets

namespace ProfitabilityEngine

/-- The figures of a route with what a simulation answers. -/
def simulatedFigures {N : Type} [Zero N] [LE N] (input : ProfitSimulationInput N)
    (revenue gas swapCost : TypedAssetAmount N) : ProfitSimulationInput N :=
  { input with revenue := revenue, gas := gas, swapCost := swapCost }

section Approval

variable {N : Type} [CommRing N] [LinearOrder N] {asset : Asset} {input : ProfitSimulationInput N}

/-- A deterministic profit is known only of simulated figures in the route's asset. -/
theorem inAsset_of_profit [IsStrictOrderedRing N] {revenue gas swapCost net : TypedAssetAmount N}
    (same : InAsset asset input)
    (profit : calculateDeterministicProfit (simulatedFigures input revenue gas swapCost) =
      .ok net) :
    InAsset asset (simulatedFigures input revenue gas swapCost) := by
  have known : (∃ net, calculateNetProfit
        (netProfitInput (simulatedFigures input revenue gas swapCost)) = .ok net) ∨
      calculateNetProfit (netProfitInput (simulatedFigures input revenue gas swapCost)) =
        .error .negativeSubtraction := by
    unfold calculateDeterministicProfit at profit
    split at profit
    next loss => exact Or.inr loss
    next => exact Or.inl ⟨net, profit⟩
  obtain ⟨inRevenue, costs⟩ := assets_of_calculateNetProfit known
  have inDebt : input.debt.asset = asset := same.debt
  exact
    { revenue := inRevenue.trans inDebt
      debt := inDebt
      gas := (costs gas (by simp [netProfitInput, NetProfitInput.costs, simulatedFigures])).trans
        inDebt
      flashLoanFee := same.flashLoanFee
      swapCost := (costs swapCost
        (by simp [netProfitInput, NetProfitInput.costs, simulatedFigures])).trans inDebt
      slippageBuffer := same.slippageBuffer
      safetyBuffer := same.safetyBuffer
      capitalAtRisk := same.capitalAtRisk }

variable [Div N] {registry : ChainRegistry}
  {simulate : ProfitSimulationInput N → Except RouteError (EthCallSimulationResult N)}

theorem reject_ne_approved {reason : ProfitabilityRejection} {netProfit net : TypedAssetAmount N}
    {provider : FlashLoanProviderId} {marginBps : N} :
    reject input reason netProfit ≠ .ok (.approved provider net marginBps) := by
  intro approved
  simp only [reject, Throwing.bind_eq_ok_iff, Throwing.pure_eq_ok_iff, reduceCtorEq, and_false,
    exists_false] at approved

theorem ofAsset_eq_ok_iff {α : Type} {step : Except AssetError α} {value : α} :
    ofAsset step = .ok value ↔ step = .ok value := by
  cases step with
  | ok other => simp [ofAsset]
  | error error => simp [ofAsset]

theorem judgeSimulation_success_iff {deterministic revenue gas swapCost net : TypedAssetAmount N}
    {provider : FlashLoanProviderId} {marginBps : N} :
    judgeSimulation input deterministic (.success revenue gas swapCost) =
        .ok (.approved provider net marginBps) ↔
      provider = input.provider ∧
      calculateDeterministicProfit (simulatedFigures input revenue gas swapCost) = .ok net ∧
      meetsMargin net (simulatedFigures input revenue gas swapCost) = .ok true ∧
      calculateMarginBps net input.capitalAtRisk = .ok marginBps := by
  simp only [judgeSimulation, Throwing.bind_eq_ok_iff]
  constructor
  · rintro ⟨simulated, profit, meets, tested, judged⟩
    cases meets with
    | false =>
      simp only [Bool.not_false, if_true] at judged
      exact absurd judged reject_ne_approved
    | true =>
      simp only [Bool.not_true, Bool.false_eq_true, if_false, Throwing.bind_eq_ok_iff] at judged
      obtain ⟨_, margin, returned⟩ := judged
      cases (Throwing.pure_eq_ok_iff _ _).mp returned
      exact ⟨rfl, profit, tested, margin⟩
  · rintro ⟨rfl, profit, tested, margin⟩
    refine ⟨net, profit, true, tested, ?_⟩
    simp only [Bool.not_true, Bool.false_eq_true, if_false, Throwing.bind_eq_ok_iff]
    exact ⟨marginBps, margin, rfl⟩

/-- What an approval has been through: both figures have a net profit, and both
net profits pass the margin test. -/
theorem evaluate_approved_iff {provider : FlashLoanProviderId} {net : TypedAssetAmount N}
    {marginBps : N} :
    evaluate registry simulate input = .ok (.approved provider net marginBps) ↔
      input.chain ∈ registry.chains ∧ provider = input.provider ∧
      (∃ deterministic, calculateDeterministicProfit input = .ok deterministic ∧
        meetsMargin deterministic input = .ok true) ∧
      ∃ revenue gas swapCost, simulate input = .ok (.success revenue gas swapCost) ∧
        calculateDeterministicProfit (simulatedFigures input revenue gas swapCost) = .ok net ∧
        meetsMargin net (simulatedFigures input revenue gas swapCost) = .ok true ∧
        calculateMarginBps net input.capitalAtRisk = .ok marginBps := by
  simp only [evaluate, Throwing.bind_eq_ok_iff, ofAsset_eq_ok_iff, ChainRegistry.get]
  constructor
  · rintro ⟨_, registered, deterministic, profit, meets, tested, judged⟩
    split at registered
    next member =>
      cases meets with
      | false =>
        simp only [Bool.not_false, if_true, ofAsset_eq_ok_iff] at judged
        exact absurd judged reject_ne_approved
      | true =>
        simp only [Bool.not_true, Bool.false_eq_true, if_false, Throwing.bind_eq_ok_iff,
          ofAsset_eq_ok_iff] at judged
        obtain ⟨simulation, simulated, judged⟩ := judged
        cases simulation with
        | failure => exact absurd judged reject_ne_approved
        | success revenue gas swapCost =>
          obtain ⟨same, again, passes, margin⟩ := judgeSimulation_success_iff.mp judged
          exact ⟨member, same, ⟨deterministic, profit, tested⟩, revenue, gas, swapCost, simulated,
            again, passes, margin⟩
    next => cases registered
  · rintro ⟨member, same, ⟨deterministic, profit, tested⟩, revenue, gas, swapCost, simulated,
      again, passes, margin⟩
    refine ⟨_, if_pos member, deterministic, profit, true, tested, ?_⟩
    simp only [Bool.not_true, Bool.false_eq_true, if_false, Throwing.bind_eq_ok_iff,
      ofAsset_eq_ok_iff]
    exact ⟨_, simulated, judgeSimulation_success_iff.mpr ⟨same, again, passes, margin⟩⟩

end Approval

/-- The route is approved only if its simulated figures leave a net profit, which is
the one reported, that passes the margin test with something at risk. -/
def SoundApproval (registry : ChainRegistry)
    (simulate : ProfitSimulationInput ℤ → Except RouteError (EthCallSimulationResult ℤ))
    (input figures : ProfitSimulationInput ℤ) (minimumMarginBps : Nat) : Prop :=
  ∀ provider netProfit marginBps,
    evaluate registry simulate input = .ok (.approved provider netProfit marginBps) →
      0 ≤ figures.revenue.raw - outlay figures ∧
      netProfit.raw = figures.revenue.raw - outlay figures ∧
      input.capitalAtRisk.raw * (minimumMarginBps : ℤ) ≤ netProfit.raw * 10000 ∧
      0 < input.capitalAtRisk.raw

/-- The simulated figures are a loss that no margin is asked of: the chain is
registered, the minimum is zero, something is at risk, and all figures are in one
asset. -/
structure LossAtZeroMargin (registry : ChainRegistry) (asset : Asset)
    (figures : ProfitSimulationInput ℤ) (minimumMarginBps : Nat) : Prop where
  registered : figures.chain ∈ registry.chains
  unasked : minimumMarginBps = 0
  atRisk : 0 < figures.capitalAtRisk.raw
  inAsset : InAsset asset figures
  loss : figures.revenue.raw < outlay figures

section Soundness

variable {asset : Asset} {input : ProfitSimulationInput ℤ} {bps : Nat}

/-- The margin test passes exactly for what is at risk. -/
theorem meetsMargin_eq_true_iff {netProfit : TypedAssetAmount ℤ} (inAsset : netProfit.asset = asset)
    (same : InAsset asset input) (whole : wholeBps input.minimumMarginBps = some bps) :
    meetsMargin netProfit input = .ok true ↔
      0 < input.capitalAtRisk.raw ∧
        input.capitalAtRisk.raw * (bps : ℤ) ≤ netProfit.raw * 10000 := by
  rw [meetsMargin_eq netProfit inAsset same, whole]
  have nonneg := input.capitalAtRisk.nonneg
  simp only [Except.ok.injEq, decide_eq_true_eq]
  exact and_congr_left' ⟨fun risk => lt_of_le_of_ne nonneg (Ne.symm risk), fun risk => ne_of_gt risk⟩

/-- A loss at a margin of zero is approved with a net profit of zero. -/
theorem LossAtZeroMargin.approved {registry : ChainRegistry}
    {simulate : ProfitSimulationInput ℤ → Except RouteError (EthCallSimulationResult ℤ)}
    {revenue gas swapCost : TypedAssetAmount ℤ} (same : InAsset asset input)
    (whole : wholeBps input.minimumMarginBps = some bps)
    (simulated : simulate input = .ok (.success revenue gas swapCost))
    (clamped : LossAtZeroMargin registry asset (simulatedFigures input revenue gas swapCost) bps) :
    ∃ provider netProfit marginBps,
      evaluate registry simulate input = .ok (.approved provider netProfit marginBps) ∧
        netProfit.raw = 0 := by
  have free : ∀ {net : TypedAssetAmount ℤ} {figures : ProfitSimulationInput ℤ},
      net.asset = asset → InAsset asset figures → wholeBps figures.minimumMarginBps = some bps →
      0 < figures.capitalAtRisk.raw → meetsMargin net figures = .ok true := by
    intro net figures inAsset here margin risk
    refine (meetsMargin_eq_true_iff inAsset here margin).mpr ⟨risk, ?_⟩
    have nonneg := net.nonneg
    rw [clamped.unasked, Nat.cast_zero, mul_zero]
    omega
  obtain ⟨deterministic, profit, inAsset, _⟩ := calculateDeterministicProfit_eq same
  obtain ⟨net, again, netInAsset, raw⟩ := calculateDeterministicProfit_eq clamped.inAsset
  have nothing : net.raw = 0 := by
    rw [raw]
    exact max_eq_left (sub_nonpos.mpr clamped.loss.le)
  refine ⟨input.provider, net, marginOf net input.capitalAtRisk, ?_, nothing⟩
  refine evaluate_approved_iff.mpr ⟨clamped.registered, rfl,
    ⟨deterministic, profit, free inAsset same whole clamped.atRisk⟩, revenue, gas, swapCost,
    simulated, again, free netInAsset clamped.inAsset whole clamped.atRisk, ?_⟩
  exact calculateMarginBps_eq (netInAsset.trans same.capitalAtRisk.symm)

end Soundness

/-- For every route of one asset with a whole margin, and every successful
simulation, an approval is sound exactly when the simulated figures are no loss that
no margin is asked of. -/
theorem approval_sound_iff (registry : ChainRegistry)
    (simulate : ProfitSimulationInput ℤ → Except RouteError (EthCallSimulationResult ℤ))
    (asset : Asset) (input : ProfitSimulationInput ℤ) (same : InAsset asset input)
    (bps : Nat) (whole : wholeBps input.minimumMarginBps = some bps)
    (revenue gas swapCost : TypedAssetAmount ℤ)
    (simulated : simulate input = .ok (.success revenue gas swapCost)) :
    SoundApproval registry simulate input (simulatedFigures input revenue gas swapCost) bps ↔
      ¬ LossAtZeroMargin registry asset (simulatedFigures input revenue gas swapCost) bps := by
  constructor
  · intro sound clamped
    obtain ⟨provider, netProfit, marginBps, approved, nothing⟩ :=
      clamped.approved same whole simulated
    obtain ⟨gain, _⟩ := sound provider netProfit marginBps approved
    exact absurd clamped.loss (not_lt.mpr (sub_nonneg.mp gain))
  · intro covered provider netProfit marginBps approved
    obtain ⟨member, _, _, revenue', gas', swapCost', simulated', profit, passes, _⟩ :=
      evaluate_approved_iff.mp approved
    -- the simulator answers once
    obtain ⟨rfl, rfl, rfl⟩ : revenue = revenue' ∧ gas = gas' ∧ swapCost = swapCost' := by
      rw [simulated] at simulated'
      cases simulated'
      exact ⟨rfl, rfl, rfl⟩
    have figuresSame := inAsset_of_profit same profit
    obtain ⟨net, again, inAsset, raw⟩ := calculateDeterministicProfit_eq figuresSame
    obtain rfl : net = netProfit := Except.ok.inj (again.symm.trans profit)
    obtain ⟨risk, meets⟩ := (meetsMargin_eq_true_iff inAsset figuresSame whole).mp passes
    rcases le_or_gt (outlay (simulatedFigures input revenue gas swapCost))
        (simulatedFigures input revenue gas swapCost).revenue.raw with gain | loss
    · have kept : net.raw = (simulatedFigures input revenue gas swapCost).revenue.raw -
          outlay (simulatedFigures input revenue gas swapCost) :=
        raw.trans (max_eq_right (sub_nonneg.mpr gain))
      exact ⟨sub_nonneg.mpr gain, kept, meets, risk⟩
    · have nothing : net.raw = 0 := raw.trans (max_eq_left (sub_nonpos.mpr loss.le))
      have unasked : bps = 0 := by
        by_contra asked
        have above : (0 : ℤ) < (simulatedFigures input revenue gas swapCost).capitalAtRisk.raw *
            (bps : ℤ) := mul_pos risk (by omega)
        rw [nothing, zero_mul] at meets
        exact absurd above (not_lt.mpr meets)
      exact absurd ⟨member, unasked, risk, figuresSame, loss⟩ covered

/-- A dollar of revenue against two dollars of debt, with no margin asked. -/
def losingRoute : ProfitSimulationInput ℤ where
  chain := .base
  opportunityId := .custom 0
  provider := .aaveV3
  revenue := ⟨usd, 100000000, by decide⟩
  debt := ⟨usd, 200000000, by decide⟩
  gas := .none usd
  flashLoanFee := .none usd
  swapCost := .none usd
  slippageBuffer := .none usd
  safetyBuffer := .none usd
  capitalAtRisk := ⟨usd, 100000000, by decide⟩
  minimumMarginBps := 0

theorem losingRoute_inUsd : InAsset usd losingRoute := by
  constructor <;> rfl

/-- The simulator answers with the figures it is given. -/
def repeating (input : ProfitSimulationInput ℤ) :
    Except RouteError (EthCallSimulationResult ℤ) :=
  .ok (.success input.revenue input.gas input.swapCost)

def baseRegistry : ChainRegistry := ⟨[.base], [.aaveV3], fun _ => .closed⟩

/-- The equivalence for that route. -/
theorem approval_sound_iff_losing :
    SoundApproval baseRegistry repeating losingRoute losingRoute 0 ↔
      ¬ LossAtZeroMargin baseRegistry usd losingRoute 0 :=
  approval_sound_iff baseRegistry repeating usd losingRoute losingRoute_inUsd 0 rfl
    losingRoute.revenue losingRoute.gas losingRoute.swapCost rfl

/-- The route is approved with a net profit of zero and loses a dollar. -/
theorem loss_approved :
    (∃ netProfit marginBps, evaluate baseRegistry repeating losingRoute =
        .ok (.approved .aaveV3 netProfit marginBps) ∧ netProfit.raw = 0) ∧
      losingRoute.revenue.raw - outlay losingRoute = -100000000 ∧
      ¬ SoundApproval baseRegistry repeating losingRoute losingRoute 0 := by
  have clamped : LossAtZeroMargin baseRegistry usd (simulatedFigures losingRoute
      losingRoute.revenue losingRoute.gas losingRoute.swapCost) 0 :=
    ⟨by decide, rfl, by decide, losingRoute_inUsd, by decide⟩
  have simulated : repeating losingRoute = .ok (.success losingRoute.revenue losingRoute.gas
      losingRoute.swapCost) := rfl
  obtain ⟨provider, netProfit, marginBps, approved, nothing⟩ :=
    clamped.approved losingRoute_inUsd rfl simulated
  obtain ⟨_, own, _⟩ := evaluate_approved_iff.mp approved
  subst own
  refine ⟨⟨netProfit, marginBps, approved, nothing⟩, by decide, ?_⟩
  intro sound
  exact absurd (sound _ netProfit marginBps approved).1 (by decide)

end ProfitabilityEngine

end LiquidationBot
