import LiquidationBot.ArbitrageScanner
import LiquidationBot.NoRegretRanker
import Mathlib.Algebra.Order.Ring.Star
import Mathlib.Data.Rat.Sqrt
import Mathlib.Data.Rat.Star

/-!
# The features that outcomes are stored under and opportunities ranked by

The orchestrator names the features of an opportunity when it records an outcome,
and the bot names them again when it ranks. The two lists are spelled apart: the
tag of the kind never agrees, and of an arbitrage nothing does. An outcome is
stored where no ranking of an arbitrage reads it.
-/

namespace LiquidationBot

namespace Address

/-- A hex digit of an address as spelled, counted from the last one. -/
def digit (address : Address) (place : Nat) : Char :=
  let char := Nat.digitChar (address.value.toNat / 16 ^ place % 16)
  if address.upper.getLsbD place then char.toUpper else char

/-- An address as text. -/
def text (address : Address) : String :=
  "0x" ++ String.ofList ((List.range 40).map address.digit).reverse

end Address

/-- `Opportunity`, with all that its features name: the candidate of a liquidation,
or the opportunity that the scanner has built. -/
inductive ScannedOpportunity where
  | liquidation (candidate : LiquidationCandidate)
  | arbitrage (candidate : ArbitrageScanner.ArbitrageOpportunity)

/-- `PipelineExecutionPlan`, by what the learners read of it. -/
structure LearnedPlan where
  chain : SupportedChain
  opportunity : ScannedOpportunity
  opportunityId : OpportunityId
  routeInput : RouteSelectionInput Int

namespace PipelineOrchestrator

/-- `opportunityFeatures` of the orchestrator. -/
def opportunityFeatures : ScannedOpportunity → List String
  | .liquidation candidate =>
      ["type:liquidation",
        "collateral:" ++ candidate.collateralAsset.toLowerCase.text,
        "debt:" ++ candidate.debtAsset.toLowerCase.text]
  | .arbitrage candidate =>
      ["type:arbitrage",
        "buyDex:" ++ candidate.buyDex.name,
        "sellDex:" ++ candidate.sellDex.name,
        "pair:" ++ candidate.tokenIn.toLowerCase.text ++ ":" ++
          candidate.tokenOut.toLowerCase.text]

/-- `expectedProfitBps`. -/
def expectedProfitBps (input : RouteSelectionInput Int) : ℚ :=
  let cost := input.debt.raw + input.gas.raw + input.swapCost.raw + input.slippageBuffer.raw +
    input.safetyBuffer.raw
  if input.revenue.raw ≤ cost ∨ input.capitalAtRisk.raw = 0 then 0
  else (((input.revenue.raw - cost) * 10000).tdiv input.capitalAtRisk.raw : ℤ)

/-- What `recordLearningOutcome` tells the observer of an outcome. -/
def learningOutcome (plan : LearnedPlan) (outcome : HazardOutcome) : HazardOutcomeInput where
  chain := plan.chain
  opportunityId := plan.opportunityId
  features := opportunityFeatures plan.opportunity
  expectedProfitBps := expectedProfitBps plan.routeInput
  outcome := outcome

end PipelineOrchestrator

namespace PipelineBot

/-- `opportunityFeatures` of the bot's ranker. -/
def opportunityFeatures : ScannedOpportunity → List String
  | .liquidation candidate =>
      ["liquidation",
        "debt:" ++ candidate.debtAsset.toLowerCase.text,
        "collateral:" ++ candidate.collateralAsset.toLowerCase.text]
  | .arbitrage candidate =>
      ["arbitrage",
        "buy:" ++ candidate.buyDex.name,
        "sell:" ++ candidate.sellDex.name,
        candidate.tokenIn.toLowerCase.text ++ ":" ++ candidate.tokenOut.toLowerCase.text]

/-- `estimateOpportunityProfitBps`. -/
def estimateOpportunityProfitBps : ScannedOpportunity → ℚ
  | .liquidation candidate =>
      let repayUsd := max 1 candidate.repayValueUsd
      let grossUsd := repayUsd * (candidate.liquidationBonusBps / 10000)
      max 1 (mathRound (grossUsd / repayUsd * 10000))
  | .arbitrage candidate =>
      let base := candidate.amountIn
      if base ≤ 0 then 1
      else
        let raw := ((candidate.expectedAmountOut - base) * 10000).tdiv base
        (if 0 < raw then raw else 1 : ℤ)

/-- What `opportunityRanker` ranks a plan by. -/
def rankedInput (plan : LearnedPlan) : HazardPredictionInput where
  chain := plan.chain
  opportunityId := plan.opportunityId
  features := opportunityFeatures plan.opportunity
  expectedProfitBps := estimateOpportunityProfitBps plan.opportunity

end PipelineBot

/-! ## What recording touches -/

namespace FeatureState

/-- All outcomes of a feature. -/
def total (state : FeatureState) : ℚ := state.successes + state.failures

theorem total_observed (config : BayesianHazardModelConfig) (outcome : HazardOutcome)
    (state : FeatureState) : (state.observed config outcome).total = state.total + 1 := by
  unfold total observed
  split
  · exact add_right_comm _ _ _
  · exact (add_assoc _ _ _).symm

theorem total_iterate_observed (config : BayesianHazardModelConfig) (outcome : HazardOutcome)
    (times : ℕ) (state : FeatureState) :
    ((observed config outcome)^[times] state).total = state.total + times := by
  induction times generalizing state with
  | zero => simp
  | succ times inductionHypothesis =>
    rw [Function.iterate_succ_apply, inductionHypothesis, total_observed, Nat.cast_succ]
    ring

end FeatureState

namespace BayesianHazardModel

/-- Recording an outcome changes exactly the states of its keys. -/
theorem stateOf_recordOutcome_ne_iff (model : BayesianHazardModel) (input : HazardOutcomeInput)
    (key : String) : (model.recordOutcome input).stateOf key ≠ model.stateOf key ↔
      key ∈ featureKeys input.chain input.features := by
  unfold recordOutcome
  rw [stateOf_foldl_recordAt]
  constructor
  · intro changed
    by_contra absent
    rw [List.count_eq_zero_of_not_mem absent] at changed
    exact changed rfl
  · intro member same
    have counted := FeatureState.total_iterate_observed model.config input.outcome
      ((featureKeys input.chain input.features).count key) (model.stateOf key)
    rw [same, left_eq_add, Nat.cast_eq_zero, List.count_eq_zero] at counted
    exact counted member

end BayesianHazardModel

namespace FtrlOpportunityRanker

variable (sqrt : ℚ → ℚ)

theorem stateOf_stateFor (ranker : FtrlOpportunityRanker) (key : String) :
    (ranker.stateFor key).2.stateOf = ranker.stateOf := by
  funext tested
  unfold stateFor
  split
  next => rfl
  next absent => exact InsertionMap.getD_set_default _ absent tested

/-- Descending under keys leaves the states of all other keys alone. -/
theorem stateOf_foldl_observeAt (prediction reward : ℚ) {keys : List String} {tested : String}
    (absent : tested ∉ keys) (ranker : FtrlOpportunityRanker) :
    (keys.foldl (observeAt sqrt prediction reward) ranker).stateOf tested =
      ranker.stateOf tested := by
  induction keys generalizing ranker with
  | nil => rfl
  | cons key keys inductionHypothesis =>
    rw [List.mem_cons, not_or] at absent
    rw [List.foldl_cons, inductionHypothesis absent.2, ← stateOf_stateFor ranker key]
    simp only [observeAt, stateOf, InsertionMap.get?_set_other _ _ absent.1]

/-- The states of both learners under other keys are not touched by an outcome. -/
theorem recordOutcome_untouched (ranker : FtrlOpportunityRanker) (input : HazardOutcomeInput)
    {key : String} (absent : key ∉ featureKeys input.chain input.features) :
    (ranker.recordOutcome sqrt input).model.stateOf key = ranker.model.stateOf key ∧
      (ranker.recordOutcome sqrt input).stateOf key = ranker.stateOf key := by
  constructor
  · rw [stateOf_recordOutcome_model]
    by_contra changed
    exact absent ((ranker.model.stateOf_recordOutcome_ne_iff input key).mp changed)
  · unfold recordOutcome observe
    rw [stateOf_foldl_observeAt sqrt _ _ absent]
    rfl

theorem sumWeights_fst (keys : List String) (ranker : FtrlOpportunityRanker) :
    (ranker.sumWeights sqrt keys).1 =
      (keys.map (fun key => weightFor sqrt ranker.config (ranker.stateOf key))).sum := by
  induction keys generalizing ranker with
  | nil => rfl
  | cons key keys inductionHypothesis =>
    simp only [sumWeights, inductionHypothesis, stateFor_fst, stateFor_config, stateOf_stateFor,
      List.map_cons, List.sum_cons]

theorem foldl_observeAt_config (prediction reward : ℚ) (keys : List String)
    (ranker : FtrlOpportunityRanker) :
    (keys.foldl (observeAt sqrt prediction reward) ranker).config = ranker.config := by
  induction keys generalizing ranker with
  | nil => rfl
  | cons key keys inductionHypothesis =>
    rw [List.foldl_cons, inductionHypothesis]
    simp only [observeAt, stateFor_config]

@[simp] theorem recordOutcome_config (ranker : FtrlOpportunityRanker)
    (input : HazardOutcomeInput) :
    (ranker.recordOutcome sqrt input).config = ranker.config :=
  foldl_observeAt_config sqrt _ _ _ _

/-- A score reads the states of the input's keys, and nothing else that an
outcome changes. -/
theorem score_congr {left right : FtrlOpportunityRanker} {input : HazardPredictionInput}
    (config : left.config = right.config)
    (model : ∀ key ∈ featureKeys input.chain input.features,
      left.model.stateOf key = right.model.stateOf key)
    (states : ∀ key ∈ featureKeys input.chain input.features,
      left.stateOf key = right.stateOf key) :
    (left.score sqrt input).1 = (right.score sqrt input).1 := by
  have learned : (featureKeys input.chain input.features).map left.model.stateOf =
      (featureKeys input.chain input.features).map right.model.stateOf :=
    List.map_congr_left model
  have weights : (featureKeys input.chain input.features).map
        (fun key => weightFor sqrt left.config (left.stateOf key)) =
      (featureKeys input.chain input.features).map
        (fun key => weightFor sqrt right.config (right.stateOf key)) := by
    apply List.map_congr_left
    intro key member
    rw [config, states key member]
  have read (ranker : FtrlOpportunityRanker) (model : BayesianHazardModel) :
      ({ ranker with model := model } : FtrlOpportunityRanker).stateOf = ranker.stateOf := rfl
  simp only [score, sumWeights_fst, BayesianHazardModel.predict, BayesianHazardModel.statesFor,
    BayesianHazardModel.statesOf_fst, learned, read, weights]

/-- An outcome whose keys a score does not read leaves the score alone. -/
theorem score_recordOutcome (ranker : FtrlOpportunityRanker) {recorded : HazardOutcomeInput}
    {input : HazardPredictionInput}
    (apart : ∀ key ∈ featureKeys input.chain input.features,
      key ∉ featureKeys recorded.chain recorded.features) :
    ((ranker.recordOutcome sqrt recorded).score sqrt input).1 = (ranker.score sqrt input).1 := by
  apply score_congr
  · exact recordOutcome_config sqrt ranker recorded
  · intro key member
    exact (ranker.recordOutcome_untouched sqrt recorded (apart key member)).1
  · intro key member
    exact (ranker.recordOutcome_untouched sqrt recorded (apart key member)).2

end FtrlOpportunityRanker

/-! ## The two lists of features -/

/-- A key names its chain and its feature. -/
theorem featureKey_inj {left right : SupportedChain} {first second : String} :
    left.name ++ ":" ++ first = right.name ++ ":" ++ second ↔ left = right ∧ first = second := by
  constructor
  · intro same
    have chains : left = right := by
      have spelled := congrArg String.toList same
      cases left <;> cases right <;> simp [SupportedChain.name] at spelled ⊢
    subst chains
    exact ⟨rfl, (String.append_right_inj _).mp same⟩
  · rintro ⟨rfl, rfl⟩
    rfl

theorem featureKey_mem_iff {left right : SupportedChain} {feature : String}
    {features : List String} (nonempty : features ≠ []) :
    left.name ++ ":" ++ feature ∈ featureKeys right features ↔
      left = right ∧ feature ∈ features := by
  unfold featureKeys
  rw [if_neg nonempty, List.mem_map]
  constructor
  · rintro ⟨other, member, same⟩
    obtain ⟨rfl, rfl⟩ := featureKey_inj.mp same
    exact ⟨rfl, member⟩
  · rintro ⟨rfl, member⟩
    exact ⟨feature, member, rfl⟩

/-- The tag of the kind is not a feature of any ranking. -/
theorem tag_not_ranked (opportunity : ScannedOpportunity) (kind : String) :
    "type:" ++ kind ∉ PipelineBot.opportunityFeatures opportunity := by
  intro member
  cases opportunity with
  | liquidation candidate =>
    simp only [PipelineBot.opportunityFeatures, List.mem_cons, List.not_mem_nil, or_false] at member
    rcases member with same | same | same <;> simpa using congrArg String.toList same
  | arbitrage candidate =>
    simp only [PipelineBot.opportunityFeatures, List.mem_cons, List.not_mem_nil, or_false] at member
    rcases member with same | same | same | same <;>
      simpa [Address.text] using congrArg String.toList same

/-- Nothing that an arbitrage is learned under is a feature of any ranking. -/
theorem arbitrage_not_ranked (candidate : ArbitrageScanner.ArbitrageOpportunity)
    (opportunity : ScannedOpportunity) {feature : String}
    (learned : feature ∈ PipelineOrchestrator.opportunityFeatures (.arbitrage candidate)) :
    feature ∉ PipelineBot.opportunityFeatures opportunity := by
  simp only [PipelineOrchestrator.opportunityFeatures, List.mem_cons, List.not_mem_nil,
    or_false] at learned
  intro member
  rcases learned with rfl | learned
  · exact tag_not_ranked opportunity "arbitrage" member
  cases opportunity with
  | liquidation other =>
    simp only [PipelineBot.opportunityFeatures, List.mem_cons, List.not_mem_nil, or_false] at member
    rcases learned with rfl | rfl | rfl <;> rcases member with same | same | same <;>
      simpa using congrArg String.toList same
  | arbitrage other =>
    simp only [PipelineBot.opportunityFeatures, List.mem_cons, List.not_mem_nil, or_false] at member
    rcases learned with rfl | rfl | rfl <;> rcases member with same | same | same | same <;>
      simpa [Address.text] using congrArg String.toList same

/-- Of a liquidation, the two assets are what is both learned and ranked by. -/
theorem liquidation_shared (candidate : LiquidationCandidate) (feature : String) :
    feature ∈ PipelineOrchestrator.opportunityFeatures (.liquidation candidate) ∧
        feature ∈ PipelineBot.opportunityFeatures (.liquidation candidate) ↔
      feature = "collateral:" ++ candidate.collateralAsset.toLowerCase.text ∨
        feature = "debt:" ++ candidate.debtAsset.toLowerCase.text := by
  constructor
  · rintro ⟨learned, ranked⟩
    simp only [PipelineOrchestrator.opportunityFeatures, List.mem_cons, List.not_mem_nil,
      or_false] at learned
    rcases learned with rfl | assets
    · exact absurd ranked (tag_not_ranked _ "liquidation")
    · exact assets
  · rintro (rfl | rfl) <;>
      simp [PipelineOrchestrator.opportunityFeatures, PipelineBot.opportunityFeatures]

theorem PipelineOrchestrator.opportunityFeatures_ne_nil (opportunity : ScannedOpportunity) :
    PipelineOrchestrator.opportunityFeatures opportunity ≠ [] := by
  cases opportunity <;> exact List.cons_ne_nil _ _

theorem PipelineBot.opportunityFeatures_ne_nil (opportunity : ScannedOpportunity) :
    PipelineBot.opportunityFeatures opportunity ≠ [] := by
  cases opportunity <;> exact List.cons_ne_nil _ _

/-! ## What is learned against what is ranked -/

namespace LearnedPlan

/-- The keys that an outcome of a plan is stored under. -/
def storedKeys (plan : LearnedPlan) (outcome : HazardOutcome) : List String :=
  let input := PipelineOrchestrator.learningOutcome plan outcome
  featureKeys input.chain input.features

/-- The keys that a plan is ranked by. -/
def scoredKeys (plan : LearnedPlan) : List String :=
  let input := PipelineBot.rankedInput plan
  featureKeys input.chain input.features

/-- An outcome is stored under the keys that its opportunity is ranked by. -/
def SameKeys (plan : LearnedPlan) (outcome : HazardOutcome) : Prop :=
  ∀ key, key ∈ plan.storedKeys outcome ↔ key ∈ plan.scoredKeys

/-- Recording an outcome changes the states of exactly those keys. -/
def ChangesScored (sqrt : ℚ → ℚ) (ranker : FtrlOpportunityRanker) (plan : LearnedPlan)
    (outcome : HazardOutcome) : Prop :=
  ∀ key, (ranker.recordOutcome sqrt (PipelineOrchestrator.learningOutcome plan
      outcome)).model.stateOf key ≠ ranker.model.stateOf key ↔ key ∈ plan.scoredKeys

/-- The tag of the kind is stored and never read. -/
theorem exists_stored_unscored (plan : LearnedPlan) (outcome : HazardOutcome) :
    ∃ key ∈ plan.storedKeys outcome, key ∉ plan.scoredKeys := by
  have kind : ∃ kind, "type:" ++ kind ∈
      PipelineOrchestrator.opportunityFeatures plan.opportunity := by
    cases plan.opportunity with
    | liquidation candidate => exact ⟨"liquidation", List.mem_cons_self⟩
    | arbitrage candidate => exact ⟨"arbitrage", List.mem_cons_self⟩
  obtain ⟨kind, learned⟩ := kind
  refine ⟨plan.chain.name ++ ":" ++ ("type:" ++ kind), ?_, ?_⟩
  · exact (featureKey_mem_iff (PipelineOrchestrator.opportunityFeatures_ne_nil _)).mpr ⟨rfl, learned⟩
  · intro ranked
    have member := ((featureKey_mem_iff (PipelineBot.opportunityFeatures_ne_nil _)).mp ranked).2
    exact tag_not_ranked plan.opportunity kind member

/-- No opportunity is ranked by the keys that its outcomes are stored under, and
no outcome changes exactly the states that its opportunity is ranked by. -/
theorem learned_apart (sqrt : ℚ → ℚ) (ranker : FtrlOpportunityRanker) (plan : LearnedPlan)
    (outcome : HazardOutcome) :
    ¬ plan.SameKeys outcome ∧ ¬ ChangesScored sqrt ranker plan outcome := by
  obtain ⟨key, stored, unscored⟩ := plan.exists_stored_unscored outcome
  constructor
  · intro same
    exact unscored ((same key).mp stored)
  · intro exact
    apply unscored
    apply (exact key).mp
    rw [FtrlOpportunityRanker.stateOf_recordOutcome_model]
    exact (ranker.model.stateOf_recordOutcome_ne_iff _ key).mpr stored

/-- A won arbitrage is stored under its dexes, and ranked by other spellings of
them. -/
theorem arbitrage_keys_apart :
    ¬ (⟨.base, .arbitrage ⟨.base, .custom 0, ⟨"a", ZERO_ADDRESS, none, none⟩,
        ⟨"b", ZERO_ADDRESS, none, none⟩, BASE_USDC, BASE_USDBC, 1, 1, 2, .none usd, .none usd,
        .none usd, .none usd, .none usd, .none usd, .aaveV3, 0⟩, .custom 0,
        ⟨.base, .custom 0, .none usd, .none usd, .none usd, .none usd, .none usd, .none usd,
          .none usd, 0⟩⟩ : LearnedPlan).SameKeys .won := by
  intro same
  have scored := (same "base:buyDex:a").mp (by decide +kernel)
  revert scored
  decide +kernel

/-- What is learned from an arbitrage changes no score, of whatever plan. -/
theorem score_after_arbitrage (sqrt : ℚ → ℚ) (ranker : FtrlOpportunityRanker)
    {plan : LearnedPlan} {candidate : ArbitrageScanner.ArbitrageOpportunity}
    (arbitrage : plan.opportunity = .arbitrage candidate) (outcome : HazardOutcome)
    (ranked : LearnedPlan) :
    ((ranker.recordOutcome sqrt (PipelineOrchestrator.learningOutcome plan outcome)).score sqrt
        (PipelineBot.rankedInput ranked)).1 =
      (ranker.score sqrt (PipelineBot.rankedInput ranked)).1 := by
  apply FtrlOpportunityRanker.score_recordOutcome
  intro key scored stored
  obtain ⟨feature, member, rfl⟩ : ∃ feature ∈ PipelineBot.opportunityFeatures ranked.opportunity,
      ranked.chain.name ++ ":" ++ feature = key := by
    simpa [featureKeys, PipelineBot.rankedInput, PipelineBot.opportunityFeatures_ne_nil]
      using scored
  have learned := ((featureKey_mem_iff
    (PipelineOrchestrator.opportunityFeatures_ne_nil _)).mp stored).2
  rw [arbitrage] at learned
  exact arbitrage_not_ranked candidate ranked.opportunity learned member

/-- An arbitrage between two dexes of one letter. -/
def lettersPlan : LearnedPlan :=
  ⟨.base, .arbitrage ⟨.base, .custom 0, ⟨"a", ZERO_ADDRESS, none, none⟩,
    ⟨"b", ZERO_ADDRESS, none, none⟩, BASE_USDC, BASE_USDBC, 1, 1, 2, .none usd, .none usd,
    .none usd, .none usd, .none usd, .none usd, .aaveV3, 0⟩, .custom 0,
    ⟨.base, .custom 0, .none usd, .none usd, .none usd, .none usd, .none usd, .none usd,
      .none usd, 0⟩⟩

/-- A new ranker scores it after a win as before. -/
theorem score_after_arbitrage_letters :
    (((FtrlOpportunityRanker.new {} (.new {})).recordOutcome Rat.sqrt
        (PipelineOrchestrator.learningOutcome lettersPlan .won)).score Rat.sqrt
        (PipelineBot.rankedInput lettersPlan)).1 =
      ((FtrlOpportunityRanker.new {} (.new {})).score Rat.sqrt
        (PipelineBot.rankedInput lettersPlan)).1 :=
  score_after_arbitrage Rat.sqrt _ rfl .won lettersPlan

end LearnedPlan

end LiquidationBot
