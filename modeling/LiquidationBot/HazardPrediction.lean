import LiquidationBot.Library.Averages
import LiquidationBot.Library.InsertionMap
import LiquidationBot.SafeTransactionExecutor
import Mathlib.Tactic.Ring

/-!
# What the bot learns about its opportunities

The hazard model counts successes and failures of each feature of a chain, and
keeps a weight for it. A prediction averages the success ratios and the weights
of the input's features, multiplies the two averages and clamps the product.

One more success raises the ratio and the weight of the features it is recorded
under, and one more failure lowers both. Averages, rounding and clamping keep
that order, so what is learned never turns a prediction the wrong way. The
figures before the roundings are exact here.
-/

namespace LiquidationBot

/-- `HazardOutcome`. -/
inductive HazardOutcome where
  | won
  | missed
  | reverted
  | lost_to_competitor
deriving DecidableEq

/-- `HazardPredictionInput`. -/
structure HazardPredictionInput where
  chain : SupportedChain
  opportunityId : OpportunityId
  features : List String
  expectedProfitBps : ℚ
deriving DecidableEq

/-- `HazardOutcomeInput`. -/
structure HazardOutcomeInput extends HazardPredictionInput where
  outcome : HazardOutcome
deriving DecidableEq

/-- `HazardPrediction`. -/
structure HazardPrediction where
  opportunityId : OpportunityId
  successProbabilityBps : ℤ
  hazardBps : ℤ
  utilityScore : ℤ
deriving DecidableEq

/-- `BayesianHazardModelConfig`, with its defaults. Priors that leave a ratio
undefined, and a negative rate, are excluded. -/
structure BayesianHazardModelConfig where
  priorSuccesses : ℚ := 1
  priorFailures : ℚ := 1
  learningRateBps : ℚ := 1000
  priorSuccesses_nonneg : 0 ≤ priorSuccesses := by norm_num
  priorFailures_nonneg : 0 ≤ priorFailures := by norm_num
  priors_pos : 0 < priorSuccesses + priorFailures := by norm_num
  learningRateBps_nonneg : 0 ≤ learningRateBps := by norm_num

/-- `FeatureState`. -/
structure FeatureState where
  successes : ℚ
  failures : ℚ
  weightBps : ℚ
deriving DecidableEq

/-- A chain as the keys of the learners spell it. -/
def SupportedChain.name : SupportedChain → String
  | .optimism => "optimism"
  | .arbitrum => "arbitrum"
  | .base => "base"

/-- `featureKeys`, which the two learners have a copy of each. -/
def featureKeys (chain : SupportedChain) (features : List String) : List String :=
  let scopedFeatures := if features = [] then ["global"] else features
  scopedFeatures.map (fun feature => chain.name ++ ":" ++ feature)

theorem featureKeys_ne_nil (chain : SupportedChain) (features : List String) :
    featureKeys chain features ≠ [] := by
  cases features with
  | nil => simp [featureKeys]
  | cons feature rest => simp [featureKeys]

/-- `bpsDenominator`. -/
def bpsDenominator : ℚ := 10000

namespace FeatureState

/-- `featureSuccessBps`. -/
def featureSuccessBps (state : FeatureState) : ℚ :=
  state.successes * bpsDenominator / (state.successes + state.failures)

/-- The assignments of `recordOutcome` to the state of one feature. -/
def observed (config : BayesianHazardModelConfig) (outcome : HazardOutcome)
    (state : FeatureState) : FeatureState :=
  if outcome = .won then
    { state with
      successes := state.successes + 1
      weightBps := min 15000 (state.weightBps + config.learningRateBps) }
  else
    { state with
      failures := state.failures + 1
      weightBps := max 1000 (state.weightBps - config.learningRateBps) }

/-- What every state of a feature satisfies. -/
structure Sound (state : FeatureState) : Prop where
  successes : 0 ≤ state.successes
  failures : 0 ≤ state.failures
  counted : 0 < state.successes + state.failures
  atLeast : 1000 ≤ state.weightBps
  atMost : state.weightBps ≤ 15000

/-- One state promises no more than another. -/
structure NoBetter (left right : FeatureState) : Prop where
  ratio : left.featureSuccessBps ≤ right.featureSuccessBps
  weight : left.weightBps ≤ right.weightBps

theorem NoBetter.refl (state : FeatureState) : NoBetter state state := ⟨le_refl _, le_refl _⟩

theorem NoBetter.trans {first second third : FeatureState} (left : NoBetter first second)
    (right : NoBetter second third) : NoBetter first third :=
  ⟨left.ratio.trans right.ratio, left.weight.trans right.weight⟩

variable {config : BayesianHazardModelConfig} {outcome : HazardOutcome} {state : FeatureState}

theorem Sound.observed (sound : state.Sound) : (state.observed config outcome).Sound := by
  obtain ⟨successes, failures, counted, atLeast, atMost⟩ := sound
  have rate : 0 ≤ config.learningRateBps := config.learningRateBps_nonneg
  unfold FeatureState.observed
  split
  · constructor
    · exact add_nonneg successes zero_le_one
    · exact failures
    · show 0 < state.successes + 1 + state.failures
      linarith
    · exact le_min (by norm_num) (by linarith)
    · exact min_le_left _ _
  · constructor
    · exact successes
    · exact add_nonneg failures zero_le_one
    · show 0 < state.successes + (state.failures + 1)
      linarith
    · exact le_max_left _ _
    · exact max_le (by norm_num) (by linarith)

theorem Sound.ratio_nonneg (sound : state.Sound) : 0 ≤ state.featureSuccessBps :=
  div_nonneg (mul_nonneg sound.successes (by norm_num [bpsDenominator])) sound.counted.le

/-- A success raises the ratio and the weight. -/
theorem Sound.le_observed_won (sound : state.Sound) :
    NoBetter state (state.observed config .won) := by
  obtain ⟨successes, failures, counted, atLeast, atMost⟩ := sound
  have rate : 0 ≤ config.learningRateBps := config.learningRateBps_nonneg
  constructor
  · show state.successes * bpsDenominator / (state.successes + state.failures) ≤
      (state.successes + 1) * bpsDenominator / (state.successes + 1 + state.failures)
    unfold bpsDenominator
    rw [div_le_div_iff₀ counted (by linarith)]
    linarith
  · exact le_min atMost (by linarith)

/-- Any other outcome lowers the ratio and the weight. -/
theorem Sound.observed_le (sound : state.Sound) (other : outcome ≠ .won) :
    NoBetter (state.observed config outcome) state := by
  obtain ⟨successes, failures, counted, atLeast, atMost⟩ := sound
  have rate : 0 ≤ config.learningRateBps := config.learningRateBps_nonneg
  have nonneg : 0 ≤ state.successes * state.failures := mul_nonneg successes failures
  unfold FeatureState.observed
  rw [if_neg other]
  constructor
  · show state.successes * bpsDenominator / (state.successes + (state.failures + 1)) ≤
      state.successes * bpsDenominator / (state.successes + state.failures)
    unfold bpsDenominator
    rw [div_le_div_iff₀ (by linarith) counted]
    linarith
  · exact max_le atLeast (by linarith)

end FeatureState

/-- `BayesianHazardModel`. -/
structure BayesianHazardModel where
  config : BayesianHazardModelConfig
  featureStates : InsertionMap String FeatureState

namespace BayesianHazardModel

/-- `created` of `stateFor`. -/
def created (config : BayesianHazardModelConfig) : FeatureState :=
  ⟨config.priorSuccesses, config.priorFailures, bpsDenominator⟩

/-- `new BayesianHazardModel(config)`. -/
def new (config : BayesianHazardModelConfig) : BayesianHazardModel := ⟨config, .empty⟩

/-- `stateFor`: the state of a key, created if there is none. -/
def stateFor (model : BayesianHazardModel) (feature : String) :
    FeatureState × BayesianHazardModel :=
  match model.featureStates.get? feature with
  | some existing => (existing, model)
  | none =>
      (created model.config,
        { model with featureStates := model.featureStates.set feature (created model.config) })

/-- The states of keys, one after the other. -/
def statesOf (model : BayesianHazardModel) : List String → List FeatureState × BayesianHazardModel
  | [] => ([], model)
  | key :: keys =>
      let (state, model) := model.stateFor key
      let (states, model) := model.statesOf keys
      (state :: states, model)

/-- `statesFor`. -/
def statesFor (model : BayesianHazardModel) (chain : SupportedChain) (features : List String) :
    List FeatureState × BayesianHazardModel :=
  model.statesOf (featureKeys chain features)

/-- `adjustedSuccessBps` of `predict`, from the states of the features. -/
def adjustedSuccessBps (states : List FeatureState) : ℚ :=
  let successProbabilityBps := mathRound (mean (states.map FeatureState.featureSuccessBps))
  let weightBps := mathRound (mean (states.map FeatureState.weightBps))
  clamp 0 bpsDenominator (successProbabilityBps * weightBps / bpsDenominator)

/-- `predict`, which creates the states that it misses. -/
def predict (model : BayesianHazardModel) (input : HazardPredictionInput) :
    HazardPrediction × BayesianHazardModel :=
  let (states, model) := model.statesFor input.chain input.features
  let adjusted := adjustedSuccessBps states
  ({ opportunityId := input.opportunityId
     successProbabilityBps := mathRound adjusted
     hazardBps := mathRound (bpsDenominator - adjusted)
     utilityScore := mathRound (input.expectedProfitBps * adjusted / bpsDenominator) }, model)

/-- The body of the loop of `recordOutcome`. -/
def recordAt (outcome : HazardOutcome) (model : BayesianHazardModel) (feature : String) :
    BayesianHazardModel :=
  let (state, model) := model.stateFor feature
  { model with
    featureStates := model.featureStates.set feature (state.observed model.config outcome) }

/-- `recordOutcome`. -/
def recordOutcome (model : BayesianHazardModel) (input : HazardOutcomeInput) :
    BayesianHazardModel :=
  (featureKeys input.chain input.features).foldl (recordAt input.outcome) model

/-! ## The states that a model stands for -/

/-- The state of a key, or the one it would be created with. -/
def stateOf (model : BayesianHazardModel) (key : String) : FeatureState :=
  (model.featureStates.get? key).getD (created model.config)

variable (model : BayesianHazardModel)

@[simp] theorem stateOf_new (config : BayesianHazardModelConfig) (key : String) :
    (new config).stateOf key = created config := rfl

@[simp] theorem stateFor_fst (key : String) : (model.stateFor key).1 = model.stateOf key := by
  unfold stateFor stateOf
  split <;> simp [*]

@[simp] theorem stateFor_config (key : String) :
    (model.stateFor key).2.config = model.config := by
  unfold stateFor
  split <;> rfl

/-- Creating a state changes nothing that is read. -/
@[simp] theorem stateOf_stateFor (key : String) :
    (model.stateFor key).2.stateOf = model.stateOf := by
  funext tested
  unfold stateFor
  split
  next => rfl
  next absent => exact InsertionMap.getD_set_default _ absent tested

@[simp] theorem statesOf_config (keys : List String) :
    (model.statesOf keys).2.config = model.config := by
  induction keys generalizing model with
  | nil => rfl
  | cons key keys inductionHypothesis =>
    simp only [statesOf, inductionHypothesis, stateFor_config]

@[simp] theorem stateOf_statesOf (keys : List String) :
    (model.statesOf keys).2.stateOf = model.stateOf := by
  induction keys generalizing model with
  | nil => rfl
  | cons key keys inductionHypothesis =>
    simp only [statesOf, inductionHypothesis, stateOf_stateFor]

@[simp] theorem statesOf_fst (keys : List String) :
    (model.statesOf keys).1 = keys.map model.stateOf := by
  induction keys generalizing model with
  | nil => rfl
  | cons key keys inductionHypothesis =>
    simp only [statesOf, inductionHypothesis, stateFor_fst, stateOf_stateFor, List.map_cons]

/-- What is predicted for an input: a function of the states of its features. -/
def successBps (input : HazardPredictionInput) : ℤ :=
  mathRound (adjustedSuccessBps ((featureKeys input.chain input.features).map model.stateOf))

@[simp] theorem predict_successProbabilityBps (input : HazardPredictionInput) :
    (model.predict input).1.successProbabilityBps = model.successBps input := by
  simp only [predict, statesFor, successBps, statesOf_fst]

@[simp] theorem stateOf_predict (input : HazardPredictionInput) :
    (model.predict input).2.stateOf = model.stateOf := by
  simp only [predict, statesFor, stateOf_statesOf]

@[simp] theorem predict_config (input : HazardPredictionInput) :
    (model.predict input).2.config = model.config := by
  simp only [predict, statesFor, statesOf_config]

@[simp] theorem recordAt_config (outcome : HazardOutcome) (key : String) :
    (model.recordAt outcome key).config = model.config := by
  simp only [recordAt, stateFor_config]

/-- Recording under one key changes the state of that key only. -/
theorem stateOf_recordAt (outcome : HazardOutcome) (key tested : String) :
    (model.recordAt outcome key).stateOf tested =
      if tested = key then (model.stateOf key).observed model.config outcome
      else model.stateOf tested := by
  by_cases same : tested = key
  · subst same
    simp [recordAt, stateOf]
  · have read : (model.stateFor key).2.stateOf tested = model.stateOf tested := by
      rw [stateOf_stateFor]
    rw [if_neg same, ← read]
    simp [recordAt, stateOf, InsertionMap.get?_set_other _ _ same]

/-! ## Soundness -/

/-- Every state is sound, those not created yet included. -/
def Sound : Prop := ∀ key, (model.stateOf key).Sound

variable {model}

theorem sound_new (config : BayesianHazardModelConfig) : (new config).Sound := by
  intro key
  constructor
  · exact config.priorSuccesses_nonneg
  · exact config.priorFailures_nonneg
  · exact config.priors_pos
  · norm_num [created, bpsDenominator]
  · norm_num [created, bpsDenominator]

theorem Sound.predict (sound : model.Sound) (input : HazardPredictionInput) :
    (model.predict input).2.Sound := by
  intro key
  rw [stateOf_predict]
  exact sound key

theorem Sound.recordAt (sound : model.Sound) (outcome : HazardOutcome) (key : String) :
    (model.recordAt outcome key).Sound := by
  intro tested
  rw [stateOf_recordAt]
  split
  · exact (sound key).observed
  · exact sound tested

theorem Sound.foldl_recordAt (outcome : HazardOutcome) (keys : List String)
    (sound : model.Sound) : (keys.foldl (BayesianHazardModel.recordAt outcome) model).Sound := by
  induction keys generalizing model with
  | nil => exact sound
  | cons key keys inductionHypothesis => exact inductionHypothesis (sound.recordAt outcome key)

theorem Sound.recordOutcome (sound : model.Sound) (input : HazardOutcomeInput) :
    (model.recordOutcome input).Sound := sound.foldl_recordAt _ _

/-! ## The order of models -/

/-- One model promises no more than another, whatever the features. -/
def NoBetter (left right : BayesianHazardModel) : Prop :=
  ∀ key, (left.stateOf key).NoBetter (right.stateOf key)

theorem NoBetter.trans {first second third : BayesianHazardModel} (left : first.NoBetter second)
    (right : second.NoBetter third) : first.NoBetter third :=
  fun key => (left key).trans (right key)

theorem Sound.le_recordAt_won (sound : model.Sound) (key : String) :
    model.NoBetter (model.recordAt .won key) := by
  intro tested
  rw [stateOf_recordAt]
  split
  · rename_i same
    rw [same]
    exact (sound key).le_observed_won
  · exact .refl _

theorem Sound.recordAt_le {outcome : HazardOutcome} (other : outcome ≠ .won)
    (sound : model.Sound) (key : String) : (model.recordAt outcome key).NoBetter model := by
  intro tested
  rw [stateOf_recordAt]
  split
  · rename_i same
    rw [same]
    exact (sound key).observed_le other
  · exact .refl _

/-- A recorded success raises every state, however often a feature is repeated. -/
theorem Sound.le_foldl_won (keys : List String) (sound : model.Sound) :
    model.NoBetter (keys.foldl (BayesianHazardModel.recordAt .won) model) := by
  induction keys generalizing model with
  | nil => exact fun key => .refl _
  | cons key keys inductionHypothesis =>
    exact (sound.le_recordAt_won key).trans (inductionHypothesis (sound.recordAt .won key))

theorem Sound.foldl_le {outcome : HazardOutcome} (other : outcome ≠ .won) (keys : List String)
    (sound : model.Sound) :
    (keys.foldl (BayesianHazardModel.recordAt outcome) model).NoBetter model := by
  induction keys generalizing model with
  | nil => exact fun key => .refl _
  | cons key keys inductionHypothesis =>
    exact (inductionHypothesis (sound.recordAt outcome key)).trans (sound.recordAt_le other key)

/-! ## The order of predictions -/

theorem adjustedSuccessBps_mem (states : List FeatureState) :
    0 ≤ adjustedSuccessBps states ∧ adjustedSuccessBps states ≤ 10000 := by
  constructor
  · exact le_clamp _ _ _
  · exact clamp_le (by norm_num [bpsDenominator]) _

/-- A prediction is a share of ten thousand. -/
theorem successBps_mem (model : BayesianHazardModel) (input : HazardPredictionInput) :
    0 ≤ model.successBps input ∧ model.successBps input ≤ 10000 := by
  obtain ⟨above, below⟩ := adjustedSuccessBps_mem
    ((featureKeys input.chain input.features).map model.stateOf)
  exact mathRound_mem (by exact_mod_cast above) (by exact_mod_cast below)

/-- The product of the two rounded averages keeps their order, since neither is
negative. -/
theorem adjustedSuccessBps_le {left right : String → FeatureState} {keys : List String}
    (nonempty : keys ≠ []) (sound : ∀ key ∈ keys, (left key).Sound)
    (order : ∀ key ∈ keys, (left key).NoBetter (right key)) :
    adjustedSuccessBps (keys.map left) ≤ adjustedSuccessBps (keys.map right) := by
  unfold adjustedSuccessBps
  simp only [List.map_map]
  have ratioNonneg : 0 ≤ mean (keys.map (FeatureState.featureSuccessBps ∘ left)) :=
    le_mean nonempty (fun key member => (sound key member).ratio_nonneg)
  have weightNonneg : 0 ≤ mean (keys.map (FeatureState.weightBps ∘ left)) :=
    le_mean nonempty (fun key member => le_trans (by norm_num) (sound key member).atLeast)
  have ratios := mathRound_le_mathRound (mean_le_mean
    (fun key member => (order key member).ratio : ∀ key ∈ keys,
      (FeatureState.featureSuccessBps ∘ left) key ≤ (FeatureState.featureSuccessBps ∘ right) key))
  have weights := mathRound_le_mathRound (mean_le_mean
    (fun key member => (order key member).weight : ∀ key ∈ keys,
      (FeatureState.weightBps ∘ left) key ≤ (FeatureState.weightBps ∘ right) key))
  apply clamp_le_clamp
  apply div_le_div_of_nonneg_right _ (by norm_num [bpsDenominator])
  exact_mod_cast mul_le_mul ratios weights (mathRound_nonneg weightNonneg)
    ((mathRound_nonneg ratioNonneg).trans ratios)

theorem NoBetter.successBps_le {left right : BayesianHazardModel} (order : left.NoBetter right)
    (sound : left.Sound) (input : HazardPredictionInput) :
    left.successBps input ≤ right.successBps input :=
  mathRound_le_mathRound (adjustedSuccessBps_le (featureKeys_ne_nil _ _)
    (fun key _ => sound key) (fun key _ => order key))

theorem Sound.successBps_le_won (sound : model.Sound) {recorded : HazardOutcomeInput}
    (won : recorded.outcome = .won) (input : HazardPredictionInput) :
    model.successBps input ≤ (model.recordOutcome recorded).successBps input := by
  unfold BayesianHazardModel.recordOutcome
  rw [won]
  exact (sound.le_foldl_won _).successBps_le sound input

theorem Sound.successBps_le_other (sound : model.Sound) {recorded : HazardOutcomeInput}
    (other : recorded.outcome ≠ .won) (input : HazardPredictionInput) :
    (model.recordOutcome recorded).successBps input ≤ model.successBps input :=
  (sound.foldl_le other _).successBps_le (sound.recordOutcome recorded) input

/-! ## Runs -/

/-- A call of the model. -/
inductive HazardCall where
  | predict (input : HazardPredictionInput)
  | recordOutcome (input : HazardOutcomeInput)
deriving DecidableEq

def call (model : BayesianHazardModel) : HazardCall → BayesianHazardModel
  | .predict input => (model.predict input).2
  | .recordOutcome input => model.recordOutcome input

/-- A new model after calls. -/
def after (config : BayesianHazardModelConfig) (calls : List HazardCall) : BayesianHazardModel :=
  calls.foldl call (new config)

theorem Sound.call (sound : model.Sound) (made : HazardCall) : (model.call made).Sound := by
  cases made with
  | predict input => exact sound.predict input
  | recordOutcome input => exact sound.recordOutcome input

theorem Sound.foldl_call (calls : List HazardCall) (sound : model.Sound) :
    (calls.foldl BayesianHazardModel.call model).Sound := by
  induction calls generalizing model with
  | nil => exact sound
  | cons made calls inductionHypothesis => exact inductionHypothesis (sound.call made)

theorem sound_after (config : BayesianHazardModelConfig) (calls : List HazardCall) :
    (after config calls).Sound := (sound_new config).foldl_call calls

/-- Learning is monotone. After any calls the weights and the predictions are in
their ranges, a success lowers no prediction, and no other outcome raises one. -/
theorem learning_monotone (config : BayesianHazardModelConfig) (calls : List HazardCall) :
    (∀ key state, (after config calls).featureStates.get? key = some state →
      1000 ≤ state.weightBps ∧ state.weightBps ≤ 15000) ∧
    (∀ input, 0 ≤ ((after config calls).predict input).1.successProbabilityBps ∧
      ((after config calls).predict input).1.successProbabilityBps ≤ 10000) ∧
    (∀ (recorded : HazardOutcomeInput) (input : HazardPredictionInput), recorded.outcome = .won →
      ((after config calls).predict input).1.successProbabilityBps ≤
        (((after config calls).recordOutcome recorded).predict input).1.successProbabilityBps) ∧
    (∀ (recorded : HazardOutcomeInput) (input : HazardPredictionInput), recorded.outcome ≠ .won →
      (((after config calls).recordOutcome recorded).predict input).1.successProbabilityBps ≤
        ((after config calls).predict input).1.successProbabilityBps) := by
  have sound : (after config calls).Sound := sound_after config calls
  simp only [predict_successProbabilityBps]
  refine ⟨?_, successBps_mem _, ?_, ?_⟩
  · intro key state found
    have read : (after config calls).stateOf key = state := by simp [stateOf, found]
    rw [← read]
    exact ⟨(sound key).atLeast, (sound key).atMost⟩
  · intro recorded input won
    exact sound.successBps_le_won won input
  · intro recorded input other
    exact sound.successBps_le_other other input

end BayesianHazardModel

end LiquidationBot
