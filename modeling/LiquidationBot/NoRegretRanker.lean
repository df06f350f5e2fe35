import LiquidationBot.HazardPrediction

/-!
# The ranker that learns online

The ranker shares the hazard model. One call records an outcome in the model
first and then scores a prediction for the same input against that outcome, so
the prediction has already seen what it is scored against.

A success raises the prediction and any other outcome lowers it. The scored
prediction is therefore the one from before the outcome exactly where the counts
behind the input's features are so large that one more success and one more
failure of each occurrence round to the same probability. The square root is the
language's own; its rounding is left open, since no regret depends on it.
-/

namespace LiquidationBot

/-- `outcomeReward`. -/
def outcomeReward (outcome : HazardOutcome) : ℚ :=
  if outcome = .won then 1 else if outcome = .missed then 2 / 5 else 0

/-- `NoRegretOpportunityRankerConfig`, without the model. -/
structure NoRegretOpportunityRankerConfig where
  alpha : ℚ := 1 / 2
  beta : ℚ := 1
  l2Regularization : ℚ := 1

/-- `FtrlState`. -/
structure FtrlState where
  n : ℚ
  z : ℚ
deriving DecidableEq

/-- `FtrlOpportunityRanker`, with the model that it shares. -/
structure FtrlOpportunityRanker where
  config : NoRegretOpportunityRankerConfig
  model : BayesianHazardModel
  states : InsertionMap String FtrlState
  cumulativeRegret : ℚ

namespace FtrlOpportunityRanker

variable (sqrt : ℚ → ℚ)

/-- `new FtrlOpportunityRanker(config)`. -/
def new (config : NoRegretOpportunityRankerConfig) (model : BayesianHazardModel) :
    FtrlOpportunityRanker := ⟨config, model, .empty, 0⟩

/-- `stateFor`: the state of a key, created if there is none. -/
def stateFor (ranker : FtrlOpportunityRanker) (feature : String) :
    FtrlState × FtrlOpportunityRanker :=
  match ranker.states.get? feature with
  | some existing => (existing, ranker)
  | none => (⟨0, 0⟩, { ranker with states := ranker.states.set feature ⟨0, 0⟩ })

/-- `weightFor`. -/
def weightFor (config : NoRegretOpportunityRankerConfig) (state : FtrlState) : ℚ :=
  if |state.z| ≤ config.l2Regularization then 0
  else
    let signed : ℚ := if state.z < 0 then -1 else 1
    let scale := (config.beta + sqrt state.n) / config.alpha + config.l2Regularization
    Neg.neg ((state.z - signed * config.l2Regularization) / scale)

/-- `probability`. -/
def probability (ranker : FtrlOpportunityRanker) (input : HazardPredictionInput) :
    ℚ × FtrlOpportunityRanker :=
  let (prediction, model) := ranker.model.predict input
  (clamp 0 1 (prediction.successProbabilityBps / bpsDenominator), { ranker with model := model })

/-- The body of the loop of `observe`. -/
def observeAt (prediction reward : ℚ) (ranker : FtrlOpportunityRanker) (feature : String) :
    FtrlOpportunityRanker :=
  let (state, ranker) := ranker.stateFor feature
  let gradient := prediction - reward
  let sigma := (sqrt (state.n + gradient * gradient) - sqrt state.n) / ranker.config.alpha
  let weight := weightFor sqrt ranker.config state
  { ranker with
    states := ranker.states.set feature
      ⟨state.n + gradient * gradient, state.z + (gradient - sigma * weight)⟩ }

/-- `observe`. -/
def observe (ranker : FtrlOpportunityRanker) (input : HazardOutcomeInput) :
    FtrlOpportunityRanker :=
  let reward := outcomeReward input.outcome
  let (prediction, ranker) := ranker.probability input.toHazardPredictionInput
  let ranker :=
    { ranker with cumulativeRegret := ranker.cumulativeRegret + |reward - prediction| }
  (featureKeys input.chain input.features).foldl (observeAt sqrt prediction reward) ranker

/-- The sum of the weights of keys, whose states are created. -/
def sumWeights (ranker : FtrlOpportunityRanker) : List String → ℚ × FtrlOpportunityRanker
  | [] => (0, ranker)
  | key :: keys =>
      let (state, created) := ranker.stateFor key
      let (rest, created) := created.sumWeights keys
      (weightFor sqrt ranker.config state + rest, created)

/-- `score`. -/
def score (ranker : FtrlOpportunityRanker) (input : HazardPredictionInput) :
    ℚ × FtrlOpportunityRanker :=
  let (prediction, model) := ranker.model.predict input
  let (ftrlWeight, ranker) :=
    ({ ranker with model := model } : FtrlOpportunityRanker).sumWeights sqrt
      (featureKeys input.chain input.features)
  (prediction.utilityScore + ftrlWeight * input.expectedProfitBps, ranker)

/-- `NoRegretOpportunityRanker.recordOutcome`: the model learns before the
prediction is made. -/
def recordOutcome (ranker : FtrlOpportunityRanker) (input : HazardOutcomeInput) :
    FtrlOpportunityRanker :=
  ({ ranker with model := ranker.model.recordOutcome input } : FtrlOpportunityRanker).observe
    sqrt input

/-! ## What a step reads and writes -/

/-- The state of a key, or the one it would be created with. -/
def stateOf (ranker : FtrlOpportunityRanker) (key : String) : FtrlState :=
  (ranker.states.get? key).getD ⟨0, 0⟩

variable (ranker : FtrlOpportunityRanker)

@[simp] theorem stateFor_fst (key : String) : (ranker.stateFor key).1 = ranker.stateOf key := by
  unfold stateFor stateOf
  split <;> simp [*]

@[simp] theorem stateFor_config (key : String) :
    (ranker.stateFor key).2.config = ranker.config := by
  unfold stateFor
  split <;> rfl

@[simp] theorem stateFor_model (key : String) : (ranker.stateFor key).2.model = ranker.model := by
  unfold stateFor
  split <;> rfl

@[simp] theorem stateFor_cumulativeRegret (key : String) :
    (ranker.stateFor key).2.cumulativeRegret = ranker.cumulativeRegret := by
  unfold stateFor
  split <;> rfl

/-- Descending along the gradients leaves the model and the regret alone. -/
theorem foldl_observeAt (prediction reward : ℚ) (keys : List String) :
    (keys.foldl (observeAt sqrt prediction reward) ranker).model = ranker.model ∧
      (keys.foldl (observeAt sqrt prediction reward) ranker).cumulativeRegret =
        ranker.cumulativeRegret := by
  induction keys generalizing ranker with
  | nil => exact ⟨rfl, rfl⟩
  | cons key keys inductionHypothesis =>
    have rest := inductionHypothesis (ranker.observeAt sqrt prediction reward key)
    constructor
    · rw [List.foldl_cons, rest.1]
      simp only [observeAt, stateFor_model]
    · rw [List.foldl_cons, rest.2]
      simp only [observeAt, stateFor_cumulativeRegret]

/-- The prediction that `recordOutcome` scores against its outcome. -/
def scoredPrediction (input : HazardOutcomeInput) : ℚ :=
  (({ ranker with model := ranker.model.recordOutcome input } : FtrlOpportunityRanker).probability
    input.toHazardPredictionInput).1

theorem recordOutcome_cumulativeRegret (input : HazardOutcomeInput) :
    (ranker.recordOutcome sqrt input).cumulativeRegret = ranker.cumulativeRegret +
      |outcomeReward input.outcome - ranker.scoredPrediction input| := by
  unfold recordOutcome observe
  rw [(foldl_observeAt sqrt _ _ _ _).2]
  rfl

/-- The model after a step differs from the model that records the outcome in
created states at most. -/
theorem stateOf_recordOutcome_model (input : HazardOutcomeInput) :
    (ranker.recordOutcome sqrt input).model.stateOf =
      (ranker.model.recordOutcome input).stateOf := by
  unfold recordOutcome observe
  rw [(foldl_observeAt sqrt _ _ _ _).1]
  simp only [probability, BayesianHazardModel.stateOf_predict]

end FtrlOpportunityRanker

/-! ## What recording an outcome leaves in the model -/

namespace FeatureState

variable {config : BayesianHazardModelConfig} {outcome : HazardOutcome} {state : FeatureState}

/-- A state after several outcomes of one kind. -/
def repeated (config : BayesianHazardModelConfig) (outcome : HazardOutcome) (times : ℕ)
    (state : FeatureState) : FeatureState :=
  if outcome = .won then
    ⟨state.successes + times, state.failures,
      min 15000 (state.weightBps + times * config.learningRateBps)⟩
  else
    ⟨state.successes, state.failures + times,
      max 1000 (state.weightBps - times * config.learningRateBps)⟩

/-- A weight that has reached its bound stays there, so the bound may be applied
once. -/
theorem Sound.iterate_observed (sound : state.Sound) (times : ℕ) :
    (FeatureState.observed config outcome)^[times] state = state.repeated config outcome times := by
  have rate : 0 ≤ config.learningRateBps := config.learningRateBps_nonneg
  induction times with
  | zero =>
    have atLeast : 1000 ≤ state.weightBps := sound.atLeast
    have atMost : state.weightBps ≤ 15000 := sound.atMost
    unfold repeated
    split <;> simp [atLeast, atMost]
  | succ times inductionHypothesis =>
    rw [Function.iterate_succ_apply', inductionHypothesis]
    unfold repeated FeatureState.observed
    split
    · have capped : min 15000 (min 15000 (state.weightBps + times * config.learningRateBps) +
          config.learningRateBps) =
          min 15000 (state.weightBps + (times + 1) * config.learningRateBps) := by
        rcases le_total 15000 (state.weightBps + times * config.learningRateBps) with reached | below
        · rw [min_eq_left reached, min_eq_left (by linarith), min_eq_left (by linarith)]
        · rw [min_eq_right below]
          ring_nf
      simp only [capped, Nat.cast_add, Nat.cast_one, add_assoc]
    · have floored : max 1000 (max 1000 (state.weightBps - times * config.learningRateBps) -
          config.learningRateBps) =
          max 1000 (state.weightBps - (times + 1) * config.learningRateBps) := by
        rcases le_total (state.weightBps - times * config.learningRateBps) 1000 with reached | above
        · rw [max_eq_left reached, max_eq_left (by linarith), max_eq_left (by linarith)]
        · rw [max_eq_right above]
          ring_nf
      simp only [floored, Nat.cast_add, Nat.cast_one, add_assoc]

end FeatureState

namespace BayesianHazardModel

variable {model : BayesianHazardModel}

/-- Recording under keys changes a state once for each occurrence of its key. -/
theorem stateOf_foldl_recordAt (outcome : HazardOutcome) (keys : List String)
    (model : BayesianHazardModel) (tested : String) :
    (keys.foldl (recordAt outcome) model).stateOf tested =
      (FeatureState.observed model.config outcome)^[keys.count tested] (model.stateOf tested) := by
  induction keys generalizing model with
  | nil => rfl
  | cons key keys inductionHypothesis =>
    rw [List.foldl_cons, inductionHypothesis, recordAt_config, stateOf_recordAt]
    by_cases same : tested = key
    · subst same
      rw [if_pos rfl, List.count_cons_self, Function.iterate_succ_apply]
    · rw [if_neg same, List.count_cons_of_ne (Ne.symm same)]

@[simp] theorem foldl_recordAt_config (outcome : HazardOutcome) (keys : List String)
    (model : BayesianHazardModel) :
    (keys.foldl (recordAt outcome) model).config = model.config := by
  induction keys generalizing model with
  | nil => rfl
  | cons key keys inductionHypothesis =>
    rw [List.foldl_cons, inductionHypothesis, recordAt_config]

/-- The prediction for an input after an outcome of its own, from the counts
before. -/
def foreseenBps (model : BayesianHazardModel) (outcome : HazardOutcome)
    (input : HazardPredictionInput) : ℤ :=
  let keys := featureKeys input.chain input.features
  mathRound (adjustedSuccessBps (keys.map (fun key =>
    (model.stateOf key).repeated model.config outcome (keys.count key))))

theorem Sound.successBps_recordOutcome (sound : model.Sound) (recorded : HazardOutcomeInput) :
    (model.recordOutcome recorded).successBps recorded.toHazardPredictionInput =
      model.foreseenBps recorded.outcome recorded.toHazardPredictionInput := by
  unfold successBps foreseenBps BayesianHazardModel.recordOutcome
  congr 2
  apply List.map_congr_left
  intro key _
  rw [stateOf_foldl_recordAt, (sound key).iterate_observed]

/-- The counts behind an input are so large that a success and a failure of all
its features round to the same prediction. -/
def Settled (model : BayesianHazardModel) (input : HazardPredictionInput) : Prop :=
  model.foreseenBps .won input = model.foreseenBps .reverted input

/-- All outcomes but a success are recorded in the same way. -/
theorem foreseenBps_other {outcome : HazardOutcome} (other : outcome ≠ .won)
    (model : BayesianHazardModel) (input : HazardPredictionInput) :
    model.foreseenBps outcome input = model.foreseenBps .reverted input := by
  simp [foreseenBps, FeatureState.repeated, other]

/-- Where a success and a failure lead to the same prediction, it is the one from
before: the first does not lower it and the second does not raise it. -/
theorem Sound.foreseenBps_of_settled (sound : model.Sound) {input : HazardPredictionInput}
    (settled : model.Settled input) (outcome : HazardOutcome) :
    model.foreseenBps outcome input = model.successBps input := by
  have above : model.successBps input ≤ model.foreseenBps .won input := by
    rw [← sound.successBps_recordOutcome ⟨input, .won⟩]
    exact sound.successBps_le_won rfl input
  have below : model.foreseenBps .reverted input ≤ model.successBps input := by
    rw [← sound.successBps_recordOutcome ⟨input, .reverted⟩]
    apply sound.successBps_le_other
    simp only [ne_eq, reduceCtorEq, not_false_eq_true]
  unfold Settled at settled
  by_cases won : outcome = .won
  · subst won
    omega
  · rw [foreseenBps_other won]
    omega

/-- Two models with the same configuration and the same states. -/
structure Same (left right : BayesianHazardModel) : Prop where
  config : left.config = right.config
  stateOf : left.stateOf = right.stateOf

theorem Same.successBps {left right : BayesianHazardModel} (same : left.Same right)
    (input : HazardPredictionInput) : left.successBps input = right.successBps input := by
  unfold BayesianHazardModel.successBps
  rw [same.stateOf]

theorem Same.foreseenBps {left right : BayesianHazardModel} (same : left.Same right)
    (outcome : HazardOutcome) (input : HazardPredictionInput) :
    left.foreseenBps outcome input = right.foreseenBps outcome input := by
  unfold BayesianHazardModel.foreseenBps
  rw [same.stateOf, same.config]

theorem Same.sound {left right : BayesianHazardModel} (same : left.Same right)
    (sound : right.Sound) : left.Sound := by
  intro key
  rw [same.stateOf]
  exact sound key

theorem Same.recordOutcome {left right : BayesianHazardModel} (same : left.Same right)
    (recorded : HazardOutcomeInput) :
    (left.recordOutcome recorded).Same (right.recordOutcome recorded) := by
  unfold BayesianHazardModel.recordOutcome
  constructor
  · rw [foldl_recordAt_config, foldl_recordAt_config, same.config]
  · funext key
    rw [stateOf_foldl_recordAt, stateOf_foldl_recordAt, same.stateOf, same.config]

/-- A new model that is given outcomes. -/
def fed (config : BayesianHazardModelConfig) (outcomes : List HazardOutcomeInput) :
    BayesianHazardModel := outcomes.foldl recordOutcome (new config)

theorem fed_append (config : BayesianHazardModelConfig) (earlier : List HazardOutcomeInput)
    (now : HazardOutcomeInput) :
    fed config (earlier ++ [now]) = (fed config earlier).recordOutcome now := by
  simp only [fed, List.foldl_append, List.foldl_cons, List.foldl_nil]

theorem sound_fed (config : BayesianHazardModelConfig) (outcomes : List HazardOutcomeInput) :
    (fed config outcomes).Sound := by
  induction outcomes using List.reverseRecOn with
  | nil => exact sound_new config
  | append_singleton earlier now inductionHypothesis =>
    rw [fed_append]
    exact inductionHypothesis.recordOutcome now

end BayesianHazardModel

/-! ## Runs -/

namespace FtrlOpportunityRanker

open BayesianHazardModel

variable (sqrt : ℚ → ℚ) (config : BayesianHazardModelConfig)
  (rankerConfig : NoRegretOpportunityRankerConfig)

/-- A new ranker on a new model, after outcomes. -/
def after (outcomes : List HazardOutcomeInput) : FtrlOpportunityRanker :=
  outcomes.foldl (recordOutcome sqrt) (new rankerConfig (.new config))

theorem after_append (earlier : List HazardOutcomeInput) (now : HazardOutcomeInput) :
    after sqrt config rankerConfig (earlier ++ [now]) =
      (after sqrt config rankerConfig earlier).recordOutcome sqrt now := by
  simp only [after, List.foldl_append, List.foldl_cons, List.foldl_nil]

/-- The sum of the distances of the rewards from what the outcomes before them
predict. -/
def regretOf (model : BayesianHazardModel) : List HazardOutcomeInput → ℚ
  | [] => 0
  | now :: later =>
      |outcomeReward now.outcome -
        (model.predict now.toHazardPredictionInput).1.successProbabilityBps / bpsDenominator| +
      regretOf (model.recordOutcome now) later

theorem regretOf_append (model : BayesianHazardModel) (earlier : List HazardOutcomeInput)
    (now : HazardOutcomeInput) :
    regretOf model (earlier ++ [now]) = regretOf model earlier +
      |outcomeReward now.outcome - ((earlier.foldl BayesianHazardModel.recordOutcome
        model).successBps now.toHazardPredictionInput : ℚ) / bpsDenominator| := by
  induction earlier generalizing model with
  | nil => simp [regretOf]
  | cons first earlier inductionHypothesis =>
    rw [List.cons_append, regretOf, inductionHypothesis, regretOf, List.foldl_cons, add_assoc]

/-- The model of the ranker is the model that is given the outcomes. -/
theorem after_model (outcomes : List HazardOutcomeInput) :
    (after sqrt config rankerConfig outcomes).model.Same (fed config outcomes) := by
  induction outcomes using List.reverseRecOn with
  | nil => exact ⟨rfl, rfl⟩
  | append_singleton earlier now inductionHypothesis =>
    have step := inductionHypothesis.recordOutcome now
    rw [after_append, fed_append]
    constructor
    · rw [← step.config]
      unfold recordOutcome observe
      rw [(foldl_observeAt sqrt _ _ _ _).1]
      simp only [probability, predict_config]
    · rw [stateOf_recordOutcome_model, step.stateOf]

/-- What an outcome is scored against: the prediction from the counts with the
outcome already in them. -/
theorem scoredPrediction_after (earlier : List HazardOutcomeInput) (now : HazardOutcomeInput) :
    (after sqrt config rankerConfig earlier).scoredPrediction now =
      (fed config earlier).foreseenBps now.outcome now.toHazardPredictionInput /
        bpsDenominator := by
  have same := after_model sqrt config rankerConfig earlier
  have sound := same.sound (sound_fed config earlier)
  obtain ⟨above, below⟩ := successBps_mem
    ((after sqrt config rankerConfig earlier).model.recordOutcome now) now.toHazardPredictionInput
  rw [← same.foreseenBps, ← sound.successBps_recordOutcome now]
  simp only [scoredPrediction, probability, predict_successProbabilityBps]
  apply clamp_eq_self
  · exact div_nonneg (by exact_mod_cast above) (by norm_num [bpsDenominator])
  · rw [bpsDenominator, div_le_one (by norm_num)]
    exact_mod_cast below

/-- After every outcome the regret is the sum of the distances from what the
outcomes before predict, and the last outcome alone does not change what it is
scored against. -/
def NoLookAhead (outcomes : List HazardOutcomeInput) : Prop :=
  ∀ earlier now, earlier ++ [now] <+: outcomes →
    (after sqrt config rankerConfig (earlier ++ [now])).cumulativeRegret =
      regretOf (.new config) (earlier ++ [now]) ∧
    ∀ outcome, (after sqrt config rankerConfig earlier).scoredPrediction
        { now with outcome := outcome } =
      (after sqrt config rankerConfig earlier).scoredPrediction now

/-- Settled counts make the regret of a run what it should be. -/
theorem cumulativeRegret_of_settled (outcomes : List HazardOutcomeInput)
    (settled : ∀ earlier now, earlier ++ [now] <+: outcomes →
      (fed config earlier).Settled now.toHazardPredictionInput) :
    (after sqrt config rankerConfig outcomes).cumulativeRegret =
      regretOf (.new config) outcomes := by
  induction outcomes using List.reverseRecOn with
  | nil => rfl
  | append_singleton earlier now inductionHypothesis =>
    have before := inductionHypothesis (fun first next within =>
      settled first next (within.trans (List.prefix_append earlier [now])))
    have last := settled earlier now (List.prefix_refl _)
    rw [after_append, recordOutcome_cumulativeRegret, before, regretOf_append,
      scoredPrediction_after, (sound_fed config earlier).foreseenBps_of_settled last]
    rfl

/-- The ranker does not look ahead exactly in the runs whose outcomes all come
when the counts behind them are settled. -/
theorem noLookAhead_iff (outcomes : List HazardOutcomeInput) :
    NoLookAhead sqrt config rankerConfig outcomes ↔
      ∀ earlier now, earlier ++ [now] <+: outcomes →
        (fed config earlier).Settled now.toHazardPredictionInput := by
  constructor
  · intro exact earlier now within
    have scored := (exact earlier now within).2
    have alike := (scored .won).trans (scored .reverted).symm
    rw [scoredPrediction_after, scoredPrediction_after,
      div_left_inj' (by norm_num [bpsDenominator])] at alike
    exact_mod_cast alike
  · intro settled earlier now within
    constructor
    · exact cumulativeRegret_of_settled sqrt config rankerConfig _
        (fun first next inside => settled first next (inside.trans within))
    · intro outcome
      have sound := sound_fed config earlier
      have last := settled earlier now within
      rw [scoredPrediction_after, scoredPrediction_after, sound.foreseenBps_of_settled last,
        sound.foreseenBps_of_settled last]

/-- A hazard model without settings. -/
def defaultHazards : BayesianHazardModelConfig := {}

/-- The first outcome of a new ranker, without features: a success is scored
against 73 %, where nothing was known and a half was predicted. -/
theorem lookAhead_first_won :
    ¬ NoLookAhead id defaultHazards {} [⟨⟨.base, .custom 0, [], 0⟩, .won⟩] := by
  intro exact
  have first := (exact [] _ (List.prefix_refl _)).1
  revert first
  decide +kernel

end FtrlOpportunityRanker

end LiquidationBot
