import LiquidationBot.EventPurityStack
import LiquidationBot.LedgerFrames
import LiquidationBot.Library.Prefixes

/-!
# Rounds of price feeds, pushed and polled

A round reaches the model as an event of its feed or in the answer of a poll. Neither
writer compares it with the round that is stored, so the model holds the round that came
last. That is the newest one as long as the rounds come in order; and the time stored with
it is the round's own unless the event came without a time.

The pegged asset has no rounds here: its price is that of its reference.
-/

namespace LiquidationBot

open LocalPositionModel EventPurityStack Prefixes

/-- A round as its feed published it. -/
structure FeedRound where
  answer : Int
  updatedAt : Int
deriving DecidableEq

/-- The rounds of every feed by number. -/
structure PriceFeeds where
  round : Address → Nat → FeedRound
  increasing : ∀ feed first second, first < second →
    (round feed first).updatedAt < (round feed second).updatedAt

/-- A round that was applied to an asset. -/
structure AppliedRound where
  key : Address
  feed : Address
  number : Nat
deriving DecidableEq

/-- An `AnswerUpdated` log, with or without the time of its round, and a poll whose
multicall has answered, for each entry, a round and the decimals of its feed. -/
inductive PriceStep where
  | answerUpdated (origin : IngestionEventMeta) (asset feed : Address) (number : Nat)
      (stamped : Bool) (nowSec : Int)
  | polled (answers : List (Option (Nat × Nat))) (nowSec : Int)

/-- The arguments of a call of `applyFeedPriceUpdate` with a round. -/
structure RoundUpdate where
  asset : Address
  feed : Address
  number : Nat
  decimals : Nat
  reportedAt : Int
deriving DecidableEq

/-- The model and the rounds applied to it so far. -/
structure PricedModel where
  model : LocalPositionModel
  applied : List AppliedRound

namespace PriceFeeds

variable (feeds : PriceFeeds)

/-- The time of an applied round. -/
def time (applied : AppliedRound) : Int := (feeds.round applied.feed applied.number).updatedAt

/-- The round of an update. -/
def roundOf (update : RoundUpdate) : FeedRound := feeds.round update.feed update.number

/-- What a node answers for a round of a feed. -/
def answerOf (feed : Address) (answer : Nat × Nat) : FeedAnswer :=
  ⟨(feeds.round feed answer.1).answer, (feeds.round feed answer.1).updatedAt, answer.2⟩

/-- The round that an update applies: a positive answer with 18 decimals at most. -/
def applies (update : RoundUpdate) : List AppliedRound :=
  if 0 < (feeds.roundOf update).answer ∧ update.decimals ≤ 18
  then [⟨update.asset.toLowerCase, update.feed, update.number⟩] else []

end PriceFeeds

/-- The entries of a poll: the assets with a feed. -/
def EventPurityStackConfig.polledFeeds (config : EventPurityStackConfig) :
    List (Address × Address) :=
  config.feeds.filterMap (fun entry => entry.2.map (fun feed => (entry.1, feed)))

namespace PriceStep

variable (config : EventPurityStackConfig) (feeds : PriceFeeds)

/-- The model after a step. -/
def perform (model : LocalPositionModel) : PriceStep → LocalPositionModel
  | .answerUpdated origin asset feed number stamped nowSec =>
      (applyPriceEvent config.model model
        { origin := origin
          feed := feed
          asset := asset
          price := (feeds.round feed number).answer
          oracleUpdatedAtSec :=
            if stamped then some (feeds.round feed number).updatedAt else none } nowSec).1
  | .polled answers nowSec =>
      (pollLocalFeedFreshness config model
        (List.zipWith (fun entry answer => answer.map (feeds.answerOf entry.2))
          config.polledFeeds answers) nowSec).1

/-- An entry of a poll becomes an update unless its read failed, its answer is not
positive, or its round is older than one and a half heartbeats. -/
def polledUpdate (nowSec : Int) (entry : (Address × Address) × Option (Nat × Nat)) :
    Option RoundUpdate :=
  entry.2.bind (fun answer =>
    let round := feeds.round entry.1.2 answer.1
    if round.answer ≤ 0 then none
    else if 2 * (nowSec - round.updatedAt) > 3 * (heartbeatOf entry.1.2 : Int) then none
    else some ⟨entry.1.1, entry.1.2, answer.1, answer.2, round.updatedAt⟩)

/-- The updates that a step makes of a model. -/
def updates (model : LocalPositionModel) : PriceStep → List RoundUpdate
  | .answerUpdated _ asset feed number stamped nowSec =>
      [{ asset := asset
         feed := feed
         number := number
         decimals := ((model.feedStates.get? asset.toLowerCase).map FeedState.decimals).getD
           DEFAULT_FEED_DECIMALS
         reportedAt := if stamped then (feeds.round feed number).updatedAt else nowSec }]
  | .polled answers nowSec =>
      (config.polledFeeds.zip answers).filterMap (polledUpdate feeds nowSec)

end PriceStep

namespace PricedModel

variable (config : EventPurityStackConfig) (feeds : PriceFeeds)

/-- One call of `applyFeedPriceUpdate`. -/
def update (priced : PricedModel) (update : RoundUpdate) : PricedModel where
  model := (applyFeedPriceUpdate config.model priced.model update.asset update.feed
    (feeds.roundOf update).answer update.decimals update.reportedAt).1
  applied := priced.applied ++ feeds.applies update

/-- A step of a run, with the rounds that it applies. -/
def step (priced : PricedModel) (step : PriceStep) : PricedModel where
  model := step.perform config feeds priced.model
  applied := priced.applied ++
    (step.updates config feeds priced.model).flatMap feeds.applies

/-- What is stored for the asset is the given round, not dated later than it; once the
round is older than one and a half heartbeats the asset counts as stale. -/
structure Holds (model : LocalPositionModel) (round : AppliedRound) : Prop where
  stored : ∃ state, model.feedStates.get? round.key = some state ∧
    state.feedAddress = round.feed ∧
    state.answer = (feeds.round round.feed round.number).answer ∧
    state.updatedAt ≤ feeds.time round ∧
    model.prices.get? round.key = some (state.answer.toNat * 10 ^ (18 - state.decimals))
  stale : ∀ nowSec, 2 * (nowSec - feeds.time round) > 3 * (heartbeatOf round.feed : Int) →
    feedIsStale model.feedStates nowSec round.key = true

/-- Every asset with applied rounds holds one that none of them is newer than. -/
def Newest (priced : PricedModel) : Prop :=
  ∀ earlier ∈ priced.applied, ∃ round ∈ priced.applied, round.key = earlier.key ∧
    (∀ other ∈ priced.applied, other.key = earlier.key → feeds.time other ≤ feeds.time round) ∧
    Holds feeds priced.model round

/-- An update that is not older than the rounds applied to its asset so far, is reported
with a time that its round has reached, and is not of the pegged asset. -/
structure InOrder (applied : List AppliedRound) (update : RoundUpdate) (round : AppliedRound) :
    Prop where
  unpegged : round.key ≠ BASE_USDBC.toLowerCase
  reported : update.reportedAt ≤ feeds.time round
  newer : ∀ earlier ∈ applied, earlier.key = round.key → feeds.time earlier ≤ feeds.time round

/-- Each update of a list, after those before it. -/
def Orderly : List AppliedRound → List RoundUpdate → Prop
  | _, [] => True
  | applied, update :: rest =>
      (∀ round ∈ feeds.applies update, InOrder feeds applied update round) ∧
        Orderly (applied ++ feeds.applies update) rest

instance (applied : List AppliedRound) (update : RoundUpdate) (round : AppliedRound) :
    Decidable (InOrder feeds applied update round) :=
  decidable_of_iff (round.key ≠ BASE_USDBC.toLowerCase ∧ update.reportedAt ≤ feeds.time round ∧
    ∀ earlier ∈ applied, earlier.key = round.key → feeds.time earlier ≤ feeds.time round)
    ⟨fun parts => ⟨parts.1, parts.2.1, parts.2.2⟩,
      fun inOrder => ⟨inOrder.unpegged, inOrder.reported, inOrder.newer⟩⟩

instance decideOrderly : (applied : List AppliedRound) → (updates : List RoundUpdate) →
    Decidable (Orderly feeds applied updates)
  | _, [] => .isTrue trivial
  | applied, update :: rest =>
      have := decideOrderly (applied ++ feeds.applies update) rest
      inferInstanceAs (Decidable (_ ∧ _))

/-! ## One update -/

/-- Prices and rounds of all assets but the pegged one are the same. -/
structure SameRounds (before after : LocalPositionModel) : Prop where
  prices : ∀ key, key ≠ BASE_USDBC.toLowerCase → after.prices.get? key = before.prices.get? key
  feedStates : ∀ key, key ≠ BASE_USDBC.toLowerCase →
    after.feedStates.get? key = before.feedStates.get? key

theorem kept_sameRounds : Kept SameRounds where
  refl := fun _ => ⟨fun _ _ => rfl, fun _ _ => rfl⟩
  trans := by
    intro before middle after first second
    constructor
    · exact fun key other => (second.prices key other).trans (first.prices key other)
    · exact fun key other => (second.feedStates key other).trans (first.feedStates key other)
  commit := by
    intro model key hfResult
    unfold commitHfFromRecompute
    split
    · exact ⟨fun _ _ => rfl, fun _ _ => rfl⟩
    · split
      · exact ⟨fun _ _ => rfl, fun _ _ => rfl⟩
      · exact ⟨fun _ _ => rfl, fun _ _ => rfl⟩
  peg := by
    intro model asset price feedState pegged
    have same : asset.toLowerCase = BASE_USDBC.toLowerCase := by
      simpa [isUsdbcAsset] using pegged
    constructor
    · intro key other
      rw [← same] at other
      exact InsertionMap.get?_set_other _ _ other
    · intro key other
      rw [← same] at other
      exact InsertionMap.get?_set_other _ _ other

theorem applies_cases (update : RoundUpdate) :
    (feeds.applies update = [] ∧
      ∀ model, (applyFeedPriceUpdate config.model model update.asset update.feed
        (feeds.roundOf update).answer update.decimals update.reportedAt).1 = model) ∨
      (feeds.applies update = [⟨update.asset.toLowerCase, update.feed, update.number⟩] ∧
        0 < (feeds.roundOf update).answer ∧ update.decimals ≤ 18) := by
  unfold PriceFeeds.applies
  by_cases taken : 0 < (feeds.roundOf update).answer ∧ update.decimals ≤ 18
  · rw [if_pos taken]
    exact Or.inr ⟨rfl, taken⟩
  · rw [if_neg taken]
    refine Or.inl ⟨rfl, fun model => ?_⟩
    unfold applyFeedPriceUpdate
    by_cases positive : (feeds.roundOf update).answer ≤ 0
    · rw [if_pos positive]
    · rw [if_neg positive, if_pos (by omega)]

/-- What an applied update registers is what the model holds afterwards, but for the peg. -/
theorem sameRounds_update (model : LocalPositionModel) (update : RoundUpdate)
    (positive : 0 < (feeds.roundOf update).answer) (fits : update.decimals ≤ 18) :
    SameRounds
      (model.registerBootstrapPrice update.asset
        ((feeds.roundOf update).answer.toNat * 10 ^ (18 - update.decimals))
        ⟨(feeds.roundOf update).answer, update.decimals, update.reportedAt, update.feed,
          update.asset, none⟩)
      (applyFeedPriceUpdate config.model model update.asset update.feed
        (feeds.roundOf update).answer update.decimals update.reportedAt).1 := by
  unfold applyFeedPriceUpdate
  rw [if_neg (not_le.mpr positive), if_neg (not_lt.mpr fits)]
  exact kept_sameRounds.trans (kept_sameRounds.syncDerivedPegPrices _ _ _ _)
    (kept_sameRounds.recomputeTierChangesForAsset _ _ _ _)

/-- The applied round is held. -/
theorem holds_update (model : LocalPositionModel) (update : RoundUpdate)
    (positive : 0 < (feeds.roundOf update).answer) (fits : update.decimals ≤ 18)
    (unpegged : update.asset.toLowerCase ≠ BASE_USDBC.toLowerCase)
    (reported : update.reportedAt ≤
      feeds.time ⟨update.asset.toLowerCase, update.feed, update.number⟩) :
    Holds feeds
      (applyFeedPriceUpdate config.model model update.asset update.feed
        (feeds.roundOf update).answer update.decimals update.reportedAt).1
      ⟨update.asset.toLowerCase, update.feed, update.number⟩ := by
  have same := sameRounds_update config feeds model update positive fits
  have registered := same.feedStates _ unpegged
  rw [show (model.registerBootstrapPrice update.asset _ _).feedStates.get?
    update.asset.toLowerCase = _ from InsertionMap.get?_set_same _ _ _] at registered
  have priced := same.prices _ unpegged
  rw [show (model.registerBootstrapPrice update.asset _ _).prices.get?
    update.asset.toLowerCase = _ from InsertionMap.get?_set_same _ _ _] at priced
  constructor
  · exact ⟨_, registered, rfl, rfl, reported, priced⟩
  · intro nowSec old
    simp only [feedIsStale, registered]
    rw [if_neg (by simp), decide_eq_true_eq]
    dsimp only at old ⊢
    omega

theorem holds_congr {model after : LocalPositionModel} {round : AppliedRound}
    (prices : after.prices.get? round.key = model.prices.get? round.key)
    (states : after.feedStates.get? round.key = model.feedStates.get? round.key)
    (holds : Holds feeds model round) : Holds feeds after round := by
  obtain ⟨⟨state, found, feed, answer, dated, priced⟩, stale⟩ := holds
  constructor
  · exact ⟨state, states.trans found, feed, answer, dated, prices.trans priced⟩
  · intro nowSec old
    have before := stale nowSec old
    unfold feedIsStale at before ⊢
    rwa [states]

/-- What is held for another asset stays. -/
theorem holds_other (model : LocalPositionModel) (update : RoundUpdate)
    (positive : 0 < (feeds.roundOf update).answer) (fits : update.decimals ≤ 18)
    {round : AppliedRound} (unpegged : round.key ≠ BASE_USDBC.toLowerCase)
    (other : round.key ≠ update.asset.toLowerCase) (holds : Holds feeds model round) :
    Holds feeds
      (applyFeedPriceUpdate config.model model update.asset update.feed
        (feeds.roundOf update).answer update.decimals update.reportedAt).1 round := by
  have same := sameRounds_update config feeds model update positive fits
  refine holds_congr feeds ?_ ?_ holds
  · exact (same.prices _ unpegged).trans (InsertionMap.get?_set_other _ _ other)
  · exact (same.feedStates _ unpegged).trans (InsertionMap.get?_set_other _ _ other)

/-! ## Updates in order -/

/-- No round was applied to the pegged asset. -/
def Unpegged (priced : PricedModel) : Prop :=
  ∀ round ∈ priced.applied, round.key ≠ BASE_USDBC.toLowerCase

theorem unpegged_update {priced : PricedModel} {update : RoundUpdate} (unpegged : Unpegged priced)
    (inOrder : ∀ round ∈ feeds.applies update, InOrder feeds priced.applied update round) :
    Unpegged (priced.update config feeds update) := by
  intro round member
  rcases List.mem_append.mp member with before | now
  · exact unpegged round before
  · exact (inOrder round now).unpegged

/-- An update in order keeps the newest round of every asset. -/
theorem newest_update {priced : PricedModel} {update : RoundUpdate} (newest : Newest feeds priced)
    (unpegged : Unpegged priced)
    (inOrder : ∀ round ∈ feeds.applies update, InOrder feeds priced.applied update round) :
    Newest feeds (priced.update config feeds update) := by
  rcases applies_cases config feeds update with ⟨nothing, unchanged⟩ | ⟨one, positive, fits⟩
  · have same : priced.update config feeds update = priced := by
      unfold PricedModel.update
      rw [nothing, unchanged, List.append_nil]
    rwa [same]
  · have here := inOrder _ (one ▸ List.mem_singleton_self _)
    have applied : (priced.update config feeds update).applied =
        priced.applied ++ [⟨update.asset.toLowerCase, update.feed, update.number⟩] :=
      congrArg (priced.applied ++ ·) one
    have holds := holds_update config feeds priced.model update positive fits here.unpegged
      here.reported
    intro earlier member
    by_cases same : earlier.key = update.asset.toLowerCase
    · -- the asset of the update: its round is the last one and none is newer
      refine ⟨⟨update.asset.toLowerCase, update.feed, update.number⟩, ?_, same.symm, ?_, holds⟩
      · rw [applied]
        exact List.mem_append_right _ (List.mem_singleton_self _)
      · intro other known key
        rw [applied] at known
        rcases List.mem_append.mp known with before | now
        · exact here.newer other before (key.trans same)
        · rw [List.mem_singleton.mp now]
    · have before : earlier ∈ priced.applied := by
        rw [applied] at member
        rcases List.mem_append.mp member with before | now
        · exact before
        · exact absurd (congrArg AppliedRound.key (List.mem_singleton.mp now)) same
      obtain ⟨round, known, key, newer, held⟩ := newest earlier before
      refine ⟨round, List.mem_append_left _ known, key, ?_, ?_⟩
      · intro other candidate otherKey
        rw [applied] at candidate
        rcases List.mem_append.mp candidate with old | now
        · exact newer other old otherKey
        · rw [List.mem_singleton.mp now] at otherKey
          exact absurd otherKey.symm same
      · exact holds_other config feeds priced.model update positive fits (unpegged round known)
          (fun equal => same (key.symm.trans equal)) held

/-- A list of updates in order. -/
theorem newest_updates {updates : List RoundUpdate} {priced : PricedModel}
    (newest : Newest feeds priced) (unpegged : Unpegged priced)
    (orderly : Orderly feeds priced.applied updates) :
    Newest feeds (updates.foldl (PricedModel.update config feeds) priced) ∧
      Unpegged (updates.foldl (PricedModel.update config feeds) priced) := by
  induction updates generalizing priced with
  | nil => exact ⟨newest, unpegged⟩
  | cons update rest inductionHypothesis =>
    obtain ⟨inOrder, later⟩ := orderly
    exact inductionHypothesis (newest_update config feeds newest unpegged inOrder)
      (unpegged_update config feeds unpegged inOrder) later

/-! ## Steps and runs -/

theorem applied_updates (updates : List RoundUpdate) (priced : PricedModel) :
    (updates.foldl (PricedModel.update config feeds) priced).applied =
      priced.applied ++ updates.flatMap feeds.applies := by
  induction updates generalizing priced with
  | nil => simp
  | cons update rest inductionHypothesis =>
    rw [List.foldl_cons, inductionHypothesis, List.flatMap_cons, ← List.append_assoc]
    rfl

/-- The loop of a poll makes its updates one after the other. -/
theorem model_polled (nowSec : Int) (entries : List (Address × Address))
    (answers : List (Option (Nat × Nat))) (priced : PricedModel) (changes : List TierChange) :
    ((entries.zip (List.zipWith (fun entry answer => answer.map (feeds.answerOf entry.2))
        entries answers)).foldl (pollFeed config.model nowSec) (priced.model, changes)).1 =
      (((entries.zip answers).filterMap (PriceStep.polledUpdate feeds nowSec)).foldl
        (PricedModel.update config feeds) priced).model := by
  induction entries generalizing answers priced changes with
  | nil => rfl
  | cons entry entries inductionHypothesis =>
    cases answers with
    | nil => rfl
    | cons answer answers =>
      rw [List.zipWith_cons_cons, List.zip_cons_cons, List.zip_cons_cons, List.foldl_cons,
        List.filterMap_cons]
      cases answer with
      | none => exact inductionHypothesis answers priced changes
      | some answer =>
        simp only [pollFeed, PriceStep.polledUpdate, Option.map_some, Option.bind_some,
          PriceFeeds.answerOf]
        split
        · exact inductionHypothesis answers priced changes
        · split
          · exact inductionHypothesis answers priced changes
          · exact inductionHypothesis answers (priced.update config feeds
              ⟨entry.1, entry.2, answer.1, answer.2, (feeds.round entry.2 answer.1).updatedAt⟩) _

/-- A step makes its updates one after the other. -/
theorem step_eq (priced : PricedModel) (step : PriceStep) :
    priced.step config feeds step =
      (step.updates config feeds priced.model).foldl (PricedModel.update config feeds) priced := by
  have applied := applied_updates config feeds (step.updates config feeds priced.model) priced
  have model : step.perform config feeds priced.model =
      ((step.updates config feeds priced.model).foldl (PricedModel.update config feeds)
        priced).model := by
    cases step with
    | answerUpdated origin asset feed number stamped nowSec =>
      cases stamped with
      | true => rfl
      | false => rfl
    | polled answers nowSec => exact model_polled config feeds nowSec _ _ priced []
  unfold PricedModel.step
  rw [model, ← applied]

/-- The state after a run. -/
def after (start : PricedModel) (run : List PriceStep) : PricedModel :=
  run.foldl (PricedModel.step config feeds) start

/-- While every applied round is at least as new as those applied to its asset before, is
reported with its own time or an earlier one, and is not of the pegged asset, every asset
holds its newest applied round after every step, and is stale when that is. -/
theorem newest_round_held (start : PricedModel) (newest : Newest feeds start)
    (unpegged : Unpegged start) (run : List PriceStep)
    (orderly : EachStep (fun past step => Orderly feeds (after config feeds start past).applied
      (step.updates config feeds (after config feeds start past).model)) run) :
    Always (fun past => Newest feeds (after config feeds start past)) run := by
  intro past initial
  have earlier : EachStep (fun past step => Orderly feeds
      (after config feeds start past).applied
      (step.updates config feeds (after config feeds start past).model)) past :=
    fun before step shorter => orderly before step (shorter.trans initial)
  have kept : Newest feeds (after config feeds start past) ∧
      Unpegged (after config feeds start past) := by
    refine @EachStep.invariant _ (fun past => Newest feeds (after config feeds start past) ∧
      Unpegged (after config feeds start past)) _ _ earlier ⟨newest, unpegged⟩ ?_
    intro before step kept inOrder
    have next : after config feeds start (before ++ [step]) =
        (step.updates config feeds (after config feeds start before).model).foldl
          (PricedModel.update config feeds) (after config feeds start before) := by
      rw [← step_eq]
      exact List.foldl_append ..
    rw [next]
    exact newest_updates config feeds kept.1 kept.2 inOrder
  exact kept.1

/-! ## An hourly feed -/

/-- A feed that falls from 2000 by 500 every hour. -/
def hourly : PriceFeeds where
  round := fun _ number => ⟨200000000000 - 50000000000 * number, 1000 + 3600 * number⟩
  increasing := by
    intro _ first second less
    dsimp only
    omega

/-- One asset with a feed. -/
def hourlyConfig : EventPurityStackConfig where
  model := defaultConfig
  enableWatchTierConfirm := true
  feeds := [(⟨7, 0⟩, some ⟨9, 0⟩)]

/-- A bootstrapped model to which no round was applied. -/
def hourlyStart : PricedModel where
  model := (EventPurityStack.initial hourlyConfig).model.markPricesBootstrapped
  applied := []

/-- The log of a round, with or without its time. -/
def hourlyLog (number : Nat) (stamped : Bool) (nowSec : Int) : PriceStep :=
  .answerUpdated ⟨700000, none, none, 0, .confirmed⟩ ⟨7, 0⟩ ⟨9, 0⟩ number stamped nowSec

/-- The theorem where a poll answers the first round and the log of the second follows. -/
theorem newest_round_held_hourly :
    Always (fun past => Newest hourly (after hourlyConfig hourly hourlyStart past))
      [.polled [some (0, 8)] 1010, hourlyLog 1 true 4610] := by
  refine newest_round_held hourlyConfig hourly hourlyStart ?_ ?_ _ ?_
  · intro round member
    cases member
  · intro round member
    cases member
  · have ordered := (eachStep_snoc (fun past step => Orderly hourly
        (after hourlyConfig hourly hourlyStart past).applied
        (step.updates hourlyConfig hourly (after hourlyConfig hourly hourlyStart past).model))
      [.polled [some (0, 8)] 1010] (hourlyLog 1 true 4610)).mpr
    refine ordered ⟨(eachStep_snoc _ [] _).mpr ⟨?_, ?_⟩, ?_⟩
    · intro past step initial
      simp at initial
    · decide +kernel
    · decide +kernel

theorem not_newest {priced : PricedModel} {round : AppliedRound} {state : FeedState}
    (applied : round ∈ priced.applied)
    (least : ∀ other ∈ priced.applied, other.key = round.key → other ≠ round →
      feeds.time other < feeds.time round)
    (found : priced.model.feedStates.get? round.key = some state)
    (differs : state.answer ≠ (feeds.round round.feed round.number).answer ∨
      feeds.time round < state.updatedAt) : ¬ Newest feeds priced := by
  intro newest
  obtain ⟨held, known, key, newer, holds⟩ := newest round applied
  have same : held = round := by
    by_contra other
    have older := least held known key other
    have newest := newer round applied rfl
    omega
  rw [same] at holds
  obtain ⟨⟨stored, here, _, answer, dated, _⟩, _⟩ := holds
  rw [found] at here
  cases here
  rcases differs with different | later
  · exact different answer
  · omega

/-- The log of the second round comes in while a poll waits whose multicall was answered with
the first: 2000 replaces 1500 again. And a log without a time is dated at its arrival. -/
theorem older_round_held :
    ¬ Newest hourly (after hourlyConfig hourly hourlyStart
        [hourlyLog 1 true 4610, .polled [some (0, 8)] 4611]) ∧
      ¬ Newest hourly (after hourlyConfig hourly hourlyStart [hourlyLog 0 false 4000]) := by
  have replaced : (after hourlyConfig hourly hourlyStart
      [hourlyLog 1 true 4610, .polled [some (0, 8)] 4611]).model.feedStates.get? ⟨7, 0⟩ =
        some ⟨200000000000, 8, 1000, ⟨9, 0⟩, ⟨7, 0⟩, none⟩ := by decide +kernel
  have dated : (after hourlyConfig hourly hourlyStart
      [hourlyLog 0 false 4000]).model.feedStates.get? ⟨7, 0⟩ =
        some ⟨200000000000, 8, 4000, ⟨9, 0⟩, ⟨7, 0⟩, none⟩ := by decide +kernel
  constructor
  · refine @not_newest hourly _ ⟨⟨7, 0⟩, ⟨9, 0⟩, 1⟩ _ ?_ ?_ replaced (Or.inl ?_)
    · decide +kernel
    · decide +kernel
    · decide
  · refine @not_newest hourly _ ⟨⟨7, 0⟩, ⟨9, 0⟩, 0⟩ _ ?_ ?_ dated (Or.inr ?_)
    · decide +kernel
    · decide +kernel
    · decide

end PricedModel

end LiquidationBot
