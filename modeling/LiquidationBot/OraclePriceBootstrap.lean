import LiquidationBot.EventPurityStack
import LiquidationBot.Library.AsyncTurns

/-!
# The bootstrap of the oracle prices

Before anything is classified the feeds are read once: the sequencer has to be up and
past its grace period, all rounds and decimals come in one multicall, and a feed whose
pair is not complete there is read again by itself. Only then are the prices marked as
bootstrapped, and only if every critical feed was registered.

The calls are answered by the network, in any way. What a completed bootstrap left in
the model can be read off its calls: which check of the sequencer let it pass, and for
each feed one pair of a round and its decimals, both from the multicall or both from
the feed's own read.
-/

namespace LiquidationBot

open Async

/-- `SEQUENCER_GRACE_PERIOD_SECONDS`. -/
def SEQUENCER_GRACE_PERIOD_SECONDS : Int := 3600

def BOOTSTRAP_MAX_RETRIES : Nat := 5

def BOOTSTRAP_RETRY_DELAY_MS : Nat := 60000

/-- `CRITICAL_FEEDS`: ether and USDC. -/
def CRITICAL_FEEDS : List Address :=
  [⟨0x71041dddad3595f9ced3dccfbe3d1f4b0a16bb70, 0x2c79408⟩,
    ⟨0x7e860098f58bbfc8648a4311b374b1d669a2bc6b, 0x8e000a01⟩]

/-- What a contract call returns: the fields of a tuple, or one number. -/
inductive RawResult where
  | tuple (fields : List Int)
  | number (value : Nat)
  | other

/-- An answer of the multicall to one of its calls. -/
inductive MulticallResult where
  | success (result : RawResult)
  | failure

/-- `FeedIndexEntry`. -/
inductive FeedIndexEntry where
  | lrd (asset feed : Address)
  | dec (asset feed : Address)
  | reserve (asset : Address)
deriving DecidableEq

/-- What the bootstrap waits for. `sequencer` is the round of the uptime feed read
together with the timestamp of the latest block, `feedPair` the two reads of
`readFeedPair`, `direct` a read of the cross-check. -/
inductive BootstrapOp where
  | sequencer
  | sleep (ms : Nat)
  | multicall (contracts : List FeedIndexEntry)
  | feedPair (feed : Address)
  | direct (feed : Address)

def BootstrapOp.Answer : BootstrapOp → Type
  | .sequencer => Except String (RawResult × Int)
  | .sleep _ => Unit
  | .multicall _ => Except String (List MulticallResult)
  | .feedPair _ => Except String (RawResult × RawResult)
  | .direct _ => Except String RawResult

abbrev BootstrapM (α : Type) := Async BootstrapOp BootstrapOp.Answer String α

namespace OraclePriceBootstrap

/-- The answer and the start of a round of the uptime feed. -/
def parseSequencerRound : RawResult → Option (Int × Int)
  | .tuple fields =>
      fields[1]?.bind (fun answer => fields[2]?.map (fun startedAt => (answer, startedAt)))
  | _ => none

/-- The answer and the time of a round. -/
def parseLatestRoundData : RawResult → Option (Int × Int)
  | .tuple fields =>
      fields[1]?.bind (fun answer => fields[3]?.map (fun updatedAt => (answer, updatedAt)))
  | _ => none

def parseFeedDecimals : RawResult → Option Nat
  | .number value => some value
  | _ => none

def parseLiquidationBonus : RawResult → Option Nat
  | .tuple fields => fields[3]?.map Int.toNat
  | _ => none

/-! ## The sequencer -/

/-- A check that lets the bootstrap go on: the sequencer is up, and was so for the grace
period. -/
def isHealthy (round : Int × Int) (blockTimestamp : Int) : Bool :=
  decide (round.1 = 0) && decide (blockTimestamp - round.2 ≥ SEQUENCER_GRACE_PERIOD_SECONDS)

/-- The exception of the last attempt. -/
def sequencerDown : String :=
  "SEQUENCER_DOWN_OR_IN_GRACE_PERIOD: bootstrap aborted after 5 attempts"

/-- The loop over the attempts, with how many are left; the result is `sequencerHealthy`
and the timestamp of the last block read. -/
def checkSequencer : Nat → Int → BootstrapM (Bool × Int)
  | 0, blockTimestamp => .pure (false, blockTimestamp)
  | left + 1, lastTimestamp =>
      .call .sequencer (fun answer =>
        match answer with
        | .error error =>
            if left = 0 then .throw error
            else .call (.sleep BOOTSTRAP_RETRY_DELAY_MS) (fun _ =>
                checkSequencer left lastTimestamp)
        | .ok (raw, blockTimestamp) =>
            match parseSequencerRound raw with
            | none =>
                if left = 0 then .throw "sequencer_check_parse_failed"
                else .call (.sleep BOOTSTRAP_RETRY_DELAY_MS) (fun _ =>
                  checkSequencer left lastTimestamp)
            | some round =>
                if isHealthy round blockTimestamp then .pure (true, blockTimestamp)
                else if left = 0 then .throw sequencerDown
                else .call (.sleep BOOTSTRAP_RETRY_DELAY_MS) (fun _ =>
                  checkSequencer left blockTimestamp))

/-! ## The multicall -/

/-- The assets of the registry that have a feed. -/
def chainFeedPairs (chainFeeds : List (Address × Option Address)) : List (Address × Address) :=
  chainFeeds.filterMap (fun entry => entry.2.map (fun feed => (entry.1, feed)))

/-- `feedIndex`, which is also the order of the calls. -/
def feedIndex (chainFeeds : List (Address × Option Address)) : List FeedIndexEntry :=
  (chainFeedPairs chainFeeds).flatMap (fun pair => [.lrd pair.1 pair.2, .dec pair.1 pair.2]) ++
    chainFeeds.map (fun entry => .reserve entry.1)

/-- The key of a feed's readings. -/
def feedKey (asset feed : Address) : Address × Address := (asset.toLowerCase, feed.toLowerCase)

/-- What the loop over the responses fills. -/
structure Responses where
  model : LocalPositionModel
  lrdByKey : InsertionMap (Address × Address) (Int × Int)
  decByKey : InsertionMap (Address × Address) Nat

/-- One response; one that is missing does nothing. -/
def takeResponse (state : Responses) (entry : FeedIndexEntry) (response : Option MulticallResult) :
    Responses :=
  match entry, response with
  | _, none => state
  | .reserve asset, some .failure =>
      { state with model := state.model.setReserveLiquidationBonus asset none }
  | .reserve asset, some (.success result) =>
      match parseLiquidationBonus result with
      | none => { state with model := state.model.setReserveLiquidationBonus asset none }
      | some bonus =>
          { state with
            model :=
              (state.model.registerReserve asset BASE_LT_BPS).setReserveLiquidationBonus asset
                (some bonus) }
  | .lrd asset feed, some (.success result) =>
      match parseLatestRoundData result with
      | none => state
      | some round => { state with lrdByKey := state.lrdByKey.set (feedKey asset feed) round }
  | .dec asset feed, some (.success result) =>
      match parseFeedDecimals result with
      | none => state
      | some decimals => { state with decByKey := state.decByKey.set (feedKey asset feed) decimals }
  | .lrd _ _, some .failure => state
  | .dec _ _, some .failure => state

def takeResponses (model : LocalPositionModel) (entries : List FeedIndexEntry)
    (results : List MulticallResult) : Responses :=
  entries.zipIdx.foldl (fun state entry => takeResponse state entry.1 results[entry.2]?)
    ⟨model, .empty, .empty⟩

/-! ## The feeds -/

/-- A row of `bootstrappedPrices`. -/
structure BootstrappedPrice where
  feed : Address
  price : Nat
  decimals : Nat

/-- What the loop over the feeds fills. -/
structure WarmFeeds where
  model : LocalPositionModel
  warmCriticalFeeds : InsertionMap Address Unit
  bootstrappedPrices : InsertionMap Address BootstrappedPrice

def isCriticalFeed (feed : Address) : Bool :=
  CRITICAL_FEEDS.any (fun critical => decide (critical.toLowerCase = feed.toLowerCase))

/-- `answer * 10 ** (18 - decimals)`. -/
def normalizedPrice (round : FeedAnswer) : Nat := round.answer.toNat * 10 ^ (18 - round.decimals)

/-- A reading that is registered: positive, of at most 18 decimals, and not older than
one and a half heartbeats at the block's time. -/
def isWarm (feed : Address) (round : FeedAnswer) (blockTimestamp : Int) : Bool :=
  !decide (round.answer ≤ 0) && !decide (round.decimals > 18) &&
    !decide (2 * (blockTimestamp - round.updatedAt) > 3 * (heartbeatOf feed : Int))

def registerFeedIfWarm (blockTimestamp : Int) (state : WarmFeeds)
    (reading : (Address × Address) × FeedAnswer) : WarmFeeds :=
  let asset := reading.1.1
  let feed := reading.1.2
  let round := reading.2
  if round.answer ≤ 0 then state
  else if round.decimals > 18 then state
  else if 2 * (blockTimestamp - round.updatedAt) > 3 * (heartbeatOf feed : Int) then state
  else
    { model := state.model.registerBootstrapPrice asset (normalizedPrice round)
        { answer := round.answer
          decimals := round.decimals
          updatedAt := round.updatedAt
          feedAddress := feed
          asset := asset
          source := none }
      bootstrappedPrices := state.bootstrappedPrices.set asset
        ⟨feed, normalizedPrice round, round.decimals⟩
      warmCriticalFeeds :=
        if isCriticalFeed feed then state.warmCriticalFeeds.set feed.toLowerCase ()
        else state.warmCriticalFeeds }

/-- `readFeedPair`, which catches every exception. -/
def readFeedPair (feed : Address) : BootstrapM (Option FeedAnswer) :=
  .call (.feedPair feed) (fun answer =>
    match answer with
    | .error _ => .pure none
    | .ok (round, decimals) =>
        match parseLatestRoundData round, parseFeedDecimals decimals with
        | some (answer, updatedAt), some decimals => .pure (some ⟨answer, updatedAt, decimals⟩)
        | _, _ => .pure none)

/-- The pair of a feed: the multicall's, where it has both halves. -/
def feedReading (responses : Responses) (pair : Address × Address) :
    BootstrapM (Option FeedAnswer) :=
  match responses.lrdByKey.get? (feedKey pair.1 pair.2),
    responses.decByKey.get? (feedKey pair.1 pair.2) with
  | some (answer, updatedAt), some decimals => .pure (some ⟨answer, updatedAt, decimals⟩)
  | _, _ => readFeedPair pair.2

/-- The turn of a feed. -/
def bootstrapFeed (responses : Responses) (blockTimestamp : Int) (state : WarmFeeds)
    (pair : Address × Address) : BootstrapM WarmFeeds :=
  (feedReading responses pair).bind (fun reading =>
    match reading with
    | none => .pure state
    | some round => .pure (registerFeedIfWarm blockTimestamp state (pair, round)))

/-- `runBootstrapDiagnosticCrossCheck`: its reads only feed the log. -/
def crossCheck : List (Address × BootstrappedPrice) → BootstrapM Unit
  | [] => .pure ()
  | (_, row) :: rest =>
      if isCriticalFeed row.feed then .call (.direct row.feed) (fun _ => crossCheck rest)
      else crossCheck rest

/-- `OracleBootstrapResult`. -/
structure OracleBootstrapResult where
  pricesBootstrapped : Bool
  sequencerHealthy : Bool
  warmCriticalFeeds : InsertionMap Address Unit

/-- The end of the bootstrap, with the model it leaves. -/
def finish (sequencerHealthy : Bool) (state : WarmFeeds) :
    BootstrapM (LocalPositionModel × OracleBootstrapResult) :=
  let criticalFeedsOk :=
    CRITICAL_FEEDS.all (fun feed => state.warmCriticalFeeds.has feed.toLowerCase)
  if sequencerHealthy && criticalFeedsOk then
    (crossCheck state.bootstrappedPrices.entries).bind (fun _ =>
      .pure (state.model.markPricesBootstrapped, ⟨true, sequencerHealthy, state.warmCriticalFeeds⟩))
  else .pure (state.model, ⟨false, sequencerHealthy, state.warmCriticalFeeds⟩)

def runOraclePriceBootstrap (chainFeeds : List (Address × Option Address))
    (model : LocalPositionModel) : BootstrapM (LocalPositionModel × OracleBootstrapResult) :=
  (checkSequencer BOOTSTRAP_MAX_RETRIES 0).bind (fun checked =>
    .call (.multicall (feedIndex chainFeeds)) (fun answer =>
      match answer with
      | .error error => .throw error
      | .ok results =>
          let responses := takeResponses model (feedIndex chainFeeds) results
          ((chainFeedPairs chainFeeds).foldlM (bootstrapFeed responses checked.2)
            ⟨responses.model, .empty, .empty⟩).bind (finish checked.1)))

/-! ## What the checks waited for -/

abbrev BootstrapEvent := Event BootstrapOp BootstrapOp.Answer

section Sequencer

variable {events : List BootstrapEvent} {left : Nat} {lastTimestamp : Int}

/-- The answer to a check lets the bootstrap go on. -/
def passes : Except String (RawResult × Int) → Bool
  | .error _ => false
  | .ok (raw, blockTimestamp) =>
      (parseSequencerRound raw).any (fun round => isHealthy round blockTimestamp)

/-- Checks that did not pass, each with the pause after it. -/
def refusedChecks (answers : List (Except String (RawResult × Int))) : List BootstrapEvent :=
  answers.flatMap (fun answer =>
    [⟨.sequencer, answer⟩, ⟨.sleep BOOTSTRAP_RETRY_DELAY_MS, ()⟩])

/-- The checks before one that passed. -/
structure PassedCheck (left : Nat) (events : List BootstrapEvent)
    (refused : List (Except String (RawResult × Int))) (raw : RawResult) (blockTimestamp : Int) :
    Prop where
  early : refused.length < left
  refusals : ∀ answer ∈ refused, passes answer = false
  passed : passes (.ok (raw, blockTimestamp)) = true
  calls : events = refusedChecks refused ++ [⟨.sequencer, .ok (raw, blockTimestamp)⟩]

/-- One more check that did not pass, and its pause. -/
theorem PassedCheck.cons {refused : List (Except String (RawResult × Int))} {raw : RawResult}
    {blockTimestamp : Int} (later : PassedCheck left events refused raw blockTimestamp)
    {answer : Except String (RawResult × Int)} (refusal : passes answer = false) :
    PassedCheck (left + 1)
      (⟨.sequencer, answer⟩ :: ⟨.sleep BOOTSTRAP_RETRY_DELAY_MS, ()⟩ :: events)
      (answer :: refused) raw blockTimestamp where
  early := Nat.succ_lt_succ later.early
  refusals := by
    intro other member
    rcases List.mem_cons.mp member with rfl | rest
    · exact refusal
    · exact later.refusals other rest
  passed := later.passed
  calls := by
    rw [later.calls]
    rfl

/-- The answer to a check decides what follows it. -/
theorem checkSequencer_succ (left : Nat) (lastTimestamp : Int) :
    ∃ resume, checkSequencer (left + 1) lastTimestamp = .call .sequencer resume ∧
      (∀ raw blockTimestamp, passes (.ok (raw, blockTimestamp)) = true →
        resume (.ok (raw, blockTimestamp)) = .pure (true, blockTimestamp)) ∧
      ∀ answer : Except String (RawResult × Int), passes answer = false →
        (left = 0 ∧ ∃ error, resume answer = .throw error) ∨
        (left ≠ 0 ∧ ∃ timestamp, resume answer =
          .call (.sleep BOOTSTRAP_RETRY_DELAY_MS) (fun _ => checkSequencer left timestamp)) := by
  refine ⟨_, rfl, ?_, ?_⟩
  · intro raw blockTimestamp passed
    dsimp only
    rw [passes] at passed
    cases parsed : parseSequencerRound raw with
    | none =>
      rw [parsed] at passed
      cases passed
    | some round =>
      rw [parsed, Option.any_some] at passed
      dsimp only
      rw [if_pos passed]
  · intro answer refusal
    match answer with
    | .error error =>
      dsimp only
      by_cases last : left = 0
      · exact Or.inl ⟨last, error, if_pos last⟩
      · exact Or.inr ⟨last, lastTimestamp, if_neg last⟩
    | .ok (raw, blockTimestamp) =>
      dsimp only
      rw [passes] at refusal
      cases parsed : parseSequencerRound raw with
      | none =>
        by_cases last : left = 0
        · exact Or.inl ⟨last, _, if_pos last⟩
        · exact Or.inr ⟨last, lastTimestamp, if_neg last⟩
      | some round =>
        rw [parsed, Option.any_some] at refusal
        dsimp only
        rw [if_neg (by rw [refusal]; decide)]
        by_cases last : left = 0
        · exact Or.inl ⟨last, _, if_pos last⟩
        · exact Or.inr ⟨last, blockTimestamp, if_neg last⟩

/-- A run of the checks ends at the first that passes, or after the last with an
exception. -/
def ChecksEnd (left : Nat) (events : List BootstrapEvent) : Except String (Bool × Int) → Prop
  | .ok checked => checked.1 = true ∧ ∃ refused raw, PassedCheck left events refused raw checked.2
  | .error _ => ∃ refused : List (Except String (RawResult × Int)), refused.length = left ∧
      (∀ answer ∈ refused, passes answer = false) ∧ events = (refusedChecks refused).dropLast

theorem ChecksEnd.cons {outcome : Except String (Bool × Int)}
    (later : ChecksEnd (left + 1) events outcome) {answer : Except String (RawResult × Int)}
    (refusal : passes answer = false) :
    ChecksEnd (left + 2)
      (⟨.sequencer, answer⟩ :: ⟨.sleep BOOTSTRAP_RETRY_DELAY_MS, ()⟩ :: events) outcome := by
  match outcome with
  | .ok checked =>
    obtain ⟨healthy, earlier, raw, passed⟩ := later
    exact ⟨healthy, answer :: earlier, raw, passed.cons refusal⟩
  | .error error =>
    obtain ⟨refused, length, refusals, calls⟩ := later
    refine ⟨answer :: refused, by rw [List.length_cons, length], ?_, ?_⟩
    · intro other member
      rcases List.mem_cons.mp member with rfl | rest
      · exact refusal
      · exact refusals other rest
    · cases refused with
      | nil => cases length
      | cons first rest =>
        rw [calls]
        rfl

theorem runs_checkSequencer {outcome : Except String (Bool × Int)}
    (run : Runs (checkSequencer (left + 1) lastTimestamp) events outcome) :
    ChecksEnd (left + 1) events outcome := by
  induction left generalizing lastTimestamp events with
  | zero =>
    obtain ⟨resume, program, passed, refused⟩ := checkSequencer_succ 0 lastTimestamp
    rw [program] at run
    obtain ⟨answer, rest, rfl, resumed⟩ := runs_call.mp run
    cases verdict : passes answer with
    | true =>
      match answer with
      | .ok (raw, blockTimestamp) =>
        rw [passed raw blockTimestamp verdict] at resumed
        obtain ⟨rfl, rfl⟩ := runs_pure.mp resumed
        exact ⟨rfl, [], raw, Nat.succ_pos _, by simp, verdict, rfl⟩
    | false =>
      rcases refused answer verdict with ⟨_, error, thrown⟩ | ⟨more, _⟩
      · rw [thrown] at resumed
        obtain ⟨rfl, rfl⟩ := runs_throw.mp resumed
        refine ⟨[answer], rfl, fun other member => ?_, rfl⟩
        rw [List.mem_singleton.mp member]
        exact verdict
      · exact absurd rfl more
  | succ left inductionHypothesis =>
    obtain ⟨resume, program, passed, refused⟩ := checkSequencer_succ (left + 1) lastTimestamp
    rw [program] at run
    obtain ⟨answer, rest, rfl, resumed⟩ := runs_call.mp run
    cases verdict : passes answer with
    | true =>
      match answer with
      | .ok (raw, blockTimestamp) =>
        rw [passed raw blockTimestamp verdict] at resumed
        obtain ⟨rfl, rfl⟩ := runs_pure.mp resumed
        exact ⟨rfl, [], raw, Nat.succ_pos _, by simp, verdict, rfl⟩
    | false =>
      rcases refused answer verdict with ⟨none, _⟩ | ⟨_, timestamp, paused⟩
      · cases none
      · rw [paused] at resumed
        obtain ⟨_, rest, rfl, again⟩ := runs_call.mp resumed
        exact (inductionHypothesis again).cons verdict

end Sequencer

/-! ## What the multicall gives -/

section Multicall

variable {entries : List FeedIndexEntry} {results : List MulticallResult}
  {model : LocalPositionModel}

/-- A call of the multicall succeeded with this result. -/
def Answered (entries : List FeedIndexEntry) (results : List MulticallResult)
    (entry : FeedIndexEntry) (result : RawResult) : Prop :=
  ∃ index : Nat, entries[index]? = some entry ∧
    results[index]? = some (MulticallResult.success result)

/-- Two models that differ in their reserves at most. -/
structure SameButReserves (before after : LocalPositionModel) : Prop where
  positions : after.positions = before.positions
  prices : after.prices = before.prices
  feedStates : after.feedStates = before.feedStates
  bootstrapped : after.pricesBootstrapped = before.pricesBootstrapped

namespace SameButReserves

variable {before after : LocalPositionModel}

theorem setReserveLiquidationBonus (same : SameButReserves before after) (asset : Address)
    (bonus : Option Nat) :
    SameButReserves before (after.setReserveLiquidationBonus asset bonus) := by
  rw [LocalPositionModel.setReserveLiquidationBonus]
  split
  · exact ⟨same.positions, same.prices, same.feedStates, same.bootstrapped⟩
  · exact ⟨same.positions, same.prices, same.feedStates, same.bootstrapped⟩

theorem registerReserve (same : SameButReserves before after) (asset : Address)
    (threshold : Nat) : SameButReserves before (after.registerReserve asset threshold) := by
  rw [LocalPositionModel.registerReserve]
  split
  · exact same
  · exact ⟨same.positions, same.prices, same.feedStates, same.bootstrapped⟩

end SameButReserves

/-- Every stored half of a pair was answered by a call for it, and of the model only the
reserves change. -/
structure FromAnswers (entries : List FeedIndexEntry) (results : List MulticallResult)
    (model : LocalPositionModel) (state : Responses) : Prop where
  rounds : ∀ key round, state.lrdByKey.get? key = some round →
    ∃ asset feed result, feedKey asset feed = key ∧
      Answered entries results (.lrd asset feed) result ∧ parseLatestRoundData result = some round
  decimals : ∀ key decimals, state.decByKey.get? key = some decimals →
    ∃ asset feed result, feedKey asset feed = key ∧
      Answered entries results (.dec asset feed) result ∧ parseFeedDecimals result = some decimals
  same : SameButReserves model state.model

theorem FromAnswers.takeResponse {state : Responses} {entry : FeedIndexEntry} {index : Nat}
    (before : FromAnswers entries results model state) (listed : entries[index]? = some entry) :
    FromAnswers entries results model
      (OraclePriceBootstrap.takeResponse state entry results[index]?) := by
  have answered : ∀ result, results[index]? = some (.success result) →
      Answered entries results entry result := fun result given => ⟨index, listed, given⟩
  rw [OraclePriceBootstrap.takeResponse.eq_def]
  split
  · exact before
  · exact ⟨before.rounds, before.decimals, before.same.setReserveLiquidationBonus _ _⟩
  · split
    · exact ⟨before.rounds, before.decimals, before.same.setReserveLiquidationBonus _ _⟩
    · exact ⟨before.rounds, before.decimals,
        (before.same.registerReserve _ _).setReserveLiquidationBonus _ _⟩
  · split
    · exact before
    next asset feed result given _ round parsed =>
      refine ⟨?_, before.decimals, before.same⟩
      intro key stored found
      rcases InsertionMap.of_get?_set found with ⟨rfl, rfl⟩ | earlier
      · exact ⟨asset, feed, result, rfl, answered result given, parsed⟩
      · exact before.rounds key stored earlier
  · split
    · exact before
    next asset feed result given _ decimals parsed =>
      refine ⟨before.rounds, ?_, before.same⟩
      intro key stored found
      rcases InsertionMap.of_get?_set found with ⟨rfl, rfl⟩ | earlier
      · exact ⟨asset, feed, result, rfl, answered result given, parsed⟩
      · exact before.decimals key stored earlier
  · exact before
  · exact before

theorem fromAnswers (entries : List FeedIndexEntry) (results : List MulticallResult)
    (model : LocalPositionModel) :
    FromAnswers entries results model (takeResponses model entries results) := by
  have loop : ∀ (rest : List (FeedIndexEntry × Nat)) (state : Responses),
      (∀ entry ∈ rest, entries[entry.2]? = some entry.1) →
      FromAnswers entries results model state →
      FromAnswers entries results model (rest.foldl
        (fun state entry => OraclePriceBootstrap.takeResponse state entry.1 results[entry.2]?)
        state) := by
    intro rest
    induction rest with
    | nil => exact fun _ _ before => before
    | cons entry rest inductionHypothesis =>
      intro state listed before
      rw [List.foldl_cons]
      exact inductionHypothesis _ (fun other member => listed other (List.mem_cons_of_mem _ member))
        (before.takeResponse (listed entry List.mem_cons_self))
  refine loop entries.zipIdx _ ?_ ⟨?_, ?_, ⟨rfl, rfl, rfl, rfl⟩⟩
  · intro entry member
    exact List.mem_zipIdx_iff_getElem?.mp member
  · intro key round found
    cases found
  · intro key decimals found
    cases found

end Multicall

/-! ## What the feeds give -/

section Feeds

variable {chainFeeds : List (Address × Option Address)} {results : List MulticallResult}
  {model : LocalPositionModel} {responses : Responses} {pairs : List (Address × Address)}
  {events : List BootstrapEvent} {blockTimestamp : Int}

/-- A round and its decimals come both from the multicall, or both from the feed's own
read. -/
inductive FromOneSource (entries : List FeedIndexEntry) (results : List MulticallResult)
    (events : List BootstrapEvent) (pair : Address × Address) (round : FeedAnswer) : Prop where
  | multicall (roundAsset roundFeed decAsset decFeed : Address) (rawRound rawDecimals : RawResult)
      (sameRound : feedKey roundAsset roundFeed = feedKey pair.1 pair.2)
      (sameDecimals : feedKey decAsset decFeed = feedKey pair.1 pair.2)
      (answeredRound : Answered entries results (.lrd roundAsset roundFeed) rawRound)
      (answeredDecimals : Answered entries results (.dec decAsset decFeed) rawDecimals)
      (parsedRound : parseLatestRoundData rawRound = some (round.answer, round.updatedAt))
      (parsedDecimals : parseFeedDecimals rawDecimals = some round.decimals)
  | direct (rawRound rawDecimals : RawResult)
      (read : ⟨.feedPair pair.2, .ok (rawRound, rawDecimals)⟩ ∈ events)
      (parsedRound : parseLatestRoundData rawRound = some (round.answer, round.updatedAt))
      (parsedDecimals : parseFeedDecimals rawDecimals = some round.decimals)

theorem FromOneSource.mono {entries : List FeedIndexEntry} {pair : Address × Address}
    {round : FeedAnswer} {more : List BootstrapEvent}
    (source : FromOneSource entries results events pair round)
    (included : ∀ event ∈ events, event ∈ more) :
    FromOneSource entries results more pair round := by
  cases source with
  | multicall _ _ _ _ _ _ sameRound sameDecimals answeredRound answeredDecimals parsedRound
      parsedDecimals =>
    exact .multicall _ _ _ _ _ _ sameRound sameDecimals answeredRound answeredDecimals parsedRound
      parsedDecimals
  | direct rawRound rawDecimals read parsedRound parsedDecimals =>
    exact .direct rawRound rawDecimals (included _ read) parsedRound parsedDecimals

/-- A read of one feed gives a pair that the feed answered, and never throws. -/
theorem runs_readFeedPair {entries : List FeedIndexEntry} {pair : Address × Address}
    {outcome : Except String (Option FeedAnswer)}
    (run : Runs (readFeedPair pair.2) events outcome) :
    ∃ reading, outcome = .ok reading ∧
      ∀ round, reading = some round → FromOneSource entries results events pair round := by
  obtain ⟨answer, rest, rfl, resumed⟩ := runs_call.mp run
  match answer with
  | .error error =>
    obtain ⟨rfl, rfl⟩ := runs_pure.mp resumed
    exact ⟨none, rfl, fun round found => by cases found⟩
  | .ok (rawRound, rawDecimals) =>
    dsimp only at resumed
    split at resumed
    next answer updatedAt decimals parsedRound parsedDecimals =>
      obtain ⟨rfl, rfl⟩ := runs_pure.mp resumed
      refine ⟨_, rfl, fun round found => ?_⟩
      cases found
      exact .direct rawRound rawDecimals List.mem_cons_self parsedRound parsedDecimals
    next =>
      obtain ⟨rfl, rfl⟩ := runs_pure.mp resumed
      exact ⟨none, rfl, fun round found => by cases found⟩

theorem runs_feedReading {entries : List FeedIndexEntry}
    (answered : FromAnswers entries results model responses) {pair : Address × Address}
    {outcome : Except String (Option FeedAnswer)}
    (run : Runs (feedReading responses pair) events outcome) :
    ∃ reading, outcome = .ok reading ∧
      ∀ round, reading = some round → FromOneSource entries results events pair round := by
  rw [feedReading] at run
  split at run
  next answer updatedAt decimals storedRound storedDecimals =>
    obtain ⟨rfl, rfl⟩ := runs_pure.mp run
    refine ⟨_, rfl, fun round found => ?_⟩
    cases found
    obtain ⟨roundAsset, roundFeed, rawRound, sameRound, answeredRound, parsedRound⟩ :=
      answered.rounds _ _ storedRound
    obtain ⟨decAsset, decFeed, rawDecimals, sameDecimals, answeredDecimals, parsedDecimals⟩ :=
      answered.decimals _ _ storedDecimals
    exact .multicall _ _ _ _ _ _ sameRound sameDecimals answeredRound answeredDecimals parsedRound
      parsedDecimals
  next => exact runs_readFeedPair run

/-- The readings that are registered, in order. -/
def warmReadings (blockTimestamp : Int)
    (readings : List ((Address × Address) × Option FeedAnswer)) :
    List ((Address × Address) × FeedAnswer) :=
  readings.filterMap (fun reading => (reading.2.filter (fun round =>
    isWarm reading.1.2 round blockTimestamp)).map (fun round => (reading.1, round)))

/-- The feed state that a reading registers. -/
def feedStateOf (reading : (Address × Address) × FeedAnswer) : FeedState where
  answer := reading.2.answer
  decimals := reading.2.decimals
  updatedAt := reading.2.updatedAt
  feedAddress := reading.1.2
  asset := reading.1.1
  source := none

def registerReading (model : LocalPositionModel) (reading : (Address × Address) × FeedAnswer) :
    LocalPositionModel :=
  model.registerBootstrapPrice reading.1.1 (normalizedPrice reading.2) (feedStateOf reading)

theorem registerFeedIfWarm_eq (blockTimestamp : Int) (state : WarmFeeds)
    (reading : (Address × Address) × FeedAnswer) :
    registerFeedIfWarm blockTimestamp state reading =
      if isWarm reading.1.2 reading.2 blockTimestamp then
        { model := registerReading state.model reading
          bootstrappedPrices := state.bootstrappedPrices.set reading.1.1
            ⟨reading.1.2, normalizedPrice reading.2, reading.2.decimals⟩
          warmCriticalFeeds :=
            if isCriticalFeed reading.1.2 then
              state.warmCriticalFeeds.set reading.1.2.toLowerCase ()
            else state.warmCriticalFeeds }
      else state := by
  rw [registerFeedIfWarm, isWarm]
  by_cases negative : reading.2.answer ≤ 0
  · simp [negative]
  · by_cases wide : reading.2.decimals > 18
    · simp [wide]
    · by_cases stale : 2 * (blockTimestamp - reading.2.updatedAt) >
          3 * (heartbeatOf reading.1.2 : Int)
      · simp [stale]
      · rw [if_neg negative, if_neg wide, if_neg stale]
        simp [negative, wide, stale, registerReading, feedStateOf]

/-- What the turn of a feed leaves, by what it read. -/
def takeReading (blockTimestamp : Int) (state : WarmFeeds)
    (reading : (Address × Address) × Option FeedAnswer) : WarmFeeds :=
  match reading.2 with
  | none => state
  | some round => registerFeedIfWarm blockTimestamp state (reading.1, round)

/-- The loop over the feeds reads each once, and never throws. -/
theorem runs_bootstrapFeeds {entries : List FeedIndexEntry}
    (answered : FromAnswers entries results model responses) {state : WarmFeeds}
    {outcome : Except String WarmFeeds}
    (run : Runs (pairs.foldlM (bootstrapFeed responses blockTimestamp) state) events outcome) :
    ∃ readings : List ((Address × Address) × Option FeedAnswer),
      readings.map Prod.fst = pairs ∧
      (∀ reading ∈ readings, ∀ round, reading.2 = some round →
        FromOneSource entries results events reading.1 round) ∧
      outcome = .ok (readings.foldl (takeReading blockTimestamp) state) := by
  induction pairs generalizing state events with
  | nil =>
    obtain ⟨rfl, rfl⟩ := runs_pure.mp run
    exact ⟨[], rfl, by simp, rfl⟩
  | cons pair rest inductionHypothesis =>
    rw [List.foldlM_cons, bind_eq, bootstrapFeed, bind_assoc] at run
    rcases runs_bind.mp run with ⟨error, thrown, _⟩ | ⟨reading, earlier, later, rfl, read, resumed⟩
    · obtain ⟨_, impossible, _⟩ := runs_feedReading answered thrown
      cases impossible
    · obtain ⟨_, same, source⟩ := runs_feedReading answered read
      cases same
      have turn : Runs (rest.foldlM (bootstrapFeed responses blockTimestamp)
          (takeReading blockTimestamp state (pair, reading))) later outcome := by
        cases reading with
        | none => exact resumed
        | some round => exact resumed
      obtain ⟨readings, listed, sources, rfl⟩ := inductionHypothesis turn
      refine ⟨(pair, reading) :: readings, by rw [List.map_cons, listed], ?_, rfl⟩
      intro other member round found
      rcases List.mem_cons.mp member with rfl | among
      · exact (source round found).mono (fun event made => List.mem_append_left _ made)
      · exact (sources other among round found).mono
          (fun event made => List.mem_append_right _ made)

theorem foldl_takeReading (readings : List ((Address × Address) × Option FeedAnswer))
    (state : WarmFeeds) :
    (readings.foldl (takeReading blockTimestamp) state).model =
        (warmReadings blockTimestamp readings).foldl registerReading state.model ∧
      ∀ feed, (readings.foldl (takeReading blockTimestamp) state).warmCriticalFeeds.has feed =
        (state.warmCriticalFeeds.has feed || (warmReadings blockTimestamp readings).any
          (fun reading =>
            isCriticalFeed reading.1.2 && decide (feed = reading.1.2.toLowerCase))) := by
  induction readings generalizing state with
  | nil => exact ⟨rfl, fun feed => (Bool.or_false _).symm⟩
  | cons reading rest inductionHypothesis =>
    obtain ⟨pair, answer⟩ := reading
    rw [List.foldl_cons]
    cases answer with
    | none => exact inductionHypothesis state
    | some round =>
      by_cases warm : isWarm pair.2 round blockTimestamp = true
      · have kept : warmReadings blockTimestamp ((pair, some round) :: rest) =
            (pair, round) :: warmReadings blockTimestamp rest := by
          simp [warmReadings, Option.filter_some, warm]
        have taken : takeReading blockTimestamp state (pair, some round) = _ :=
          (registerFeedIfWarm_eq blockTimestamp state (pair, round)).trans (if_pos warm)
        obtain ⟨models, feeds⟩ :=
          inductionHypothesis (takeReading blockTimestamp state (pair, some round))
        refine ⟨?_, fun feed => ?_⟩
        · rw [models, kept, taken]
          rfl
        · rw [feeds, kept, taken, List.any_cons, ← Bool.or_assoc]
          congr 1
          dsimp only
          cases critical : isCriticalFeed pair.2 with
          | true => rw [if_pos rfl, InsertionMap.has_set, Bool.true_and, Bool.or_comm]
          | false => simp
      · have dropped : warmReadings blockTimestamp ((pair, some round) :: rest) =
            warmReadings blockTimestamp rest := by
          simp [warmReadings, Option.filter_some, warm]
        have taken : takeReading blockTimestamp state (pair, some round) = state :=
          (registerFeedIfWarm_eq blockTimestamp state (pair, round)).trans (if_neg warm)
        rw [taken, dropped]
        exact inductionHypothesis state

end Feeds

/-! ## The bootstrap -/

section Bootstrap

variable {chainFeeds : List (Address × Option Address)} {model : LocalPositionModel}
  {events : List BootstrapEvent}

theorem runs_crossCheck {rows : List (Address × BootstrappedPrice)} {outcome : Except String Unit}
    (run : Runs (crossCheck rows) events outcome) : outcome = .ok () := by
  induction rows generalizing events with
  | nil => exact (runs_pure.mp run).2
  | cons row rest inductionHypothesis =>
    rw [crossCheck] at run
    split at run
    · obtain ⟨_, _, rfl, resumed⟩ := runs_call.mp run
      exact inductionHypothesis resumed
    · exact inductionHypothesis run

/-- A critical feed with a reading that is registered. -/
def CriticalFeedsWarm (warm : List ((Address × Address) × FeedAnswer)) : Bool :=
  CRITICAL_FEEDS.all (fun critical =>
    warm.any (fun reading => decide (reading.1.2.toLowerCase = critical.toLowerCase)))

/-- What a completed bootstrap did: the check that let it pass, the multicall, and one
reading for each feed, of which the warm ones are registered. -/
structure Bootstrapped (chainFeeds : List (Address × Option Address)) (model : LocalPositionModel)
    (events : List BootstrapEvent) (blockTimestamp : Int) (results : List MulticallResult)
    (readings : List ((Address × Address) × Option FeedAnswer)) (after : LocalPositionModel)
    (result : OracleBootstrapResult) : Prop where
  checked : ∃ checks refused raw later, events = checks ++ later ∧
    PassedCheck BOOTSTRAP_MAX_RETRIES checks refused raw blockTimestamp
  called : ⟨.multicall (feedIndex chainFeeds), .ok results⟩ ∈ events
  feeds : readings.map Prod.fst = chainFeedPairs chainFeeds
  sources : ∀ reading ∈ readings, ∀ round, reading.2 = some round →
    FromOneSource (feedIndex chainFeeds) results events reading.1 round
  positions : after.positions = model.positions
  prices : after.prices =
    ((warmReadings blockTimestamp readings).foldl registerReading model).prices
  feedStates : after.feedStates =
    ((warmReadings blockTimestamp readings).foldl registerReading model).feedStates
  verdict : result.pricesBootstrapped = CriticalFeedsWarm (warmReadings blockTimestamp readings)
  marked : after.pricesBootstrapped = (model.pricesBootstrapped || result.pricesBootstrapped)

/-- Registrations look at nothing but the prices and the feed states. -/
theorem foldl_registerReading_congr {left right : LocalPositionModel}
    (warm : List ((Address × Address) × FeedAnswer)) (prices : left.prices = right.prices)
    (feedStates : left.feedStates = right.feedStates) :
    (warm.foldl registerReading left).prices = (warm.foldl registerReading right).prices ∧
      (warm.foldl registerReading left).feedStates =
        (warm.foldl registerReading right).feedStates ∧
      (warm.foldl registerReading left).positions = left.positions ∧
      (warm.foldl registerReading left).pricesBootstrapped = left.pricesBootstrapped := by
  induction warm generalizing left right with
  | nil => exact ⟨prices, feedStates, rfl, rfl⟩
  | cons reading rest inductionHypothesis =>
    refine inductionHypothesis ?_ ?_
    · simp only [registerReading, LocalPositionModel.registerBootstrapPrice, prices]
    · simp only [registerReading, LocalPositionModel.registerBootstrapPrice, feedStates]

/-- The critical feeds are looked up by their lower-cased address. -/
theorem criticalFeedsOk_eq {readings : List ((Address × Address) × Option FeedAnswer)}
    {blockTimestamp : Int} {state : WarmFeeds} (fresh : state.warmCriticalFeeds = .empty) :
    CRITICAL_FEEDS.all (fun feed =>
        (readings.foldl (takeReading blockTimestamp) state).warmCriticalFeeds.has
          feed.toLowerCase) =
      CriticalFeedsWarm (warmReadings blockTimestamp readings) := by
  have each : ∀ critical ∈ CRITICAL_FEEDS,
      (readings.foldl (takeReading blockTimestamp) state).warmCriticalFeeds.has
          critical.toLowerCase =
        (warmReadings blockTimestamp readings).any
          (fun reading => decide (reading.1.2.toLowerCase = critical.toLowerCase)) := by
    intro critical listed
    rw [(foldl_takeReading readings state).2, fresh]
    refine (Bool.false_or _).trans ?_
    congr 1
    funext reading
    by_cases same : critical.toLowerCase = reading.1.2.toLowerCase
    · have known : isCriticalFeed reading.1.2 = true :=
        List.any_eq_true.mpr ⟨critical, listed, decide_eq_true same⟩
      rw [known, decide_eq_true same, decide_eq_true same.symm]
      rfl
    · rw [decide_eq_false same, decide_eq_false (Ne.symm same), Bool.and_false]
  rw [CriticalFeedsWarm, Bool.eq_iff_iff, List.all_eq_true, List.all_eq_true]
  constructor
  · intro all critical listed
    rw [← each critical listed]
    exact all critical listed
  · intro all critical listed
    rw [each critical listed]
    exact all critical listed

/-- With a healthy sequencer the end marks the prices exactly when the critical feeds are warm,
and leaves the rest of the model as it is. -/
theorem runs_finish {state : WarmFeeds} {warm : Bool}
    {outcome : Except String (LocalPositionModel × OracleBootstrapResult)}
    (all : CRITICAL_FEEDS.all (fun feed => state.warmCriticalFeeds.has feed.toLowerCase) = warm)
    (run : Runs (finish true state) events outcome) :
    ∃ after, outcome = .ok (after, ⟨warm, true, state.warmCriticalFeeds⟩) ∧
      after.positions = state.model.positions ∧ after.prices = state.model.prices ∧
      after.feedStates = state.model.feedStates ∧
      after.pricesBootstrapped = (state.model.pricesBootstrapped || warm) := by
  rw [finish, Bool.true_and, all] at run
  cases warm with
  | true =>
    rcases runs_bind.mp run with ⟨error, thrown, _⟩ | ⟨_, _, _, _, _, marked⟩
    · cases runs_crossCheck thrown
    · exact ⟨_, (runs_pure.mp marked).2, rfl, rfl, rfl, (Bool.or_true _).symm⟩
  | false => exact ⟨_, (runs_pure.mp run).2, rfl, rfl, rfl, (Bool.or_false _).symm⟩

/-- How a bootstrap ends: with what its readings give, or with the exception of the fifth
check or of the multicall. -/
def Ended (chainFeeds : List (Address × Option Address)) (model : LocalPositionModel)
    (events : List BootstrapEvent) :
    Except String (LocalPositionModel × OracleBootstrapResult) → Prop
  | .ok (after, result) => ∃ blockTimestamp results readings,
      Bootstrapped chainFeeds model events blockTimestamp results readings after result
  | .error error =>
      (∃ refused : List (Except String (RawResult × Int)), refused.length = BOOTSTRAP_MAX_RETRIES ∧
        (∀ answer ∈ refused, passes answer = false) ∧ events = (refusedChecks refused).dropLast) ∨
      ∃ checks refused raw blockTimestamp,
        PassedCheck BOOTSTRAP_MAX_RETRIES checks refused raw blockTimestamp ∧
        events = checks ++ [⟨.multicall (feedIndex chainFeeds), .error error⟩]

/-- Every run of the bootstrap, however the network answers: at most five checks a minute
apart, prices from one source each, and the mark exactly when both critical feeds are
registered; it throws for want of a healthy sequencer or of the multicall, and for
nothing else. -/
theorem bootstrap_ended {outcome : Except String (LocalPositionModel × OracleBootstrapResult)}
    (run : Runs (runOraclePriceBootstrap chainFeeds model) events outcome) :
    Ended chainFeeds model events outcome := by
  rcases runs_bind.mp run with ⟨error, thrown, rfl⟩ | ⟨checked, checks, later, rfl, passed, rest⟩
  · exact Or.inl (runs_checkSequencer thrown)
  obtain ⟨healthy, refused, raw, check⟩ := runs_checkSequencer passed
  obtain ⟨answer, tail, rfl, resumed⟩ := runs_call.mp rest
  match answer with
  | .error error =>
    obtain ⟨rfl, rfl⟩ := runs_throw.mp resumed
    exact Or.inr ⟨checks, refused, raw, checked.2, check, rfl⟩
  | .ok results =>
    have answered := fromAnswers (feedIndex chainFeeds) results model
    rcases runs_bind.mp resumed with ⟨error, thrown, _⟩ | ⟨state, reads, last, rfl, loop, ended⟩
    · obtain ⟨_, _, _, impossible⟩ := runs_bootstrapFeeds answered thrown
      cases impossible
    obtain ⟨readings, listed, sources, same⟩ := runs_bootstrapFeeds answered loop
    cases same
    have models := (@foldl_takeReading checked.2 readings
      ⟨(takeResponses model (feedIndex chainFeeds) results).model, .empty, .empty⟩).1
    have registered := foldl_registerReading_congr (warmReadings checked.2 readings)
      answered.same.prices answered.same.feedStates
    rw [healthy] at ended
    obtain ⟨after, rfl, positions, prices, feedStates, marked⟩ :=
      runs_finish (criticalFeedsOk_eq rfl) ended
    have calls : ∀ event ∈ reads, event ∈ checks ++
        (⟨.multicall (feedIndex chainFeeds), .ok results⟩ :: (reads ++ last)) := by
      intro event member
      exact List.mem_append_right _ (List.mem_cons_of_mem _ (List.mem_append_left _ member))
    obtain ⟨samePrices, sameStates, samePositions, sameMark⟩ := registered
    rw [← models] at samePrices sameStates samePositions sameMark
    rw [answered.same.positions] at samePositions
    rw [answered.same.bootstrapped] at sameMark
    exact ⟨checked.2, results, readings,
      { checked := ⟨checks, refused, raw, _, rfl, check⟩
        called := List.mem_append_right _ List.mem_cons_self
        feeds := listed
        sources := fun reading member round found => (sources reading member round found).mono calls
        positions := positions.trans samePositions
        prices := prices.trans samePrices
        feedStates := feedStates.trans sameStates
        verdict := rfl
        marked := by rw [marked, sameMark] }⟩

end Bootstrap

/-! ## A feed that the multicall missed -/

/-- Ether and USDC with the critical feeds. -/
def criticalAssets : List (Address × Option Address) :=
  [(⟨7, 0⟩, CRITICAL_FEEDS[0]?), (BASE_USDC, CRITICAL_FEEDS[1]?)]

/-- A network that answers every check, and all of the multicall but the decimals of the
USDC feed and one configuration. -/
def missedDecimals : (op : BootstrapOp) → BootstrapOp.Answer op
  | .sequencer => .ok (.tuple [1, 0, 0, 0, 1], 10000)
  | .sleep _ => ()
  | .multicall _ => .ok [
      .success (.tuple [1, 200000000000, 9000, 9000, 1]), .success (.number 8),
      .success (.tuple [1, 100000000, 9000, 9000, 1]), .failure,
      .success (.tuple [18, 8000, 8300, 10500, 1500]), .failure]
  | .feedPair _ => .ok (.tuple [2, 99990000, 9500, 9500, 2], .number 8)
  | .direct _ => .error "timeout"

/-- The USDC feed is read again by itself, and the prices are marked. -/
theorem bootstrap_ended_missedDecimals :
    ((runOraclePriceBootstrap criticalAssets .initial).evaluate missedDecimals).toOption.map
        (fun left => (left.1.prices.entries, left.2.pricesBootstrapped)) =
      some ([(⟨7, 0⟩, 2000 * WAD), (BASE_USDC.toLowerCase, 999900000000000000)], true) ∧
    Ended criticalAssets .initial
      ((runOraclePriceBootstrap criticalAssets .initial).trace missedDecimals)
      ((runOraclePriceBootstrap criticalAssets .initial).evaluate missedDecimals) :=
  ⟨by decide +kernel, bootstrap_ended (runs_trace missedDecimals _)⟩

end OraclePriceBootstrap

end LiquidationBot
