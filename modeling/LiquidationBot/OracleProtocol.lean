import LiquidationBot.PriceOracleCache

/-!
# What a price call knows

A call looks up once. From then on it hands on only what it has received: prices
that the cache or a promise gave it, and prices that it stored itself, each made
from a round or an Aave price that it has read. So the phase of a call lists what
it has received, and a call asks to store, settle or return nothing else.
-/

namespace LiquidationBot

open Async PriceOracleCache

/-- What a call has received since its lookup. -/
structure OraclePhase where
  begun : Option Nat
  promise : Option (Address × Nat)
  awaiting : List (Address × Nat)
  served : List (Address × OraclePrice)
  rounds : List (Address × Round × Nat)
  known : List (Address × Nat)
  assetPrices : List (Int × Nat)
  stored : List (Address × OraclePrice)

namespace OraclePhase

/-- A call that has made no turn. -/
def start : OraclePhase := ⟨none, none, [], [], [], [], [], []⟩

/-- What a batch gets from the cache. -/
def servedBy (looked : List (Address × Lookup)) : List (Address × OraclePrice) :=
  looked.filterMap (fun entry => match entry.2 with
    | .cached price => some (entry.1, price)
    | _ => none)

/-- What a batch has to wait for. -/
def awaitedBy (looked : List (Address × Lookup)) : List (Address × Nat) :=
  looked.filterMap (fun entry => match entry.2 with
    | .inFlight promise => some (entry.1, promise)
    | _ => none)

/-- The rounds in the responses of a multicall. -/
def roundsIn (feeds : List Address) (responses : List (Option Round)) (readAt : Nat) :
    List (Address × Round × Nat) :=
  (feeds.zip responses).filterMap (fun entry => entry.2.map (entry.1, ·, readAt))

/-- A reading is made from a received round of the token's feed, with decimals that
are configured, received, or the default. -/
structure Grounded (config : PriceOracleCacheConfig) (phase : OraclePhase) (token : Address)
    (reading : Reading) : Prop where
  round : (reading.feed, reading.round, reading.readAt) ∈ phase.rounds
  decimals : ∃ feed, resolveValidatedFeedConfig config token = some feed ∧
    feed.feed = reading.feed ∧
    match reading.decimalsFrom with
    | .configured => feed.priceDecimals = some reading.decimals
    | .read => feed.priceDecimals = none ∧ (reading.feed, reading.decimals) ∈ phase.known
    | .assumed => feed.priceDecimals = none ∧ reading.decimals = DEFAULT_USD_DECIMALS

open Classical in
/-- The phase after an answered turn. A second lookup, and what is not made from
received values, are not allowed. -/
noncomputable def next (config : PriceOracleCacheConfig) (phase : OraclePhase) :
    (op : OracleOp) → op.Answer → Option OraclePhase
  | .lookup token, (moment, looked) =>
      if phase = start then
        some { start with
          begun := some moment
          promise := if looked = .missing then some (token, moment) else none
          awaiting := awaitedBy [(token, looked)]
          served := servedBy [(token, looked)] }
      else none
  | .lookupMany _ _, (moment, looked) =>
      if phase = start then
        some { start with
          begun := some moment
          awaiting := awaitedBy looked
          served := servedBy looked }
      else none
  | .join token promise, price =>
      if (token, promise) ∈ phase.awaiting then
        some { phase with served := (token, price) :: phase.served }
      else none
  | .settle token promise price, _ =>
      if phase.promise = some (token, promise) ∧ (price.raw = 0 ∨ (token, price) ∈ phase.stored) then
        some phase
      else none
  | .latestRoundData feed, .ok (round, readAt) =>
      some { phase with rounds := (feed, round, readAt) :: phase.rounds }
  | .multicall feeds, .ok (responses, readAt) =>
      some { phase with rounds := roundsIn feeds responses readAt ++ phase.rounds }
  | .cachedDecimals feed, some decimals =>
      some { phase with known := (feed, decimals) :: phase.known }
  | .decimals feed, .ok decimals => some { phase with known := (feed, decimals) :: phase.known }
  | .rememberDecimals feed decimals, _ =>
      if (feed, decimals) ∈ phase.known then some phase else none
  | .guardFreshness token reading, price =>
      if Grounded config phase token reading then
        some { phase with stored := (token, price) :: phase.stored }
      else none
  | .getAssetPrice _, .ok (price, readAt) =>
      some { phase with assetPrices := (sanitizeOraclePrice price, readAt) :: phase.assetPrices }
  | .storeAavePrice token price readAt, stored =>
      if (price, readAt) ∈ phase.assetPrices then
        some { phase with stored := (token, stored) :: phase.stored }
      else none
  | _, _ => some phase

/-- What a batch gets from the cache was found there. -/
theorem mem_servedBy {looked : List (Address × Lookup)} {entry : Address × OraclePrice}
    (served : entry ∈ servedBy looked) : (entry.1, .cached entry.2) ∈ looked := by
  obtain ⟨⟨token, found⟩, member, taken⟩ := List.mem_filterMap.mp served
  cases found with
  | cached price =>
    cases taken
    exact member
  | inFlight promise => cases taken
  | missing => cases taken

theorem mem_awaitedBy {looked : List (Address × Lookup)} {entry : Address × Nat}
    (awaited : entry ∈ awaitedBy looked) : (entry.1, .inFlight entry.2) ∈ looked := by
  obtain ⟨⟨token, found⟩, member, taken⟩ := List.mem_filterMap.mp awaited
  cases found with
  | cached price => cases taken
  | inFlight promise =>
    cases taken
    exact member
  | missing => cases taken

/-- A round of a multicall is one of the node's at its moment. -/
theorem mem_roundsIn {node : OracleNode} {turn : OracleTurn} {world : OracleWorld}
    {feeds : List Address} {received : Address × Round × Nat}
    (member : received ∈ roundsIn feeds (feeds.zipIdx.map (fun entry =>
      if entry.2 ∈ turn.failing then none
      else some (node.latestRound world.moment entry.1))) world.moment) :
    received.2.1 = node.latestRound received.2.2 received.1 ∧ received.2.2 = world.moment := by
  have general : ∀ (feeds : List Address) (first : Nat), received ∈ roundsIn feeds
      ((feeds.zipIdx first).map (fun entry => if entry.2 ∈ turn.failing then none
        else some (node.latestRound world.moment entry.1))) world.moment →
      received.2.1 = node.latestRound received.2.2 received.1 ∧ received.2.2 = world.moment := by
    intro feeds
    induction feeds with
    | nil => simp [roundsIn]
    | cons feed rest inductionHypothesis =>
      intro first found
      by_cases failed : first ∈ turn.failing
      · refine inductionHypothesis (first + 1) ?_
        simpa [roundsIn, failed] using found
      · have choice : received = (feed, node.latestRound world.moment feed, world.moment) ∨
            received ∈ roundsIn rest
              ((rest.zipIdx (first + 1)).map (fun entry => if entry.2 ∈ turn.failing then none
                else some (node.latestRound world.moment entry.1))) world.moment := by
          simpa [roundsIn, failed] using found
        rcases choice with rfl | later
        · exact ⟨rfl, rfl⟩
        · exact inductionHypothesis (first + 1) later
  exact general feeds 0 member

/-- A later phase of the same call. -/
structure Grows (before after : OraclePhase) : Prop where
  begun : after.begun = before.begun
  promise : after.promise = before.promise
  awaiting : after.awaiting = before.awaiting
  served : ∀ entry ∈ before.served, entry ∈ after.served
  rounds : ∀ entry ∈ before.rounds, entry ∈ after.rounds
  stored : ∀ entry ∈ before.stored, entry ∈ after.stored

theorem Grows.refl (phase : OraclePhase) : Grows phase phase :=
  ⟨rfl, rfl, rfl, fun _ member => member, fun _ member => member, fun _ member => member⟩

theorem Grows.trans {first second third : OraclePhase} (earlier : Grows first second)
    (later : Grows second third) : Grows first third :=
  ⟨later.begun.trans earlier.begun, later.promise.trans earlier.promise,
    later.awaiting.trans earlier.awaiting,
    fun entry member => later.served entry (earlier.served entry member),
    fun entry member => later.rounds entry (earlier.rounds entry member),
    fun entry member => later.stored entry (earlier.stored entry member)⟩

/-- A price that a call stored itself, or none. -/
def Fetched (phase : OraclePhase) (token : Address) (price : OraclePrice) : Prop :=
  price.raw = 0 ∨ (token, price) ∈ phase.stored

/-- A price that a call has, or none. -/
def Has (phase : OraclePhase) (token : Address) (price : OraclePrice) : Prop :=
  price.raw = 0 ∨ (token, price) ∈ phase.stored ∨ (token, price) ∈ phase.served

/-- Every price of a sink is one that the call has. -/
def Fills (phase : OraclePhase) (sink : Sink) : Prop :=
  ∀ token price, sink.get? token = some price → phase.Has token price

theorem Fetched.has {phase : OraclePhase} {token : Address} {price : OraclePrice}
    (fetched : phase.Fetched token price) : phase.Has token price :=
  fetched.imp_right Or.inl

theorem Has.grows {before after : OraclePhase} {token : Address} {price : OraclePrice}
    (has : before.Has token price) (grows : Grows before after) : after.Has token price := by
  rcases has with zero | stored | served
  · exact Or.inl zero
  · exact Or.inr (Or.inl (grows.stored _ stored))
  · exact Or.inr (Or.inr (grows.served _ served))

theorem Fills.grows {before after : OraclePhase} {sink : Sink} (fills : before.Fills sink)
    (grows : Grows before after) : after.Fills sink :=
  fun token price found => (fills token price found).grows grows

theorem Fills.set {phase : OraclePhase} {sink : Sink} (fills : phase.Fills sink) {token : Address}
    {price : OraclePrice} (has : phase.Has token price) : phase.Fills (sink.set token price) := by
  intro other stored found
  rcases InsertionMap.of_get?_set found with ⟨rfl, rfl⟩ | before
  · exact has
  · exact fills other stored before

theorem fills_empty (phase : OraclePhase) : phase.Fills .empty := by
  intro token price found
  cases found

/-- The turns that read the chain, or the decimals that are remembered. -/
def reads : OracleOp → Bool
  | .latestRoundData _ | .multicall _ | .cachedDecimals _ | .decimals _ | .getAssetPrice _ => true
  | _ => false

/-- What a read adds to what the call has received. -/
inductive Learns (node : OracleNode) (world : OracleWorld) (phase : OraclePhase) :
    OraclePhase → Prop
  | nothing : Learns node world phase phase
  | rounds (read : List (Address × Round × Nat))
      (answered : ∀ received ∈ read,
        received.2.1 = node.latestRound received.2.2 received.1 ∧ received.2.2 = world.moment) :
      Learns node world phase { phase with rounds := read ++ phase.rounds }
  | decimals (feed : Address) (decimals : Nat)
      (answered : decimals = node.decimals feed ∨
        world.oracle.feedDecimalsCache.get? feed = some decimals) :
      Learns node world phase { phase with known := (feed, decimals) :: phase.known }
  | assetPrice (price : Int) :
      Learns node world phase
        { phase with assetPrices := (price, world.moment) :: phase.assetPrices }

/-- A read changes nothing but the moment; a failed one teaches nothing. -/
theorem learns_serve {config : PriceOracleCacheConfig} {node : OracleNode} {turn : OracleTurn}
    {world after : OracleWorld} {op : OracleOp} {answer : op.Answer} {phase moved : OraclePhase}
    (read : reads op = true) (served : serve config node turn world op = some (after, answer))
    (allowed : next config phase op answer = some moved) :
    after = world.next world.oracle ∧ Learns node world phase moved := by
  cases op with
  | latestRoundData feed =>
    cases served
    cases failed : turn.fails with
    | true =>
      simp only [failed, if_true, next] at allowed
      cases allowed
      exact ⟨rfl, .nothing⟩
    | false =>
      simp only [failed, Bool.false_eq_true, if_false, next] at allowed
      cases allowed
      exact ⟨rfl, .rounds [(feed, node.latestRound world.moment feed, world.moment)] (by simp)⟩
  | multicall feeds =>
    cases served
    cases failed : turn.fails with
    | true =>
      simp only [failed, if_true, next] at allowed
      cases allowed
      exact ⟨rfl, .nothing⟩
    | false =>
      simp only [failed, Bool.false_eq_true, if_false, next] at allowed
      cases allowed
      exact ⟨rfl, .rounds _ (fun received member => mem_roundsIn member)⟩
  | cachedDecimals feed =>
    cases served
    cases found : world.oracle.feedDecimalsCache.get? feed with
    | none =>
      simp only [found, next] at allowed
      cases allowed
      exact ⟨rfl, .nothing⟩
    | some decimals =>
      simp only [found, next] at allowed
      cases allowed
      exact ⟨rfl, .decimals feed decimals (Or.inr found)⟩
  | decimals feed =>
    cases served
    cases failed : turn.fails with
    | true =>
      simp only [failed, if_true, next] at allowed
      cases allowed
      exact ⟨rfl, .nothing⟩
    | false =>
      simp only [failed, Bool.false_eq_true, if_false, next] at allowed
      cases allowed
      exact ⟨rfl, .decimals feed _ (Or.inl rfl)⟩
  | getAssetPrice token =>
    cases served
    cases failed : turn.fails with
    | true =>
      simp only [failed, if_true, next] at allowed
      cases allowed
      exact ⟨rfl, .nothing⟩
    | false =>
      simp only [failed, Bool.false_eq_true, if_false, next] at allowed
      cases allowed
      exact ⟨rfl, .assetPrice _⟩
  | _ => cases read

end OraclePhase

open OraclePhase

variable {config : PriceOracleCacheConfig} {phase : OraclePhase}

section Conforms

variable {α : Type} {accept : OraclePhase → Except Thrown α → Prop}

theorem conforms_perform {op : OracleOp} {rest : op.Answer → OracleProgram α} :
    Conforms (next config) accept phase ((perform op).bind rest) ↔
      ∀ answer, ∃ after, next config phase op answer = some after ∧
        Conforms (next config) accept after (rest answer) := Iff.rfl

end Conforms

/-- A program that fetches a price: it ends, in a later phase, with one that it
has stored or none. -/
def Fetches (config : PriceOracleCacheConfig) (token : Address)
    (program : OracleProgram OraclePrice) (phase : OraclePhase) : Prop :=
  Conforms (next config) (fun after result => ∃ price, result = .ok price ∧
    Grows phase after ∧ after.Fetched token price) phase program

theorem fetches_zero (token : Address) : Fetches config token (.pure .zero) phase :=
  ⟨.zero, rfl, Grows.refl phase, Or.inl rfl⟩

theorem readAaveFallback_conforms (token : Address) :
    Fetches config token (readAaveFallback config token) phase := by
  unfold readAaveFallback
  cases config.aaveOracleAddress with
  | none => exact fetches_zero token
  | some oracle =>
    rw [Fetches, bind_eq, conforms_perform]
    rintro (error | ⟨raw, readAt⟩)
    · exact ⟨phase, rfl, .zero, rfl, Grows.refl phase, Or.inl rfl⟩
    · refine ⟨_, rfl, ?_⟩
      dsimp only
      split
      · exact ⟨.zero, rfl, ⟨rfl, rfl, rfl, fun _ member => member, fun _ member => member,
          fun _ member => member⟩, Or.inl rfl⟩
      · intro price
        refine ⟨_, if_pos List.mem_cons_self, price, rfl, ?_, Or.inr List.mem_cons_self⟩
        exact ⟨rfl, rfl, rfl, fun _ member => member, fun _ member => member,
          fun _ member => List.mem_cons_of_mem _ member⟩

/-- A normalized feed address stays as it is. -/
theorem validate_normalized {feed normalizedFeed : Address}
    (valid : validateAndNormalizeFeedAddress config feed = some normalizedFeed) :
    validateAndNormalizeFeedAddress config normalizedFeed = some normalizedFeed := by
  unfold validateAndNormalizeFeedAddress at valid ⊢
  dsimp only at valid ⊢
  split at valid
  · cases valid
  next allowed =>
    cases valid
    exact if_neg allowed

theorem validate_resolved {token : Address} {feed : OracleFeedConfig}
    (resolved : resolveValidatedFeedConfig config token = some feed) :
    validateAndNormalizeFeedAddress config feed.feed = some feed.feed := by
  unfold resolveValidatedFeedConfig at resolved
  split at resolved
  · cases resolved
  · obtain ⟨normalizedFeed, valid, rfl⟩ := Option.map_eq_some_iff.mp resolved
    exact validate_normalized valid

/-- The decimals of a feed are configured, received, or the default. -/
def Resolved (phase : OraclePhase) (feed : OracleFeedConfig) (decimals : Nat) :
    DecimalsSource → Prop
  | .configured => feed.priceDecimals = some decimals
  | .read => feed.priceDecimals = none ∧ (feed.feed, decimals) ∈ phase.known
  | .assumed => feed.priceDecimals = none ∧ decimals = DEFAULT_USD_DECIMALS

theorem grows_known (phase : OraclePhase) (feed : Address) (decimals : Nat) :
    Grows phase { phase with known := (feed, decimals) :: phase.known } :=
  ⟨rfl, rfl, rfl, fun _ member => member, fun _ member => member, fun _ member => member⟩

theorem resolveFeedDecimals_conforms {feed : OracleFeedConfig}
    (normalized : validateAndNormalizeFeedAddress config feed.feed = some feed.feed) :
    Conforms (next config) (fun after result => ∃ resolved, result = .ok resolved ∧
      Grows phase after ∧ Resolved after feed resolved.1 resolved.2) phase
      (resolveFeedDecimals config feed) := by
  unfold resolveFeedDecimals
  cases configured : feed.priceDecimals with
  | some priceDecimals => exact ⟨(priceDecimals, .configured), rfl, Grows.refl phase, configured⟩
  | none =>
    simp only [normalized]
    rw [bind_eq, conforms_perform]
    rintro (_ | cached)
    · refine ⟨phase, rfl, ?_⟩
      dsimp only
      rw [bind_eq, conforms_perform]
      rintro (error | decimals)
      · exact ⟨phase, rfl, (DEFAULT_USD_DECIMALS, .assumed), rfl, Grows.refl phase, configured, rfl⟩
      · refine ⟨_, rfl, ?_⟩
        dsimp only
        rw [bind_eq, conforms_perform]
        refine fun _ => ⟨_, if_pos List.mem_cons_self, (decimals, .read), rfl, ?_⟩
        exact ⟨grows_known phase feed.feed decimals, configured, List.mem_cons_self⟩
    · refine ⟨_, rfl, (cached, .read), rfl, ?_⟩
      exact ⟨grows_known phase feed.feed cached, configured, List.mem_cons_self⟩

theorem priceRound_conforms {token : Address} {feed : OracleFeedConfig} {round : Round}
    {readAt : Nat} (resolved : resolveValidatedFeedConfig config token = some feed)
    (received : (feed.feed, round, readAt) ∈ phase.rounds) :
    Fetches config token (priceRound config token feed round readAt) phase := by
  rw [Fetches, priceRound, bind_eq, conforms_bind]
  refine (resolveFeedDecimals_conforms (validate_resolved resolved)).mono ?_
  rintro middle result ⟨⟨decimals, source⟩, rfl, grows, known⟩
  dsimp only at known ⊢
  have grounded : Grounded config middle token ⟨feed.feed, round, readAt, decimals, source⟩ := by
    refine ⟨grows.rounds _ received, feed, resolved, rfl, ?_⟩
    cases source with
    | configured => exact known
    | read => exact known
    | assumed => exact known
  intro price
  refine ⟨_, if_pos grounded, price, rfl, grows.trans ?_, Or.inr List.mem_cons_self⟩
  exact ⟨rfl, rfl, rfl, fun _ member => member, fun _ member => member,
    fun _ member => List.mem_cons_of_mem _ member⟩

/-- A program that fetches may be followed by another one. -/
theorem Fetches.after {token : Address} {program : OracleProgram OraclePrice}
    {earlier : OraclePhase} (grows : Grows earlier phase)
    (fetches : Fetches config token program phase) :
    Conforms (next config) (fun after result => ∃ price, result = .ok price ∧
      Grows earlier after ∧ after.Fetched token price) phase program := by
  refine Conforms.mono fetches ?_
  rintro after result ⟨price, rfl, later, fetched⟩
  exact ⟨price, rfl, grows.trans later, fetched⟩

theorem priceOrFallback_conforms {token : Address} {feed : OracleFeedConfig} {round : Round}
    {readAt : Nat} (resolved : resolveValidatedFeedConfig config token = some feed)
    (received : (feed.feed, round, readAt) ∈ phase.rounds) :
    Fetches config token (priceOrFallback config token feed round readAt) phase := by
  rw [Fetches, priceOrFallback, bind_eq, conforms_bind]
  refine (priceRound_conforms resolved received).mono ?_
  rintro middle result ⟨fresh, rfl, grows, fetched⟩
  dsimp only
  split
  · exact ⟨fresh, rfl, grows, fetched⟩
  · exact (readAaveFallback_conforms token).after grows

theorem fetchOne_conforms (token : Address) :
    Fetches config token (fetchOne config token) phase := by
  unfold fetchOne
  cases resolved : resolveValidatedFeedConfig config token with
  | none => exact readAaveFallback_conforms token
  | some feed =>
    dsimp only
    rw [Fetches, bind_eq, conforms_perform]
    rintro (error | ⟨round, readAt⟩)
    · exact ⟨phase, rfl, readAaveFallback_conforms token⟩
    · refine ⟨_, rfl, (priceOrFallback_conforms resolved List.mem_cons_self).after ?_⟩
      exact ⟨rfl, rfl, rfl, fun _ member => member, fun _ member => List.mem_cons_of_mem _ member,
        fun _ member => member⟩

/-- A program that fills a sink with prices that the call has. -/
def FillsOn (config : PriceOracleCacheConfig) (program : OracleProgram Sink)
    (phase : OraclePhase) : Prop :=
  Conforms (next config) (fun after result => ∃ sink, result = .ok sink ∧ Grows phase after ∧
    after.Fills sink) phase program

theorem fillsOn_pure {sink : Sink} (fills : phase.Fills sink) : FillsOn config (.pure sink) phase :=
  ⟨sink, rfl, Grows.refl phase, fills⟩

theorem FillsOn.after {program : OracleProgram Sink} {earlier : OraclePhase}
    (grows : Grows earlier phase) (fillsOn : FillsOn config program phase) :
    Conforms (next config) (fun after result => ∃ sink, result = .ok sink ∧ Grows earlier after ∧
      after.Fills sink) phase program := by
  refine Conforms.mono fillsOn ?_
  rintro after result ⟨sink, rfl, later, fills⟩
  exact ⟨sink, rfl, grows.trans later, fills⟩

/-- A fetched price goes into the sink, and the rest fills it on. -/
theorem FillsOn.fetch {token : Address} {program : OracleProgram OraclePrice}
    {rest : OraclePrice → OracleProgram Sink} {sink : Sink}
    (fetches : Fetches config token program phase) (fills : phase.Fills sink)
    (continues : ∀ after price, Grows phase after → after.Fills (sink.set token price) →
      FillsOn config (rest price) after) : FillsOn config (program.bind rest) phase := by
  rw [FillsOn, conforms_bind]
  refine Conforms.mono fetches ?_
  rintro after result ⟨price, rfl, grows, fetched⟩
  exact (continues after price grows ((fills.grows grows).set fetched.has)).after grows

theorem fillSink_conforms {price : Address → OracleProgram OraclePrice}
    (fetches : ∀ token phase, Fetches config token (price token) phase) (tokens : List Address)
    {sink : Sink} {phase : OraclePhase} (fills : phase.Fills sink) :
    FillsOn config (fillSink price tokens sink) phase := by
  induction tokens generalizing sink phase with
  | nil => exact fillsOn_pure fills
  | cons token rest inductionHypothesis =>
    exact FillsOn.fetch (fetches token phase) fills (fun _ _ _ more => inductionHypothesis more)

/-- Induct on the entries; each response stands where its entry does. -/
theorem priceEntries_conforms (readAt : Nat) (entries : List (Address × OracleFeedConfig))
    (resolved : ∀ entry ∈ entries, resolveValidatedFeedConfig config entry.1 = some entry.2)
    {responses : List (Option Round)} {sink : Sink} {phase : OraclePhase}
    (received : ∀ round ∈ roundsIn (entries.map (fun entry => entry.2.feed)) responses readAt,
      round ∈ phase.rounds) (fills : phase.Fills sink) :
    FillsOn config (priceEntries config readAt entries responses sink) phase := by
  induction entries generalizing responses sink phase with
  | nil => exact fillsOn_pure fills
  | cons entry rest inductionHypothesis =>
    obtain ⟨token, feed⟩ := entry
    have known := resolved (token, feed) List.mem_cons_self
    have later : ∀ round ∈ roundsIn (rest.map (fun entry => entry.2.feed)) responses.tail readAt,
        round ∈ phase.rounds := by
      intro round member
      apply received
      cases responses with
      | nil => simp [roundsIn] at member
      | cons first others =>
        cases first with
        | none => exact member
        | some first => exact List.mem_cons_of_mem _ member
    have fetches : Fetches config token
        (priceResponse config token feed readAt responses.head?.join) phase := by
      cases responses with
      | nil => exact readAaveFallback_conforms token
      | cons first others =>
        cases first with
        | none => exact readAaveFallback_conforms token
        | some round =>
          refine priceOrFallback_conforms known (received _ ?_)
          exact List.mem_cons_self
    rw [priceEntries, bind_eq]
    refine FillsOn.fetch fetches fills (fun after price grows more => ?_)
    exact inductionHypothesis (fun entry member => resolved entry (List.mem_cons_of_mem _ member))
      (fun round member => grows.rounds round (later round member)) more

theorem resolved_feedEntries {tokens : List Address} :
    ∀ entry ∈ feedEntries config tokens,
      resolveValidatedFeedConfig config entry.1 = some entry.2 := by
  intro entry member
  obtain ⟨token, _, found⟩ := List.mem_filterMap.mp member
  obtain ⟨feed, resolved, rfl⟩ := Option.map_eq_some_iff.mp found
  exact resolved

theorem fetchMany_conforms (tokens : List Address) {sink : Sink} (fills : phase.Fills sink) :
    FillsOn config (fetchMany config tokens sink) phase := by
  unfold fetchMany
  dsimp only
  split
  · exact fillSink_conforms (fun token _ => readAaveFallback_conforms token) tokens fills
  · rw [bind_eq, FillsOn, conforms_bind]
    refine (fillSink_conforms (fun token _ => readAaveFallback_conforms token) _ fills).mono ?_
    rintro middle result ⟨unfed, rfl, grows, filled⟩
    dsimp only
    rw [bind_eq, conforms_perform]
    rintro (error | ⟨responses, readAt⟩)
    · refine ⟨middle, rfl, FillsOn.after grows ?_⟩
      exact fillSink_conforms (fun token _ => fetchOne_conforms token) _ filled
    · refine ⟨_, rfl, ?_⟩
      let rounds := roundsIn ((feedEntries config tokens).map (fun entry => entry.2.feed)) responses
        readAt
      have received : Grows middle { middle with rounds := rounds ++ middle.rounds } :=
        ⟨rfl, rfl, rfl, fun _ member => member, fun _ member => List.mem_append_right _ member,
          fun _ member => member⟩
      refine FillsOn.after (grows.trans received) ?_
      exact priceEntries_conforms readAt _ resolved_feedEntries
        (fun _ member => List.mem_append_left _ member) (filled.grows received)

theorem grows_served (phase : OraclePhase) (token : Address) (price : OraclePrice) :
    Grows phase { phase with served := (token, price) :: phase.served } :=
  ⟨rfl, rfl, rfl, fun _ member => List.mem_cons_of_mem _ member, fun _ member => member,
    fun _ member => member⟩

theorem joinPending_conforms (looked : List (Address × Lookup)) {sink : Sink} {phase : OraclePhase}
    (awaited : ∀ entry ∈ awaitedBy looked, entry ∈ phase.awaiting) (fills : phase.Fills sink) :
    FillsOn config (joinPending looked sink) phase := by
  induction looked generalizing sink phase with
  | nil => exact fillsOn_pure fills
  | cons entry rest inductionHypothesis =>
    obtain ⟨token, found⟩ := entry
    cases found with
    | cached price => exact inductionHypothesis awaited fills
    | missing => exact inductionHypothesis awaited fills
    | inFlight promise =>
      rw [joinPending, bind_eq, FillsOn, conforms_perform]
      intro price
      have grows := grows_served phase token price
      refine ⟨_, if_pos (awaited _ List.mem_cons_self), FillsOn.after grows ?_⟩
      refine inductionHypothesis (fun entry member => awaited entry (List.mem_cons_of_mem _ member))
        ((fills.grows grows).set (Or.inr (Or.inr List.mem_cons_self)))

/-- The cached prices of a batch were served to it. -/
theorem fills_cachedSink (looked : List (Address × Lookup))
    (served : ∀ entry ∈ servedBy looked, entry ∈ phase.served) :
    phase.Fills (cachedSink looked) := by
  have general : ∀ (looked : List (Address × Lookup)) (sink : Sink), phase.Fills sink →
      (∀ entry ∈ servedBy looked, entry ∈ phase.served) →
      phase.Fills (looked.foldl (fun sink entry => match entry.2 with
        | .cached price => sink.set entry.1 price
        | _ => sink) sink) := by
    intro looked
    induction looked with
    | nil => exact fun _ fills _ => fills
    | cons entry rest inductionHypothesis =>
      intro sink fills served
      obtain ⟨token, found⟩ := entry
      cases found with
      | cached price =>
        refine inductionHypothesis _ (fills.set (Or.inr (Or.inr (served _ List.mem_cons_self)))) ?_
        exact fun entry member => served entry (List.mem_cons_of_mem _ member)
      | inFlight promise => exact inductionHypothesis sink fills served
      | missing => exact inductionHypothesis sink fills served
  exact general looked .empty (fills_empty phase) served

theorem fetchImmediate_conforms (tokens : List Address) {sink : Sink} (fills : phase.Fills sink) :
    FillsOn config (fetchImmediate config tokens sink) phase := by
  unfold fetchImmediate
  split
  · exact fillsOn_pure fills
  · exact fetchMany_conforms tokens fills

/-- A call that ends with prices it has. -/
def Answers (config : PriceOracleCacheConfig) (program : OracleProgram Sink) : Prop :=
  Conforms (next config) (fun after result => ∀ sink, result = .ok sink → after.Fills sink) start
    program

theorem batch_conforms (tokens : List Address) (forced : Bool) :
    Answers config (batch config tokens forced) := by
  unfold batch
  dsimp only
  split
  · rintro sink same
    cases same
    exact fills_empty start
  · rw [bind_eq, Answers, conforms_perform]
    rintro ⟨moment, looked⟩
    refine ⟨_, if_pos rfl, ?_⟩
    dsimp only
    rw [bind_eq, conforms_bind]
    have cached : OraclePhase.Fills { start with
        begun := some moment, awaiting := awaitedBy looked, served := servedBy looked }
        (cachedSink looked) := fills_cachedSink looked (fun _ member => member)
    refine Conforms.mono (fetchImmediate_conforms _ cached) ?_
    rintro middle result ⟨fetched, rfl, grows, fills⟩
    refine Conforms.mono (joinPending_conforms looked (fun entry member => ?_) fills) ?_
    · rw [grows.awaiting]
      exact member
    · rintro after result ⟨sink, rfl, _, filled⟩ answered same
      cases same
      exact filled

theorem getUsdPrice_conforms (token : Address) :
    Conforms (next config) (fun after result => ∀ price, result = .ok price → after.Has token price)
      start (PriceOracleCache.getUsdPrice config token) := by
  rw [PriceOracleCache.getUsdPrice, bind_eq, conforms_perform]
  rintro ⟨moment, looked⟩
  refine ⟨_, if_pos rfl, ?_⟩
  cases looked with
  | cached price =>
    rintro found same
    cases same
    exact Or.inr (Or.inr List.mem_cons_self)
  | inFlight promise =>
    refine fun price => ⟨_, if_pos List.mem_cons_self, fun found same => ?_⟩
    cases same
    exact Or.inr (Or.inr List.mem_cons_self)
  | missing =>
    dsimp only
    rw [bind_eq, conforms_bind]
    refine Conforms.mono (fetchOne_conforms token) ?_
    rintro middle result ⟨price, rfl, grows, fetched⟩
    dsimp only
    rw [bind_eq, conforms_perform]
    have own : middle.promise = some (token, moment) := by
      rw [grows.promise]
      rfl
    refine fun _ => ⟨middle, if_pos ⟨own, fetched⟩, fun found same => ?_⟩
    cases same
    exact fetched.has

/-- What a call asks for follows the protocol, and it returns prices it has. -/
theorem PriceOracleCache.OracleCall.conforms (call : OracleCall) :
    Answers config (call.program config) := by
  cases call with
  | getUsdPrice token =>
    rw [OracleCall.program, bind_eq, Answers, conforms_bind]
    refine (getUsdPrice_conforms token).mono ?_
    rintro after (error | price) has
    · rintro sink same
      cases same
    · rintro sink same
      cases same
      exact (fills_empty after).set (has price rfl)
  | batchGetUsdPrices tokens => exact batch_conforms tokens false
  | forceRefreshUsdPrices tokens => exact batch_conforms tokens true
  | clear =>
    refine fun _ => ⟨start, rfl, ?_⟩
    rintro sink same
    cases same
    exact fills_empty start

end LiquidationBot
