import LiquidationBot.FeedDecimals

/-!
# Old reads over new ones

Nothing keeps a read that was under way when a refresh began from being stored
after what the refresh has stored, and nothing compares a round with the one that
it replaces. What the cache has is fresh as long as every price is stored in time:
no refresh of its token has begun since it was read, and no later round of the
token has been stored since its entry was cleared.

Promises need no such condition. A refresh forgets the promises of its tokens, so
whoever joins one later joins a read that began after the refresh.
-/

namespace LiquidationBot

open Async

namespace PriceOracleCache

/-- The moment of a call's lookup, which is its first turn. -/
def begunAt : List (Event OracleOp OracleOp.Answer) → Option Nat
  | ⟨.lookup _, (moment, _)⟩ :: _ => some moment
  | ⟨.lookupMany _ _, (moment, _)⟩ :: _ => some moment
  | _ => none

/-- A price that the turn stores was not read before a refresh of its token that has
begun, and its round not before the last one stored since the entry was cleared. -/
def Timely (config : PriceOracleCacheConfig) (world : OracleWorld) (turn : OracleTurn) :
    OracleOp → Prop
  | .guardFreshness token reading => Usable config reading turn.nowMs →
      (∀ began, (token, began) ∈ world.refreshes → began ≤ reading.readAt) ∧
        ∀ last ∈ lastRound config world.oracle turn.nowMs token, last.1 ≤ reading.readAt
  | .storeAavePrice token _ readAt =>
      ∀ began, (token, began) ∈ world.refreshes → began ≤ readAt
  | _ => True

/-- Only calls of the cache are started, and what is stored is timely. -/
structure TimelyTurn (config : PriceOracleCacheConfig) (before : OraclePool) (act : OracleAct) :
    Prop where
  calls : Calls config act
  timely : ∀ index turn, act = .run index turn → ∀ op resume log,
    before.threads[index]? = some ⟨.call op resume, log⟩ → Timely config before.shared turn op

/-- The price was read at the moment or later. -/
def ReadSince (price : OraclePrice) (moment : Nat) : Prop :=
  ∃ readAt ∈ price.readAt, moment ≤ readAt

theorem ReadSince.earlier {price : OraclePrice} {moment earlier : Nat}
    (since : ReadSince price moment) (before : earlier ≤ moment) : ReadSince price earlier := by
  obtain ⟨readAt, read, after⟩ := since
  exact ⟨readAt, read, before.trans after⟩

/-- The round that the token's feed had at a moment. -/
def RoundOf (config : PriceOracleCacheConfig) (node : OracleNode) (token : Address)
    (last : Nat × Int) : Prop :=
  ∃ feed, resolveValidatedFeedConfig config token = some feed ∧
    last.2 = ((node.latestRound last.1 feed.feed).updatedAt : Int)

/-- The cache answers no refreshed token with an older price; no Chainlink store
went back behind the last round before it. -/
structure Current (config : PriceOracleCacheConfig) (node : OracleNode) (world : OracleWorld) :
    Prop where
  refreshes : ∀ refresh ∈ world.refreshes, refresh.2 < world.moment
  inFlight : ∀ token promise, world.oracle.inFlight.get? token = some promise →
    ∀ began, (token, began) ∈ world.refreshes → began ≤ promise
  settled : ∀ token promise price, world.settled.get? (token, promise) = some price →
    price.raw = 0 ∨ ReadSince price promise
  cached : ∀ token entry, world.oracle.cache.get? token = some entry →
    ∀ began, (token, began) ∈ world.refreshes → ReadSince entry.price began
  rounds : ∀ token entry, world.oracle.cache.get? token = some entry →
    ∀ last ∈ entry.lastRound, RoundOf config node token last
  stores : ∀ stored ∈ world.stores, ∀ reading checkedMs,
    stored.price.origin = .chainlink reading checkedMs →
      ∀ last ∈ stored.previous, last.2 ≤ (reading.round.updatedAt : Int)

/-- What a call has received was read since the refreshes that began before it. -/
structure Aware (world : OracleWorld) (phase : OraclePhase) : Prop where
  begun : ∀ begun ∈ phase.begun, begun < world.moment
  promise : ∀ own ∈ phase.promise, phase.begun = some own.2
  rounds : ∀ received ∈ phase.rounds, ∀ begun ∈ phase.begun, begun ≤ received.2.2
  assetPrices : ∀ received ∈ phase.assetPrices, ∀ begun ∈ phase.begun, begun ≤ received.2
  awaiting : ∀ entry ∈ phase.awaiting, ∀ begun ∈ phase.begun,
    ∀ refreshed, (entry.1, refreshed) ∈ world.refreshes → refreshed < begun → refreshed ≤ entry.2
  served : ∀ entry ∈ phase.served, entry.2.raw = 0 ∨ ∀ begun ∈ phase.begun,
    ∀ refreshed, (entry.1, refreshed) ∈ world.refreshes → refreshed < begun →
      ReadSince entry.2 refreshed
  stored : ∀ entry ∈ phase.stored, entry.2.raw = 0 ∨ ∀ begun ∈ phase.begun,
    ReadSince entry.2 begun

variable {config : PriceOracleCacheConfig} {node : OracleNode}

theorem current_initial : Current config node .initial where
  refreshes := by simp [OracleWorld.initial]
  inFlight := by
    intro token promise found
    cases found
  settled := by
    intro token promise price found
    cases found
  cached := by
    intro token entry found
    cases found
  rounds := by
    intro token entry found
    cases found
  stores := by simp [OracleWorld.initial]

theorem aware_start (world : OracleWorld) : Aware world .start where
  begun := by simp [OraclePhase.start]
  promise := by simp [OraclePhase.start]
  rounds := by simp [OraclePhase.start]
  assetPrices := by simp [OraclePhase.start]
  awaiting := by simp [OraclePhase.start]
  served := by simp [OraclePhase.start]
  stored := by simp [OraclePhase.start]

/-- Moments pass, and new refreshes are of now. -/
theorem moment_serve {turn : OracleTurn} {world after : OracleWorld} {op : OracleOp}
    {answer : op.Answer} (served : serve config node turn world op = some (after, answer)) :
    after.moment = world.moment + 1 ∧
      ∀ refresh ∈ after.refreshes, refresh ∈ world.refreshes ∨ refresh.2 = world.moment := by
  cases op with
  | join token promise =>
    obtain ⟨price, _, same⟩ := Option.map_eq_some_iff.mp served
    cases same
    exact ⟨rfl, fun _ member => Or.inl member⟩
  | lookupMany tokens forced =>
    cases served
    refine ⟨rfl, fun refresh member => (List.mem_append.mp member).imp_right (fun new => ?_)⟩
    cases forced with
    | false => cases new
    | true =>
      obtain ⟨token, _, rfl⟩ := List.mem_map.mp new
      rfl
  | _ =>
    cases served
    exact ⟨rfl, fun _ member => Or.inl member⟩

theorem Aware.later {before after : OracleWorld} {phase : OraclePhase} (aware : Aware before phase)
    (moment : after.moment = before.moment + 1)
    (refreshes : ∀ refresh ∈ after.refreshes,
      refresh ∈ before.refreshes ∨ refresh.2 = before.moment) : Aware after phase := by
  have known : ∀ begun ∈ phase.begun, ∀ token refreshed, (token, refreshed) ∈ after.refreshes →
      refreshed < begun → (token, refreshed) ∈ before.refreshes := by
    intro begun looked token refreshed member less
    have past := aware.begun begun looked
    rcases refreshes _ member with earlier | now
    · exact earlier
    · dsimp only at now
      omega
  refine ⟨fun begun looked => ?_, aware.promise, aware.rounds, aware.assetPrices,
    fun entry member begun looked refreshed found less => ?_,
    fun entry member => (aware.served entry member).imp_right
      (fun since begun looked refreshed found less => ?_), aware.stored⟩
  · have past := aware.begun begun looked
    omega
  · exact aware.awaiting entry member begun looked refreshed
      (known begun looked _ refreshed found less) less
  · exact since begun looked refreshed (known begun looked _ refreshed found less) less

/-- A change of the cache that adds neither a price nor a promise. -/
theorem Current.next {world : OracleWorld} (current : Current config node world)
    {oracle : PriceOracleCache}
    (promises : ∀ token promise, oracle.inFlight.get? token = some promise →
      world.oracle.inFlight.get? token = some promise)
    (entries : ∀ token entry, oracle.cache.get? token = some entry →
      world.oracle.cache.get? token = some entry) : Current config node (world.next oracle) where
  refreshes := fun refresh member => (current.refreshes refresh member).trans (Nat.lt_succ_self _)
  inFlight := fun token promise found => current.inFlight token promise (promises token promise found)
  settled := current.settled
  cached := fun token entry found => current.cached token entry (entries token entry found)
  rounds := fun token entry found => current.rounds token entry (entries token entry found)
  stores := current.stores

/-- The last round stored for a token is one of its feed. -/
theorem Current.lastRound {world : OracleWorld} (current : Current config node world) {nowMs : Int}
    {token : Address} : ∀ last ∈ lastRound config world.oracle nowMs token,
      RoundOf config node token last := by
  intro last found
  unfold PriceOracleCache.lastRound at found
  split at found
  · cases found
  next entry kept =>
    split at found
    · cases found
    · exact current.rounds token entry kept last found

/-- A price is stored that was read since the token's refreshes. -/
theorem Current.store {world : OracleWorld} (current : Current config node world) {token : Address}
    {price : OraclePrice} {entry : PriceCacheEntry} (priced : entry.price = price)
    (since : ∀ began, (token, began) ∈ world.refreshes → ReadSince price began)
    (recalls : ∀ last ∈ entry.lastRound, RoundOf config node token last)
    (previous : Option (Nat × Int)) (checks : List Checked)
    (forward : ∀ reading checkedMs, price.origin = .chainlink reading checkedMs →
      ∀ last ∈ previous, last.2 ≤ (reading.round.updatedAt : Int)) :
    Current config node { world.next
      { world.oracle with cache := world.oracle.cache.set token entry } with
        checks := checks
        stores := world.stores ++ [⟨token, price, previous⟩] } := by
  refine ⟨fun refresh member => (current.refreshes refresh member).trans (Nat.lt_succ_self _),
    current.inFlight, current.settled, fun other found held => ?_, fun other found held => ?_,
    fun stored member reading checkedMs origin => ?_⟩
  · rcases InsertionMap.of_get?_set held with ⟨rfl, rfl⟩ | earlier
    · exact fun began member => priced ▸ since began member
    · exact current.cached other found earlier
  · rcases InsertionMap.of_get?_set held with ⟨rfl, rfl⟩ | earlier
    · exact recalls
    · exact current.rounds other found earlier
  · rcases List.mem_append.mp member with earlier | new
    · exact current.stores stored earlier reading checkedMs origin
    · rw [List.mem_singleton.mp new] at origin ⊢
      exact forward reading checkedMs origin

/-- A lookup registers a promise that is younger than every refresh. -/
theorem current_lookup {turn : OracleTurn} {world : OracleWorld} {token : Address} {looked : Lookup}
    (current : Current config node world)
    (found : looked = look config world.oracle turn.nowMs token) {oracle : PriceOracleCache}
    (registered : oracle = if looked = .missing then
        { world.oracle with inFlight := world.oracle.inFlight.set token world.moment }
      else world.oracle) :
    Current config node (world.next oracle) ∧
      Aware (world.next oracle) { OraclePhase.start with
        begun := some world.moment
        promise := if looked = .missing then some (token, world.moment) else none
        awaiting := OraclePhase.awaitedBy [(token, looked)]
        served := OraclePhase.servedBy [(token, looked)] } := by
  constructor
  · rw [registered]
    split
    · refine ⟨fun refresh member => (current.refreshes refresh member).trans (Nat.lt_succ_self _),
        fun other promise held began member => ?_, current.settled, current.cached, current.rounds,
        current.stores⟩
      have stored : (world.oracle.inFlight.set token world.moment).get? other = some promise := held
      rcases InsertionMap.of_get?_set stored with ⟨_, rfl⟩ | before
      · exact (current.refreshes _ member).le
      · exact current.inFlight other promise before began member
    · exact current.next (fun _ _ held => held) (fun _ _ held => held)
  · refine ⟨?_, ?_, by simp [OraclePhase.start], by simp [OraclePhase.start],
      fun entry member begun started refreshed refresh less => ?_,
      fun entry member => Or.inr (fun begun started refreshed refresh less => ?_),
      by simp [OraclePhase.start]⟩
    · rintro begun ⟨⟩
      exact Nat.lt_succ_self _
    · intro own registered
      have same : some (token, world.moment) = some own := by
        by_cases missing : looked = .missing
        · simpa [missing] using registered
        · simp [missing] at registered
      cases same
      rfl
    · have same := List.mem_singleton.mp (OraclePhase.mem_awaitedBy member)
      obtain ⟨sameToken, waits⟩ := Prod.mk.inj same
      rw [sameToken] at refresh
      exact current.inFlight token entry.2 (look_inFlight (waits.trans found).symm) refreshed refresh
    · have same := List.mem_singleton.mp (OraclePhase.mem_servedBy member)
      obtain ⟨sameToken, hit⟩ := Prod.mk.inj same
      obtain ⟨stored, kept, price⟩ := look_cached (hit.trans found).symm
      rw [sameToken] at refresh
      exact price ▸ current.cached token stored kept refreshed refresh

/-- A batch, after a refresh has forgotten its tokens. -/
theorem current_lookupMany {turn : OracleTurn} {world : OracleWorld} {tokens : List Address}
    {forced : Bool} {oracle : PriceOracleCache}
    (forgotten : oracle = if forced then tokens.foldl forget world.oracle else world.oracle)
    (current : Current config node world) :
    let after : OracleWorld := { world.next oracle with
      refreshes := world.refreshes ++ if forced then tokens.map (·, world.moment) else [] }
    let looked := tokens.map (fun token => (token, look config oracle turn.nowMs token))
    Current config node after ∧ Aware after { OraclePhase.start with
      begun := some world.moment
      awaiting := OraclePhase.awaitedBy looked
      served := OraclePhase.servedBy looked } := by
  intro after looked
  have fewer : (∀ token entry, oracle.cache.get? token = some entry →
        (forced = true → token ∉ tokens) ∧ world.oracle.cache.get? token = some entry) ∧
      ∀ token promise, oracle.inFlight.get? token = some promise →
        (forced = true → token ∉ tokens) ∧ world.oracle.inFlight.get? token = some promise := by
    cases forced with
    | false => simp [forgotten]
    | true =>
      obtain ⟨_, entries, promises⟩ := forget_foldl tokens world.oracle
      simp only [forgotten, if_true, forall_const]
      exact ⟨entries, promises⟩
  -- A token that is still there was not refreshed now.
  have past : ∀ token began, (token, began) ∈ after.refreshes →
      (forced = true → token ∉ tokens) → (token, began) ∈ world.refreshes := by
    intro token began member absent
    rcases List.mem_append.mp member with earlier | new
    · exact earlier
    · cases forced with
      | false => cases new
      | true =>
        obtain ⟨other, listed, same⟩ := List.mem_map.mp new
        cases same
        exact absurd listed (absent rfl)
  have moments : ∀ refresh ∈ after.refreshes,
      refresh ∈ world.refreshes ∨ refresh.2 = world.moment := by
    intro refresh member
    refine (List.mem_append.mp member).imp_right (fun new => ?_)
    cases forced with
    | false => cases new
    | true =>
      obtain ⟨token, _, rfl⟩ := List.mem_map.mp new
      rfl
  have younger : ∀ token refreshed, (token, refreshed) ∈ after.refreshes →
      refreshed < world.moment → (token, refreshed) ∈ world.refreshes := by
    intro token refreshed member less
    rcases moments _ member with earlier | now
    · exact earlier
    · exact absurd now less.ne
  constructor
  · refine ⟨fun refresh member => ?_, fun token promise held began member => ?_, current.settled,
      fun token entry held began member => ?_, fun token entry held => ?_, current.stores⟩
    · rcases moments refresh member with earlier | now
      · exact (current.refreshes refresh earlier).trans (Nat.lt_succ_self _)
      · exact now ▸ Nat.lt_succ_self _
    · obtain ⟨absent, kept⟩ := fewer.2 token promise held
      exact current.inFlight token promise kept began (past token began member absent)
    · obtain ⟨absent, kept⟩ := fewer.1 token entry held
      exact current.cached token entry kept began (past token began member absent)
    · exact current.rounds token entry (fewer.1 token entry held).2
  · refine ⟨?_, by simp [OraclePhase.start], by simp [OraclePhase.start],
      by simp [OraclePhase.start], fun entry member begun started refreshed refresh less => ?_,
      fun entry member => Or.inr (fun begun started refreshed refresh less => ?_),
      by simp [OraclePhase.start]⟩
    · rintro begun ⟨⟩
      exact Nat.lt_succ_self _
    · cases started
      obtain ⟨token, _, same⟩ := List.mem_map.mp (OraclePhase.mem_awaitedBy member)
      obtain ⟨rfl, waits⟩ := Prod.mk.inj same
      exact current.inFlight _ entry.2 (fewer.2 _ _ (look_inFlight waits)).2 refreshed
        (younger _ refreshed refresh less)
    · cases started
      obtain ⟨token, _, same⟩ := List.mem_map.mp (OraclePhase.mem_servedBy member)
      obtain ⟨rfl, hit⟩ := Prod.mk.inj same
      obtain ⟨stored, kept, price⟩ := look_cached hit
      exact price ▸ current.cached _ stored (fewer.1 _ _ kept).2 refreshed
        (younger _ refreshed refresh less)

/-- A checked reading that is stored in time. -/
theorem current_guardFreshness (rising : ∀ feed, Monotone (fun moment =>
      (node.latestRound moment feed).updatedAt)) {turn : OracleTurn} {world : OracleWorld}
    {token : Address} {reading : Reading} (current : Current config node world)
    (genuine : Genuine config node token reading) (usable : Usable config reading turn.nowMs)
    (timely : Timely config world turn (.guardFreshness token reading)) {entry : PriceCacheEntry}
    (entryOf : EntryOf config world.oracle turn.nowMs token
      ⟨scaled reading, .chainlink reading turn.nowMs⟩ reading.round.updatedAt entry) :
    Current config node { world.next
      { world.oracle with cache := world.oracle.cache.set token entry } with
        checks := world.checks ++ [⟨token, reading, turn.nowMs⟩]
        stores := world.stores ++ [⟨token, ⟨scaled reading, .chainlink reading turn.nowMs⟩,
          lastRound config world.oracle turn.nowMs token⟩] } := by
  obtain ⟨refreshed, after⟩ := timely usable
  obtain ⟨feed, resolved, same⟩ := genuine.feed
  refine current.store entryOf.priced
    (fun began member => ⟨reading.readAt, rfl, refreshed began member⟩) ?_ _ _ ?_
  · rw [entryOf.recalls]
    rintro last ⟨⟩
    refine ⟨feed, resolved, ?_⟩
    rw [genuine.round, same]
  · rintro other checkedMs origin last found
    cases origin
    obtain ⟨own, known, dated⟩ := current.lastRound last found
    obtain rfl := Option.some.inj (resolved.symm.trans known)
    rw [dated, genuine.round, ← same]
    exact_mod_cast rising feed.feed (after last found)

/-- What a read teaches the call, it teaches now. -/
theorem Aware.learns {world : OracleWorld} {phase moved : OraclePhase} (aware : Aware world phase)
    (learns : OraclePhase.Learns node world phase moved) : Aware world moved := by
  cases learns with
  | nothing => exact aware
  | rounds read answered =>
    refine ⟨aware.begun, aware.promise, fun entry member begun started => ?_, aware.assetPrices,
      aware.awaiting, aware.served, aware.stored⟩
    rcases List.mem_append.mp member with new | earlier
    · rw [(answered entry new).2]
      exact (aware.begun begun started).le
    · exact aware.rounds entry earlier begun started
  | decimals feed decimals answered =>
    exact ⟨aware.begun, aware.promise, aware.rounds, aware.assetPrices, aware.awaiting,
      aware.served, aware.stored⟩
  | assetPrice price =>
    refine ⟨aware.begun, aware.promise, aware.rounds, fun entry member begun started => ?_,
      aware.awaiting, aware.served, aware.stored⟩
    rcases List.mem_cons.mp member with rfl | earlier
    · exact (aware.begun begun started).le
    · exact aware.assetPrices entry earlier begun started

/-- The call receives what it has stored. -/
theorem Aware.storing {world : OracleWorld} {phase : OraclePhase} (aware : Aware world phase)
    {token : Address} {price : OraclePrice}
    (since : price.raw = 0 ∨ ∀ begun ∈ phase.begun, ReadSince price begun) :
    Aware world { phase with stored := (token, price) :: phase.stored } := by
  refine ⟨aware.begun, aware.promise, aware.rounds, aware.assetPrices, aware.awaiting,
    aware.served, fun entry member => ?_⟩
  rcases List.mem_cons.mp member with rfl | earlier
  · exact since
  · exact aware.stored entry earlier

/-- A settled promise has the price that its call was served or has stored. -/
theorem current_settle {world : OracleWorld} {phase : OraclePhase} {token : Address}
    {promise : Nat} {price : OraclePrice} (own : phase.promise = some (token, promise))
    (fetched : price.raw = 0 ∨ (token, price) ∈ phase.stored)
    (current : Current config node world) (aware : Aware world phase) :
    Current config node { world.next { world.oracle with
      inFlight := world.oracle.inFlight.delete token } with
        settled := world.settled.set (token, promise) price } := by
  have dropped : Current config node (world.next { world.oracle with
      inFlight := world.oracle.inFlight.delete token }) :=
    current.next (fun other number held => (InsertionMap.of_get?_delete held).2)
      (fun _ _ held => held)
  refine ⟨dropped.refreshes, dropped.inFlight, ?_, dropped.cached, dropped.rounds, dropped.stores⟩
  intro other number found held
  have stored : (world.settled.set (token, promise) price).get? (other, number) = some found := held
  rcases InsertionMap.of_get?_set stored with ⟨same, rfl⟩ | before
  · cases same
    refine fetched.elim Or.inl (fun stored => (aware.stored _ stored).imp_right (fun since => ?_))
    exact since promise (aware.promise _ own)
  · exact current.settled other number found before

/-- A reading is checked in time, and stored when it is usable. -/
theorem current_check (rising : ∀ feed, Monotone (fun moment =>
      (node.latestRound moment feed).updatedAt)) {turn : OracleTurn} {world after : OracleWorld}
    {phase : OraclePhase} {token : Address} {reading : Reading} {price : OraclePrice}
    (served : serve config node turn world (.guardFreshness token reading) = some (after, price))
    (timely : Timely config world turn (.guardFreshness token reading))
    (genuine : Genuine config node token reading)
    (round : (reading.feed, reading.round, reading.readAt) ∈ phase.rounds)
    (current : Current config node world) (aware : Aware world phase) :
    Current config node after ∧
      Aware after { phase with stored := (token, price) :: phase.stored } := by
  obtain ⟨moment, refreshes⟩ := moment_serve served
  have later := aware.later moment refreshes
  cases served
  by_cases usable : Usable config reading turn.nowMs
  · obtain ⟨entry, entryOf, outcome⟩ := guardFreshness_usable world.oracle token usable
    simp only [outcome, OracleWorld.nextStored, usable.positive, if_true] at later ⊢
    exact ⟨current_guardFreshness rising current genuine usable timely entryOf,
      later.storing (Or.inr (fun begun started =>
        ⟨reading.readAt, rfl, later.rounds _ round begun started⟩))⟩
  · have outcome := guardFreshness_unusable world.oracle token usable
    have still : Current config node (world.next world.oracle) :=
      current.next (fun _ _ held => held) (fun _ _ held => held)
    simp only [outcome, OracleWorld.nextStored, OraclePrice.zero, lt_self_iff_false, if_false,
      List.append_nil] at later ⊢
    exact ⟨⟨still.refreshes, still.inFlight, still.settled, still.cached, still.rounds,
      still.stores⟩, later.storing (Or.inl rfl)⟩

/-- A positive Aave price is stored in time. -/
theorem current_storeAavePrice {turn : OracleTurn} {world after : OracleWorld}
    {phase : OraclePhase} {token : Address} {price : Int} {readAt : Nat} {stored : OraclePrice}
    (served : serve config node turn world (.storeAavePrice token price readAt) =
      some (after, stored))
    (timely : Timely config world turn (.storeAavePrice token price readAt))
    (held : (price, readAt) ∈ phase.assetPrices)
    (current : Current config node world) (aware : Aware world phase) :
    Current config node after ∧
      Aware after { phase with stored := (token, stored) :: phase.stored } := by
  obtain ⟨moment, refreshes⟩ := moment_serve served
  have later := aware.later moment refreshes
  cases served
  rcases storeAavePrice_cases config world.oracle turn.nowMs token price readAt with
    outcome | ⟨positive, entry, entryOf, outcome⟩
  · simp only [outcome, OracleWorld.nextStored, OraclePrice.zero, lt_self_iff_false, if_false,
      List.append_nil] at later ⊢
    exact ⟨current.next (fun _ _ held => held) (fun _ _ held => held), later.storing (Or.inl rfl)⟩
  · simp only [outcome, OracleWorld.nextStored, positive, if_true] at later ⊢
    have kept := current.store entryOf.priced
      (fun began member => ⟨readAt, rfl, timely began member⟩)
      (fun last found => current.lastRound last (entryOf.recalls.symm.trans found))
      (lastRound config world.oracle turn.nowMs token) world.checks
      (fun reading checkedMs origin => by cases origin)
    exact ⟨kept, later.storing (Or.inr (fun begun started =>
      ⟨readAt, rfl, later.assetPrices _ held begun started⟩))⟩

/-- A turn that stores in time keeps both. -/
theorem current_serve (rising : ∀ feed, Monotone (fun moment =>
      (node.latestRound moment feed).updatedAt)) {turn : OracleTurn} {world after : OracleWorld}
    {op : OracleOp} {answer : op.Answer} {phase moved : OraclePhase}
    (served : serve config node turn world op = some (after, answer))
    (allowed : OraclePhase.next config phase op answer = some moved)
    (timely : Timely config world turn op) (received : Received node world phase)
    (current : Current config node world) (aware : Aware world phase) :
    Current config node after ∧ Aware after moved := by
  obtain ⟨moment, refreshes⟩ := moment_serve served
  have later := aware.later moment refreshes
  have still : Current config node (world.next world.oracle) :=
    current.next (fun _ _ held => held) (fun _ _ held => held)
  by_cases read : OraclePhase.reads op = true
  · obtain ⟨rfl, learns⟩ := OraclePhase.learns_serve read served allowed
    exact ⟨still, (aware.learns learns).later moment refreshes⟩
  cases op with
  | lookup token =>
    cases served
    obtain ⟨_, same⟩ := Option.ite_none_right_eq_some.mp allowed
    cases same
    exact current_lookup current rfl rfl
  | lookupMany tokens forced =>
    cases served
    obtain ⟨_, same⟩ := Option.ite_none_right_eq_some.mp allowed
    cases same
    exact current_lookupMany rfl current
  | join token promise =>
    obtain ⟨price, found, same⟩ := Option.map_eq_some_iff.mp served
    cases same
    obtain ⟨awaited, same⟩ := Option.ite_none_right_eq_some.mp allowed
    cases same
    refine ⟨still, later.begun, later.promise, later.rounds, later.assetPrices, later.awaiting,
      fun entry member => ?_, later.stored⟩
    rcases List.mem_cons.mp member with rfl | earlier
    · refine (current.settled token promise _ found).imp_right (fun since => ?_)
      intro begun started refreshed refresh less
      exact since.earlier (later.awaiting _ awaited begun started refreshed refresh less)
    · exact later.served entry earlier
  | settle token promise price =>
    cases served
    obtain ⟨⟨own, fetched⟩, same⟩ := Option.ite_none_right_eq_some.mp allowed
    cases same
    exact ⟨current_settle own fetched current aware, later⟩
  | rememberDecimals feed decimals =>
    cases served
    obtain ⟨_, same⟩ := Option.ite_none_right_eq_some.mp allowed
    cases same
    exact ⟨current.next (fun _ _ held => held) (fun _ _ held => held), later⟩
  | guardFreshness token reading =>
    obtain ⟨grounded, same⟩ := Option.ite_none_right_eq_some.mp allowed
    cases same
    exact current_check rising served timely (received.genuine grounded) grounded.round current aware
  | storeAavePrice token price readAt =>
    obtain ⟨held, same⟩ := Option.ite_none_right_eq_some.mp allowed
    cases same
    exact current_storeAavePrice served timely held current aware
  | clear =>
    cases served
    cases allowed
    refine ⟨current.next (fun token promise held => ?_) (fun token entry held => ?_), later⟩
    · cases held
    · cases held
  | _ => exact absurd rfl read

/-! ## Runs -/

theorem begun_next {op : OracleOp} {answer : op.Answer} {phase moved : OraclePhase} {begun : Nat}
    (allowed : OraclePhase.next config phase op answer = some moved)
    (started : phase.begun = some begun) : moved.begun = some begun := by
  have looked : phase ≠ .start := by
    rintro rfl
    cases started
  cases op with
  | lookup token => exact absurd (Option.ite_none_right_eq_some.mp allowed).1 looked
  | lookupMany tokens forced => exact absurd (Option.ite_none_right_eq_some.mp allowed).1 looked
  | join token promise =>
    obtain ⟨_, same⟩ := Option.ite_none_right_eq_some.mp allowed
    cases same
    exact started
  | settle token promise price =>
    obtain ⟨_, same⟩ := Option.ite_none_right_eq_some.mp allowed
    cases same
    exact started
  | rememberDecimals feed decimals =>
    obtain ⟨_, same⟩ := Option.ite_none_right_eq_some.mp allowed
    cases same
    exact started
  | guardFreshness token reading =>
    obtain ⟨_, same⟩ := Option.ite_none_right_eq_some.mp allowed
    cases same
    exact started
  | storeAavePrice token price readAt =>
    obtain ⟨_, same⟩ := Option.ite_none_right_eq_some.mp allowed
    cases same
    exact started
  | latestRoundData feed => cases answer <;> cases allowed <;> exact started
  | multicall feeds => cases answer <;> cases allowed <;> exact started
  | cachedDecimals feed => cases answer <;> cases allowed <;> exact started
  | decimals feed => cases answer <;> cases allowed <;> exact started
  | getAssetPrice token => cases answer <;> cases allowed <;> exact started
  | clear =>
    cases allowed
    exact started

theorem begun_replay {log : List (Event OracleOp OracleOp.Answer)} {phase reached : OraclePhase}
    {begun : Nat} (replayed : replay (OraclePhase.next config) phase log = some reached)
    (started : phase.begun = some begun) : reached.begun = some begun := by
  induction log generalizing phase with
  | nil =>
    cases replayed
    exact started
  | cons event rest inductionHypothesis =>
    obtain ⟨moved, allowed, later⟩ := Option.bind_eq_some_iff.mp replayed
    exact inductionHypothesis later (begun_next allowed started)

/-- The phase of a call knows when the call began. -/
theorem begun_of_begunAt {log : List (Event OracleOp OracleOp.Answer)} {reached : OraclePhase}
    {begun : Nat} (replayed : replay (OraclePhase.next config) .start log = some reached)
    (started : begunAt log = some begun) : reached.begun = some begun := by
  cases log with
  | nil => cases started
  | cons event rest =>
    obtain ⟨moved, allowed, later⟩ := Option.bind_eq_some_iff.mp replayed
    refine begun_replay later ?_
    obtain ⟨op, answer⟩ := event
    cases op with
    | lookup token =>
      obtain ⟨_, same⟩ := Option.ite_none_right_eq_some.mp allowed
      cases same
      exact started
    | lookupMany tokens forced =>
      obtain ⟨_, same⟩ := Option.ite_none_right_eq_some.mp allowed
      cases same
      exact started
    | _ => cases started

/-- In every interleaving whose stores are timely the cache stays current, and every
call knows what it has received. -/
theorem knows_run (rising : ∀ feed, Monotone (fun moment =>
      (node.latestRound moment feed).updatedAt)) {pool : OraclePool}
    (reached : Pool.Run (serve config node) (TimelyTurn config) (Pool.initial .initial) pool) :
    ∃ phases, Pool.Tracks (OraclePhase.next config)
        (fun after result => ∀ sink, result = .ok sink → after.Fills sink) .start pool phases ∧
      (Traced config node pool.shared ∧ Current config node pool.shared) ∧
      ∀ phase ∈ phases, Received node pool.shared phase ∧ Aware pool.shared phase := by
  refine Pool.Run.keeps (fun world => Traced config node world ∧ Current config node world)
    (fun world phase => Received node world phase ∧ Aware world phase) reached
    ⟨traced_initial, current_initial⟩ (fun world _ => ⟨received_start world, aware_start world⟩)
    ?_ ?_
  · intro before program permitted
    obtain ⟨call, rfl⟩ := permitted.calls program rfl
    exact call.conforms
  · intro before index turn op resume log after answer phase moved permitted found served allowed
      world knows
    obtain ⟨traced, received⟩ := traced_serve served allowed world.1 knows.1
    obtain ⟨current, aware⟩ := current_serve rising served allowed
      (permitted.timely index turn rfl op resume log found) knows.1 world.2 knows.2
    obtain ⟨moment, refreshes⟩ := moment_serve served
    exact ⟨⟨traced, current⟩, ⟨received, aware⟩, fun other known =>
      ⟨known.1.later (stores_serve served), known.2.later moment refreshes⟩⟩

/-- In every interleaving whose stores are timely, no Chainlink store goes back
behind the last round stored since the token's entry was cleared, and no call is
answered with a price read before a refresh of the token that began before it. -/
theorem fresh_data_kept (config : PriceOracleCacheConfig) (node : OracleNode)
    (rising : ∀ feed, Monotone (fun moment => (node.latestRound moment feed).updatedAt))
    {pool : OraclePool}
    (reached : Pool.Run (serve config node) (TimelyTurn config) (Pool.initial .initial) pool) :
    (∀ stored ∈ pool.shared.stores, ∀ reading checkedMs,
      stored.price.origin = .chainlink reading checkedMs →
        ∀ last ∈ stored.previous, last.2 ≤ (reading.round.updatedAt : Int)) ∧
      ∀ sink log, ⟨.pure sink, log⟩ ∈ pool.threads → ∀ token price,
        sink.get? token = some price → price.raw ≠ 0 →
          ∀ refreshed begun, (token, refreshed) ∈ pool.shared.refreshes →
            begunAt log = some begun → refreshed < begun → ReadSince price refreshed := by
  obtain ⟨phases, tracks, ⟨_, current⟩, knows⟩ := knows_run rising reached
  refine ⟨current.stores, fun sink log finished token price found nonzero refreshed begun refresh
    started less => ?_⟩
  obtain ⟨index, located⟩ := List.getElem?_of_mem finished
  obtain ⟨phase, placed, replayed, fills⟩ := Pool.Tracks.thread tracks located
  have aware := (knows phase (List.mem_of_getElem? placed)).2
  have began := begun_of_begunAt replayed started
  rcases fills sink rfl token price found with zero | stored | served
  · exact absurd zero nonzero
  · have since := (aware.stored _ stored).resolve_left nonzero
    exact (since begun began).earlier less.le
  · exact (aware.served _ served).resolve_left nonzero begun began refreshed refresh less

/-! ## Schedules -/

/-- Ether with its feed as the default registry has it. -/
def defaultConfig : PriceOracleCacheConfig where
  feedRegistry := InsertionMap.empty.set canonicalBaseWeth ⟨canonicalBaseEthUsdFeed, some 8⟩
  aaveOracleAddress := none
  getAddress := etherConfig.getAddress

/-- A node whose feeds get a new round at its third moment. -/
def risingNode : OracleNode where
  latestRound := fun moment _ =>
    if moment < 3 then ⟨3000 * 10 ^ 8, 1000⟩ else ⟨3100 * 10 ^ 8, 1001⟩
  decimals := fun _ => 8
  assetPrice := fun _ _ => 0

theorem rising_risingNode :
    ∀ feed, Monotone (fun moment => (risingNode.latestRound moment feed).updatedAt) := by
  intro feed earlier later before
  simp only [risingNode]
  split <;> split <;> simp only <;> omega

def getEther : OracleAct :=
  .start (OracleCall.program defaultConfig (.getUsdPrice canonicalBaseWeth))

def refreshEther : OracleAct :=
  .start (OracleCall.program defaultConfig (.forceRefreshUsdPrices [canonicalBaseWeth]))

theorem calls_ether {acts : List OracleAct}
    (listed : ∀ act ∈ acts, ∀ program, act = .start program → act = getEther ∨ act = refreshEther) :
    ∀ act ∈ acts, Calls defaultConfig act := by
  intro act member program started
  rcases listed act member program started with same | same
  · rw [same] at started
    cases started
    exact ⟨_, rfl⟩
  · rw [same] at started
    cases started
    exact ⟨_, rfl⟩

/-- A checked reading is not older than any refresh, and replaces no round. -/
def timelyTest (pool : OraclePool) : OracleAct → Bool
  | .start _ => true
  | .run index turn =>
      match pool.threads[index]? with
      | some ⟨.call (.guardFreshness token reading) _, _⟩ =>
          decide (∀ refresh ∈ pool.shared.refreshes, refresh.2 ≤ reading.readAt) &&
            (lastRound defaultConfig pool.shared.oracle turn.nowMs token).isNone
      | some ⟨.call (.storeAavePrice _ _ _) _, _⟩ => false
      | _ => true

theorem timely_of_test {pool : OraclePool} {act : OracleAct} (calls : Calls defaultConfig act)
    (passed : timelyTest pool act = true) : TimelyTurn defaultConfig pool act := by
  refine ⟨calls, ?_⟩
  rintro index turn rfl op resume log found
  simp only [timelyTest, found] at passed
  cases op with
  | guardFreshness token reading =>
    obtain ⟨younger, unrecalled⟩ := Bool.and_eq_true_iff.mp passed
    refine fun _ => ⟨fun began member => of_decide_eq_true younger _ member, fun last recalled => ?_⟩
    rw [Option.isNone_iff_eq_none.mp unrecalled] at recalled
    cases recalled
  | storeAavePrice token price readAt => cases passed
  | _ => trivial

/-- A refresh runs to its end, and a later call finds its price. -/
def refreshThenGet : List OracleAct :=
  [refreshEther, .run 0 answers, .run 0 answers, .run 0 answers, getEther, .run 1 answers]

def refreshedPool : OraclePool :=
  (Pool.execute (serve defaultConfig risingNode) timelyTest (Pool.initial .initial)
    refreshThenGet).get (by decide +kernel)

theorem fresh_data_kept_refreshed :
    (∀ stored ∈ refreshedPool.shared.stores, ∀ reading checkedMs,
      stored.price.origin = .chainlink reading checkedMs →
        ∀ last ∈ stored.previous, last.2 ≤ (reading.round.updatedAt : Int)) ∧
      ∀ sink log, ⟨.pure sink, log⟩ ∈ refreshedPool.threads → ∀ token price,
        sink.get? token = some price → price.raw ≠ 0 →
          ∀ refreshed begun, (token, refreshed) ∈ refreshedPool.shared.refreshes →
            begunAt log = some begun → refreshed < begun → ReadSince price refreshed := by
  refine fresh_data_kept defaultConfig risingNode rising_risingNode
    (Pool.run_of_execute .refl (fun act member pool passed => timely_of_test ?_ passed)
      (Option.some_get _).symm)
  refine calls_ether (fun act listed program started => ?_) act member
  subst started
  exact Or.symm (by simpa [refreshThenGet, getEther, refreshEther] using listed)

/-- A call reads a round and has not stored it yet when a refresh begins, reads the
next round and stores it. Then the call stores its own. -/
def overtaken : List OracleAct :=
  [getEther, .run 0 answers, .run 0 answers, refreshEther, .run 1 answers, .run 1 answers,
    .run 1 answers, .run 0 answers]

def overtakenPool : OraclePool :=
  (Pool.execute (serve defaultConfig risingNode) (fun _ _ => true) (Pool.initial .initial)
    overtaken).get (by decide +kernel)

/-- The older round is stored over the newer one. -/
theorem older_round_stored :
    ¬ ∀ (config : PriceOracleCacheConfig) (node : OracleNode) (pool : OraclePool),
      (∀ feed, Monotone (fun moment => (node.latestRound moment feed).updatedAt)) →
      Pool.Run (serve config node) (fun _ act => Calls config act) (Pool.initial .initial) pool →
      ∀ stored ∈ pool.shared.stores, ∀ reading checkedMs,
        stored.price.origin = .chainlink reading checkedMs →
          ∀ last ∈ stored.previous, last.2 ≤ (reading.round.updatedAt : Int) := by
  intro claim
  have calls : ∀ act ∈ overtaken, ∀ program, act = .start program →
      act = getEther ∨ act = refreshEther := by
    rintro act listed program rfl
    simpa [overtaken, getEther, refreshEther] using listed
  have kept := claim defaultConfig risingNode overtakenPool rising_risingNode
    (Pool.run_of_execute .refl (fun act member _ _ => calls_ether calls act member)
      (Option.some_get _).symm)
  have stored : (⟨canonicalBaseWeth, ⟨3000 * 10 ^ 8, .chainlink ⟨canonicalBaseEthUsdFeed,
      ⟨3000 * 10 ^ 8, 1000⟩, 1, 8, .configured⟩ 1002000⟩, some (3, 1001)⟩ : Stored) ∈
      overtakenPool.shared.stores := by
    decide +kernel
  have less : (1001 : Int) ≤ 1000 := kept _ stored _ _ rfl _ rfl
  omega

end PriceOracleCache

end LiquidationBot
