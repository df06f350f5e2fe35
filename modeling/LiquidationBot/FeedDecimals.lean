import LiquidationBot.OracleProtocol
import Mathlib.Algebra.Order.Group.Nat
import Mathlib.Tactic.Linarith
import Mathlib.Tactic.Ring

/-!
# The scale of a Chainlink price

A price is right when it is the answer of a round of the token's feed in eight
decimals, rounded down, and the round was fresh when it was checked. The decimals
of the feed may be configured or read; the contract's answer is remembered. When
the read fails, eight decimals are assumed, and the answer becomes a price all the
same. So the prices of a run are right exactly when every round that makes a price
had its decimals configured rightly or learned.
-/

namespace LiquidationBot

open Async

namespace PriceOracleCache

/-! ## Scaling -/

theorem scaleToUsd8_eq (decimals : Nat) (price : Int) :
    scaleToUsd8 decimals price = price * 10 ^ 8 / 10 ^ decimals := by
  unfold scaleToUsd8 DEFAULT_USD_DECIMALS
  split
  next same =>
    subst same
    exact (Int.mul_ediv_cancel price (by decide)).symm
  next different =>
    split
    next more =>
      obtain ⟨extra, rfl⟩ := Nat.exists_eq_add_of_lt more
      have power : (10 : Int) ^ (8 + extra + 1) = 10 ^ (extra + 1) * 10 ^ 8 := by
        rw [← pow_add]
        congr 1
        omega
      have rest : 8 + extra + 1 - 8 = extra + 1 := by omega
      rw [power, Int.mul_ediv_mul_of_pos_left _ _ (by decide), rest]
    next less =>
      have power : (10 : Int) ^ 8 = 10 ^ (8 - decimals) * 10 ^ decimals := by
        rw [← pow_add]
        congr 1
        omega
      rw [power, ← Int.mul_assoc, Int.mul_ediv_cancel _ (pow_ne_zero decimals (by decide))]

/-- More decimals make a smaller price, where it is not zero. -/
theorem scaled_lt {price : Int} {fewer more : Nat} (less : fewer < more)
    (positive : 0 < price / 10 ^ fewer) : price / 10 ^ more < price / 10 ^ fewer := by
  obtain ⟨extra, rfl⟩ := Nat.exists_eq_add_of_lt less
  have power : (10 : Int) ^ (fewer + extra + 1) = 10 ^ fewer * 10 ^ (extra + 1) := by
    rw [← pow_add, Nat.add_assoc]
  have several : (1 : Int) < 10 ^ (extra + 1) := one_lt_pow₀ (by decide) (by omega)
  rw [power, ← Int.ediv_ediv_of_nonneg (by positivity)]
  exact Int.ediv_lt_self_of_pos_of_ne_one positive several.ne'

/-- Two scales of an answer agree on a positive price only when they are the same. -/
theorem scale_injective {price : Int} {left right : Nat}
    (positive : 0 < price / 10 ^ left) (same : price / 10 ^ left = price / 10 ^ right) :
    left = right := by
  rcases Nat.lt_trichotomy left right with less | equal | more
  · have smaller := scaled_lt less positive
    omega
  · exact equal
  · have smaller := scaled_lt more (same ▸ positive)
    omega

/-! ## Right prices -/

/-- A Chainlink price is the answer of a round of the token's feed in eight decimals,
rounded down, with decimals that were learned; the round was fresh at its check. -/
structure Right (config : PriceOracleCacheConfig) (node : OracleNode) (token : Address) (raw : Int)
    (reading : Reading) (checkedMs : Int) : Prop where
  feed : ∃ feed, resolveValidatedFeedConfig config token = some feed ∧ feed.feed = reading.feed
  round : reading.round = node.latestRound reading.readAt reading.feed
  scale : raw = reading.round.answer * 10 ^ 8 / 10 ^ node.decimals reading.feed
  fresh : checkedMs - (reading.round.updatedAt : Int) * 1000 ≤ config.maxStaleMs
  learned : reading.decimalsFrom ≠ .assumed

/-- A price that does not come from Chainlink, or is right. -/
def RightPrice (config : PriceOracleCacheConfig) (node : OracleNode) (token : Address)
    (price : OraclePrice) : Prop :=
  ∀ reading checkedMs, price.origin = .chainlink reading checkedMs →
    Right config node token price.raw reading checkedMs

/-- The decimals of a reading are configured as they are, or known from the feed. -/
def Learned (node : OracleNode) (reading : Reading) : Prop :=
  match reading.decimalsFrom with
  | .configured => reading.decimals = node.decimals reading.feed
  | .read => True
  | .assumed => False

/-- A reading is made of what the node answered. -/
structure Genuine (config : PriceOracleCacheConfig) (node : OracleNode) (token : Address)
    (reading : Reading) : Prop where
  round : reading.round = node.latestRound reading.readAt reading.feed
  feed : ∃ feed, resolveValidatedFeedConfig config token = some feed ∧ feed.feed = reading.feed
  decimals : reading.decimalsFrom = .read → reading.decimals = node.decimals reading.feed

variable {config : PriceOracleCacheConfig} {node : OracleNode}

/-- What a usable reading becomes is right exactly when its decimals were learned.
With other decimals the price would be another one, as it is not zero. -/
theorem right_iff {token : Address} {reading : Reading} {nowMs : Int}
    (genuine : Genuine config node token reading) (usable : Usable config reading nowMs) :
    Right config node token (scaled reading) reading nowMs ↔ Learned node reading := by
  have answer : sanitizeOraclePrice reading.round.answer = reading.round.answer := by
    have positive := usable.positive
    unfold scaled sanitizeOraclePrice at *
    split at positive
    next above => exact if_pos above
    next => simp [scaleToUsd8_eq] at positive
  have price : scaled reading =
      reading.round.answer * 10 ^ 8 / 10 ^ reading.decimals := by
    rw [scaled, answer, scaleToUsd8_eq]
  have positive := usable.positive
  constructor
  · intro right
    unfold Learned
    cases source : reading.decimalsFrom with
    | configured =>
      rw [price] at positive
      exact scale_injective positive (price.symm.trans right.scale)
    | read => trivial
    | assumed => exact right.learned source
  · intro learned
    have known : reading.decimals = node.decimals reading.feed ∧
        reading.decimalsFrom ≠ .assumed := by
      unfold Learned at learned
      cases source : reading.decimalsFrom with
      | configured =>
        rw [source] at learned
        exact ⟨learned, by simp⟩
      | read => exact ⟨genuine.decimals source, by simp⟩
      | assumed =>
        rw [source] at learned
        exact learned.elim
    exact ⟨genuine.feed, genuine.round, known.1 ▸ price, usable.fresh, known.2⟩

/-! ## Runs -/

/-- The price was stored for the token. -/
def Logged (world : OracleWorld) (token : Address) (price : OraclePrice) : Prop :=
  ∃ stored ∈ world.stores, stored.token = token ∧ stored.price = price

/-- Nothing is in the cache, in a promise or in the log of stores but what came out
of a check of a genuine reading or of the Aave oracle; the remembered decimals are
the feeds' own. -/
structure Traced (config : PriceOracleCacheConfig) (node : OracleNode) (world : OracleWorld) :
    Prop where
  decimals : ∀ feed decimals, world.oracle.feedDecimalsCache.get? feed = some decimals →
    decimals = node.decimals feed
  genuine : ∀ checked ∈ world.checks, Genuine config node checked.token checked.reading
  usable : ∀ checked ∈ world.checks, Usable config checked.reading checked.nowMs →
    Logged world checked.token
      ⟨scaled checked.reading, .chainlink checked.reading checked.nowMs⟩
  stores : ∀ stored ∈ world.stores, ∀ reading checkedMs,
    stored.price.origin = .chainlink reading checkedMs →
      ⟨stored.token, reading, checkedMs⟩ ∈ world.checks ∧ Usable config reading checkedMs ∧
        stored.price.raw = scaled reading
  cached : ∀ token entry, world.oracle.cache.get? token = some entry →
    Logged world token entry.price
  settled : ∀ token promise price, world.settled.get? (token, promise) = some price →
    price.raw = 0 ∨ Logged world token price

/-- What a call has received is what the node answered and what was stored. -/
structure Received (node : OracleNode) (world : OracleWorld) (phase : OraclePhase) : Prop where
  rounds : ∀ received ∈ phase.rounds,
    received.2.1 = node.latestRound received.2.2 received.1
  known : ∀ learned ∈ phase.known, learned.2 = node.decimals learned.1
  served : ∀ entry ∈ phase.served, entry.2.raw = 0 ∨ Logged world entry.1 entry.2
  stored : ∀ entry ∈ phase.stored, entry.2.raw = 0 ∨ Logged world entry.1 entry.2

theorem traced_initial : Traced config node .initial where
  decimals := by
    intro feed decimals found
    cases found
  genuine := by simp [OracleWorld.initial]
  usable := by simp [OracleWorld.initial]
  stores := by simp [OracleWorld.initial]
  cached := by
    intro token entry found
    cases found
  settled := by
    intro token promise price found
    cases found

theorem received_start (world : OracleWorld) : Received node world .start where
  rounds := by simp [OraclePhase.start]
  known := by simp [OraclePhase.start]
  served := by simp [OraclePhase.start]
  stored := by simp [OraclePhase.start]

theorem Logged.later {before after : OracleWorld} {token : Address} {price : OraclePrice}
    (logged : Logged before token price) (later : ∀ stored ∈ before.stores, stored ∈ after.stores) :
    Logged after token price := by
  obtain ⟨stored, member, same⟩ := logged
  exact ⟨stored, later stored member, same⟩

theorem Received.later {before after : OracleWorld} {phase : OraclePhase}
    (received : Received node before phase)
    (later : ∀ stored ∈ before.stores, stored ∈ after.stores) : Received node after phase :=
  ⟨received.rounds, received.known,
    fun entry member => (received.served entry member).imp_right (fun logged => logged.later later),
    fun entry member => (received.stored entry member).imp_right (fun logged => logged.later later)⟩

/-- A change of the cache that stores and remembers nothing new. -/
theorem Traced.next {world : OracleWorld} (traced : Traced config node world)
    {oracle : PriceOracleCache} (same : oracle.feedDecimalsCache = world.oracle.feedDecimalsCache)
    (fewer : ∀ token entry, oracle.cache.get? token = some entry →
      world.oracle.cache.get? token = some entry) : Traced config node (world.next oracle) where
  decimals := fun feed decimals found =>
    traced.decimals feed decimals ((congrArg (InsertionMap.get? · feed) same).symm.trans found)
  genuine := traced.genuine
  usable := traced.usable
  stores := traced.stores
  cached := fun token entry found => traced.cached token entry (fewer token entry found)
  settled := traced.settled

/-- A price is stored, after checks that it may come from. -/
theorem Traced.store {world : OracleWorld} (traced : Traced config node world) (token : Address)
    {price : OraclePrice} {entry : PriceCacheEntry} (priced : entry.price = price)
    (more : List Checked)
    (genuine : ∀ checked ∈ more, Genuine config node checked.token checked.reading)
    (usable : ∀ checked ∈ more, Usable config checked.reading checked.nowMs →
      checked.token = token ∧
        price = ⟨scaled checked.reading, .chainlink checked.reading checked.nowMs⟩)
    (origin : ∀ reading checkedMs, price.origin = .chainlink reading checkedMs →
      ⟨token, reading, checkedMs⟩ ∈ more ∧ Usable config reading checkedMs ∧
        price.raw = scaled reading) (previous : Option (Nat × Int)) :
    Traced config node { world.next
      { world.oracle with cache := world.oracle.cache.set token entry } with
        checks := world.checks ++ more
        stores := world.stores ++ [⟨token, price, previous⟩] } := by
  have later : ∀ stored ∈ world.stores, stored ∈ world.stores ++ [⟨token, price, previous⟩] :=
    fun stored member => List.mem_append_left _ member
  refine ⟨traced.decimals, fun checked member => ?_, fun checked member passed => ?_,
    fun stored member reading checkedMs from_chainlink => ?_, fun other found held => ?_,
    fun other promise found held => ?_⟩
  · rcases List.mem_append.mp member with earlier | new
    · exact traced.genuine checked earlier
    · exact genuine checked new
  · rcases List.mem_append.mp member with earlier | new
    · exact (traced.usable checked earlier passed).later later
    · obtain ⟨same, become⟩ := usable checked new passed
      exact ⟨⟨token, price, previous⟩, by simp, same.symm, become⟩
  · rcases List.mem_append.mp member with earlier | new
    · obtain ⟨check, rest⟩ := traced.stores stored earlier reading checkedMs from_chainlink
      exact ⟨List.mem_append_left _ check, rest⟩
    · rw [List.mem_singleton.mp new] at from_chainlink ⊢
      obtain ⟨check, rest⟩ := origin reading checkedMs from_chainlink
      exact ⟨List.mem_append_right _ check, rest⟩
  · have stored : (world.oracle.cache.set token entry).get? other = some found := held
    rcases InsertionMap.of_get?_set stored with ⟨same, rfl⟩ | before
    · exact ⟨⟨token, price, previous⟩, by simp, same.symm, priced.symm⟩
    · exact (traced.cached other found before).later later
  · exact (traced.settled other promise found held).imp_right (fun logged => logged.later later)

/-- A reading that is checked and dropped. -/
theorem Traced.drop {world : OracleWorld} (traced : Traced config node world) (checked : Checked)
    (genuine : Genuine config node checked.token checked.reading)
    (unusable : ¬ Usable config checked.reading checked.nowMs) :
    Traced config node { world.next world.oracle with checks := world.checks ++ [checked] } where
  decimals := traced.decimals
  genuine := by
    intro other member
    rcases List.mem_append.mp member with earlier | new
    · exact traced.genuine other earlier
    · exact List.mem_singleton.mp new ▸ genuine
  usable := by
    intro other member passed
    rcases List.mem_append.mp member with earlier | new
    · exact traced.usable other earlier passed
    · exact absurd (List.mem_singleton.mp new ▸ passed) unusable
  stores := by
    intro stored member reading checkedMs origin
    obtain ⟨check, rest⟩ := traced.stores stored member reading checkedMs origin
    exact ⟨List.mem_append_left _ check, rest⟩
  cached := traced.cached
  settled := traced.settled

/-- The log of stores only grows. -/
theorem stores_serve {turn : OracleTurn} {world after : OracleWorld} {op : OracleOp}
    {answer : op.Answer} (served : serve config node turn world op = some (after, answer)) :
    ∀ stored ∈ world.stores, stored ∈ after.stores := by
  intro stored member
  cases op with
  | join token promise =>
    obtain ⟨price, _, same⟩ := Option.map_eq_some_iff.mp served
    cases same
    exact member
  | guardFreshness token reading =>
    cases served
    exact List.mem_append_left _ member
  | storeAavePrice token price readAt =>
    cases served
    exact List.mem_append_left _ member
  | _ =>
    cases served
    exact member

theorem Traced.forget {world : OracleWorld} (traced : Traced config node world)
    (tokens : List Address) (forced : Bool) :
    Traced config node
      (world.next (if forced then tokens.foldl forget world.oracle else world.oracle)) := by
  split
  · obtain ⟨same, fewer, _⟩ := forget_foldl tokens world.oracle
    exact traced.next same (fun token entry found => (fewer token entry found).2)
  · exact traced.next rfl (fun _ _ found => found)

/-- A reading that is grounded in what the call has received is genuine. -/
theorem Received.genuine {world : OracleWorld} {phase : OraclePhase}
    (received : Received node world phase) {token : Address} {reading : Reading}
    (grounded : OraclePhase.Grounded config phase token reading) :
    Genuine config node token reading := by
  obtain ⟨feed, resolved, same, source⟩ := grounded.decimals
  refine ⟨received.rounds _ grounded.round, ⟨feed, resolved, same⟩, fun read => ?_⟩
  rw [read] at source
  exact received.known _ source.2

/-- What a read teaches the call comes from the node. -/
theorem Received.learns {world : OracleWorld} {phase moved : OraclePhase}
    (received : Received node world phase) (traced : Traced config node world)
    (learns : OraclePhase.Learns node world phase moved) : Received node world moved := by
  cases learns with
  | nothing => exact received
  | rounds read answered =>
    refine ⟨fun entry member => ?_, received.known, received.served, received.stored⟩
    rcases List.mem_append.mp member with new | earlier
    · exact (answered entry new).1
    · exact received.rounds entry earlier
  | decimals feed decimals answered =>
    refine ⟨received.rounds, fun entry member => ?_, received.served, received.stored⟩
    rcases List.mem_cons.mp member with rfl | earlier
    · exact answered.elim id (traced.decimals feed decimals)
    · exact received.known entry earlier
  | assetPrice price => exact ⟨received.rounds, received.known, received.served, received.stored⟩

/-- The call receives what it has stored. -/
theorem Received.storing {world : OracleWorld} {phase : OraclePhase}
    (received : Received node world phase) {token : Address} {price : OraclePrice}
    (logged : price.raw = 0 ∨ Logged world token price) :
    Received node world { phase with stored := (token, price) :: phase.stored } := by
  refine ⟨received.rounds, received.known, received.served, fun entry member => ?_⟩
  rcases List.mem_cons.mp member with rfl | earlier
  · exact logged
  · exact received.stored entry earlier

/-- A call begins with prices that were in the cache. -/
theorem Received.begins {world : OracleWorld} (traced : Traced config node world) (nowMs : Int)
    {looked : List (Address × Lookup)}
    (found : ∀ entry ∈ looked, entry.2 = look config world.oracle nowMs entry.1)
    (begun : Option Nat) (promise : Option (Address × Nat)) (awaiting : List (Address × Nat)) :
    Received node world { OraclePhase.start with
      begun := begun
      promise := promise
      awaiting := awaiting
      served := OraclePhase.servedBy looked } := by
  refine ⟨by simp [OraclePhase.start], by simp [OraclePhase.start], fun entry member => ?_,
    by simp [OraclePhase.start]⟩
  obtain ⟨stored, kept, price⟩ := look_cached (found _ (OraclePhase.mem_servedBy member)).symm
  exact Or.inr (price ▸ traced.cached entry.1 stored kept)

/-- A reading is checked, and stored when it is usable. -/
theorem traced_guardFreshness {turn : OracleTurn} {world after : OracleWorld} {phase : OraclePhase}
    {token : Address} {reading : Reading} {price : OraclePrice}
    (served : serve config node turn world (.guardFreshness token reading) = some (after, price))
    (genuine : Genuine config node token reading) (traced : Traced config node world)
    (received : Received node world phase) :
    Traced config node after ∧
      Received node after { phase with stored := (token, price) :: phase.stored } := by
  have grows := received.later (stores_serve served)
  cases served
  by_cases usable : Usable config reading turn.nowMs
  · obtain ⟨entry, entryOf, outcome⟩ := guardFreshness_usable world.oracle token usable
    simp only [outcome, OracleWorld.nextStored, usable.positive, if_true] at grows ⊢
    refine ⟨traced.store token entryOf.priced [⟨token, reading, turn.nowMs⟩] ?_ ?_ ?_ _,
      grows.storing (Or.inr ⟨_, List.mem_append_right _ (List.mem_singleton_self _), rfl, rfl⟩)⟩
    · rintro checked member
      cases List.mem_singleton.mp member
      exact genuine
    · rintro checked member _
      cases List.mem_singleton.mp member
      exact ⟨rfl, rfl⟩
    · rintro other checkedMs same
      cases same
      exact ⟨List.mem_singleton_self _, usable, rfl⟩
  · have outcome := guardFreshness_unusable world.oracle token usable
    simp only [outcome, OracleWorld.nextStored, OraclePrice.zero, lt_self_iff_false, if_false,
      List.append_nil] at grows ⊢
    exact ⟨traced.drop ⟨token, reading, turn.nowMs⟩ genuine usable, grows.storing (Or.inl rfl)⟩

/-- A positive Aave price is stored without a check. -/
theorem traced_storeAavePrice {turn : OracleTurn} {world after : OracleWorld} {phase : OraclePhase}
    {token : Address} {price : Int} {readAt : Nat} {stored : OraclePrice}
    (served : serve config node turn world (.storeAavePrice token price readAt) =
      some (after, stored)) (traced : Traced config node world)
    (received : Received node world phase) :
    Traced config node after ∧
      Received node after { phase with stored := (token, stored) :: phase.stored } := by
  have grows := received.later (stores_serve served)
  cases served
  rcases storeAavePrice_cases config world.oracle turn.nowMs token price readAt with
    outcome | ⟨positive, entry, entryOf, outcome⟩
  · simp only [outcome, OracleWorld.nextStored, OraclePrice.zero, lt_self_iff_false, if_false,
      List.append_nil] at grows ⊢
    exact ⟨traced.next rfl (fun _ _ found => found), grows.storing (Or.inl rfl)⟩
  · simp only [outcome, OracleWorld.nextStored, positive, if_true] at grows ⊢
    have kept := traced.store token entryOf.priced [] (by simp) (by simp)
      (fun reading checkedMs same => by cases same)
      (lastRound config world.oracle turn.nowMs token)
    rw [List.append_nil] at kept
    exact ⟨kept,
      grows.storing (Or.inr ⟨_, List.mem_append_right _ (List.mem_singleton_self _), rfl, rfl⟩)⟩

/-- A turn keeps both; the call receives only what the turn answers. -/
theorem traced_serve {turn : OracleTurn} {world after : OracleWorld} {op : OracleOp}
    {answer : op.Answer} {phase moved : OraclePhase}
    (served : serve config node turn world op = some (after, answer))
    (allowed : OraclePhase.next config phase op answer = some moved)
    (traced : Traced config node world) (received : Received node world phase) :
    Traced config node after ∧ Received node after moved := by
  have grows := received.later (stores_serve served)
  have still : Traced config node (world.next world.oracle) :=
    traced.next rfl (fun _ _ found => found)
  by_cases read : OraclePhase.reads op = true
  · obtain ⟨rfl, learns⟩ := OraclePhase.learns_serve read served allowed
    obtain ⟨rounds, known, served, stored⟩ := received.learns traced learns
    exact ⟨still, rounds, known, served, stored⟩
  cases op with
  | lookup token =>
    cases served
    obtain ⟨_, same⟩ := Option.ite_none_right_eq_some.mp allowed
    cases same
    constructor
    · split
      · exact traced.next rfl (fun _ _ found => found)
      · exact still
    · refine (Received.begins traced turn.nowMs ?_ _ _ _).later (fun _ member => member)
      rintro entry member
      rw [List.mem_singleton.mp member]
  | lookupMany tokens forced =>
    cases served
    obtain ⟨_, same⟩ := Option.ite_none_right_eq_some.mp allowed
    cases same
    have forgotten := traced.forget tokens forced
    refine ⟨⟨forgotten.decimals, forgotten.genuine, forgotten.usable, forgotten.stores,
      forgotten.cached, forgotten.settled⟩,
      (Received.begins forgotten turn.nowMs ?_ _ _ _).later (fun _ member => member)⟩
    intro entry member
    obtain ⟨token, _, rfl⟩ := List.mem_map.mp member
    rfl
  | join token promise =>
    obtain ⟨price, found, same⟩ := Option.map_eq_some_iff.mp served
    cases same
    obtain ⟨_, same⟩ := Option.ite_none_right_eq_some.mp allowed
    cases same
    refine ⟨still, grows.rounds, grows.known, fun entry member => ?_, grows.stored⟩
    rcases List.mem_cons.mp member with rfl | earlier
    · exact traced.settled token promise _ found
    · exact grows.served entry earlier
  | settle token promise price =>
    cases served
    obtain ⟨⟨_, fetched⟩, same⟩ := Option.ite_none_right_eq_some.mp allowed
    cases same
    have dropped : Traced config node (world.next { world.oracle with
        inFlight := world.oracle.inFlight.delete token }) :=
      traced.next rfl (fun _ _ found => found)
    refine ⟨⟨dropped.decimals, dropped.genuine, dropped.usable, dropped.stores, dropped.cached,
      fun other number found held => ?_⟩, grows⟩
    have stored : (world.settled.set (token, promise) price).get? (other, number) = some found :=
      held
    rcases InsertionMap.of_get?_set stored with ⟨same, rfl⟩ | before
    · cases same
      exact fetched.elim Or.inl (fun own => received.stored _ own)
    · exact traced.settled other number found before
  | rememberDecimals feed decimals =>
    cases served
    obtain ⟨known, same⟩ := Option.ite_none_right_eq_some.mp allowed
    cases same
    refine ⟨⟨fun other found held => ?_, traced.genuine, traced.usable, traced.stores,
      traced.cached, traced.settled⟩, grows⟩
    have stored : (world.oracle.feedDecimalsCache.set feed decimals).get? other = some found := held
    rcases InsertionMap.of_get?_set stored with ⟨rfl, rfl⟩ | before
    · exact received.known _ known
    · exact traced.decimals other found before
  | guardFreshness token reading =>
    obtain ⟨grounded, same⟩ := Option.ite_none_right_eq_some.mp allowed
    cases same
    exact traced_guardFreshness served (received.genuine grounded) traced received
  | storeAavePrice token price readAt =>
    obtain ⟨_, same⟩ := Option.ite_none_right_eq_some.mp allowed
    cases same
    exact traced_storeAavePrice served traced received
  | clear =>
    cases served
    cases allowed
    refine ⟨traced.next rfl (fun token entry found => ?_), grows⟩
    cases found
  | _ => exact absurd rfl read

/-- In every interleaving of calls all that is kept and known is traced. -/
theorem traced_run {pool : OraclePool}
    (reached : Pool.Run (serve config node) (fun _ act => Calls config act)
      (Pool.initial .initial) pool) :
    ∃ phases, Pool.Tracks (OraclePhase.next config)
        (fun after result => ∀ sink, result = .ok sink → after.Fills sink) .start pool phases ∧
      Traced config node pool.shared ∧ ∀ phase ∈ phases, Received node pool.shared phase := by
  refine Pool.Run.keeps (Traced config node) (Received node) reached traced_initial
    (fun world _ => received_start world) ?_ ?_
  · intro before program permitted
    obtain ⟨call, rfl⟩ := permitted program rfl
    exact call.conforms
  · intro before index turn op resume log after answer phase moved _ _ served allowed traced received
    obtain ⟨kept, here⟩ := traced_serve served allowed traced received
    exact ⟨kept, here, fun other known => known.later (stores_serve served)⟩

/-- A finished call returns prices that were stored for their tokens. -/
theorem logged_of_finished {pool : OraclePool} {phases : List OraclePhase}
    (tracks : Pool.Tracks (OraclePhase.next config)
      (fun after result => ∀ sink, result = .ok sink → after.Fills sink) .start pool phases)
    (received : ∀ phase ∈ phases, Received node pool.shared phase) {log : List (Event _ _)}
    {sink : Sink} (finished : ⟨.pure sink, log⟩ ∈ pool.threads) {token : Address}
    {price : OraclePrice} (found : sink.get? token = some price) (nonzero : price.raw ≠ 0) :
    Logged pool.shared token price := by
  obtain ⟨index, located⟩ := List.getElem?_of_mem finished
  obtain ⟨phase, placed, _, fills⟩ := Pool.Tracks.thread tracks located
  have knows := received phase (List.mem_of_getElem? placed)
  rcases fills sink rfl token price found with zero | stored | served
  · exact absurd zero nonzero
  · exact (knows.stored _ stored).resolve_left nonzero
  · exact (knows.served _ served).resolve_left nonzero

/-- In every interleaving of calls, the Chainlink prices that are stored or returned
are all right exactly when every usable reading had its decimals learned. -/
theorem prices_right_iff (config : PriceOracleCacheConfig) (node : OracleNode) {pool : OraclePool}
    (reached : Pool.Run (serve config node) (fun _ act => Calls config act)
      (Pool.initial .initial) pool) :
    ((∀ stored ∈ pool.shared.stores, RightPrice config node stored.token stored.price) ∧
      ∀ sink log, ⟨.pure sink, log⟩ ∈ pool.threads → ∀ token price,
        sink.get? token = some price → price.raw ≠ 0 → RightPrice config node token price) ↔
      ∀ checked ∈ pool.shared.checks, Usable config checked.reading checked.nowMs →
        Learned node checked.reading := by
  obtain ⟨phases, tracks, traced, received⟩ := traced_run reached
  constructor
  · rintro ⟨right, -⟩ checked member usable
    obtain ⟨stored, kept, sameToken, samePrice⟩ := traced.usable checked member usable
    have here := right stored kept checked.reading checked.nowMs (by rw [samePrice])
    rw [sameToken, samePrice] at here
    exact (right_iff (traced.genuine checked member) usable).mp here
  · intro learned
    have right : ∀ stored ∈ pool.shared.stores,
        RightPrice config node stored.token stored.price := by
      intro stored member reading checkedMs origin
      obtain ⟨check, usable, price⟩ := traced.stores stored member reading checkedMs origin
      rw [price]
      exact (right_iff (traced.genuine _ check) usable).mpr (learned _ check usable)
    refine ⟨right, fun sink log finished token price found nonzero => ?_⟩
    obtain ⟨stored, member, sameToken, samePrice⟩ :=
      logged_of_finished tracks received finished found nonzero
    rw [← sameToken, ← samePrice]
    exact right stored member

/-! ## Schedules -/

/-- `canonicalBaseWeth`. -/
def canonicalBaseWeth : Address := ⟨0x4200000000000000000000000000000000000006, 0⟩

/-- `canonicalBaseEthUsdFeed`. -/
def canonicalBaseEthUsdFeed : Address := ⟨0x71041dddad3595f9ced3dccfbe3d1f4b0a16bb70, 0x2cb9408⟩

/-- Ether with its feed, whose decimals are not configured. -/
def etherConfig : PriceOracleCacheConfig where
  feedRegistry := InsertionMap.empty.set canonicalBaseWeth ⟨canonicalBaseEthUsdFeed, none⟩
  aaveOracleAddress := none
  getAddress := fun value => if value = canonicalBaseEthUsdFeed.value then 0x2cb9408 else 0

/-- A node whose feeds have eighteen decimals and answer three thousand dollars. -/
def etherNode : OracleNode where
  latestRound := fun _ _ => ⟨3000 * 10 ^ 18, 1000⟩
  decimals := fun _ => 18
  assetPrice := fun _ _ => 0

/-- A turn that answers, and one whose read fails, two seconds after the round. -/
def answers : OracleTurn := ⟨1002000, false, []⟩

def failsNow : OracleTurn := ⟨1002000, true, []⟩

/-- A call for the price of ether, with the outcome of its read of the decimals. -/
def etherSchedule (decimalsRead : OracleTurn) : List OracleAct :=
  [.start (OracleCall.program etherConfig (.getUsdPrice canonicalBaseWeth)), .run 0 answers,
    .run 0 answers, .run 0 answers, .run 0 decimalsRead]

theorem calls_etherSchedule (decimalsRead : OracleTurn) (rest : List OracleAct)
    (turns : ∀ act ∈ rest, ∀ program, act ≠ .start program) :
    ∀ act ∈ etherSchedule decimalsRead ++ rest, Calls etherConfig act := by
  intro act member program started
  rcases List.mem_append.mp member with first | later
  · subst started
    have same : program = OracleCall.program etherConfig (.getUsdPrice canonicalBaseWeth) := by
      simpa [etherSchedule] using first
    exact ⟨_, same⟩
  · exact absurd started (turns act later program)

/-- The decimals are read: remember them, check, settle. -/
def learnedPool : OraclePool :=
  (Pool.execute (serve etherConfig etherNode) (fun _ _ => true) (Pool.initial .initial)
    (etherSchedule answers ++ [.run 0 answers, .run 0 answers, .run 0 answers])).get
      (by decide +kernel)

/-- The read of the decimals fails: check, settle. -/
def assumedPool : OraclePool :=
  (Pool.execute (serve etherConfig etherNode) (fun _ _ => true) (Pool.initial .initial)
    (etherSchedule failsNow ++ [.run 0 answers, .run 0 answers])).get (by decide +kernel)

theorem turns_only (turns : List OracleTurn) :
    ∀ act ∈ turns.map (fun turn => (.run 0 turn : OracleAct)), ∀ program, act ≠ .start program := by
  intro act member program started
  obtain ⟨turn, _, rfl⟩ := List.mem_map.mp member
  cases started

/-- A learned scale gives three thousand dollars in eight decimals. -/
theorem prices_right_iff_learned :
    ((∀ stored ∈ learnedPool.shared.stores,
        RightPrice etherConfig etherNode stored.token stored.price) ∧
      ∀ sink log, ⟨.pure sink, log⟩ ∈ learnedPool.threads → ∀ token price,
        sink.get? token = some price → price.raw ≠ 0 →
          RightPrice etherConfig etherNode token price) ↔
      ∀ checked ∈ learnedPool.shared.checks, Usable etherConfig checked.reading checked.nowMs →
        Learned etherNode checked.reading :=
  prices_right_iff etherConfig etherNode (Pool.run_of_execute .refl
    (fun act member _ _ => calls_etherSchedule answers
      [.run 0 answers, .run 0 answers, .run 0 answers]
      (turns_only [answers, answers, answers]) act member) (Option.some_get _).symm)

/-- An assumed scale makes ten billion times as much of the same round. -/
theorem assumed_scale_stored :
    ¬ ∀ (config : PriceOracleCacheConfig) (node : OracleNode) (pool : OraclePool),
      Pool.Run (serve config node) (fun _ act => Calls config act) (Pool.initial .initial) pool →
      ∀ stored ∈ pool.shared.stores, RightPrice config node stored.token stored.price := by
  intro claim
  have run := claim etherConfig etherNode assumedPool (Pool.run_of_execute .refl
    (fun act member _ _ => calls_etherSchedule failsNow [.run 0 answers, .run 0 answers]
      (turns_only [answers, answers]) act member) (Option.some_get _).symm)
  have logged : (⟨canonicalBaseWeth, ⟨3000 * 10 ^ 18, .chainlink ⟨canonicalBaseEthUsdFeed,
      ⟨3000 * 10 ^ 18, 1000⟩, 1, 8, .assumed⟩ 1002000⟩, none⟩ : Stored) ∈
      assumedPool.shared.stores := by
    decide +kernel
  have right := run _ logged _ _ rfl
  have scale : (3000 * 10 ^ 18 : Int) = 3000 * 10 ^ 18 * 10 ^ 8 / 10 ^ 18 := right.scale
  norm_num at scale

end PriceOracleCache

end LiquidationBot
