import LiquidationBot.CacheDeliveries
import LiquidationBot.CandidateSearch
import LiquidationBot.Library.Apart
import LiquidationBot.PipelineWorld

/-!
# The cycle that a confirmed account starts

The event-purity stack starts a cycle for an account that it has confirmed to be
liquidatable, and hands the account to nobody: the cycle finds it only if other
components have delivered its snapshot to the detection cache and have reported to
the staleness guard. In every run in which they have, each such cycle hands the
account to the gate.
-/

namespace LiquidationBot

namespace PipelineOrchestrator

open PipelineWorld

/-- The account that a call hands to the hook `onLiquidatableCandidate`. -/
def handedToHook (event : PipelineEvent) : Option Address :=
  match event.1 with
  | .memory (.liquidatableCandidate account) => some account
  | _ => none

/-- The account for which the stack has started the cycle. -/
def triggeredBy (log : List PipelineEvent) : Option Address := log.head?.bind handedToHook

/-- The cycle has handed the account to the gate. -/
def Evaluated (chain : SupportedChain) (account : Address) (log : List PipelineEvent) : Prop :=
  ∃ candidates, (⟨.memory (.filterCandidates chain candidates), ()⟩ : PipelineEvent) ∈ log ∧
    ∃ candidate ∈ candidates, candidate.account.value = account.value

/-- The execution breaker was open or the sequencer down. -/
def Excused (chain : SupportedChain) (log : List PipelineEvent) : Prop :=
  (⟨.memory (.executionBreaker chain), .open⟩ : PipelineEvent) ∈ log ∨
    (⟨.ask (.isUp chain), .ok false⟩ : PipelineEvent) ∈ log

/-- The last snapshot that was delivered for the account has not expired, yields a
candidate, and is fresh where the listing asks for it. -/
def deliveredAtRisk (config : PipelineOrchestratorConfig) (world : PipelineWorld)
    (chain : SupportedChain) (account : Address) (degraded : Bool) : Bool :=
  (latest world.delivered (borrowerKey chain account)).any (fun snapshot =>
    !world.cache.expired world.nowMs snapshot && !snapshot.toCandidates.isEmpty &&
      (!degraded || world.nowMs - config.maxCacheAgeMs ≤ snapshot.updatedAtMs))

/-- Some borrower's last snapshot is fresh. -/
def deliveredFresh (config : PipelineOrchestratorConfig) (world : PipelineWorld)
    (chain : SupportedChain) : Bool :=
  world.delivered.any (fun snapshot =>
    snapshot.chain = chain && latest world.delivered snapshot.key = some snapshot &&
      !world.cache.expired world.nowMs snapshot &&
      world.nowMs - config.maxCacheAgeMs ≤ snapshot.updatedAtMs)

/-- The call of a cycle that looks for the account meets the guard reported to in
time, the account delivered, and no exception. -/
def sustains (config : PipelineOrchestratorConfig) (chain : SupportedChain) (account : Address)
    (gating : Bool) (world : PipelineWorld) (oracle : PipelineOracle) : PipelineOp → Bool
  | .memory .stalenessCheck =>
      world.nowMs < world.watchlistStaleness.lastUpdate + world.watchlistStaleness.maxStaleMs * 3
  | .memory (.hasFreshCache tested) => tested ≠ chain || deliveredFresh config world chain
  | .memory (.listCandidates tested degraded) =>
      tested ≠ chain || deliveredAtRisk config world chain account degraded
  | .ask op => !askLoses chain gating op (oracle.answer op)
  | _ => true

/-- The cache has room for what is delivered. -/
def hasRoom (world : PipelineWorld) (oracle : PipelineOracle) : Bool :=
  world.cache.snapshots.size + oracle.deliveries.length ≤ world.cache.maxEntries

/-- The turn sustains its thread's search for the account that triggered it. -/
def threadSustained (config : PipelineOrchestratorConfig) (chain : SupportedChain)
    (world : PipelineWorld) (oracle : PipelineOracle) (thread : CycleThread) : Bool :=
  (triggeredBy thread.log).all (fun account =>
    match Async.replay (searchPhase chain account) (.seeking false) thread.log with
    | some (.seeking gating) =>
        (pendingCall thread).all (sustains config chain account gating (world.elapse oracle) oracle)
    | _ => true)

def turnSustained (config : PipelineOrchestratorConfig) (chain : SupportedChain)
    (pool : CyclePool) : CycleAct → Bool
  | .start _ => true
  | .run index oracle =>
      hasRoom pool.shared oracle &&
        (pool.threads[index]?).all (threadSustained config chain pool.shared oracle)

section Detection

variable {config : PipelineOrchestratorConfig} {chain : SupportedChain} {account : Address}
variable {world : PipelineWorld} {oracle : PipelineOracle}

/-- The detection cache keeps up with the deliveries, within its defaults. -/
structure DetectionHolds (world : PipelineWorld) : Prop where
  keepsUp : world.cache.KeepsUp world.nowMs world.delivered
  limit : world.cache.maxEntries = 50000
  ttl : world.cache.ttlMs = 30 * 60000

theorem detectionHolds_start (nowMs maxStaleMs : Int) (cooldownMs : Option Int)
    (acceptedBefore : Nat) : DetectionHolds (start nowMs maxStaleMs cooldownMs acceptedBefore) :=
  ⟨ReserveAwareBorrowerCache.keepsUp_create none none nowMs, rfl, rfl⟩

theorem DetectionHolds.elapse (detection : DetectionHolds world)
    (room : hasRoom world oracle = true) : DetectionHolds (world.elapse oracle) := by
  have later : world.nowMs ≤ world.nowMs + oracle.elapsedMs := by omega
  obtain ⟨keepsUp, entries, ttl⟩ := (detection.keepsUp.wait later).upsertAll oracle.deliveries
    (of_decide_eq_true room)
  exact ⟨keepsUp, entries.trans detection.limit, ttl.trans detection.ttl⟩

theorem DetectionHolds.same (detection : DetectionHolds world) {after : PipelineWorld}
    (same : SameDetection world after) : DetectionHolds after := by
  obtain ⟨cache, clock, delivered⟩ := same
  have pruned := detection.keepsUp.prune
  have limits := ReserveAwareBorrowerCache.limits_prune world.nowMs detection.keepsUp.fits
  rcases cache with kept | listed
  · constructor
    · rw [kept, clock, delivered]
      exact detection.keepsUp
    · rw [kept, detection.limit]
    · rw [kept, detection.ttl]
  · constructor
    · rw [listed, clock, delivered]
      exact pruned
    · rw [listed, limits.1, detection.limit]
    · rw [listed, limits.2.1, detection.ttl]

/-- The candidates of a snapshot that a cache keeps are listed. -/
theorem any_isOf_candidates {cache : ReserveAwareBorrowerCache} {nowMs : Int}
    {delivered : List BorrowerSnapshot} (keepsUp : cache.KeepsUp nowMs delivered)
    {snapshot : BorrowerSnapshot}
    (found : latest delivered (borrowerKey chain account) = some snapshot)
    (young : cache.expired nowMs snapshot = false) (atRisk : snapshot.toCandidates ≠ []) :
    (cache.createReserveAwareCandidates nowMs chain).any (isOf account) = true := by
  obtain ⟨onChain, sameAccount⟩ := (borrowerKey_eq_iff _ _ _ _).mp (latest_eq_some found).1
  have listed := keepsUp.listed found young
  rw [onChain] at listed
  obtain ⟨candidate, member, made⟩ :=
    (cache.exists_candidate_iff nowMs chain snapshot.account).mpr ⟨snapshot, listed, rfl, atRisk⟩
  refine List.any_eq_true.mpr ⟨candidate, member, decide_eq_true ?_⟩
  rw [made, sameAccount]

/-- The copy of the fresh snapshots keeps up with them, with the same defaults. -/
theorem keepsUp_fresh (detection : DetectionHolds world) (config : PipelineOrchestratorConfig)
    (chain : SupportedChain) :
    ((ReserveAwareBorrowerCache.create none none).upsertAll world.nowMs
        (world.freshSnapshots config chain)).KeepsUp world.nowMs
          (world.freshSnapshots config chain) ∧
      ((ReserveAwareBorrowerCache.create none none).upsertAll world.nowMs
        (world.freshSnapshots config chain)).ttlMs = world.cache.ttlMs := by
  have short : (world.freshSnapshots config chain).length ≤ 50000 := by
    have listed := detection.keepsUp.length_listSnapshots_le chain
    rw [detection.limit] at listed
    exact (List.length_filter_le _ _).trans listed
  have room : (ReserveAwareBorrowerCache.create none none).snapshots.size +
      (world.freshSnapshots config chain).length ≤
        (ReserveAwareBorrowerCache.create none none).maxEntries := by
    have empty : (ReserveAwareBorrowerCache.create none none).snapshots.size = 0 := rfl
    have limit : (ReserveAwareBorrowerCache.create none none).maxEntries = 50000 := rfl
    omega
  obtain ⟨keepsUp, _, ttl⟩ :=
    (ReserveAwareBorrowerCache.keepsUp_create none none world.nowMs).upsertAll _ room
  refine ⟨keepsUp, ttl.trans ?_⟩
  rw [detection.ttl]
  rfl

/-- What was delivered and is fresh is among the fresh snapshots, the last of its
borrower. -/
theorem latest_freshSnapshots (detection : DetectionHolds world) {key : CacheKey}
    {snapshot : BorrowerSnapshot} (found : latest world.delivered key = some snapshot)
    (young : world.cache.expired world.nowMs snapshot = false)
    (fresh : world.nowMs - config.maxCacheAgeMs ≤ snapshot.updatedAtMs) :
    snapshot ∈ world.freshSnapshots config snapshot.chain ∧
      latest (world.freshSnapshots config snapshot.chain) key = some snapshot := by
  have listed := detection.keepsUp.listed found young
  have member : snapshot ∈ world.freshSnapshots config snapshot.chain :=
    List.mem_filter.mpr ⟨listed, decide_eq_true fresh⟩
  refine ⟨member, ?_⟩
  obtain ⟨last, foundLast⟩ := latest_isSome member
  obtain ⟨sameKey, lastMember⟩ := latest_eq_some foundLast
  have here := detection.keepsUp.stored_of_listed listed
  have there := detection.keepsUp.stored_of_listed (List.mem_filter.mp lastMember).1
  rw [sameKey, here] at there
  cases there
  rw [← (latest_eq_some found).1]
  exact foundLast

/-- A delivered account is among the raw candidates. -/
theorem listed_of_delivered (detection : DetectionHolds world) {degraded : Bool}
    (delivered : deliveredAtRisk config world chain account degraded = true) :
    (world.listCandidates config chain degraded).any (isOf account) = true := by
  cases found : latest world.delivered (borrowerKey chain account) with
  | none =>
    rw [deliveredAtRisk, found] at delivered
    cases delivered
  | some snapshot =>
    simp only [deliveredAtRisk, found, Option.any_some, Bool.and_eq_true, Bool.not_eq_true',
      List.isEmpty_eq_false_iff, Bool.or_eq_true, decide_eq_true_eq] at delivered
    obtain ⟨⟨young, atRisk⟩, fresh⟩ := delivered
    unfold PipelineWorld.listCandidates
    split
    next asksFresh =>
      have recent := fresh.resolve_left (by simp [asksFresh])
      obtain ⟨_, foundFresh⟩ := latest_freshSnapshots detection found young recent
      obtain ⟨onChain, _⟩ := (borrowerKey_eq_iff _ _ _ _).mp (latest_eq_some found).1
      rw [onChain] at foundFresh
      obtain ⟨keepsUp, ttl⟩ := keepsUp_fresh detection config chain
      refine any_isOf_candidates keepsUp foundFresh ?_ atRisk
      rw [ReserveAwareBorrowerCache.expired, ttl]
      exact young
    next => exact any_isOf_candidates detection.keepsUp found young atRisk

/-- A fresh delivery lets degraded polling go on. -/
theorem fresh_of_delivered (detection : DetectionHolds world)
    (delivered : deliveredFresh config world chain = true) :
    (world.freshSnapshots config chain).isEmpty = false := by
  obtain ⟨snapshot, _, holds⟩ := List.any_eq_true.mp delivered
  simp only [Bool.and_eq_true, Bool.not_eq_true', decide_eq_true_eq] at holds
  obtain ⟨⟨⟨rfl, found⟩, young⟩, fresh⟩ := holds
  obtain ⟨member, _⟩ := latest_freshSnapshots detection found young fresh
  exact List.isEmpty_eq_false_iff.mpr (List.ne_nil_of_mem member)

/-- A sustained call does not lose the account. -/
theorem not_loses_of_sustains (detection : DetectionHolds (world.elapse oracle))
    {gating : Bool} {op : PipelineOp} {answer : op.Answer} {after : PipelineWorld}
    (served : serve config oracle world op = some (after, answer))
    (sustained : sustains config chain account gating (world.elapse oracle) oracle op = true) :
    loses chain account gating op answer = false := by
  cases op with
  | executor plan op => rfl
  | ask op =>
    rw [loses, ← (serve_ask_eq_some served).2]
    simpa [sustains] using sustained
  | memory op =>
    have answered := (serve_memory_eq_some served).2
    cases op with
    | stalenessCheck =>
      have reported := of_decide_eq_true sustained
      have status : answer ≠ .critical := by
        rw [← answered]
        exact StalenessGuard.check_ne_critical reported
      exact decide_eq_false status
    | hasFreshCache tested =>
      dsimp only [loses]
      by_cases same : tested = chain
      · subst same
        simp only [sustains, ne_eq, not_true_eq_false, decide_false, Bool.false_or] at sustained
        rw [← answered]
        dsimp only [serveMemory]
        rw [fresh_of_delivered detection sustained]
        exact Bool.and_false _
      · simp [same]
    | listCandidates tested degraded =>
      dsimp only [loses]
      by_cases same : tested = chain
      · subst same
        simp only [sustains, ne_eq, not_true_eq_false, decide_false, Bool.false_or] at sustained
        rw [← answered]
        dsimp only [serveMemory]
        rw [listed_of_delivered detection sustained]
        exact Bool.and_false _
      · simp [same]
    | _ => rfl

/-- A search that has settled has a settling call behind it. -/
theorem exists_settles (log : List PipelineEvent) {phase : SearchPhase}
    (unsettled : phase ≠ .settled)
    (replayed : Async.replay (searchPhase chain account) phase log = some .settled) :
    ∃ event ∈ log, settles chain account event.1 event.2 = true := by
  induction log generalizing phase with
  | nil =>
    cases replayed
    exact absurd rfl unsettled
  | cons event rest inductionHypothesis =>
    obtain ⟨middle, stepped, remaining⟩ := Option.bind_eq_some_iff.mp replayed
    by_cases here : settles chain account event.1 event.2 = true
    · exact ⟨event, List.mem_cons_self, here⟩
    · have still : middle ≠ .settled := by
        unfold searchPhase at stepped
        split at stepped
        next gating op answer =>
          rw [if_neg here] at stepped
          split at stepped
          · cases stepped
            nofun
          · cases stepped
            nofun
        next =>
          cases stepped
          exact unsettled
      obtain ⟨later, member, settled⟩ := inductionHypothesis still remaining
      exact ⟨later, List.mem_cons_of_mem event member, settled⟩

/-- The calls that settle are those that evaluate the account or excuse the
cycle. -/
theorem exists_settles_iff (log : List PipelineEvent) :
    (∃ event ∈ log, settles chain account event.1 event.2 = true) ↔
      Evaluated chain account log ∨ Excused chain log := by
  constructor
  · rintro ⟨⟨op, answer⟩, member, settled⟩
    cases op with
    | executor plan op => cases settled
    | ask op =>
      cases op with
      | isUp tested =>
        cases answer with
        | error error => cases settled
        | ok up =>
          simp only [settles, Bool.and_eq_true, decide_eq_true_eq, Bool.not_eq_true'] at settled
          obtain ⟨rfl, rfl⟩ := settled
          exact Or.inr (Or.inr member)
      | _ => cases settled
    | memory op =>
      cases op with
      | filterCandidates tested candidates =>
        simp only [settles, Bool.and_eq_true, decide_eq_true_eq, List.any_eq_true] at settled
        obtain ⟨rfl, candidate, among, same⟩ := settled
        exact Or.inl ⟨candidates, member, candidate, among, of_decide_eq_true same⟩
      | executionBreaker tested =>
        simp only [settles, Bool.and_eq_true, decide_eq_true_eq] at settled
        obtain ⟨rfl, rfl⟩ := settled
        exact Or.inr (Or.inl member)
      | _ => cases settled
  · rintro (⟨candidates, member, candidate, among, same⟩ | (member | member))
    · refine ⟨_, member, ?_⟩
      have found : candidates.any (isOf account) = true :=
        List.any_eq_true.mpr ⟨candidate, among, decide_eq_true same⟩
      simp [settles, found]
    · exact ⟨_, member, by simp [settles]⟩
    · exact ⟨_, member, by simp [settles]⟩

end Detection

section Runs

variable {purity : EventPurityConfig} {config : PipelineOrchestratorConfig} {chain : SupportedChain}

/-- The detection cache keeps up, and no thread that the account has triggered has
lost it. -/
structure NoneLost (account : Address) (pool : CyclePool) (phases : List SearchPhase) : Prop where
  detection : DetectionHolds pool.shared
  kept : ∀ (index : Nat) (thread : CycleThread) (phase : SearchPhase),
    pool.threads[index]? = some thread → phases[index]? = some phase →
    triggeredBy thread.log = some account → phase ≠ .lost

/-- Whoever is triggered after a call was triggered before it, or the call is the
trigger. -/
theorem triggeredBy_snoc {log : List PipelineEvent} {event : PipelineEvent} {account : Address}
    (triggered : triggeredBy (log ++ [event]) = some account) :
    triggeredBy log = some account ∨
      log = [] ∧ ∃ answer, event = ⟨.memory (.liquidatableCandidate account), answer⟩ := by
  cases log with
  | cons first rest => exact Or.inl triggered
  | nil =>
    refine Or.inr ⟨rfl, ?_⟩
    obtain ⟨op, answer⟩ := event
    cases op with
    | memory op =>
      cases op with
      | liquidatableCandidate tested =>
        cases triggered
        exact ⟨answer, rfl⟩
      | _ => cases triggered
    | _ => cases triggered

/-- A sustained call of a search does not lose the account. -/
theorem not_lost_of_step {account : Address} {phase after : SearchPhase} {op : PipelineOp}
    {answer : op.Answer} (held : phase ≠ .lost)
    (stepped : searchPhase chain account phase op answer = some after)
    (kept : ∀ gating, phase = .seeking gating → loses chain account gating op answer = false) :
    after ≠ .lost := by
  cases phase with
  | lost => exact absurd rfl held
  | settled =>
    cases stepped
    nofun
  | seeking gating =>
    unfold searchPhase at stepped
    dsimp only at stepped
    rw [kept gating rfl] at stepped
    split at stepped
    · cases stepped
      nofun
    · cases stepped
      nofun

theorem noneLost_run (live : purity.enableLiveTx = true)
    (notSimulated : purity.simulationMode = false)
    (gate : config.liquidationGate = true) (listed : chain ∈ config.chains)
    {nowMs maxStaleMs : Int} {setting : Option Int} {acceptedBefore : Nat} {pool : CyclePool}
    (run : Pool.Run (serve config)
      (fun pool act => Triggers purity config act ∧ turnSustained config chain pool act = true)
      (Pool.initial (start nowMs maxStaleMs setting acceptedBefore)) pool) (account : Address) :
    ∃ phases, Pool.Tracks (searchPhase chain account) (fun phase _ => phase.ended = true)
      (.seeking false) pool phases ∧ NoneLost account pool phases := by
  apply run.invariant (NoneLost account)
  · exact ⟨[], .nil, detectionHolds_start nowMs maxStaleMs setting acceptedBefore, nofun⟩
  · rintro before phases program tracks noneLost ⟨⟨trigger, rfl⟩, _⟩
    refine ⟨trigger_searches purity live notSimulated gate listed trigger, noneLost.detection, ?_⟩
    intro index thread phase found located triggered
    rcases getElem?_snoc_cases found with earlier | ⟨last, rfl⟩
    · rcases getElem?_snoc_cases located with earlierPhase | ⟨last, rfl⟩
      · exact noneLost.kept index thread phase earlier earlierPhase triggered
      · nofun
    · cases triggered
  · intro before phases index oracle op resume log shared answer phase after tracks noneLost
      ⟨_, sustained⟩ found served located stepped _
    simp only [turnSustained, found, Option.all_some, Bool.and_eq_true] at sustained
    obtain ⟨room, sustained⟩ := sustained
    have elapsed := noneLost.detection.elapse room
    obtain ⟨here, foundHere, replayed, _⟩ := tracks.thread found
    cases located.symm.trans foundHere
    refine ⟨elapsed.same (sameDetection_serve served), ?_⟩
    intro tested thread there foundThread foundThere triggered
    rcases getElem?_set_cases foundThread with ⟨rfl, rfl⟩ | ⟨different, earlier⟩
    · have moved : there = after := by
        rcases getElem?_set_cases foundThere with ⟨_, moved⟩ | ⟨elsewhere, _⟩
        · exact moved
        · exact absurd rfl elsewhere
      subst moved
      rcases triggeredBy_snoc triggered with before | ⟨rfl, reply, event⟩
      · refine not_lost_of_step (noneLost.kept tested _ phase found located before) stepped ?_
        rintro gating rfl
        have sustains := sustained
        simp only [threadSustained, before, Option.all_some, replayed, pendingCall] at sustains
        exact not_loses_of_sustains elapsed served sustains
      · -- the trigger itself: the search has not begun
        cases event
        cases replayed
        have seeking : SearchPhase.seeking false ≠ .lost := nofun
        refine not_lost_of_step seeking stepped ?_
        intro gating _
        rfl
    · rcases getElem?_set_cases foundThere with ⟨rfl, _⟩ | ⟨_, earlierPhase⟩
      · exact absurd rfl different
      · exact noneLost.kept tested thread there earlier earlierPhase triggered

/-- In every run that sustains its searches, every cycle that the stack has started
for an account and that has ended has handed the account to the gate, or is
excused. -/
theorem candidate_evaluated (purity : EventPurityConfig) (config : PipelineOrchestratorConfig)
    (chain : SupportedChain) (live : purity.enableLiveTx = true)
    (notSimulated : purity.simulationMode = false) (gate : config.liquidationGate = true)
    (listed : chain ∈ config.chains) (nowMs maxStaleMs : Int) (setting : Option Int)
    (acceptedBefore : Nat) (pool : CyclePool)
    (run : Pool.Run (serve config)
      (fun pool act => Triggers purity config act ∧ turnSustained config chain pool act = true)
      (Pool.initial (start nowMs maxStaleMs setting acceptedBefore)) pool)
    (thread : CycleThread) (member : thread ∈ pool.threads)
    (ended : thread.program.unfinished = false) (account : Address)
    (triggered : triggeredBy thread.log = some account) :
    Evaluated chain account thread.log ∨ Excused chain thread.log := by
  obtain ⟨phases, tracks, noneLost⟩ := noneLost_run live notSimulated gate listed run account
  obtain ⟨index, found⟩ := List.mem_iff_getElem?.mp member
  obtain ⟨phase, located, replayed, conforms⟩ := tracks.thread found
  have kept := noneLost.kept index thread phase found located triggered
  have finished : phase.ended = true := by
    obtain ⟨program, log⟩ := thread
    cases program with
    | pure value => exact conforms
    | throw error => exact conforms
    | call op resume => cases ended
  cases phase with
  | seeking gating => cases finished
  | lost => exact absurd rfl kept
  | settled =>
    have seeking : SearchPhase.seeking false ≠ .settled := nofun
    exact (exists_settles_iff thread.log).mp (exists_settles thread.log seeking replayed)

end Runs

/-! ## Account one, confirmed to be liquidatable -/

/-- The last log or tick of the stack is young. -/
def logsArrive (maxStaleMs : Int) (pool : CyclePool) : CycleAct → Bool
  | .start _ => true
  | .run _ oracle =>
      (pool.shared.elapse oracle).nowMs - (pool.shared.elapse oracle).lastLogMs < maxStaleMs

/-- A tenth of a second passes and a log arrives. -/
def logArrives : PipelineOracle := { calm with elapsedMs := 100, logArrived := true }

/-- The stack starts a cycle for account one, which then takes its turns. -/
def confirmedSchedule (first : PipelineOracle) (rest : Nat) : List CycleAct :=
  [.start ((CycleTrigger.liquidatableCandidate ⟨1, 0⟩).program liveTx (baseConfig ⟨9, 0⟩)),
    .run 0 first] ++ turns 0 rest logArrives

theorem triggers_confirmedSchedule {first : PipelineOracle} {rest : Nat} :
    ∀ act ∈ confirmedSchedule first rest, Triggers liveTx (baseConfig ⟨9, 0⟩) act := by
  intro act member
  simp only [confirmedSchedule, List.mem_append, List.mem_cons, List.not_mem_nil, or_false] at member
  rcases member with (rfl | rfl) | turn
  · exact ⟨.liquidatableCandidate ⟨1, 0⟩, rfl⟩
  · trivial
  · exact triggers_turns turn

/-- A component has delivered the account's snapshot by the time of the cycle. -/
def deliveredPool : CyclePool :=
  (Pool.execute (serve (baseConfig ⟨9, 0⟩)) (turnSustained (baseConfig ⟨9, 0⟩) .base)
    (Pool.initial (start 0 60000 none 5))
    (confirmedSchedule { calm with deliveries := [snapshotAtRisk ⟨1, 0⟩] } 36)).get
      (by decide +kernel)

theorem deliveredPool_started : 0 < deliveredPool.threads.length := by decide +kernel

/-- The gate gets account one. -/
theorem candidate_evaluated_delivered :
    ∃ thread ∈ deliveredPool.threads,
      Evaluated .base ⟨1, 0⟩ thread.log ∨ Excused .base thread.log := by
  have member := List.getElem_mem deliveredPool_started
  have run : Pool.Run (serve (baseConfig ⟨9, 0⟩)) (fun pool act =>
      Triggers liveTx (baseConfig ⟨9, 0⟩) act ∧
        turnSustained (baseConfig ⟨9, 0⟩) .base pool act = true)
      (Pool.initial (start 0 60000 none 5)) deliveredPool :=
    Pool.run_of_execute .refl
      (fun act member _ passed => ⟨triggers_confirmedSchedule act member, passed⟩)
      (Option.some_get _).symm
  have ended : deliveredPool.threads[0].program.unfinished = false := by decide +kernel
  have triggered : triggeredBy deliveredPool.threads[0].log = some ⟨1, 0⟩ := by decide +kernel
  exact ⟨_, member, candidate_evaluated liveTx (baseConfig ⟨9, 0⟩) .base rfl rfl rfl (by decide)
    0 60000 none 5 deliveredPool run _ member ended ⟨1, 0⟩ triggered⟩

/-- Nobody has delivered anything, as in the stack's own mode. -/
def unlistedPool : CyclePool :=
  (Pool.execute (serve (baseConfig ⟨9, 0⟩)) (logsArrive 60000)
    (Pool.initial (start 0 60000 none 5)) (confirmedSchedule logArrives 12)).get
      (by decide +kernel)

theorem unlistedPool_started : 0 < unlistedPool.threads.length := by decide +kernel

/-- Logs keep arriving, no breaker is open, the sequencer is up and nobody is on
hold, and still the gate does not get account one. -/
theorem confirmed_account_not_evaluated :
    Pool.Run (serve (baseConfig ⟨9, 0⟩)) (fun pool act =>
        Triggers liveTx (baseConfig ⟨9, 0⟩) act ∧ logsArrive 60000 pool act = true)
        (Pool.initial (start 0 60000 none 5)) unlistedPool ∧
      unlistedPool.shared.history = [] ∧
      ∃ thread ∈ unlistedPool.threads, thread.program.unfinished = false ∧
        triggeredBy thread.log = some ⟨1, 0⟩ ∧
        ¬ Evaluated .base ⟨1, 0⟩ thread.log ∧ ¬ Excused .base thread.log := by
  refine ⟨?_, ?_, _, List.getElem_mem unlistedPool_started, ?_, ?_, ?_⟩
  · exact Pool.run_of_execute .refl
      (fun act member _ passed => ⟨triggers_confirmedSchedule act member, passed⟩)
      (Option.some_get _).symm
  · decide +kernel
  · decide +kernel
  · decide +kernel
  · rw [← not_or, ← exists_settles_iff]
    decide +kernel

end PipelineOrchestrator

end LiquidationBot
