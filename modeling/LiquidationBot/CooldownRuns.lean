import LiquidationBot.Library.Prefixes
import LiquidationBot.PipelineWorld

/-!
# The cooldown over whole runs

The gate asks the registry about the borrower; a failed execution is recorded in
it under the request's account, which is the wallet. The two agree in every run
in which only the wallet's own positions are dead-lettered for an eligible
reason, and the preview's hook is asked only where the wallet is on hold exactly
if the borrower is. There a borrower is refused exactly while a dead letter of
its own is younger than the cooldown.
-/

namespace LiquidationBot

namespace PipelineOrchestrator

open PipelineWorld

/-- The dead letters that put their subject on hold. -/
def holds (history : List PipelineRecord) : List (BorrowerKey × Int) :=
  history.filterMap (fun record => match record with
    | .deadLettered plan reason atMs =>
        if shouldApplyBorrowerCooldown reason then some (subject plan, atMs) else none
    | _ => none)

/-- A dead letter of the borrower is younger than the cooldown. -/
def OnHold (cooldownMs : Int) (history : List PipelineRecord) (borrower : BorrowerKey)
    (nowMs : Int) : Prop :=
  ∃ since, (borrower, since) ∈ holds history ∧ nowMs < since + cooldownMs

/-- What a record should be after a history: a borrower is refused exactly while
on hold, and no liquidation is attempted during a hold of its borrower. -/
def Agrees (cooldownMs : Int) (history : List PipelineRecord) : PipelineRecord → Prop
  | .checked borrower blocked atMs => blocked = true ↔ OnHold cooldownMs history borrower atMs
  | .attempted plan atMs =>
      ∀ candidate, plan.opportunity = .liquidation candidate →
        ¬ OnHold cooldownMs history (subject plan) atMs
  | .deadLettered _ _ _ => True

/-- The cooldown is effective in a history. -/
def Effective (cooldownMs : Int) (history : List PipelineRecord) : Prop :=
  Prefixes.EachStep (Agrees cooldownMs) history

/-- The key under which a request is dead-lettered. -/
def requestKey (request : SafeExecutionRequest) : BorrowerKey :=
  borrowerKey request.chain request.account

/-- A liquidation of the wallet's own position. -/
def ofWallet (config : PipelineOrchestratorConfig) (plan : PipelineExecutionPlan) : Bool :=
  match plan.opportunity with
  | .liquidation candidate =>
      borrowerKey plan.chain candidate.account =
        borrowerKey config.requestChain config.adapter.account
  | .arbitrage _ => true

/-- The result is dead-lettered for an eligible reason. -/
def coolsDown (result : Except Thrown SafeExecutionResult) : Bool :=
  (deadLetterReason result).any shouldApplyBorrowerCooldown

/-- The registry's answer about a key. -/
def blocksAt (world : PipelineWorld) (key : BorrowerKey) : Bool :=
  (Expiry.check world.borrowerCooldown.blockedUntilMs world.nowMs key).2

/-- The call keeps wallet and borrower together: an eligible dead letter is of the
wallet's own position, and the hook finds the wallet on hold exactly if the
borrower is. -/
def keepsTogether (config : PipelineOrchestratorConfig) (world : PipelineWorld) :
    PipelineOp → Bool
  | .memory (.settleExecution plan result) => !coolsDown result || ofWallet config plan
  | .executor plan (.ask (.rejectBeforePreview request)) =>
      blocksAt world (requestKey request) == blocksAt world (subject plan)
  | _ => true

/-- The turn keeps wallet and borrower together. -/
def turnKeepsTogether (config : PipelineOrchestratorConfig) (pool : CyclePool) : CycleAct → Bool
  | .start _ => true
  | .run index oracle =>
      ((pool.threads[index]?).bind pendingCall).all
        (keepsTogether config (pool.shared.elapse oracle))

section Invariant

variable {cooldownMs : Int} {world : PipelineWorld} {config : PipelineOrchestratorConfig}

/-- A plan built for the wallet's own position is dead-lettered under its
borrower. -/
theorem requestKey_of_ofWallet {plan : PipelineExecutionPlan} (wellBuilt : WellBuilt config plan)
    (own : ofWallet config plan = true) : requestKey plan.request = subject plan := by
  obtain ⟨chain, opportunity, request⟩ := plan
  cases opportunity with
  | arbitrage opportunity => rfl
  | liquidation candidate =>
    cases made : buildLiquidationExecutionRequest config.requestChain candidate config.adapter with
    | error error =>
      rw [WellBuilt, requestOf, made] at wellBuilt
      cases wellBuilt
    | ok built =>
      rw [WellBuilt, requestOf, made] at wellBuilt
      cases wellBuilt
      obtain ⟨onChain, wallet, _⟩ := buildLiquidationExecutionRequest_eq_ok made
      dsimp only [requestKey, subject]
      rw [onChain, wallet]
      exact (of_decide_eq_true own).symm

/-- The registry reflects the dead letters of the history, and the history has
been effective so far. -/
structure CooldownHolds (cooldownMs : Int) (world : PipelineWorld) : Prop where
  setting : world.borrowerCooldown.cooldownMs = cooldownMs
  reflects : Expiry.Reflects world.borrowerCooldown.blockedUntilMs cooldownMs world.nowMs
    (holds world.history)
  past : ∀ entry ∈ holds world.history, entry.2 ≤ world.nowMs
  effective : Effective cooldownMs world.history

theorem cooldownHolds_start (nowMs maxStaleMs : Int) (setting : Option Int) (acceptedBefore : Nat) :
    CooldownHolds (clampBorrowerCooldownMs (setting.getD defaultCooldownMs))
      (.start nowMs maxStaleMs setting acceptedBefore) where
  setting := rfl
  reflects := Expiry.reflects_empty _ nowMs
  past := by simp [holds, PipelineWorld.start]
  effective := by
    intro past event initial
    simp [PipelineWorld.start] at initial

/-- Objects other than the registry and the clock play no part. -/
theorem CooldownHolds.congr {other : PipelineWorld} (cooldown : CooldownHolds cooldownMs world)
    (registry : other.borrowerCooldown = world.borrowerCooldown) (clock : other.nowMs = world.nowMs)
    (history : other.history = world.history) : CooldownHolds cooldownMs other where
  setting := by rw [registry, cooldown.setting]
  reflects := by
    rw [registry, clock, history]
    exact cooldown.reflects
  past := by
    rw [clock, history]
    exact cooldown.past
  effective := by
    rw [history]
    exact cooldown.effective

theorem CooldownHolds.elapse (cooldown : CooldownHolds cooldownMs world) (oracle : PipelineOracle) :
    CooldownHolds cooldownMs (world.elapse oracle) := by
  have later : world.nowMs ≤ (world.elapse oracle).nowMs := by
    simp [PipelineWorld.elapse]
  exact ⟨cooldown.setting, cooldown.reflects.wait later,
    fun entry member => le_trans (cooldown.past entry member) later, cooldown.effective⟩

/-- The registry answers whether the key is on hold. -/
theorem CooldownHolds.blocksAt_iff (cooldown : CooldownHolds cooldownMs world) (key : BorrowerKey) :
    blocksAt world key = true ↔ OnHold cooldownMs world.history key world.nowMs :=
  cooldown.reflects.check_eq_true_iff key

/-- A record that holds nobody and agrees with the history. -/
theorem CooldownHolds.note (cooldown : CooldownHolds cooldownMs world) {record : PipelineRecord}
    (neutral : holds [record] = []) (agrees : Agrees cooldownMs world.history record) :
    CooldownHolds cooldownMs (world.note record) := by
  have same : holds (world.note record).history = holds world.history := by
    simp only [PipelineWorld.note, holds, List.filterMap_append] at neutral ⊢
    rw [neutral, List.append_nil]
  refine ⟨cooldown.setting, ?_, ?_, ?_⟩
  · rw [same]
    exact cooldown.reflects
  · rw [same]
    exact cooldown.past
  · exact (Prefixes.eachStep_snoc _ _ _).mpr ⟨cooldown.effective, agrees⟩

/-- A check on behalf of a borrower, where the registry treats both alike. -/
theorem CooldownHolds.checkFor (cooldown : CooldownHolds cooldownMs world) {borrower : BorrowerKey}
    {chain : SupportedChain} {account : Address}
    (alike : blocksAt world (borrowerKey chain account) = blocksAt world borrower) :
    CooldownHolds cooldownMs (world.checkFor borrower chain account).1 ∧
      ((world.checkFor borrower chain account).2 = true ↔
        OnHold cooldownMs world.history borrower world.nowMs) := by
  have same := world.borrowerCooldown.isBorrowerBlocked_eq world.nowMs chain account
  have deadlines := congrArg Prod.fst same
  have answer := congrArg Prod.snd same
  dsimp only at deadlines answer
  have agrees : (world.borrowerCooldown.isBorrowerBlocked world.nowMs chain account).2 = true ↔
      OnHold cooldownMs world.history borrower world.nowMs := by
    rw [answer, ← cooldown.blocksAt_iff, ← alike]
    rfl
  refine ⟨?_, agrees⟩
  have checked : CooldownHolds cooldownMs { world with
      borrowerCooldown :=
        (world.borrowerCooldown.isBorrowerBlocked world.nowMs chain account).1 } := by
    refine ⟨?_, ?_, cooldown.past, cooldown.effective⟩
    · rw [BorrowerCooldownRegistry.cooldownMs_isBorrowerBlocked, cooldown.setting]
    · dsimp only
      rw [deadlines]
      exact cooldown.reflects.check _
  exact checked.note rfl agrees

theorem CooldownHolds.isBorrowerBlocked (cooldown : CooldownHolds cooldownMs world)
    (chain : SupportedChain) (account : Address) :
    CooldownHolds cooldownMs (world.isBorrowerBlocked chain account).1 ∧
      ((world.isBorrowerBlocked chain account).2 = true ↔
        OnHold cooldownMs world.history (borrowerKey chain account) world.nowMs) :=
  cooldown.checkFor rfl

theorem holds_append (earlier later : List PipelineRecord) :
    holds (earlier ++ later) = holds earlier ++ holds later :=
  List.filterMap_append

/-- A begun execution asks the gate first. -/
theorem CooldownHolds.beginExecution (cooldown : CooldownHolds cooldownMs world)
    (gate : config.liquidationGate = true) (plan : PipelineExecutionPlan) :
    CooldownHolds cooldownMs (world.beginExecution config plan).1 := by
  unfold PipelineWorld.beginExecution
  split
  next candidate found =>
    rw [if_pos gate]
    obtain ⟨kept, answered⟩ := cooldown.isBorrowerBlocked plan.chain candidate.account
    dsimp only
    split
    · exact kept
    next passed =>
      refine kept.note rfl ?_
      rintro _ _ ⟨since, held, young⟩
      have same : subject plan = borrowerKey plan.chain candidate.account := by
        rw [subject, found]
      have earlier : holds (world.isBorrowerBlocked plan.chain candidate.account).1.history =
          holds world.history := by
        refine (holds_append _ _).trans ?_
        exact List.append_nil _
      rw [same, earlier] at held
      exact passed (answered.mpr ⟨since, held, young⟩)
  next found =>
    refine cooldown.note rfl ?_
    intro candidate other
    rw [found] at other
    cases other

/-- An ineligible reason holds nobody; an eligible one is held under the request's
key, which is the subject's. -/
theorem CooldownHolds.deadLetter (cooldown : CooldownHolds cooldownMs world)
    (gate : config.liquidationGate = true) (plan : PipelineExecutionPlan)
    (reason : DeadLetterReason)
    (together : shouldApplyBorrowerCooldown reason = true →
      requestKey plan.request = subject plan) :
    CooldownHolds cooldownMs (world.deadLetter config plan reason) := by
  have registry : (world.deadLetter config plan reason).borrowerCooldown =
      world.borrowerCooldown.recordDeadLetter world.nowMs plan.request.chain plan.request.account
        reason := by
    unfold PipelineWorld.deadLetter PipelineWorld.recordDeadLetter
    rw [if_pos gate]
    rfl
  have clock : (world.deadLetter config plan reason).nowMs = world.nowMs := by
    unfold PipelineWorld.deadLetter PipelineWorld.recordDeadLetter
    rw [if_pos gate]
    rfl
  have history : (world.deadLetter config plan reason).history =
      world.history ++ [.deadLettered plan reason world.nowMs] := by
    unfold PipelineWorld.deadLetter PipelineWorld.recordDeadLetter
    rw [if_pos gate]
    rfl
  have setting : (world.deadLetter config plan reason).borrowerCooldown.cooldownMs = cooldownMs := by
    rw [registry, BorrowerCooldownRegistry.cooldownMs_recordDeadLetter, cooldown.setting]
  have effective : Effective cooldownMs (world.deadLetter config plan reason).history := by
    rw [history]
    exact (Prefixes.eachStep_snoc _ _ _).mpr ⟨cooldown.effective, trivial⟩
  cases eligible : shouldApplyBorrowerCooldown reason with
  | false =>
    have same : holds (world.deadLetter config plan reason).history = holds world.history := by
      rw [history, holds_append]
      simp [holds, eligible]
    refine ⟨setting, ?_, ?_, effective⟩
    · rw [registry, same, clock, BorrowerCooldownRegistry.recordDeadLetter, eligible]
      exact cooldown.reflects
    · rw [same, clock]
      exact cooldown.past
  | true =>
    have held : holds (world.deadLetter config plan reason).history =
        holds world.history ++ [(subject plan, world.nowMs)] := by
      rw [history, holds_append]
      simp [holds, eligible]
    have deadlines : (world.deadLetter config plan reason).borrowerCooldown.blockedUntilMs =
        Expiry.hold world.borrowerCooldown.blockedUntilMs cooldownMs world.nowMs (subject plan) := by
      rw [registry, BorrowerCooldownRegistry.recordDeadLetter, if_pos eligible,
        ← together eligible, ← cooldown.setting]
      rfl
    refine ⟨setting, ?_, ?_, effective⟩
    · rw [deadlines, held, clock]
      exact cooldown.reflects.hold cooldown.past (subject plan)
    · rw [held, clock]
      intro entry member
      rcases List.mem_append.mp member with earlier | last
      · exact cooldown.past entry earlier
      · rw [List.mem_singleton.mp last]

/-- The opportunities whose request could not be built hold nobody. -/
theorem CooldownHolds.deadLetterOpportunity (cooldown : CooldownHolds cooldownMs world)
    (chain : SupportedChain) (opportunity : Opportunity) :
    CooldownHolds cooldownMs (world.deadLetterOpportunity config chain opportunity) := by
  cases opportunity with
  | arbitrage opportunity => exact cooldown.congr rfl rfl rfl
  | liquidation candidate =>
    have same : world.recordDeadLetter config chain candidate.account .request_builder_exception =
        world := by
      unfold PipelineWorld.recordDeadLetter
      split
      · rfl
      · rfl
    unfold PipelineWorld.deadLetterOpportunity
    dsimp only
    rw [same]
    exact cooldown.congr rfl rfl rfl

/-- Every call keeps the invariant that keeps wallet and borrower together. -/
theorem CooldownHolds.serve (cooldown : CooldownHolds cooldownMs world)
    (gate : config.liquidationGate = true) {oracle : PipelineOracle} {after : PipelineWorld}
    {op : PipelineOp} {answer : op.Answer} {phase there : CyclePhase}
    (served : PipelineWorld.serve config oracle world op = some (after, answer))
    (stepped : cyclePhase config phase op answer = some there)
    (together : keepsTogether config (world.elapse oracle) op = true) :
    CooldownHolds cooldownMs after := by
  have elapsed := cooldown.elapse oracle
  cases cyclePhase_cases stepped with
  | started plan wellBuilt =>
    rw [← (serve_memory_eq_some served).1]
    exact elapsed.beginExecution gate plan
  | skipped plan wellBuilt =>
    rw [← (serve_memory_eq_some served).1]
    exact elapsed.beginExecution gate plan
  | settled plan sent result wellBuilt =>
    rw [← (serve_memory_eq_some served).1]
    dsimp only [serveMemory]
    unfold PipelineWorld.settleExecution
    split
    next => exact elapsed
    next reason found =>
      refine elapsed.deadLetter gate plan reason ?_
      intro eligible
      simp only [keepsTogether, coolsDown, found, Option.any_some, eligible, Bool.not_true,
        Bool.false_or] at together
      exact requestKey_of_ofWallet wellBuilt together
  | executed plan sent op answer wellBuilt concerned =>
    rcases serve_executor_eq_some served with ⟨request, rfl, rfl⟩ | ⟨nonces, rfl⟩
    · have alike : blocksAt (world.elapse oracle) (borrowerKey request.chain request.account) =
          blocksAt (world.elapse oracle) (subject plan) := eq_of_beq together
      have kept := (elapsed.checkFor alike).1
      unfold PipelineWorld.rejectBeforePreview
      dsimp only
      split
      · exact kept
      · split
        · exact kept
        · exact kept
    · exact elapsed.congr rfl rfl rfl
  | quiet op answer apart =>
    cases op with
    | executor plan op => cases apart
    | ask op =>
      rw [← (serve_ask_eq_some served).1]
      exact elapsed
    | memory op =>
      rw [← (serve_memory_eq_some served).1]
      cases op with
      | beginExecution plan => cases apart
      | settleExecution plan result => cases apart
      | isBorrowerBlocked chain account => exact (elapsed.isBorrowerBlocked chain account).1
      | deadLetterOpportunity chain opportunity =>
        exact elapsed.deadLetterOpportunity chain opportunity
      | _ => exact elapsed.congr rfl rfl rfl

end Invariant

/-- In every run whose turns keep wallet and borrower together, a borrower is
refused exactly while an eligible dead letter of its own is younger than the
cooldown, and none of its liquidations is attempted in that time. -/
theorem cooldown_effective (purity : EventPurityConfig) (config : PipelineOrchestratorConfig)
    (gate : config.liquidationGate = true) (nowMs maxStaleMs : Int) (setting : Option Int)
    (acceptedBefore : Nat) (pool : CyclePool)
    (run : Pool.Run (serve config)
      (fun pool act => Triggers purity config act ∧ turnKeepsTogether config pool act = true)
      (Pool.initial (start nowMs maxStaleMs setting acceptedBefore)) pool) :
    Effective (clampBorrowerCooldownMs (setting.getD defaultCooldownMs)) pool.shared.history := by
  have held : ∃ phases, Pool.Tracks (cyclePhase config) Between .between pool phases ∧
      CooldownHolds (clampBorrowerCooldownMs (setting.getD defaultCooldownMs)) pool.shared := by
    apply run.invariant (fun pool _ =>
      CooldownHolds (clampBorrowerCooldownMs (setting.getD defaultCooldownMs)) pool.shared)
    · exact ⟨[], .nil, cooldownHolds_start nowMs maxStaleMs setting acceptedBefore⟩
    · rintro before phases program _ cooldown ⟨⟨trigger, rfl⟩, _⟩
      exact ⟨trigger_conforms purity config trigger, cooldown⟩
    · intro before phases index oracle op resume log shared answer phase after _ cooldown
        ⟨_, together⟩ found served _ stepped _
      refine cooldown.serve gate served stepped ?_
      simpa [turnKeepsTogether, found, pendingCall] using together
  obtain ⟨_, _, cooldown⟩ := held
  exact cooldown.effective

/-! ## Borrower one, whose simulation throws -/

def simulationThrows : PipelineOracle :=
  { calm with
    executor := NonceWorld.failing (fun op => match op with
      | .simulateContract _ _ => true
      | _ => false) }

def deliversBorrowerOne : PipelineOracle := { calm with deliveries := [snapshotAtRisk ⟨1, 0⟩] }

/-- A round of the loop fails to liquidate borrower one, and the next one follows
at once. -/
def retrySchedule (config : PipelineOrchestratorConfig) (again : Nat) : List CycleAct :=
  [.start (CycleTrigger.pollingRound.program liveTx config), .run 0 deliversBorrowerOne] ++
    turns 0 32 simulationThrows ++
    [.start (CycleTrigger.pollingRound.program liveTx config)] ++ turns 1 again calm

theorem triggers_retrySchedule {config : PipelineOrchestratorConfig} {again : Nat} :
    ∀ act ∈ retrySchedule config again, Triggers liveTx config act := by
  intro act member
  simp only [retrySchedule, List.mem_append, List.mem_cons, List.not_mem_nil, or_false] at member
  rcases member with (((rfl | rfl) | turn) | rfl) | turn
  · exact ⟨.pollingRound, rfl⟩
  · trivial
  · exact triggers_turns turn
  · exact ⟨.pollingRound, rfl⟩
  · exact triggers_turns turn

/-- Wallet one is borrower one. -/
def ownPool : CyclePool :=
  (Pool.execute (serve (baseConfig ⟨1, 0⟩)) (turnKeepsTogether (baseConfig ⟨1, 0⟩))
    (Pool.initial (start 0 60000 none 5)) (retrySchedule (baseConfig ⟨1, 0⟩) 12)).get
      (by decide +kernel)

/-- The wallet's own position is put on hold, and refused in the next round. -/
theorem cooldown_effective_own :
    Effective (clampBorrowerCooldownMs ((none : Option Int).getD defaultCooldownMs))
        ownPool.shared.history ∧
      PipelineRecord.checked (borrowerKey .base ⟨1, 0⟩) true 0 ∈ ownPool.shared.history := by
  constructor
  · exact cooldown_effective liveTx (baseConfig ⟨1, 0⟩) rfl 0 60000 none 5 ownPool
      (Pool.run_of_execute .refl
        (fun act member _ passed => ⟨triggers_retrySchedule act member, passed⟩)
        (Option.some_get _).symm)
  · decide +kernel

/-- Wallet nine liquidates for borrower one. -/
def retryPool : CyclePool :=
  (Pool.execute (serve (baseConfig ⟨9, 0⟩)) (fun _ _ => true)
    (Pool.initial (start 0 60000 none 5)) (retrySchedule (baseConfig ⟨9, 0⟩) 16)).get
      (by decide +kernel)

/-- The plan of both rounds. -/
def planForNine : PipelineExecutionPlan where
  chain := .base
  opportunity := .liquidation ⟨⟨1, 0⟩, ⟨2, 0⟩, ⟨3, 0⟩, 1000000000, 1000, 500, 900000000000000000⟩
  request := {
    chain := .base
    account := ⟨9, 0⟩
    opportunityId := .liquidation .base ⟨1, 0⟩ ⟨3, 0⟩
    gasProfileKey := .liq ⟨2, 0⟩ ⟨3, 0⟩
    routeInputChain := .base
    gasLimitHint := some ⟨⟨2, 0⟩, ⟨3, 0⟩, true⟩
    buildsFlashLoanPreview := true }

theorem retryPool_history :
    retryPool.shared.history = retryPool.shared.history.take 9 ++ [.attempted planForNine 0] := by
  decide +kernel

/-- The next round attempts the borrower again at once, and it is the wallet that
is on hold. -/
theorem borrower_attempted_on_hold :
    Pool.Run (serve (baseConfig ⟨9, 0⟩)) (fun _ act => Triggers liveTx (baseConfig ⟨9, 0⟩) act)
        (Pool.initial (start 0 60000 none 5)) retryPool ∧
      blocksAt retryPool.shared (borrowerKey .base ⟨1, 0⟩) = false ∧
      blocksAt retryPool.shared (borrowerKey .base ⟨9, 0⟩) = true ∧
      ¬ Effective (clampBorrowerCooldownMs ((none : Option Int).getD defaultCooldownMs))
        retryPool.shared.history := by
  refine ⟨?_, ?_, ?_, ?_⟩
  · exact Pool.run_of_execute .refl (fun act member _ _ => triggers_retrySchedule act member)
      (Option.some_get _).symm
  · decide +kernel
  · decide +kernel
  · intro effective
    have last : retryPool.shared.history.take 9 ++ [.attempted planForNine 0] <+:
        retryPool.shared.history :=
      ⟨[], (List.append_nil _).trans retryPool_history.symm⟩
    have held : (borrowerKey .base ⟨1, 0⟩, 0) ∈ holds (retryPool.shared.history.take 9) := by
      decide +kernel
    exact effective _ _ last _ rfl ⟨0, held, by decide⟩

end PipelineOrchestrator

end LiquidationBot
