import LiquidationBot.NonceWorld

/-!
# A nonce that is not sent comes back

An execution that ends without a send has either released the nonce it reserved,
and the next reservation of the account gets it, or a call between its preflight
and its submission has thrown, and the nonce stays active for good.
-/

namespace LiquidationBot

namespace LocalNonceManager

/-- The nonce is marked as handed out in the account's object. -/
def Active (manager : LocalNonceManager) (key : NonceKey) (nonce : Nat) : Prop :=
  ∃ state, manager.current key = some state ∧ nonce ∈ state.active

instance (manager : LocalNonceManager) (key : NonceKey) (nonce : Nat) :
    Decidable (manager.Active key nonce) :=
  match here : manager.current key with
  | none => .isFalse (by
      rintro ⟨state, current, _⟩
      rw [here] at current
      cases current)
  | some state =>
      if active : nonce ∈ state.active then .isTrue ⟨state, here, active⟩
      else .isFalse (by
        rintro ⟨other, current, stillActive⟩
        rw [here] at current
        cases current
        exact active stillActive)

/-- What the next reservation of the account gets. -/
def nextReserved (manager : LocalNonceManager) (key : NonceKey) : Option Nat :=
  match (manager.lookup key).1.takeFrom (manager.lookup key).2.1 with
  | some (_, .ok nonce) => some nonce
  | _ => none

/-- The account's object with its place in memory. -/
def Holds (manager : LocalNonceManager) (key : NonceKey) (state : NonceState) : Prop :=
  state.rejected = none ∧
    ∃ ref, manager.states.get? key = some ref ∧ manager.objects[ref]? = some state

theorem Holds.current_eq {manager : LocalNonceManager} {key : NonceKey} {state : NonceState}
    (holds : manager.Holds key state) : manager.current key = some state := by
  obtain ⟨_, ref, found, stored⟩ := holds
  rw [current, found]
  exact stored

/-- An object overwritten in place is still the account's. -/
theorem Holds.set {manager : LocalNonceManager} {key : NonceKey} {state after : NonceState}
    {ref : Nat} (found : manager.states.get? key = some ref)
    (stored : manager.objects[ref]? = some state) (ready : after.rejected = none) :
    (manager.setObject ref after).Holds key after :=
  ⟨ready, ref, found, object_set stored⟩

theorem Holds.nextReserved_eq {manager : LocalNonceManager} {key : NonceKey}
    {state after : NonceState} {nonce : Nat} (holds : manager.Holds key state)
    (taken : state.take = some (after, nonce)) : manager.nextReserved key = some nonce := by
  obtain ⟨ready, ref, found, stored⟩ := holds
  simp only [nextReserved, lookup, found, takeFrom, stored, ready, taken, Option.map_some]

end LocalNonceManager

namespace SafeTransactionExecutor

open NonceWorld

/-- What the manager holds for an execution in each phase. -/
def Kept (key : NonceKey) (manager : LocalNonceManager) : NoncePhase → Prop
  | .creating ref => manager.states.get? key = some ref
  | .waiting ref => manager.Awaited key ref
  | .holding nonce => ∃ state, manager.Holds key state ∧ nonce ∈ state.active ∧
      ∀ other ∈ state.released, nonce < other
  | .abandoned nonce => manager.Active key nonce
  | .released nonce => ¬ manager.Active key nonce ∧ manager.nextReserved key = some nonce
  | _ => True

theorem kept_lookup {key : NonceKey} {manager after : LocalNonceManager} {ref : Nat}
    {created : Bool} (looked : manager.lookup key = (after, ref, created)) :
    after.states.get? key = some ref := by
  rcases LocalNonceManager.lookup_cases looked with ⟨_, rfl, found⟩ | ⟨_, rfl, rfl, _⟩
  · exact found
  · exact manager.get?_install key .unread

/-- A reservation from an object in use gets a nonce that no smaller released one
could have come before. -/
theorem kept_taken {key : NonceKey} {manager after : LocalNonceManager} {ref nonce : Nat}
    (waiting : Kept key manager (.waiting ref))
    (taken : manager.takeFrom ref = some (after, .ok nonce)) :
    Kept key after (.holding nonce) := by
  obtain ⟨state, next, found, stored, ready, took, rfl⟩ :=
    LocalNonceManager.Awaited.taken waiting taken
  obtain ⟨_, active, smallest, _, rejected, _⟩ := NonceState.take_spec took
  refine ⟨next, LocalNonceManager.Holds.set found stored (rejected.trans ready), ?_, smallest⟩
  rw [active]
  exact Finset.mem_insert_self _ state.active

/-- Releasing the nonce of a reservation makes it the next one handed out. -/
theorem kept_released {key : NonceKey} {manager : LocalNonceManager} {nonce : Nat}
    (holding : Kept key manager (.holding nonce)) :
    Kept key (manager.release key nonce) (.released nonce) := by
  obtain ⟨state, ⟨ready, ref, found, stored⟩, active, smallest⟩ := holding
  have here : (manager.release key nonce).Holds key (state.giveBack nonce) := by
    rw [LocalNonceManager.release_eq found stored]
    exact LocalNonceManager.Holds.set found stored ((state.rejected_giveBack nonce).trans ready)
  obtain ⟨after, taken⟩ := NonceState.take_giveBack active smallest
  refine ⟨?_, here.nextReserved_eq taken⟩
  rintro ⟨other, current, stillActive⟩
  rw [here.current_eq] at current
  cases current
  rw [NonceState.active_giveBack] at stillActive
  exact Finset.notMem_erase nonce state.active stillActive

/-- Every answered call keeps what the manager holds. -/
theorem kept_step {key : NonceKey} {oracle : ExecutorOracle} {before after : NonceWorld}
    {op : ExecutorOp} {answer : op.Answer} {phase there : NoncePhase}
    (kept : Kept key before.manager phase)
    (served : serve oracle before op = some (after, answer))
    (stepped : noncePhase key phase op answer = some there) : Kept key after.manager there := by
  cases noncePhase_cases stepped with
  | memory _ op answer apart =>
    rw [serveMemory_neutral apart (serve_memory_eq_some served)]
    exact kept
  | looked ref =>
    exact Or.inl (kept_lookup (Option.some.inj (serve_memory_eq_some served)))
  | created ref => exact kept_lookup (Option.some.inj (serve_memory_eq_some served))
  | initialized ref read answer =>
    have same : before.manager.initialized key ref read = after.manager :=
      congrArg Prod.fst (Option.some.inj (serve_memory_eq_some served))
    rw [← same]
    exact LocalNonceManager.awaited_initialized kept read
  | taken ref nonce => exact kept_taken kept (serve_memory_eq_some served)
  | refused ref error => trivial
  | released nonce answer =>
    have same : before.manager.release key nonce = after.manager :=
      congrArg Prod.fst (Option.some.inj (serve_memory_eq_some served))
    rw [← same]
    exact kept_released kept
  | resynced nonce nextNonce answer => trivial
  | asked _ op answer prepared sent =>
    rw [manager_serve_ask served]
    exact kept
  | prepared nonce op value preparing =>
    rw [manager_serve_ask served]
    exact kept
  | threw nonce op error preparing =>
    rw [manager_serve_ask served]
    obtain ⟨state, holds, active, _⟩ := kept
    exact ⟨state, holds.current_eq, active⟩
  | sent => trivial

/-- The nonce is no longer active, and the next reservation gets it. -/
def Conserved (manager : LocalNonceManager) (key : NonceKey) (nonce : Nat) : Prop :=
  ¬ manager.Active key nonce ∧ manager.nextReserved key = some nonce

/-- An execution that ends without a send conserves the nonce it reserved if and
only if no call that prepares the transaction has thrown. -/
theorem nonce_conserved_iff (config : SafeTransactionExecutorConfig)
    (request : SafeExecutionRequest) (before after : NonceWorld) (events : List ExecutorEvent)
    (result : Except Thrown SafeExecutionResult)
    (run : Alone serve before (execute config request) events result after)
    (unsent : ∀ event ∈ events, sentNonce event = none) (nonce : Nat)
    (reserved : ∃ event ∈ events, reservedNonce event = some nonce) :
    Conserved after.manager (keyOf request) nonce ↔
      ∀ event ∈ events, preparationThrew event = false := by
  obtain ⟨final, replayed, ended, kept⟩ := run.outcome
    (fun world phase => Kept (keyOf request) world.manager phase) (execute_conforms config request)
    trivial (fun _ _ _ _ _ _ _ kept served stepped => kept_step kept served stepped)
  have records := records_replay events replayed
  have own : final.reserved? = some nonce := (records.reserved nonce).mp reserved
  have notSent : ∀ other, final.sent? ≠ some other := by
    intro other sent
    obtain ⟨event, member, handed⟩ := (records.sent other).mpr sent
    rw [unsent event member] at handed
    cases handed
  have threw : (∀ event ∈ events, preparationThrew event = false) ↔ final.isAbandoned = false := by
    rw [← Bool.not_eq_true, ← records.threw]
    simp only [not_exists, not_and, Bool.not_eq_true]
  rw [threw]
  rcases ended with rfl | rfl | ⟨released, rfl⟩ | ⟨sent, rfl | rfl⟩ | ⟨abandoned, error, rfl, _⟩
  · cases own
  · cases own
  · cases own
    exact iff_of_true kept rfl
  · exact absurd rfl (notSent sent)
  · exact absurd rfl (notSent sent)
  · cases own
    exact iff_of_false (fun conserved => conserved.1 kept) Bool.true_eq_false_eq_False

/-- A dry run at a node that has accepted five transactions. -/
def dryRun : AloneRun NonceWorld ExecutorOp ExecutorOp.Answer Thrown SafeExecutionResult :=
  (runAlone serve (List.replicate 20 willing) (start 5)
    (execute (plainConfig true) plainRequest)).get (by decide +kernel)

theorem dryRun_alone : Alone serve (start 5) (execute (plainConfig true) plainRequest)
    dryRun.events dryRun.result dryRun.after :=
  alone_of_runAlone (Option.some_get _).symm

/-- The equivalence at that dry run. -/
theorem nonce_conserved_iff_dry_run :
    Conserved dryRun.after.manager (keyOf plainRequest) 5 ↔
      ∀ event ∈ dryRun.events, preparationThrew event = false := by
  apply nonce_conserved_iff (plainConfig true) plainRequest (start 5) dryRun.after dryRun.events
    dryRun.result dryRun_alone
  · decide +kernel
  · decide +kernel

/-- An execution whose final simulation throws. -/
def simulationThrows :
    AloneRun NonceWorld ExecutorOp ExecutorOp.Answer Thrown SafeExecutionResult :=
  (runAlone serve (List.replicate 20 (failing (fun op => match op with
    | .simulateContract _ _ => true
    | _ => false))) (start 5) (execute (plainConfig false) plainRequest)).get (by decide +kernel)

/-- It has reserved nonce five, sends nothing, and leaves five active: the next
reservation gets six. -/
theorem nonce_lost_by_simulation :
    Alone serve (start 5) (execute (plainConfig false) plainRequest) simulationThrows.events
        simulationThrows.result simulationThrows.after ∧
      (∀ event ∈ simulationThrows.events, sentNonce event = none) ∧
      (∃ event ∈ simulationThrows.events, reservedNonce event = some 5) ∧
      simulationThrows.after.manager.Active (keyOf plainRequest) 5 ∧
      simulationThrows.after.manager.nextReserved (keyOf plainRequest) = some 6 := by
  refine ⟨alone_of_runAlone (Option.some_get _).symm, ?_, ?_, ?_, ?_⟩
  · decide +kernel
  · decide +kernel
  · decide +kernel
  · decide +kernel

end SafeTransactionExecutor

end LiquidationBot
