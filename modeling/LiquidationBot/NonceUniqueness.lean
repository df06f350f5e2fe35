import LiquidationBot.Library.Apart
import LiquidationBot.NonceWorld

/-!
# Which nonces two executions share

Executions of one account take turns around one manager. A resynchronisation
replaces the manager's object and forgets who holds what; nonces stay apart
exactly as long as it forgets nothing above its new start. In every run whose
resynchronisations start above all other executions' nonces and meet no
reservation half way, no two executions share a nonce.

The invariant ties the phases of the executions to the manager's object: every
nonce in use is active there, or lies below everything the object can still hand
out.
-/

namespace LiquidationBot

namespace NoncePhase

/-- The nonce an execution holds, or has handed to a send and not given up. -/
def live? : NoncePhase → Option Nat
  | .holding nonce => some nonce
  | .sending nonce => some nonce
  | _ => none

/-- A reservation is half way. -/
def reserving : NoncePhase → Bool
  | .creating _ => true
  | .waiting _ => true
  | _ => false

def isCreating : NoncePhase → Bool
  | .creating _ => true
  | _ => false

end NoncePhase

namespace NonceState

/-- The nonce lies below all that the object has handed out or can hand out. -/
def Above (state : NonceState) (nonce : Nat) : Prop :=
  (∀ other, other ∈ state.released ∨ other ∈ state.active → nonce < other) ∧
    ∀ next, state.nextNonce = some next → nonce < next

/-- An object in use: some nonce has been read, and the nonce is accounted for. -/
def Covers (state : NonceState) (nonce : Nat) : Prop :=
  state.nextNonce ≠ none ∧ (nonce ∈ state.active ∨ state.Above nonce)

theorem known_of_active {state : NonceState} {nonce : Nat} (active : nonce ∈ state.active) :
    state.nextNonce ≠ none := by
  obtain ⟨next, known, _⟩ := state.below nonce (Or.inr active)
  simp [known]

/-- A nonce taken differs from every nonce accounted for. -/
theorem Covers.ne_taken {state after : NonceState} {nonce taken : Nat} (covers : state.Covers nonce)
    (took : state.take = some (after, taken)) : nonce ≠ taken := by
  obtain ⟨fresh, _, _, origin, _⟩ := take_spec took
  obtain ⟨_, active | ⟨handed, next⟩⟩ := covers
  · rintro rfl
    exact fresh active
  · rcases origin with released | known
    · exact (handed taken (Or.inl released)).ne
    · exact (next taken known).ne

/-- The object accounts for the nonce just taken. -/
theorem covers_taken {state after : NonceState} {taken : Nat}
    (took : state.take = some (after, taken)) : after.Covers taken := by
  obtain ⟨_, active, _⟩ := take_spec took
  have member : taken ∈ after.active := by
    rw [active]
    exact Finset.mem_insert_self taken state.active
  exact ⟨known_of_active member, Or.inl member⟩

/-- Taking another nonce leaves a nonce accounted for. -/
theorem Covers.take {state after : NonceState} {nonce taken : Nat} (covers : state.Covers nonce)
    (took : state.take = some (after, taken)) : after.Covers nonce := by
  obtain ⟨_, active, _, origin, _, kept, grows⟩ := take_spec took
  refine ⟨(covers_taken took).1, ?_⟩
  obtain ⟨_, held | ⟨handed, next⟩⟩ := covers
  · left
    rw [active]
    exact Finset.mem_insert_of_mem held
  · right
    constructor
    · rintro other (released | held)
      · exact handed other (Or.inl (kept other released))
      · rw [active, Finset.mem_insert] at held
        rcases held with rfl | earlier
        · rcases origin with released | known
          · exact handed other (Or.inl released)
          · exact next other known
        · exact handed other (Or.inr earlier)
    · intro later known
      obtain ⟨before, unchanged, smaller⟩ := grows later known
      have := next before unchanged
      omega

/-- Giving another nonce back leaves a nonce accounted for. -/
theorem Covers.giveBack {state : NonceState} {nonce other : Nat} (covers : state.Covers nonce)
    (different : nonce ≠ other) : (state.giveBack other).Covers nonce := by
  obtain ⟨known, active | ⟨handed, next⟩⟩ := covers
  · refine ⟨by simpa using known, Or.inl ?_⟩
    rw [active_giveBack]
    exact Finset.mem_erase.mpr ⟨different, active⟩
  · refine ⟨by simpa using known, Or.inr ⟨?_, by simpa using next⟩⟩
    intro tested member
    rw [mem_released_giveBack, active_giveBack, Finset.mem_erase] at member
    apply handed
    rcases member with (earlier | ⟨active, rfl⟩) | ⟨_, active⟩
    · exact Or.inl earlier
    · exact Or.inr active
    · exact Or.inr active

/-- A new object accounts for every nonce below its start. -/
theorem covers_startingAt {nonce start : Nat} (below : nonce < start) :
    (startingAt start).Covers nonce := by
  refine ⟨by simp [startingAt], Or.inr ⟨by simp [startingAt], ?_⟩⟩
  intro next known
  cases known
  exact below

end NonceState

namespace LocalNonceManager

/-- The account's object accounts for the nonce. -/
def Accounts (manager : LocalNonceManager) (key : NonceKey) (nonce : Nat) : Prop :=
  ∃ ref state, manager.states.get? key = some ref ∧ manager.objects[ref]? = some state ∧
    state.Covers nonce

/-- An account without an object, or with one whose first nonce is not read yet,
accounts for nothing. -/
theorem not_accounts_unread {manager : LocalNonceManager} {key : NonceKey} {ref nonce : Nat}
    (found : manager.states.get? key = some ref) (unread : manager.objects[ref]? = some .unread) :
    ¬ manager.Accounts key nonce := by
  rintro ⟨other, state, foundOther, stored, known, _⟩
  rw [found] at foundOther
  cases foundOther
  rw [unread] at stored
  cases stored
  exact known rfl

theorem Rejected.install {manager : LocalNonceManager} {key : NonceKey} {fresh : NonceState}
    {ref : Nat} (rejected : manager.Rejected ref) : (manager.install key fresh).Rejected ref := by
  obtain ⟨state, error, stored, failed⟩ := rejected
  exact ⟨state, error, object_install stored, failed⟩

/-- Overwriting an object that has not failed leaves the failed ones. -/
theorem Rejected.set {manager : LocalNonceManager} {ref other : Nat} {state after : NonceState}
    (rejected : manager.Rejected other) (stored : manager.objects[ref]? = some state)
    (ready : state.rejected = none) : (manager.setObject ref after).Rejected other := by
  obtain ⟨failing, error, storedOther, failed⟩ := rejected
  have different : other ≠ ref := by
    rintro rfl
    rw [stored] at storedOther
    cases storedOther
    rw [ready] at failed
    cases failed
  exact ⟨failing, error, (object_set_ne different).trans storedOther, failed⟩

end LocalNonceManager

namespace SafeTransactionExecutor

open NonceWorld

/-- What one execution relies on in the manager. -/
def Supported (key : NonceKey) (manager : LocalNonceManager) : NoncePhase → Prop
  | .creating ref => manager.states.get? key = some ref ∧ manager.objects[ref]? = some .unread
  | .waiting ref => manager.Awaited key ref
  | .holding nonce => manager.Accounts key nonce
  | .sending nonce => manager.Accounts key nonce
  | _ => True

/-- What two executions must not share. -/
structure Compatible (here there : NoncePhase) : Prop where
  nonces : ∀ nonce, here.live? = some nonce → there.live? ≠ some nonce
  creators : here.isCreating = true → there.isCreating = false

theorem Compatible.symm {here there : NoncePhase} (compatible : Compatible here there) :
    Compatible there here where
  nonces := fun nonce live other => compatible.nonces nonce other live
  creators := fun creating => by
    by_contra other
    rw [compatible.creators (Bool.eq_true_of_not_eq_false other)] at creating
    cases creating

/-- An execution that gives nothing up or away stays compatible. -/
theorem Compatible.of_settled {here after there : NoncePhase} (compatible : Compatible here there)
    (nonces : ∀ nonce, after.live? = some nonce → here.live? = some nonce)
    (creators : after.isCreating = true → here.isCreating = true) : Compatible after there where
  nonces := fun nonce live => compatible.nonces nonce (nonces nonce live)
  creators := fun creating => compatible.creators (creators creating)

/-- The invariant of executions around one manager. -/
structure Consistent (key : NonceKey) (manager : LocalNonceManager) (phases : List NoncePhase) :
    Prop where
  supported : ∀ (index : Nat) phase, phases[index]? = some phase → Supported key manager phase
  compatible : ∀ (index other : Nat) here there, index ≠ other → phases[index]? = some here →
    phases[other]? = some there → Compatible here there

section Steps

variable {key : NonceKey} {manager after : LocalNonceManager} {phases : List NoncePhase}

theorem consistent_nil : Consistent key manager [] where
  supported := by simp
  compatible := by simp

/-- One execution moves; what every other one relies on must survive. -/
theorem Consistent.moved (consistent : Consistent key manager phases) {index : Nat}
    {here there : NoncePhase} (located : phases[index]? = some here)
    (own : Supported key after there)
    (others : ∀ (other : Nat) phase, other ≠ index → phases[other]? = some phase →
      Supported key manager phase → Compatible here phase →
      Supported key after phase ∧ Compatible there phase) :
    Consistent key after (phases.set index there) := by
  have kept : ∀ (other : Nat) phase, other ≠ index → phases[other]? = some phase →
      Supported key after phase ∧ Compatible there phase := fun other phase different found =>
    others other phase different found (consistent.supported other phase found)
      (consistent.compatible index other here phase different.symm located found)
  constructor
  · intro tested phase found
    rcases getElem?_set_cases found with ⟨rfl, rfl⟩ | ⟨different, earlier⟩
    · exact own
    · exact (kept tested phase different earlier).1
  · apply Apart.set consistent.compatible
    intro tested phase different found
    have compatible := (kept tested phase different found).2
    exact ⟨compatible, compatible.symm⟩

/-- A call that leaves the manager alone, and gives its execution nothing new. -/
theorem Consistent.settled (consistent : Consistent key manager phases) {index : Nat}
    {here there : NoncePhase} (located : phases[index]? = some here)
    (own : Supported key manager here → Supported key manager there)
    (nonces : ∀ nonce, there.live? = some nonce → here.live? = some nonce)
    (creators : there.isCreating = true → here.isCreating = true) :
    Consistent key manager (phases.set index there) := by
  apply consistent.moved located (own (consistent.supported index here located))
  intro other phase _ _ supported compatible
  exact ⟨supported, compatible.of_settled nonces creators⟩

theorem Consistent.started (consistent : Consistent key manager phases) :
    Consistent key manager (phases ++ [.idle]) := by
  have idle : ∀ phase, Compatible .idle phase := fun phase => ⟨nofun, nofun⟩
  constructor
  · intro index phase found
    rcases getElem?_snoc_cases found with earlier | ⟨_, rfl⟩
    · exact consistent.supported index phase earlier
    · trivial
  · apply Apart.snoc consistent.compatible
    intro index phase _
    exact ⟨idle phase, (idle phase).symm⟩

/-- A new object for an account without one: nothing is held there yet. -/
theorem Consistent.created (consistent : Consistent key manager phases) {index : Nat}
    (located : phases[index]? = some .idle) (absent : manager.states.get? key = none) :
    Consistent key (manager.install key .unread)
      (phases.set index (.creating manager.objects.length)) := by
  have accountless : ∀ nonce, ¬ manager.Accounts key nonce := by
    rintro nonce ⟨ref, _, found, _⟩
    rw [absent] at found
    cases found
  have own : Supported key (manager.install key .unread) (.creating manager.objects.length) :=
    ⟨manager.get?_install key _, manager.object_installed key _⟩
  apply consistent.moved located own
  intro other phase _ _ supported _
  cases phase with
  | creating ref =>
    have found := supported.1
    rw [absent] at found
    cases found
  | waiting ref =>
    rcases supported with found | rejected
    · rw [absent] at found
      cases found
    · exact ⟨Or.inr rejected.install, nofun, fun _ => rfl⟩
  | holding nonce => exact absurd supported (accountless nonce)
  | sending nonce => exact absurd supported (accountless nonce)
  | _ => exact ⟨trivial, nofun, fun _ => rfl⟩

/-- The creating read's end: still nothing is held there. -/
theorem Consistent.initialized (consistent : Consistent key manager phases) {index ref : Nat}
    (located : phases[index]? = some (.creating ref)) (read : Except Thrown Nat) :
    Consistent key (manager.initialized key ref read) (phases.set index (.waiting ref)) := by
  obtain ⟨found, unread⟩ := consistent.supported index _ located
  have awaited : Supported key (manager.initialized key ref read) (.waiting ref) :=
    LocalNonceManager.awaited_initialized found read
  apply consistent.moved located awaited
  intro other phase _ _ supported compatible
  have compatibleWaiting : Compatible (.waiting ref) phase := ⟨nofun, nofun⟩
  cases phase with
  | creating other => cases compatible.creators rfl
  | waiting other =>
    refine ⟨?_, compatibleWaiting⟩
    rcases supported with foundOther | rejected
    · rw [found] at foundOther
      cases foundOther
      exact awaited
    · right
      cases read with
      | ok nextNonce => exact rejected.set unread rfl
      | error error => exact rejected.set unread rfl
  | holding nonce => exact absurd supported (LocalNonceManager.not_accounts_unread found unread)
  | sending nonce => exact absurd supported (LocalNonceManager.not_accounts_unread found unread)
  | _ => exact ⟨trivial, compatibleWaiting⟩

/-- A nonce taken is nobody else's. -/
theorem Consistent.taken (consistent : Consistent key manager phases) {index ref nonce : Nat}
    (located : phases[index]? = some (.waiting ref))
    (answered : manager.takeFrom ref = some (after, .ok nonce)) :
    Consistent key after (phases.set index (.holding nonce)) := by
  obtain ⟨state, next, found, stored, ready, took, rfl⟩ :=
    LocalNonceManager.Awaited.taken (consistent.supported index _ located) answered
  have replaced : (manager.setObject ref next).objects[ref]? = some next :=
    LocalNonceManager.object_set stored
  have own : Supported key (manager.setObject ref next) (.holding nonce) :=
    ⟨ref, next, found, replaced, NonceState.covers_taken took⟩
  apply consistent.moved located own
  have kept : ∀ held, manager.Accounts key held →
      (manager.setObject ref next).Accounts key held ∧ held ≠ nonce := by
    rintro held ⟨other, current, foundOther, storedOther, covers⟩
    rw [found] at foundOther
    cases foundOther
    rw [stored] at storedOther
    cases storedOther
    exact ⟨⟨ref, next, found, replaced, covers.take took⟩, covers.ne_taken took⟩
  intro other phase _ _ supported _
  cases phase with
  | creating other =>
    obtain ⟨foundOther, unread⟩ := supported
    rw [found] at foundOther
    cases foundOther
    rw [stored] at unread
    cases unread
    have nothing := (NonceState.take_eq_none_iff .unread).mpr rfl
    rw [nothing] at took
    cases took
  | waiting other =>
    refine ⟨?_, nofun, nofun⟩
    rcases supported with foundOther | rejected
    · exact Or.inl foundOther
    · exact Or.inr (rejected.set stored ready)
  | holding held =>
    obtain ⟨accounted, different⟩ := kept held supported
    refine ⟨accounted, ?_, nofun⟩
    rintro _ ⟨⟩ ⟨⟩
    exact different rfl
  | sending held =>
    obtain ⟨accounted, different⟩ := kept held supported
    refine ⟨accounted, ?_, nofun⟩
    rintro _ ⟨⟩ ⟨⟩
    exact different rfl
  | _ => exact ⟨trivial, nofun, nofun⟩

/-- A nonce given back was nobody else's. -/
theorem Consistent.released (consistent : Consistent key manager phases) {index nonce : Nat}
    (located : phases[index]? = some (.holding nonce)) :
    Consistent key (manager.release key nonce) (phases.set index (.released nonce)) := by
  obtain ⟨ref, state, found, stored, known, _⟩ := consistent.supported index _ located
  rw [LocalNonceManager.release_eq found stored]
  have replaced : (manager.setObject ref (state.giveBack nonce)).objects[ref]? =
      some (state.giveBack nonce) := LocalNonceManager.object_set stored
  have kept : ∀ held, held ≠ nonce → manager.Accounts key held →
      (manager.setObject ref (state.giveBack nonce)).Accounts key held := by
    rintro held different ⟨other, current, foundOther, storedOther, covers⟩
    rw [found] at foundOther
    cases foundOther
    rw [stored] at storedOther
    cases storedOther
    exact ⟨ref, _, found, replaced, covers.giveBack different⟩
  have own : Supported key (manager.setObject ref (state.giveBack nonce)) (.released nonce) :=
    trivial
  apply consistent.moved located own
  intro other phase _ _ supported compatible
  refine ⟨?_, nofun, nofun⟩
  cases phase with
  | creating other =>
    obtain ⟨foundOther, unread⟩ := supported
    rw [found] at foundOther
    cases foundOther
    rw [stored] at unread
    cases unread
    exact absurd rfl known
  | waiting other =>
    rcases supported with foundOther | rejected
    · exact Or.inl foundOther
    · obtain ⟨failing, error, storedOther, failed⟩ := rejected
      by_cases same : other = ref
      · subst same
        rw [stored] at storedOther
        cases storedOther
        exact Or.inr ⟨_, error, replaced, (state.rejected_giveBack nonce).trans failed⟩
      · exact Or.inr ⟨failing, error, (LocalNonceManager.object_set_ne same).trans storedOther,
          failed⟩
  | holding held => exact kept held (fun same => compatible.nonces nonce rfl (same ▸ rfl)) supported
  | sending held => exact kept held (fun same => compatible.nonces nonce rfl (same ▸ rfl)) supported
  | _ => trivial

/-- A resynchronisation above all other executions' nonces, with no reservation
half way. -/
theorem Consistent.resynced (consistent : Consistent key manager phases) {index nonce start : Nat}
    (located : phases[index]? = some (.sending nonce))
    (settled : ∀ (other : Nat) phase, other ≠ index → phases[other]? = some phase →
      phase.reserving = false ∧ ∀ held, phase.live? = some held → held < start) :
    Consistent key (manager.resync key start) (phases.set index (.resynced nonce)) := by
  have own : Supported key (manager.resync key start) (.resynced nonce) := trivial
  apply consistent.moved located own
  intro other phase different found _ _
  obtain ⟨apart, below⟩ := settled other phase different found
  refine ⟨?_, nofun, nofun⟩
  have accounted : ∀ held, held < start → (manager.resync key start).Accounts key held :=
    fun held smaller => ⟨_, _, manager.get?_install key _, manager.object_installed key _,
      NonceState.covers_startingAt smaller⟩
  cases phase with
  | creating ref => cases apart
  | waiting ref => cases apart
  | holding held => exact accounted held (below held rfl)
  | sending held => exact accounted held (below held rfl)
  | _ => trivial

/-- Every answered call keeps the invariant, a resynchronisation under its
condition. -/
theorem consistent_step {oracle : ExecutorOracle} {before between : NonceWorld} {op : ExecutorOp}
    {answer : op.Answer} {index : Nat} {here there : NoncePhase}
    (consistent : Consistent key before.manager phases) (located : phases[index]? = some here)
    (served : serve oracle before op = some (between, answer))
    (stepped : noncePhase key here op answer = some there)
    (settled : ∀ start, op = .memory (.resync key start) → ∀ (other : Nat) phase, other ≠ index →
      phases[other]? = some phase →
      phase.reserving = false ∧ ∀ held, phase.live? = some held → held < start) :
    Consistent key between.manager (phases.set index there) := by
  cases noncePhase_cases stepped with
  | memory _ op answer apart =>
    rw [serveMemory_neutral apart (serve_memory_eq_some served)]
    exact consistent.settled located id (fun _ => id) id
  | looked ref =>
    have looked := Option.some.inj (serve_memory_eq_some served)
    rcases LocalNonceManager.lookup_cases looked with ⟨_, same, found⟩ | ⟨impossible, _⟩
    · rw [same]
      exact consistent.settled located (fun _ => Or.inl found) nofun nofun
    · cases impossible
  | created ref =>
    have looked := Option.some.inj (serve_memory_eq_some served)
    rcases LocalNonceManager.lookup_cases looked with ⟨impossible, _⟩ | ⟨_, same, rfl, absent⟩
    · cases impossible
    · rw [same]
      exact consistent.created located absent
  | initialized ref read answer =>
    have same : before.manager.initialized key ref read = between.manager :=
      congrArg Prod.fst (Option.some.inj (serve_memory_eq_some served))
    rw [← same]
    exact consistent.initialized located read
  | taken ref nonce => exact consistent.taken located (serve_memory_eq_some served)
  | refused ref error =>
    rw [LocalNonceManager.takeFrom_error (serve_memory_eq_some served)]
    exact consistent.settled located (fun _ => trivial) nofun nofun
  | released nonce answer =>
    have same : before.manager.release key nonce = between.manager :=
      congrArg Prod.fst (Option.some.inj (serve_memory_eq_some served))
    rw [← same]
    exact consistent.released located
  | resynced nonce start answer =>
    have same : before.manager.resync key start = between.manager :=
      congrArg Prod.fst (Option.some.inj (serve_memory_eq_some served))
    rw [← same]
    exact consistent.resynced located (settled start rfl)
  | asked _ op answer prepared sent =>
    rw [manager_serve_ask served]
    exact consistent.settled located id (fun _ => id) id
  | prepared nonce op value preparing =>
    rw [manager_serve_ask served]
    exact consistent.settled located id (fun _ => id) id
  | threw nonce op error preparing =>
    rw [manager_serve_ask served]
    exact consistent.settled located (fun _ => trivial) nofun nofun
  | sent _ route request transaction overrides answer submitting =>
    rw [manager_serve_ask served]
    rcases submitting with rfl | rfl
    · exact consistent.settled located id (fun _ => id) id
    · exact consistent.settled located id (fun _ => id) id

end Steps

/-! ## Runs -/

/-- An execution with the calls it has made. -/
abbrev ExecutorThread := Thread ExecutorOp ExecutorOp.Answer Thrown SafeExecutionResult

/-- Executions around one manager. -/
abbrev ExecutorPool := Pool NonceWorld ExecutorOp ExecutorOp.Answer Thrown SafeExecutionResult

abbrev ExecutorAct := Act ExecutorOracle ExecutorOp ExecutorOp.Answer Thrown SafeExecutionResult

/-- The nonce reserved by these calls, unless one of them released it, gave it up
after a failed send, or ended the execution by throwing before the submission. -/
def nonceInUse (log : List ExecutorEvent) : Option Nat :=
  if log.any (fun event => isRelease event || isResync event || preparationThrew event) then none
  else log.findSome? reservedNonce

/-- The calls end between the two halves of a reservation. -/
def halfReserved (log : List ExecutorEvent) : Bool := log.any isLookup && !log.any isTake

theorem halfReserved_eq {phase : NoncePhase} {log : List ExecutorEvent}
    (records : Records phase log) : halfReserved log = phase.reserving := by
  have looked : log.any isLookup = phase.hasLooked := by
    rw [Bool.eq_iff_iff, List.any_eq_true, records.looked]
  have took : log.any isTake = phase.hasTaken := by
    rw [Bool.eq_iff_iff, List.any_eq_true, records.took]
  rw [halfReserved, looked, took]
  cases phase <;> rfl

theorem findSome?_reservedNonce {phase : NoncePhase} {log : List ExecutorEvent}
    (records : Records phase log) : log.findSome? reservedNonce = phase.reserved? := by
  cases found : log.findSome? reservedNonce with
  | none =>
    cases reserved : phase.reserved? with
    | none => rfl
    | some nonce =>
      obtain ⟨event, member, same⟩ := (records.reserved nonce).mpr reserved
      rw [List.findSome?_eq_none_iff.mp found event member] at same
      cases same
  | some nonce =>
    exact ((records.reserved nonce).mp (List.exists_of_findSome?_eq_some found)).symm

theorem nonceInUse_eq {phase : NoncePhase} {log : List ExecutorEvent}
    (records : Records phase log) : nonceInUse log = phase.live? := by
  have dropped :
      log.any (fun event => isRelease event || isResync event || preparationThrew event) =
        (phase.isReleased || phase.isResynced || phase.isAbandoned) := by
    rw [Bool.eq_iff_iff, List.any_eq_true, Bool.or_eq_true, Bool.or_eq_true, ← records.released,
      ← records.resynced, ← records.threw]
    simp only [Bool.or_eq_true, and_or_left, exists_or]
  rw [nonceInUse, dropped, findSome?_reservedNonce records]
  cases phase <;> rfl

/-- Turns start executions for the account, and answer calls. -/
def Executes (key : NonceKey) : ExecutorAct → Prop
  | .start program => ∃ config request, keyOf request = key ∧ program = execute config request
  | .run _ _ => True

/-- The start of the resynchronisation that the execution waits for. -/
def resyncStart (thread : ExecutorThread) : Option Nat :=
  match thread.program with
  | .call (.memory (.resync _ nextNonce)) _ => some nextNonce
  | _ => none

/-- If the turn resynchronises the manager, no other execution is half way
through a reservation, and all nonces other executions use lie below the new
start. -/
def resyncsAbove (pool : ExecutorPool) : ExecutorAct → Bool
  | .start _ => true
  | .run index _ =>
      match (pool.threads[index]?).bind resyncStart with
      | none => true
      | some start => (pool.threads.eraseIdx index).all (fun thread =>
          !halfReserved thread.log && (nonceInUse thread.log).all (fun nonce => nonce < start))

/-- Every execution follows its protocol, and their phases are consistent with
the manager. -/
theorem consistent_run {key : NonceKey} {acceptedBefore : Nat} {pool : ExecutorPool}
    (run : Pool.Run serve (fun pool act => Executes key act ∧ resyncsAbove pool act = true)
      (Pool.initial (start acceptedBefore)) pool) :
    ∃ phases, Pool.Tracks (noncePhase key) Ended .idle pool phases ∧
      Consistent key pool.shared.manager phases := by
  apply run.invariant (fun pool phases => Consistent key pool.shared.manager phases)
  · exact ⟨[], .nil, consistent_nil⟩
  · rintro before phases program tracks consistent ⟨⟨config, request, rfl, rfl⟩, _⟩
    exact ⟨execute_conforms config request, consistent.started⟩
  · intro before phases index oracle op resume log between answer phase after tracks consistent
      ⟨_, above⟩ found served located stepped _
    apply consistent_step consistent located served stepped
    rintro start rfl other otherPhase different foundPhase
    have sameLength := List.Forall₂.length_eq tracks
    have inside : other < before.threads.length := by
      have := (List.getElem?_eq_some_iff.mp foundPhase).1
      omega
    have foundThread := List.getElem?_eq_getElem inside
    obtain ⟨tested, foundTested, replayed, _⟩ := tracks.thread foundThread
    rw [foundPhase] at foundTested
    cases foundTested
    have records := records_replay _ replayed
    have awaiting : (before.threads[index]?).bind resyncStart = some start := by
      rw [found]
      rfl
    have member : before.threads[other] ∈ before.threads.eraseIdx index :=
      List.mem_eraseIdx_iff_getElem?.mpr ⟨other, different, foundThread⟩
    simp only [resyncsAbove, awaiting, List.all_eq_true] at above
    have apart := above _ member
    rw [halfReserved_eq records, nonceInUse_eq records, Bool.and_eq_true, Bool.not_eq_true'] at apart
    refine ⟨apart.1, ?_⟩
    intro held live
    simpa [live] using apart.2

/-- In every run whose resynchronisations lie above all nonces in use and meet no
half reservation, no two executions use one nonce, and of two that broadcast one
nonce, one has failed and given it up. -/
theorem nonces_apart (key : NonceKey) (acceptedBefore : Nat) (pool : ExecutorPool)
    (run : Pool.Run serve (fun pool act => Executes key act ∧ resyncsAbove pool act = true)
      (Pool.initial (start acceptedBefore)) pool)
    (index other : Nat) (different : index ≠ other) (first second : ExecutorThread)
    (foundFirst : pool.threads[index]? = some first)
    (foundSecond : pool.threads[other]? = some second) (nonce : Nat) :
    ¬ (nonceInUse first.log = some nonce ∧ nonceInUse second.log = some nonce) ∧
      ((∃ event ∈ first.log, sentNonce event = some nonce) →
        (∃ event ∈ second.log, sentNonce event = some nonce) →
        (∃ event ∈ first.log, isResync event = true) ∨
          ∃ event ∈ second.log, isResync event = true) := by
  obtain ⟨phases, tracks, consistent⟩ := consistent_run run
  obtain ⟨here, locatedHere, replayedHere, _⟩ := tracks.thread foundFirst
  obtain ⟨there, locatedThere, replayedThere, _⟩ := tracks.thread foundSecond
  have recordsHere := records_replay _ replayedHere
  have recordsThere := records_replay _ replayedThere
  have compatible := consistent.compatible index other here there different locatedHere locatedThere
  have sending : ∀ phase : NoncePhase, phase.sent? = some nonce → phase.isResynced = true ∨
      phase.live? = some nonce := by
    intro phase sent
    cases phase with
    | sending handed => exact Or.inr sent
    | resynced handed => exact Or.inl rfl
    | _ => cases sent
  constructor
  · rw [nonceInUse_eq recordsHere, nonceInUse_eq recordsThere]
    rintro ⟨live, other⟩
    exact compatible.nonces nonce live other
  · rw [recordsHere.sent, recordsThere.sent, recordsHere.resynced, recordsThere.resynced]
    intro sentHere sentThere
    rcases sending here sentHere with resynced | live
    · exact Or.inl resynced
    · rcases sending there sentThere with resynced | other
      · exact Or.inr resynced
      · exact absurd other (compatible.nonces nonce live)

/-- Let one execution make a number of calls. -/
def turns (index count : Nat) (oracle : ExecutorOracle) : List ExecutorAct :=
  List.replicate count (.run index oracle)

/-- Start an execution of the plain request. -/
def begin : ExecutorAct := .start (execute (plainConfig false) plainRequest)

def sendFails : ExecutorOracle := failing isSend

theorem executes_turns {key : NonceKey} {index count : Nat} {oracle : ExecutorOracle}
    {act : ExecutorAct} (member : act ∈ turns index count oracle) : Executes key act := by
  rw [List.eq_of_mem_replicate member]
  trivial

theorem executes_begin : Executes (keyOf plainRequest) begin := ⟨_, _, rfl, rfl⟩

/-- Three executions: the second one's send fails and resynchronises after the
first has made some calls, and before the third starts. -/
def schedule (first third firstAgain : Nat) : List ExecutorAct :=
  [begin] ++ turns 0 first willing ++ [begin] ++ turns 1 3 willing ++ turns 1 10 sendFails ++
    [begin] ++ turns 2 third willing ++ turns 0 firstAgain willing

theorem executes_schedule {first third firstAgain : Nat} :
    ∀ act ∈ schedule first third firstAgain, Executes (keyOf plainRequest) act := by
  intro act member
  simp only [schedule, List.mem_append, List.mem_singleton] at member
  rcases member with ((((((rfl | turn) | rfl) | turn) | turn) | rfl) | turn) | turn
  · exact executes_begin
  · exact executes_turns turn
  · exact executes_begin
  · exact executes_turns turn
  · exact executes_turns turn
  · exact executes_begin
  · exact executes_turns turn
  · exact executes_turns turn

/-- The first execution has broadcast nonce five before the resynchronisation,
which then starts at six. -/
def settledPool : ExecutorPool :=
  (Pool.execute serve resyncsAbove (Pool.initial (start 5)) (schedule 14 3 0)).get
    (by decide +kernel)

/-- The first and the third execution of that run. -/
theorem nonces_apart_settled :
    ∃ first second, settledPool.threads[0]? = some first ∧ settledPool.threads[2]? = some second ∧
      ¬ (nonceInUse first.log = some 5 ∧ nonceInUse second.log = some 5) ∧
        ((∃ event ∈ first.log, sentNonce event = some 5) →
          (∃ event ∈ second.log, sentNonce event = some 5) →
          (∃ event ∈ first.log, isResync event = true) ∨
            ∃ event ∈ second.log, isResync event = true) := by
  have started : 2 < settledPool.threads.length := by decide +kernel
  have run : Pool.Run serve (fun pool act => Executes (keyOf plainRequest) act ∧
      resyncsAbove pool act = true) (Pool.initial (start 5)) settledPool :=
    Pool.run_of_execute .refl
      (fun act member _ passed => ⟨executes_schedule act member, passed⟩)
      (Option.some_get _).symm
  have first := List.getElem?_eq_getElem (lt_trans Nat.two_pos started)
  have second := List.getElem?_eq_getElem started
  exact ⟨_, _, first, second, nonces_apart (keyOf plainRequest) 5 settledPool run 0 2 (by decide)
    _ _ first second 5⟩

/-- The first execution still holds nonce five when the resynchronisation starts
again at five. -/
def collidingPool : ExecutorPool :=
  (Pool.execute serve (fun _ _ => true) (Pool.initial (start 5)) (schedule 5 12 8)).get
    (by decide +kernel)

theorem collidingPool_started : 2 < collidingPool.threads.length := by decide +kernel

/-- The first and the third execution both use and broadcast nonce five, and
neither has failed. -/
theorem nonce_shared_after_resync :
    Pool.Run serve (fun _ act => Executes (keyOf plainRequest) act) (Pool.initial (start 5))
        collidingPool ∧
      ∃ first second, collidingPool.threads[0]? = some first ∧
        collidingPool.threads[2]? = some second ∧
        (nonceInUse first.log = some 5 ∧ nonceInUse second.log = some 5) ∧
        (∃ event ∈ first.log, sentNonce event = some 5) ∧
        (∃ event ∈ second.log, sentNonce event = some 5) ∧
        (∀ event ∈ first.log, isResync event = false) ∧
        ∀ event ∈ second.log, isResync event = false := by
  have first := List.getElem?_eq_getElem (lt_trans Nat.two_pos collidingPool_started)
  have second := List.getElem?_eq_getElem collidingPool_started
  constructor
  · exact Pool.run_of_execute .refl (fun act member _ _ => executes_schedule act member)
      (Option.some_get _).symm
  · refine ⟨_, _, first, second, ⟨?_, ?_⟩, ?_, ?_, ?_, ?_⟩
    · decide +kernel
    · decide +kernel
    · decide +kernel
    · decide +kernel
    · decide +kernel
    · decide +kernel

end SafeTransactionExecutor

end LiquidationBot
