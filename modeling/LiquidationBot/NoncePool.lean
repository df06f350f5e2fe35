import LiquidationBot.NonceManager
import Mathlib.Order.Bounds.Basic
import Mathlib.Order.Interval.Finset.Nat

/-!
# The pool of nonces of one account

Reservations and releases of one account interleave: a reservation reads the
account's object and waits, the object's first nonce arrives once, and waiting
reservations resume in any order afterwards. Active and released nonces together
stay exactly the nonces from the first one up to the next.
-/

namespace LiquidationBot

namespace NonceState

/-- Active and released nonces partition the nonces from the first up to the
next; before the first is read there are none. -/
structure Partitions (n0 : Nat) (state : NonceState) : Prop where
  starts : ∀ next, state.nextNonce = some next → n0 ≤ next
  covers : ∀ nonce, nonce ∈ state.active ∨ nonce ∈ state.released ↔
    ∃ next, state.nextNonce = some next ∧ n0 ≤ nonce ∧ nonce < next

/-- A taken nonce is the first released one or the next. -/
theorem take_cases {state after : NonceState} {nonce : Nat}
    (taken : state.take = some (after, nonce)) :
    (state.released = nonce :: after.released ∧ after.nextNonce = state.nextNonce) ∨
      (state.released = [] ∧ after.released = [] ∧ state.nextNonce = some nonce ∧
        after.nextNonce = some (nonce + 1)) := by
  unfold take at taken
  split at taken
  next first rest here =>
    cases taken
    exact Or.inl ⟨here, rfl⟩
  next here =>
    split at taken
    next => cases taken
    next first known =>
      cases taken
      exact Or.inr ⟨here, here, known, rfl⟩

namespace Partitions

variable {n0 : Nat} {state after : NonceState} {nonce : Nat}

theorem unread (n0 : Nat) : NonceState.unread.Partitions n0 where
  starts := by simp [NonceState.unread]
  covers := by simp [NonceState.unread]

theorem startingAt (n0 : Nat) : (NonceState.startingAt n0).Partitions n0 where
  starts := by simp [NonceState.startingAt]
  covers := by
    intro nonce
    simp only [NonceState.startingAt, Finset.notMem_empty, List.not_mem_nil, or_self, false_iff]
    rintro ⟨next, same, low, high⟩
    cases same
    omega

theorem take (partitions : state.Partitions n0) (taken : state.take = some (after, nonce)) :
    after.Partitions n0 := by
  have active := (take_spec taken).2.1
  rcases take_cases taken with ⟨released, same⟩ | ⟨empty, none, next, later⟩
  · refine ⟨fun next known => partitions.starts next (same ▸ known), fun tested => ?_⟩
    rw [same, ← partitions.covers tested, active, released, Finset.mem_insert, List.mem_cons]
    tauto
  · have first := partitions.starts nonce next
    refine ⟨fun bound known => ?_, fun tested => ?_⟩
    · rw [later] at known
      cases known
      omega
    · have before := partitions.covers tested
      rw [empty, next] at before
      rw [active, none, later, Finset.mem_insert]
      simp only [List.not_mem_nil, or_false, Option.some.injEq, exists_eq_left'] at before ⊢
      rw [before]
      omega

theorem giveBack (partitions : state.Partitions n0) (nonce : Nat) :
    (state.giveBack nonce).Partitions n0 := by
  refine ⟨fun next known => partitions.starts next ?_, fun tested => ?_⟩
  · rwa [nextNonce_giveBack] at known
  · rw [nextNonce_giveBack, ← partitions.covers tested, active_giveBack, mem_released_giveBack,
      Finset.mem_erase]
    by_cases same : tested = nonce
    · subst same
      simp [or_comm]
    · simp [same]

/-- A taken nonce is the least one that is not active. -/
theorem isLeast (partitions : state.Partitions n0) (taken : state.take = some (after, nonce)) :
    IsLeast {free | n0 ≤ free ∧ free ∉ state.active} nonce := by
  have inactive := (take_spec taken).1
  rcases take_cases taken with ⟨released, same⟩ | ⟨empty, none, next, later⟩
  · obtain ⟨next, known, low, high⟩ :=
      (partitions.covers nonce).mp (Or.inr (released ▸ List.mem_cons_self))
    refine ⟨⟨low, inactive⟩, ?_⟩
    -- a smaller free nonce would be released, and the released ones are sorted
    rintro free ⟨above, notActive⟩
    by_contra smaller
    have stored : free ∈ state.released :=
      ((partitions.covers free).mpr ⟨next, known, above, by omega⟩).resolve_left notActive
    have sorted := state.sorted
    rw [released] at sorted stored
    rcases List.mem_cons.mp stored with rfl | later
    · exact smaller (Nat.le_refl _)
    · have := List.rel_of_pairwise_cons sorted later
      omega
  · refine ⟨⟨partitions.starts nonce next, inactive⟩, ?_⟩
    rintro free ⟨above, notActive⟩
    by_contra smaller
    have stored := (partitions.covers free).mpr ⟨nonce, next, above, by omega⟩
    rw [empty] at stored
    exact stored.elim notActive List.not_mem_nil

/-- The active and the released nonces of a state are apart, and are together those
from the first up to the next. -/
theorem conserved (partitions : state.Partitions n0) :
    state.released.Nodup ∧ Disjoint state.active state.released.toFinset ∧
      (state.nextNonce = none → state.active = ∅ ∧ state.released = []) ∧
      ∀ next, state.nextNonce = some next →
        state.active ∪ state.released.toFinset = Finset.Ico n0 next := by
  refine ⟨state.sorted.imp Nat.ne_of_lt, ?_, ?_, ?_⟩
  · rw [Finset.disjoint_left]
    intro nonce active released
    exact state.apart nonce (List.mem_toFinset.mp released) active
  · intro unread
    have nothing : ∀ nonce, ¬ (nonce ∈ state.active ∨ nonce ∈ state.released) := by
      intro nonce
      rw [partitions.covers, unread]
      simp
    exact ⟨Finset.eq_empty_of_forall_notMem (fun nonce active => nothing nonce (Or.inl active)),
      List.eq_nil_iff_forall_not_mem.mpr (fun nonce stored => nothing nonce (Or.inr stored))⟩
  · intro next known
    ext nonce
    rw [Finset.mem_union, List.mem_toFinset, partitions.covers, known, Finset.mem_Ico]
    simp

end Partitions

end NonceState

/-- The calls of one account around its manager: the object whose first nonce is
being read, and the objects the waiting reservations have read. -/
structure NoncePool where
  manager : LocalNonceManager
  reading : Option Nat
  waiting : List Nat

/-- A call starts, the pending nonce arrives, a waiting reservation resumes, or a
nonce is released. -/
inductive NoncePoolEvent where
  | reserve
  | read
  | resume (index : Nat)
  | release (nonce : Nat)

namespace NoncePool

open LocalNonceManager

/-- A new manager without calls. -/
def initial : NoncePool := ⟨LocalNonceManager.initial, none, []⟩

/-- The pool after an event, with what a resumed reservation answers; none where
the event cannot happen. -/
def step (key : NonceKey) (n0 : Nat) (pool : NoncePool) :
    NoncePoolEvent → Option (NoncePool × Option (Except Thrown Nat))
  | .reserve =>
      let (manager, ref, created) := pool.manager.lookup key
      some (⟨manager, if created then some ref else pool.reading, pool.waiting ++ [ref]⟩, none)
  | .read => pool.reading.map (fun ref =>
      (⟨pool.manager.initialized key ref (.ok n0), none, pool.waiting⟩, none))
  | .resume index => pool.waiting[index]?.bind (fun ref =>
      (pool.manager.takeFrom ref).map (fun taken =>
        (⟨taken.1, pool.reading, pool.waiting.eraseIdx index⟩, some taken.2)))
  | .release nonce => some ({ pool with manager := pool.manager.release key nonce }, none)

/-- The pool after a run of events. -/
def run (key : NonceKey) (n0 : Nat) : NoncePool → List NoncePoolEvent → Option NoncePool
  | pool, [] => some pool
  | pool, event :: rest => (pool.step key n0 event).bind (fun stepped => run key n0 stepped.1 rest)

/-- No call has been made. -/
structure Untouched (key : NonceKey) (pool : NoncePool) : Prop where
  absent : pool.manager.states.get? key = none
  unread : pool.reading = none
  idle : pool.waiting = []

/-- The account's object partitions its nonces, every waiting reservation has
read that object, and its first nonce is being read as long as it is missing. -/
structure Serving (key : NonceKey) (n0 : Nat) (pool : NoncePool) (ref : Nat) (state : NonceState) :
    Prop where
  found : pool.manager.states.get? key = some ref
  stored : pool.manager.objects[ref]? = some state
  accepted : state.rejected = none
  partitions : state.Partitions n0
  awaited : ∀ other ∈ pool.waiting, other = ref
  reading : pool.reading = if state.nextNonce = none then some ref else none

section Steps

variable {key : NonceKey} {n0 : Nat} {pool after : NoncePool} {ref : Nat} {state : NonceState}
  {event : NoncePoolEvent} {reply : Option (Except Thrown Nat)}

theorem Serving.current (serving : Serving key n0 pool ref state) :
    pool.manager.current key = some state := by
  rw [LocalNonceManager.current, serving.found]
  exact serving.stored

/-- The first event that changes anything is a reservation, which makes the
account's object. -/
theorem Untouched.step (untouched : Untouched key pool)
    (stepped : pool.step key n0 event = some (after, reply)) :
    reply = none ∧ (Untouched key after ∨ ∃ ref, Serving key n0 after ref .unread) := by
  obtain ⟨absent, unread, idle⟩ := untouched
  cases event with
  | reserve =>
    simp only [NoncePool.step, lookup, absent, Option.some.injEq, Prod.mk.injEq] at stepped
    obtain ⟨rfl, rfl⟩ := stepped
    refine ⟨rfl, Or.inr ⟨pool.manager.objects.length, get?_install _ _ _, object_installed _ _ _,
      rfl, .unread n0, ?_, rfl⟩⟩
    simp [idle]
  | read => simp [NoncePool.step, unread] at stepped
  | resume index => simp [NoncePool.step, idle] at stepped
  | release nonce =>
    have nothing : pool.manager.release key nonce = pool.manager := by
      simp only [release, absent, Option.bind_none]
    simp only [NoncePool.step, nothing, Option.some.injEq, Prod.mk.injEq] at stepped
    obtain ⟨rfl, rfl⟩ := stepped
    exact ⟨rfl, Or.inl ⟨absent, unread, idle⟩⟩

/-- A reservation that resumes takes from the account's object. -/
theorem Serving.resume (serving : Serving key n0 pool ref state) {index : Nat}
    (stepped : pool.step key n0 (.resume index) = some (after, reply)) :
    ∃ later nonce, state.take = some (later, nonce) ∧ reply = some (.ok nonce) ∧
      after = ⟨pool.manager.setObject ref later, pool.reading, pool.waiting.eraseIdx index⟩ := by
  simp only [NoncePool.step, Option.bind_eq_some_iff, Option.map_eq_some_iff, Prod.mk.injEq]
    at stepped
  obtain ⟨other, waits, ⟨manager, answer⟩, taken, rfl, rfl⟩ := stepped
  have same := serving.awaited other (List.mem_of_getElem? waits)
  subst same
  simp only [takeFrom, serving.stored, serving.accepted, Option.map_eq_some_iff,
    Prod.mk.injEq] at taken
  obtain ⟨⟨later, nonce⟩, took, rfl, rfl⟩ := taken
  exact ⟨later, nonce, took, rfl, rfl⟩

/-- Every event keeps the account's object and the partition of its nonces. -/
theorem Serving.step (serving : Serving key n0 pool ref state)
    (stepped : pool.step key n0 event = some (after, reply)) :
    ∃ later, Serving key n0 after ref later := by
  cases event with
  | reserve =>
    simp only [NoncePool.step, lookup, serving.found, Option.some.injEq, Prod.mk.injEq] at stepped
    obtain ⟨rfl, rfl⟩ := stepped
    refine ⟨state, serving.found, serving.stored, serving.accepted, serving.partitions, ?_,
      serving.reading⟩
    intro other waits
    rcases List.mem_append.mp waits with earlier | new
    · exact serving.awaited other earlier
    · exact List.mem_singleton.mp new
  | read =>
    simp only [NoncePool.step, Option.map_eq_some_iff, Prod.mk.injEq] at stepped
    obtain ⟨reading, reads, rfl, rfl⟩ := stepped
    have same : reading = ref := by
      rw [serving.reading] at reads
      split at reads
      · exact (Option.some.inj reads).symm
      · cases reads
    subst same
    exact ⟨.startingAt n0, serving.found, object_set serving.stored, rfl, .startingAt n0,
      serving.awaited, rfl⟩
  | resume index =>
    obtain ⟨later, nonce, took, rfl, rfl⟩ := serving.resume stepped
    have known : state.nextNonce ≠ none ∧ later.nextNonce ≠ none := by
      have ready : state.nextNonce ≠ none := fun unread => by
        rw [(NonceState.take_eq_none_iff state).mpr unread] at took
        cases took
      rcases NonceState.take_cases took with ⟨_, same⟩ | ⟨_, _, _, next⟩
      · exact ⟨ready, same ▸ ready⟩
      · exact ⟨ready, by simp [next]⟩
    refine ⟨later, serving.found, object_set serving.stored, ?_, serving.partitions.take took,
      fun other waits => serving.awaited other (List.mem_of_mem_eraseIdx waits), ?_⟩
    · rw [(NonceState.take_spec took).2.2.2.2.1, serving.accepted]
    · rw [if_neg known.2]
      exact serving.reading.trans (if_neg known.1)
  | release nonce =>
    simp only [NoncePool.step, release_eq serving.found serving.stored, Option.some.injEq,
      Prod.mk.injEq] at stepped
    obtain ⟨rfl, rfl⟩ := stepped
    refine ⟨state.giveBack nonce, serving.found, object_set serving.stored, ?_,
      serving.partitions.giveBack nonce, serving.awaited, ?_⟩
    · rw [NonceState.rejected_giveBack, serving.accepted]
    · rw [NonceState.nextNonce_giveBack]
      exact serving.reading

/-- Once the first nonce is read, no waiting reservation is stuck. -/
theorem Serving.resumes (serving : Serving key n0 pool ref state) (read : pool.reading = none)
    {index : Nat} (inside : index < pool.waiting.length) :
    (pool.step key n0 (.resume index)).isSome := by
  have known : state.nextNonce ≠ none := by
    intro unread
    rw [serving.reading, if_pos unread] at read
    cases read
  have same := serving.awaited _ (List.getElem_mem inside)
  obtain ⟨taken, took⟩ := Option.ne_none_iff_exists'.mp
    (fun none => known ((NonceState.take_eq_none_iff state).mp none))
  simp [NoncePool.step, List.getElem?_eq_getElem inside, same, takeFrom, serving.stored,
    serving.accepted, took]

/-- After every run no call has been made or the account's object serves. -/
theorem run_cases {events : List NoncePoolEvent} {start : NoncePool}
    (starts : Untouched key start ∨ ∃ ref state, Serving key n0 start ref state)
    (ran : run key n0 start events = some pool) :
    Untouched key pool ∨ ∃ ref state, Serving key n0 pool ref state := by
  induction events generalizing start with
  | nil =>
    cases ran
    exact starts
  | cons event rest inductionHypothesis =>
    obtain ⟨⟨between, reply⟩, stepped, later⟩ := Option.bind_eq_some_iff.mp ran
    refine inductionHypothesis ?_ later
    rcases starts with untouched | ⟨ref, state, serving⟩
    · refine (untouched.step stepped).2.imp id (fun ⟨ref, serving⟩ => ⟨ref, .unread, serving⟩)
    · obtain ⟨state, serving⟩ := serving.step stepped
      exact Or.inr ⟨ref, state, serving⟩

end Steps

theorem untouched_initial (key : NonceKey) : Untouched key initial := ⟨rfl, rfl, rfl⟩

theorem setObject_self {manager : LocalNonceManager} {ref : Nat} {state : NonceState}
    (stored : manager.objects[ref]? = some state) : manager.setObject ref state = manager := by
  obtain ⟨inside, here⟩ := List.getElem?_eq_some_iff.mp stored
  have same : manager.objects.set ref state = manager.objects := by
    rw [← here]
    exact List.set_getElem_self inside
  obtain ⟨objects, states, kept⟩ := manager
  unfold setObject
  congr

/-- Releasing a nonce that is not active changes nothing. -/
theorem release_inactive {manager : LocalNonceManager} {key : NonceKey} {nonce : Nat}
    (inactive : ∀ state, manager.current key = some state → nonce ∉ state.active) :
    manager.release key nonce = manager := by
  unfold release
  split
  next => rfl
  next ref state found =>
    obtain ⟨there, inUse, mapped⟩ := Option.bind_eq_some_iff.mp found
    obtain ⟨object, stored, same⟩ := Option.map_eq_some_iff.mp mapped
    cases same
    have ignored : state.giveBack nonce = state := by
      refine dif_neg (inactive state ?_)
      rw [LocalNonceManager.current, inUse]
      exact stored
    rw [ignored]
    exact setObject_self stored

/-- After every interleaving the active and the released nonces are apart and
are together the nonces from the first up to the next; a reservation that
resumes gets the least nonce that is not active, and none is refused once the
first nonce is read; releasing a nonce that is not active changes nothing. -/
theorem nonces_conserved (key : NonceKey) (n0 : Nat) (events : List NoncePoolEvent)
    (pool : NoncePool) (ran : run key n0 initial events = some pool) :
    (∀ state, pool.manager.current key = some state →
      state.released.Nodup ∧ Disjoint state.active state.released.toFinset ∧
        (state.nextNonce = none → state.active = ∅ ∧ state.released = []) ∧
        ∀ next, state.nextNonce = some next →
          state.active ∪ state.released.toFinset = Finset.Ico n0 next) ∧
      (∀ index after reply, pool.step key n0 (.resume index) = some (after, reply) →
        ∃ state nonce later, pool.manager.current key = some state ∧ reply = some (.ok nonce) ∧
          IsLeast {free | n0 ≤ free ∧ free ∉ state.active} nonce ∧
          after.manager.current key = some later ∧ later.active = insert nonce state.active) ∧
      (pool.reading = none → ∀ index < pool.waiting.length,
        (pool.step key n0 (.resume index)).isSome) ∧
      ∀ nonce, (∀ state, pool.manager.current key = some state → nonce ∉ state.active) →
        pool.manager.release key nonce = pool.manager := by
  rcases run_cases (Or.inl (untouched_initial key)) ran with untouched | ⟨ref, state, serving⟩
  · have nothing : pool.manager.current key = none := by
      rw [LocalNonceManager.current, untouched.absent, Option.bind_none]
    refine ⟨?_, ?_, ?_, fun nonce => release_inactive⟩
    · simp [nothing]
    · intro index after reply stepped
      simp [NoncePool.step, untouched.idle] at stepped
    · simp [untouched.idle]
  · refine ⟨?_, ?_, ?_, fun nonce => release_inactive⟩
    · intro current known
      rw [serving.current, Option.some.injEq] at known
      subst known
      exact serving.partitions.conserved
    · intro index after reply stepped
      obtain ⟨later, nonce, took, rfl, rfl⟩ := serving.resume stepped
      refine ⟨state, nonce, later, serving.current, rfl, serving.partitions.isLeast took, ?_,
        (NonceState.take_spec took).2.1⟩
      exact (congrArg (Option.bind · _) serving.found).trans (object_set serving.stored)
    · exact fun read index inside => serving.resumes read inside

/-- Two reservations behind one read, resumed in the other order, and the second
nonce released twice. -/
def twoReservations : List NoncePoolEvent :=
  [.reserve, .reserve, .read, .resume 1, .resume 0, .release 8, .release 8]

def sampleKey : NonceKey := nonceKey .base ⟨7, 0⟩

/-- The pool after both reservations. -/
def samplePool : NoncePool := (run sampleKey 7 initial twoReservations).get (by decide +kernel)

theorem nonces_conserved_sample :
    ∃ state, samplePool.manager.current sampleKey = some state ∧ state.nextNonce = some 9 ∧
      state.released = [8] ∧ state.active ∪ state.released.toFinset = Finset.Ico 7 9 := by
  have conserved := nonces_conserved sampleKey 7 twoReservations samplePool
    (Option.some_get _).symm
  have shape : (samplePool.manager.current sampleKey).map (fun state =>
      (state.nextNonce, state.released)) = some (some 9, [8]) := by decide +kernel
  obtain ⟨state, current, same⟩ := Option.map_eq_some_iff.mp shape
  obtain ⟨next, released⟩ := Prod.mk.injEq .. ▸ same
  exact ⟨state, current, next, released, (conserved.1 state current).2.2.2 9 next⟩

end NoncePool

end LiquidationBot
