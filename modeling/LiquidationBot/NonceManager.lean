import LiquidationBot.Addresses
import LiquidationBot.Library.InsertionMap
import Mathlib.Data.Finset.Basic
import Mathlib.Data.List.Sort

/-!
# The local nonce manager

The manager hands out transaction nonces without asking the node. Each account
has a state object; a reservation reads its object from the map, waits for the
object's first nonce, and then takes from the object it read, even if the map
holds another one by then. A resynchronisation puts a new object into the map
and leaves reservations from the old one standing.

Objects carry what every operation on them keeps: released nonces are sorted and
not active, and every nonce handed out is below the next one.
-/

namespace LiquidationBot

/-- An exception, by whether its message mentions an underpriced transaction;
callers distinguish nothing else. -/
structure Thrown where
  underpriced : Bool
deriving DecidableEq

/-- `SupportedChain`. -/
inductive SupportedChain where
  | optimism
  | arbitrum
  | base
deriving DecidableEq

/-- `nonceKey`: chain and lower-cased account. -/
structure NonceKey where
  chain : SupportedChain
  account : Address
deriving DecidableEq

def nonceKey (chain : SupportedChain) (account : Address) : NonceKey := ⟨chain, account.toLowerCase⟩

/-- `NonceState`. A missing `nextNonce` is one not read yet; `rejected` is the
exception of a failed read. -/
structure NonceState where
  nextNonce : Option Nat
  rejected : Option Thrown
  released : List Nat
  active : Finset Nat
  sorted : released.Pairwise (· < ·)
  apart : ∀ nonce ∈ released, nonce ∉ active
  below : ∀ nonce, nonce ∈ released ∨ nonce ∈ active → ∃ next, nextNonce = some next ∧ nonce < next

namespace NonceState

/-- A new object, before its first nonce is read. -/
def unread : NonceState where
  nextNonce := none
  rejected := none
  released := []
  active := ∅
  sorted := List.Pairwise.nil
  apart := by simp
  below := by simp

/-- A new object whose read has failed. -/
def failed (error : Thrown) : NonceState := { unread with rejected := some error }

/-- A new object with its first nonce. -/
def startingAt (nextNonce : Nat) : NonceState where
  nextNonce := some nextNonce
  rejected := none
  released := []
  active := ∅
  sorted := List.Pairwise.nil
  apart := by simp
  below := by simp

/-- The second half of `reserve`: the smallest released nonce, else the next. -/
def take (state : NonceState) : Option (NonceState × Nat) :=
  match here : state.released with
  | nonce :: rest =>
      some ({ state with
        released := rest
        active := insert nonce state.active
        sorted := (here ▸ state.sorted).of_cons
        apart := by
          intro other member
          have later := List.rel_of_pairwise_cons (here ▸ state.sorted) member
          have inactive := state.apart other (here ▸ List.mem_cons_of_mem nonce member)
          simp [Finset.mem_insert, inactive, later.ne']
        below := by
          intro other handed
          apply state.below
          rw [Finset.mem_insert] at handed
          rcases handed with member | rfl | active
          · exact Or.inl (here ▸ List.mem_cons_of_mem nonce member)
          · exact Or.inl (here ▸ List.mem_cons_self)
          · exact Or.inr active }, nonce)
  | [] =>
      match next : state.nextNonce with
      | none => none
      | some nonce =>
          some ({ state with
            nextNonce := some (nonce + 1)
            active := insert nonce state.active
            apart := by simp [here]
            below := by
              intro other handed
              rw [here, Finset.mem_insert] at handed
              rcases handed with impossible | rfl | active
              · cases impossible
              · exact ⟨_, rfl, Nat.lt_succ_self _⟩
              · obtain ⟨bound, known, lower⟩ := state.below other (Or.inr active)
                rw [next] at known
                cases known
                exact ⟨_, rfl, Nat.lt_succ_of_lt lower⟩ }, nonce)

/-- `release`: an active nonce goes back among the released ones, in order; any
other is ignored. -/
def giveBack (state : NonceState) (nonce : Nat) : NonceState :=
  if active : nonce ∈ state.active then
    { state with
      active := state.active.erase nonce
      released := (state.released ++ [nonce]).insertionSort (· ≤ ·)
      sorted := by
        have fresh : nonce ∉ state.released := fun member => state.apart nonce member active
        have earlier : state.released.Nodup := state.sorted.imp Nat.ne_of_lt
        have distinct : (state.released ++ [nonce]).Nodup :=
          earlier.append (List.nodup_singleton _) (by simpa using fresh)
        have unequal := (List.perm_insertionSort (· ≤ ·) _).nodup_iff.mpr distinct
        exact (List.pairwise_insertionSort (· ≤ ·) _).imp₂
          (fun _ _ le ne => lt_of_le_of_ne le ne) unequal
      apart := by
        intro other member
        rw [List.mem_insertionSort, List.mem_append, List.mem_singleton] at member
        rw [Finset.mem_erase]
        rintro ⟨different, stillActive⟩
        rcases member with earlier | rfl
        · exact state.apart other earlier stillActive
        · exact different rfl
      below := by
        intro other handed
        apply state.below
        rw [List.mem_insertionSort, List.mem_append, List.mem_singleton, Finset.mem_erase] at handed
        rcases handed with (earlier | rfl) | ⟨_, stillActive⟩
        · exact Or.inl earlier
        · exact Or.inr active
        · exact Or.inr stillActive }
  else state

/-- Before the first nonce is read, nothing has been handed out. -/
theorem take_eq_none_iff (state : NonceState) : state.take = none ↔ state.nextNonce = none := by
  unfold take
  split
  next nonce rest here =>
    obtain ⟨next, known, _⟩ := state.below nonce (Or.inl (here ▸ List.mem_cons_self))
    simp [known]
  next here =>
    split
    next unknown => simp [unknown]
    next nonce known => simp [known]

/-- What taking a nonce does: it was not active and is now, nothing else is
active, and no smaller one is waiting. -/
theorem take_spec {state after : NonceState} {nonce : Nat}
    (taken : state.take = some (after, nonce)) :
    nonce ∉ state.active ∧ after.active = insert nonce state.active ∧
      (∀ other ∈ after.released, nonce < other) ∧
      (nonce ∈ state.released ∨ state.nextNonce = some nonce) ∧
      after.rejected = state.rejected ∧
      (∀ other ∈ after.released, other ∈ state.released) ∧
      (∀ next, after.nextNonce = some next → ∃ before, state.nextNonce = some before ∧
        before ≤ next) := by
  unfold take at taken
  split at taken
  next first rest here =>
    cases taken
    have ordered := here ▸ state.sorted
    refine ⟨state.apart _ (here ▸ List.mem_cons_self), rfl, ?_, Or.inl (here ▸ List.mem_cons_self),
      rfl, ?_, fun next known => ⟨next, known, Nat.le_refl next⟩⟩
    · intro other member
      exact List.rel_of_pairwise_cons ordered member
    · intro other member
      exact here ▸ List.mem_cons_of_mem nonce member
  next here =>
    split at taken
    next => cases taken
    next first known =>
      cases taken
      refine ⟨?_, rfl, ?_, Or.inr known, rfl, ?_, ?_⟩
      · intro active
        obtain ⟨next, same, lower⟩ := state.below nonce (Or.inr active)
        rw [known] at same
        cases same
        exact lt_irrefl nonce lower
      · simp [here]
      · simp [here]
      · intro next same
        cases same
        exact ⟨nonce, known, Nat.le_succ nonce⟩

theorem active_giveBack (state : NonceState) (nonce : Nat) :
    (state.giveBack nonce).active = state.active.erase nonce := by
  unfold giveBack
  split
  next => rfl
  next inactive => rw [Finset.erase_eq_of_notMem inactive]

theorem mem_released_giveBack (state : NonceState) (nonce other : Nat) :
    other ∈ (state.giveBack nonce).released ↔
      other ∈ state.released ∨ nonce ∈ state.active ∧ other = nonce := by
  unfold giveBack
  split
  next active => simp [active]
  next inactive => simp [inactive]

@[simp] theorem nextNonce_giveBack (state : NonceState) (nonce : Nat) :
    (state.giveBack nonce).nextNonce = state.nextNonce := by
  unfold giveBack
  split
  next => rfl
  next => rfl

@[simp] theorem rejected_giveBack (state : NonceState) (nonce : Nat) :
    (state.giveBack nonce).rejected = state.rejected := by
  unfold giveBack
  split
  next => rfl
  next => rfl

/-- A nonce given back below all released ones is the next one taken. -/
theorem take_giveBack {state : NonceState} {nonce : Nat} (active : nonce ∈ state.active)
    (smallest : ∀ other ∈ state.released, nonce < other) :
    ∃ after, (state.giveBack nonce).take = some (after, nonce) := by
  have stored : nonce ∈ (state.giveBack nonce).released :=
    (mem_released_giveBack state nonce nonce).mpr (Or.inr ⟨active, rfl⟩)
  unfold take
  split
  next first rest here =>
    have firstIs : first = nonce := by
      by_contra different
      have inRest : nonce ∈ rest := by
        rw [here] at stored
        exact (List.mem_cons.mp stored).resolve_left (Ne.symm different)
      have below := List.rel_of_pairwise_cons (here ▸ (state.giveBack nonce).sorted) inRest
      have known := (mem_released_giveBack state nonce first).mp (here ▸ List.mem_cons_self)
      rcases known with earlier | ⟨_, same⟩
      · exact absurd (smallest first earlier) (by omega)
      · exact different same
    subst firstIs
    exact ⟨_, rfl⟩
  next here =>
    rw [here] at stored
    cases stored

end NonceState

/-- The manager: all state objects made so far, and the map from accounts to
the object in use. -/
structure LocalNonceManager where
  objects : List NonceState
  states : InsertionMap NonceKey Nat
  stored : ∀ key ref, states.get? key = some ref → ref < objects.length

namespace LocalNonceManager

/-- A new manager. -/
def initial : LocalNonceManager := ⟨[], .empty, by simp⟩

/-- Overwrite an object in place. -/
def setObject (manager : LocalNonceManager) (ref : Nat) (state : NonceState) : LocalNonceManager where
  objects := manager.objects.set ref state
  states := manager.states
  stored := by
    intro key other found
    rw [List.length_set]
    exact manager.stored key other found

/-- Put a new object into the map. -/
def install (manager : LocalNonceManager) (key : NonceKey) (state : NonceState) :
    LocalNonceManager where
  objects := manager.objects ++ [state]
  states := manager.states.set key manager.objects.length
  stored := by
    intro tested ref found
    rw [List.length_append, List.length_singleton]
    rw [InsertionMap.get?_set] at found
    split at found
    · cases found
      exact Nat.lt_succ_self _
    · exact Nat.lt_succ_of_lt (manager.stored tested ref found)

/-- The first half of `reserve`: the account's object, and whether `createState`
has just made it. -/
def lookup (manager : LocalNonceManager) (key : NonceKey) : LocalNonceManager × Nat × Bool :=
  match manager.states.get? key with
  | some ref => (manager, ref, false)
  | none => (manager.install key .unread, manager.objects.length, true)

/-- The end of `createState`'s read. Nothing has been taken from the new object
before, so its first nonce makes it a fresh one; a failed read also empties the
account's place in the map. -/
def initialized (manager : LocalNonceManager) (key : NonceKey) (ref : Nat) :
    Except Thrown Nat → LocalNonceManager
  | .ok nextNonce => manager.setObject ref (.startingAt nextNonce)
  | .error error =>
      { manager.setObject ref (.failed error) with
        states := manager.states.delete key
        stored := by
          intro tested other found
          rw [InsertionMap.get?_delete] at found
          split at found
          · cases found
          · exact (manager.setObject ref (.failed error)).stored tested other found }

/-- The second half of `reserve`, on the object read in the first: it waits for
the object's first nonce. That a nonce is still missing then, which the source
answers with an exception, cannot happen. -/
def takeFrom (manager : LocalNonceManager) (ref : Nat) :
    Option (LocalNonceManager × Except Thrown Nat) :=
  match manager.objects[ref]? with
  | none => none
  | some state =>
      match state.rejected with
      | some error => some (manager, .error error)
      | none => state.take.map (fun taken => (manager.setObject ref taken.1, .ok taken.2))

def release (manager : LocalNonceManager) (key : NonceKey) (nonce : Nat) : LocalNonceManager :=
  match (manager.states.get? key).bind (fun ref => manager.objects[ref]?.map (Prod.mk ref)) with
  | none => manager
  | some (ref, state) => manager.setObject ref (state.giveBack nonce)

/-- `resync`: reservations from the replaced object stand. -/
def resync (manager : LocalNonceManager) (key : NonceKey) (nextNonce : Nat) : LocalNonceManager :=
  manager.install key (.startingAt nextNonce)

/-- The account's object. -/
def current (manager : LocalNonceManager) (key : NonceKey) : Option NonceState :=
  (manager.states.get? key).bind (fun ref => manager.objects[ref]?)

/-- A reservation reads the account's object, made on the spot if there was none. -/
theorem lookup_cases {manager after : LocalNonceManager} {key : NonceKey} {ref : Nat}
    {created : Bool} (looked : manager.lookup key = (after, ref, created)) :
    (created = false ∧ after = manager ∧ manager.states.get? key = some ref) ∨
      (created = true ∧ after = manager.install key .unread ∧ ref = manager.objects.length ∧
        manager.states.get? key = none) := by
  unfold lookup at looked
  split at looked
  next found =>
    cases looked
    exact Or.inl ⟨rfl, rfl, found⟩
  next absent =>
    cases looked
    exact Or.inr ⟨rfl, rfl, rfl, absent⟩

@[simp] theorem get?_install (manager : LocalNonceManager) (key : NonceKey) (state : NonceState) :
    (manager.install key state).states.get? key = some manager.objects.length :=
  InsertionMap.get?_set_same _ _ _

theorem object_installed (manager : LocalNonceManager) (key : NonceKey) (state : NonceState) :
    (manager.install key state).objects[manager.objects.length]? = some state :=
  List.getElem?_concat_length

/-- Objects in memory outlast a new one. -/
theorem object_install {manager : LocalNonceManager} {key : NonceKey} {fresh state : NonceState}
    {ref : Nat} (stored : manager.objects[ref]? = some state) :
    (manager.install key fresh).objects[ref]? = some state := by
  obtain ⟨inside, _⟩ := List.getElem?_eq_some_iff.mp stored
  rw [← stored]
  exact List.getElem?_append_left inside

theorem object_set {manager : LocalNonceManager} {ref : Nat} {state after : NonceState}
    (stored : manager.objects[ref]? = some state) :
    (manager.setObject ref after).objects[ref]? = some after := by
  obtain ⟨inside, _⟩ := List.getElem?_eq_some_iff.mp stored
  exact List.getElem?_set_self inside

theorem object_set_ne {manager : LocalNonceManager} {ref other : Nat} {after : NonceState}
    (different : other ≠ ref) :
    (manager.setObject ref after).objects[other]? = manager.objects[other]? :=
  List.getElem?_set_ne (Ne.symm different)

/-- The object's read has failed. -/
def Rejected (manager : LocalNonceManager) (ref : Nat) : Prop :=
  ∃ state error, manager.objects[ref]? = some state ∧ state.rejected = some error

/-- What a reservation that is half way can rely on: the object it has read is
still the account's, unless the object's read has failed. -/
def Awaited (manager : LocalNonceManager) (key : NonceKey) (ref : Nat) : Prop :=
  manager.states.get? key = some ref ∨ manager.Rejected ref

/-- The end of the creating read leaves the object in use, or a failed one. -/
theorem awaited_initialized {manager : LocalNonceManager} {key : NonceKey} {ref : Nat}
    (found : manager.states.get? key = some ref) (read : Except Thrown Nat) :
    (manager.initialized key ref read).Awaited key ref := by
  cases read with
  | ok nextNonce => exact Or.inl found
  | error error =>
    have inside := manager.stored key ref found
    exact Or.inr ⟨.failed error, error, List.getElem?_set_self inside, rfl⟩

/-- A reservation that gets a nonce takes it from the account's object. -/
theorem Awaited.taken {manager after : LocalNonceManager} {key : NonceKey} {ref nonce : Nat}
    (awaited : manager.Awaited key ref) (taken : manager.takeFrom ref = some (after, .ok nonce)) :
    ∃ state next, manager.states.get? key = some ref ∧ manager.objects[ref]? = some state ∧
      state.rejected = none ∧ state.take = some (next, nonce) ∧
      after = manager.setObject ref next := by
  unfold takeFrom at taken
  split at taken
  next => cases taken
  next state stored =>
    split at taken
    next => cases taken
    next ready =>
      obtain ⟨⟨next, first⟩, took, same⟩ := Option.map_eq_some_iff.mp taken
      cases same
      refine ⟨state, next, ?_, stored, ready, took, rfl⟩
      rcases awaited with here | ⟨other, error, storedOther, failed⟩
      · exact here
      · rw [stored] at storedOther
        cases storedOther
        rw [ready] at failed
        cases failed

/-- A refused reservation takes nothing. -/
theorem takeFrom_error {manager after : LocalNonceManager} {ref : Nat} {error : Thrown}
    (refused : manager.takeFrom ref = some (after, .error error)) : after = manager := by
  unfold takeFrom at refused
  split at refused
  next => cases refused
  next state stored =>
    split at refused
    next =>
      cases refused
      rfl
    next =>
      obtain ⟨taken, _, same⟩ := Option.map_eq_some_iff.mp refused
      cases same

/-- A release works on the account's object. -/
theorem release_eq {manager : LocalNonceManager} {key : NonceKey} {ref nonce : Nat}
    {state : NonceState} (found : manager.states.get? key = some ref)
    (stored : manager.objects[ref]? = some state) :
    manager.release key nonce = manager.setObject ref (state.giveBack nonce) := by
  simp only [release, found, stored, Option.bind_some, Option.map_some]

end LocalNonceManager

end LiquidationBot
