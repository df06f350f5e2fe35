import LiquidationBot.Addresses
import LiquidationBot.Library.InsertionMap

/-!
# The confirm queue

Accounts wait here for an on-chain read of their health factor. Both tiers are
sets of lower-cased accounts. A flush empties its set before it reads, so the
accounts it returns are the whole batch, and a read that fails does not put them
back.
-/

namespace LiquidationBot

/-- One row of an on-chain read. -/
structure ConfirmResult where
  address : Address
  healthFactor : Nat
  totalDebtBase : Nat
  totalCollateralBase : Nat
  liquidationThreshold : Nat
  eModeCategoryId : Nat
deriving DecidableEq

/-- The two sets of waiting accounts; the watch tier can be switched off. -/
structure TieredConfirmQueue where
  enableWatchTier : Bool
  urgent : InsertionMap Address Unit
  watch : InsertionMap Address Unit

namespace TieredConfirmQueue

/-- A new queue. -/
def initial (enableWatchTier : Bool) : TieredConfirmQueue := ⟨enableWatchTier, .empty, .empty⟩

def enqueueUrgent (queue : TieredConfirmQueue) (account : Address) : TieredConfirmQueue :=
  { queue with urgent := queue.urgent.set account.toLowerCase () }

def enqueueWatch (queue : TieredConfirmQueue) (account : Address) : TieredConfirmQueue :=
  if !queue.enableWatchTier then queue
  else { queue with watch := queue.watch.set account.toLowerCase () }

/-- `flushUrgent` up to its first read: the emptied queue and the accounts read. -/
def flushUrgent (queue : TieredConfirmQueue) : TieredConfirmQueue × List Address :=
  if queue.urgent.size = 0 then (queue, [])
  else ({ queue with urgent := .empty }, queue.urgent.keys)

/-- The account waits in the urgent tier. -/
def Urgent (queue : TieredConfirmQueue) (account : Address) : Prop :=
  queue.urgent.has account.toLowerCase = true

instance (queue : TieredConfirmQueue) (account : Address) : Decidable (queue.Urgent account) :=
  inferInstanceAs (Decidable (_ = true))

@[simp] theorem urgent_enqueueUrgent (queue : TieredConfirmQueue) (account tested : Address) :
    (queue.enqueueUrgent account).Urgent tested ↔
      queue.Urgent tested ∨ account.toLowerCase = tested.toLowerCase := by
  rw [Urgent, enqueueUrgent, InsertionMap.has_set, Bool.or_eq_true, decide_eq_true_eq]
  constructor
  · rintro (same | waits)
    · exact Or.inr same.symm
    · exact Or.inl waits
  · rintro (waits | same)
    · exact Or.inr waits
    · exact Or.inl same.symm

@[simp] theorem urgent_enqueueWatch (queue : TieredConfirmQueue) (account : Address) :
    (queue.enqueueWatch account).urgent = queue.urgent := by
  unfold enqueueWatch
  split
  · rfl
  · rfl

theorem urgent_flushUrgent (queue : TieredConfirmQueue) : queue.flushUrgent.1.urgent = .empty := by
  unfold flushUrgent
  split
  next none => exact InsertionMap.ext_entries (List.length_eq_zero_iff.mp none)
  next => rfl

/-- A flush reads exactly the waiting accounts. -/
theorem mem_flushUrgent (queue : TieredConfirmQueue) (account : Address) :
    account.toLowerCase ∈ queue.flushUrgent.2 ↔ queue.Urgent account := by
  unfold flushUrgent Urgent
  rw [← InsertionMap.mem_keys_iff]
  split
  next none =>
    have empty : queue.urgent.keys = [] := by
      rw [InsertionMap.keys, List.length_eq_zero_iff.mp none, List.map_nil]
    rw [empty]
  next => rfl

end TieredConfirmQueue

end LiquidationBot
