import LiquidationBot.HealthPolicy

/-!
# The position store

Positions are stored under the lower-cased address of their account. The store
carries that fact, so a deletion by a position's own account always hits its
entry. Updates rewrite a stored position without touching its account.
-/

namespace LiquidationBot

/-- Positions by lower-cased account. -/
structure Positions where
  byAccount : InsertionMap Address UserPosition
  keyed : ∀ key position, byAccount.get? key = some position → position.account.toLowerCase = key

namespace Positions

/-- No positions. -/
def empty : Positions := ⟨.empty, by simp⟩

def get? (positions : Positions) (key : Address) : Option UserPosition :=
  positions.byAccount.get? key

def has (positions : Positions) (key : Address) : Bool := positions.byAccount.has key

def size (positions : Positions) : Nat := positions.byAccount.size

def keys (positions : Positions) : List Address := positions.byAccount.keys

def values (positions : Positions) : List UserPosition := positions.byAccount.values

/-- Store a position under its own account. -/
def put (positions : Positions) (position : UserPosition) : Positions where
  byAccount := positions.byAccount.set position.account.toLowerCase position
  keyed := by
    intro key stored found
    rw [InsertionMap.get?_set] at found
    by_cases here : key = position.account.toLowerCase
    · rw [if_pos here, Option.some.injEq] at found
      rw [here, found]
    · rw [if_neg here] at found
      exact positions.keyed key stored found

/-- Keep the positions a predicate accepts. -/
def keepIf (positions : Positions) (keep : UserPosition → Bool) : Positions where
  byAccount := positions.byAccount.filter (fun _ position => keep position)
  keyed := by
    intro key stored found
    rw [InsertionMap.get?_filter, Option.filter_eq_some_iff] at found
    exact positions.keyed key stored found.1

def delete (positions : Positions) (key : Address) : Positions where
  byAccount := positions.byAccount.delete key
  keyed := by
    intro tested stored found
    rw [InsertionMap.get?_delete] at found
    by_cases here : tested = key
    · simp [here] at found
    · rw [if_neg here] at found
      exact positions.keyed tested stored found

theorem get?_put (positions : Positions) (position : UserPosition) (key : Address) :
    (positions.put position).get? key =
      if key = position.account.toLowerCase then some position else positions.get? key :=
  InsertionMap.get?_set _ _ _ _

theorem get?_delete (positions : Positions) (key tested : Address) :
    (positions.delete key).get? tested =
      if tested = key then none else positions.get? tested :=
  InsertionMap.get?_delete _ _ _

theorem get?_keepIf (positions : Positions) (keep : UserPosition → Bool) (key : Address) :
    (positions.keepIf keep).get? key = (positions.get? key).filter keep :=
  InsertionMap.get?_filter _ _ _

theorem has_eq_isSome (positions : Positions) (key : Address) :
    positions.has key = (positions.get? key).isSome := rfl

theorem size_put (positions : Positions) (position : UserPosition) :
    (positions.put position).size =
      if positions.has position.account.toLowerCase then positions.size else positions.size + 1 :=
  InsertionMap.size_set _ _ _

theorem size_delete (positions : Positions) (key : Address) :
    (positions.delete key).size + (if positions.has key then 1 else 0) = positions.size :=
  InsertionMap.size_delete _ _

theorem size_keepIf_le (positions : Positions) (keep : UserPosition → Bool) :
    (positions.keepIf keep).size ≤ positions.size :=
  InsertionMap.size_filter_le _ _

end Positions

end LiquidationBot
