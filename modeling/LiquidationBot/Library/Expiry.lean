import LiquidationBot.Library.InsertionMap
import Mathlib.Order.Basic
import Mathlib.Algebra.Order.Ring.Int

/-!
# Holds that expire

A map of deadlines puts keys on hold for a fixed time. A key is pending while its
deadline lies ahead; a check that finds a deadline passed forgets it. Checks are
invisible to later checks, since the clock does not go back.

A key is then pending exactly while one of the holds recorded for it is younger
than the duration, whatever else has been held or checked in between.
-/

namespace LiquidationBot.Expiry

universe u
variable {κ : Type u} [DecidableEq κ]

/-- The key's deadline lies ahead. -/
def Pending (deadlines : InsertionMap κ Int) (now : Int) (key : κ) : Prop :=
  ∃ deadline, deadlines.get? key = some deadline ∧ now < deadline

/-- Put a key on hold from now on. -/
def hold (deadlines : InsertionMap κ Int) (duration now : Int) (key : κ) : InsertionMap κ Int :=
  deadlines.set key (now + duration)

/-- Whether a key is on hold; a deadline that has passed is forgotten. -/
def check (deadlines : InsertionMap κ Int) (now : Int) (key : κ) : InsertionMap κ Int × Bool :=
  match deadlines.get? key with
  | none => (deadlines, false)
  | some deadline => if deadline ≤ now then (deadlines.delete key, false) else (deadlines, true)

theorem check_eq_true_iff (deadlines : InsertionMap κ Int) (now : Int) (key : κ) :
    (check deadlines now key).2 = true ↔ Pending deadlines now key := by
  unfold check Pending
  split
  next absent => simp [absent]
  next deadline found =>
    split
    next passed => simp [found, passed]
    next ahead => simp [found, not_le.mp ahead]

/-- A check changes nothing that a later check could see. -/
theorem pending_check (deadlines : InsertionMap κ Int) {now later : Int} (order : now ≤ later)
    (key tested : κ) :
    Pending (check deadlines now key).1 later tested ↔ Pending deadlines later tested := by
  unfold check
  split
  next => rfl
  next deadline found =>
    split
    next passed =>
      by_cases same : tested = key
      · subst same
        constructor
        · rintro ⟨_, stored, _⟩
          rw [InsertionMap.get?_delete_same] at stored
          cases stored
        · rintro ⟨other, stored, ahead⟩
          rw [found] at stored
          cases stored
          omega
      · unfold Pending
        rw [InsertionMap.get?_delete_other _ same]
    next => rfl

theorem pending_hold (deadlines : InsertionMap κ Int) (duration now later : Int) (key tested : κ) :
    Pending (hold deadlines duration now key) later tested ↔
      if tested = key then later < now + duration else Pending deadlines later tested := by
  unfold hold Pending
  rw [InsertionMap.get?_set]
  split
  next => simp
  next => rfl

/-- From now on, exactly the keys held less than the duration ago are pending. -/
def Reflects (deadlines : InsertionMap κ Int) (duration now : Int) (holds : List (κ × Int)) : Prop :=
  ∀ key later, now ≤ later →
    (Pending deadlines later key ↔ ∃ since, (key, since) ∈ holds ∧ later < since + duration)

theorem reflects_empty (duration now : Int) :
    Reflects (.empty : InsertionMap κ Int) duration now [] := by
  intro key later _
  simp [Pending]

theorem Reflects.wait {deadlines : InsertionMap κ Int} {duration now later : Int}
    {holds : List (κ × Int)} (reflects : Reflects deadlines duration now holds)
    (order : now ≤ later) : Reflects deadlines duration later holds :=
  fun key tested after => reflects key tested (le_trans order after)

theorem Reflects.check {deadlines : InsertionMap κ Int} {duration now : Int}
    {holds : List (κ × Int)} (reflects : Reflects deadlines duration now holds) (key : κ) :
    Reflects (check deadlines now key).1 duration now holds := by
  intro tested later order
  rw [pending_check deadlines order]
  exact reflects tested later order

/-- A hold outlasts all earlier holds of its key. -/
theorem Reflects.hold {deadlines : InsertionMap κ Int} {duration now : Int}
    {holds : List (κ × Int)} (reflects : Reflects deadlines duration now holds)
    (past : ∀ entry ∈ holds, entry.2 ≤ now) (key : κ) :
    Reflects (hold deadlines duration now key) duration now (holds ++ [(key, now)]) := by
  intro tested later order
  rw [pending_hold]
  by_cases same : tested = key
  · subst same
    rw [if_pos rfl]
    constructor
    · intro ahead
      exact ⟨now, by simp, ahead⟩
    · rintro ⟨since, member, ahead⟩
      rcases List.mem_append.mp member with earlier | last
      · have := past _ earlier
        dsimp only at this
        omega
      · cases List.mem_singleton.mp last
        exact ahead
  · rw [if_neg same, reflects tested later order]
    simp [same]

/-- The check answers whether a hold of the key is younger than the duration. -/
theorem Reflects.check_eq_true_iff {deadlines : InsertionMap κ Int} {duration now : Int}
    {holds : List (κ × Int)} (reflects : Reflects deadlines duration now holds) (key : κ) :
    (Expiry.check deadlines now key).2 = true ↔
      ∃ since, (key, since) ∈ holds ∧ now < since + duration :=
  (Expiry.check_eq_true_iff deadlines now key).trans (reflects key now (le_refl now))

end LiquidationBot.Expiry
