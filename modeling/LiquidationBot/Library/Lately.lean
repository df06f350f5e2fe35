import LiquidationBot.Library.InsertionMap
import Mathlib.Algebra.Order.Ring.Int

/-!
# Keys seen lately

A map keeps for each key the time at which it was first seen, and forgets what is older
than a window whenever it is used. A look at a key answers the time it is stored under, or
nothing if the key is still there.

A key that was stored stays until some later look at the clock finds its time outside the
window. The clock may go back: what counts is the latest of the times that were read.
-/

namespace LiquidationBot.Lately

universe u
variable {κ : Type u} [DecidableEq κ]

/-- What is done with the map, at a time. -/
inductive Use (κ : Type u) where
  | prune (now : Int)
  | look (now : Int) (key : κ)
deriving DecidableEq

def Use.time : Use κ → Int
  | .prune now => now
  | .look now _ => now

/-- Forget what was seen before the window. -/
def prune (window now : Int) (seen : InsertionMap κ Int) : InsertionMap κ Int :=
  seen.filter (fun _ since => !decide (since < now - window))

/-- Store a key that is not there. -/
def look (window now : Int) (key : κ) (seen : InsertionMap κ Int) : InsertionMap κ Int × Option Int :=
  let kept := prune window now seen
  if kept.has key then (kept, none) else (kept.set key now, some now)

def Use.apply (window : Int) (seen : InsertionMap κ Int) : Use κ → InsertionMap κ Int
  | .prune now => Lately.prune window now seen
  | .look now key => (Lately.look window now key seen).1

def after (window : Int) (seen : InsertionMap κ Int) (uses : List (Use κ)) : InsertionMap κ Int :=
  uses.foldl (Use.apply window) seen

/-- What the looks answer. -/
def answers (window : Int) : InsertionMap κ Int → List (Use κ) → List (κ × Option Int)
  | _, [] => []
  | seen, .prune now :: uses => answers window (prune window now seen) uses
  | seen, .look now key :: uses =>
      (key, (look window now key seen).2) :: answers window (look window now key seen).1 uses

/-- A look stores the key, and the later uses follow it. -/
def Stored (window : Int) (seen : InsertionMap κ Int) (uses : List (Use κ)) (key : κ) (now : Int)
    (later : List (Use κ)) : Prop :=
  ∃ earlier, uses = earlier ++ .look now key :: later ∧
    (look window now key (after window seen earlier)).2 = some now

/-- None of the times finds what was seen then outside the window. -/
def Kept (window since : Int) (times : List Int) : Prop := ∀ time ∈ times, time - window ≤ since

/-! ## One use -/

section Uses

variable {window now : Int} {key : κ} {seen : InsertionMap κ Int}

theorem get?_prune_eq_some_iff {since : Int} : (prune window now seen).get? key = some since ↔
    seen.get? key = some since ∧ now - window ≤ since := by
  rw [prune, InsertionMap.get?_filter, Option.filter_eq_some_iff]
  simp

/-- The key is still there. -/
theorem has_prune_iff : (prune window now seen).has key = true ↔
    ∃ since, seen.get? key = some since ∧ now - window ≤ since := by
  simp only [InsertionMap.has, Option.isSome_iff_exists, get?_prune_eq_some_iff]

theorem look_of_has (held : (prune window now seen).has key = true) :
    look window now key seen = (prune window now seen, none) := if_pos held

theorem look_of_not_has (gone : (prune window now seen).has key = false) :
    look window now key seen = ((prune window now seen).set key now, some now) := by
  unfold look
  simp only [gone, Bool.false_eq_true, if_false]

/-- A look answers nothing exactly if the key was seen in the window. -/
theorem look_eq_none_iff : (look window now key seen).2 = none ↔
    ∃ since, seen.get? key = some since ∧ now - window ≤ since := by
  rw [← has_prune_iff]
  cases held : (prune window now seen).has key with
  | true => simp [look_of_has held]
  | false => simp [look_of_not_has held]

theorem look_eq_some {stored : Int} (answered : (look window now key seen).2 = some stored) :
    stored = now := by
  cases held : (prune window now seen).has key with
  | true =>
    rw [look_of_has held] at answered
    cases answered
  | false =>
    rw [look_of_not_has held] at answered
    exact (Option.some.inj answered).symm

/-- After a use, a key has the time at which the use stored it, or the one it had. -/
theorem get?_apply_eq_some_iff {use : Use κ} {since : Int} :
    (use.apply window seen).get? key = some since ↔
      (use = .look since key ∧ (look window since key seen).2 = some since) ∨
        (seen.get? key = some since ∧ use.time - window ≤ since) := by
  cases use with
  | prune now =>
    simp only [Use.apply, Use.time, get?_prune_eq_some_iff, reduceCtorEq, false_and, false_or]
  | look now looked =>
    simp only [Use.apply, Use.time, Use.look.injEq]
    cases held : (prune window now seen).has looked with
    | true =>
      rw [look_of_has held, get?_prune_eq_some_iff]
      constructor
      · exact Or.inr
      · rintro (⟨⟨rfl, rfl⟩, answered⟩ | kept)
        · rw [look_of_has held] at answered
          cases answered
        · exact kept
    | false =>
      rw [look_of_not_has held, InsertionMap.get?_set]
      split
      next same =>
        subst same
        constructor
        · intro stored
          cases stored
          exact Or.inl ⟨⟨rfl, rfl⟩, by rw [look_of_not_has held]⟩
        · rintro (⟨⟨rfl, _⟩, _⟩ | kept)
          · rfl
          · rw [has_prune_iff.mpr ⟨since, kept⟩] at held
            cases held
      next different =>
        rw [get?_prune_eq_some_iff]
        constructor
        · exact Or.inr
        · rintro (⟨⟨_, same⟩, _⟩ | kept)
          · exact absurd same.symm different
          · exact kept

end Uses

/-! ## Runs of uses -/

section Runs

variable {window now next : Int} {key : κ} {seen : InsertionMap κ Int} {uses later : List (Use κ)}

theorem kept_append {since : Int} {times others : List Int} :
    Kept window since (times ++ others) ↔ Kept window since times ∧ Kept window since others :=
  List.forall_mem_append

theorem kept_cons {since time : Int} {times : List Int} :
    Kept window since (time :: times) ↔ time - window ≤ since ∧ Kept window since times :=
  List.forall_mem_cons

theorem stored_cons {use : Use κ} : Stored window seen (use :: uses) key now later ↔
    (use = .look now key ∧ (look window now key seen).2 = some now ∧ later = uses) ∨
      Stored window (use.apply window seen) uses key now later := by
  constructor
  · rintro ⟨earlier, split, answered⟩
    cases earlier with
    | nil =>
      obtain ⟨rfl, rfl⟩ := List.cons.inj split
      exact Or.inl ⟨rfl, answered, rfl⟩
    | cons first earlier =>
      obtain ⟨rfl, rest⟩ := List.cons.inj split
      exact Or.inr ⟨earlier, rest, answered⟩
  · rintro (⟨rfl, answered, rfl⟩ | ⟨earlier, rfl, answered⟩)
    · exact ⟨[], rfl, answered⟩
    · exact ⟨use :: earlier, rfl, answered⟩

/-- A time that is held after the uses was stored by one of them, or was there before, and was
kept ever since. Induct on the uses. -/
theorem get?_after_iff {since : Int} : (after window seen uses).get? key = some since ↔
    (∃ later, Stored window seen uses key since later ∧ Kept window since (later.map Use.time)) ∨
      (seen.get? key = some since ∧ Kept window since (uses.map Use.time)) := by
  induction uses generalizing seen with
  | nil => simp [after, Stored, Kept]
  | cons use uses inductionHypothesis =>
    rw [after, List.foldl_cons, ← after, inductionHypothesis, get?_apply_eq_some_iff, List.map_cons,
      kept_cons]
    simp only [stored_cons]
    constructor
    · rintro (⟨later, stored, kept⟩ | ⟨⟨looked, answered⟩ | ⟨held, inside⟩, kept⟩)
      · exact Or.inl ⟨later, Or.inr stored, kept⟩
      · exact Or.inl ⟨uses, Or.inl ⟨looked, answered, rfl⟩, kept⟩
      · exact Or.inr ⟨held, inside, kept⟩
    · rintro (⟨later, ⟨looked, answered, rfl⟩ | stored, kept⟩ | ⟨held, inside, kept⟩)
      · exact Or.inr ⟨Or.inl ⟨looked, answered⟩, kept⟩
      · exact Or.inl ⟨later, stored, kept⟩
      · exact Or.inr ⟨Or.inr ⟨held, inside⟩, kept⟩

/-- A key that was stored in a run is still seen later exactly if some time that the run stored it
under was kept ever since. -/
theorem Stored.look_eq_none_iff (stored : Stored window seen uses key now later) :
    (look window next key (after window seen uses)).2 = none ↔
      ∃ since later, Stored window seen uses key since later ∧
        Kept window since (later.map Use.time ++ [next]) := by
  rw [Lately.look_eq_none_iff]
  simp only [kept_append, kept_cons]
  constructor
  · rintro ⟨since, held, inside⟩
    rcases get?_after_iff.mp held with ⟨later, stored, kept⟩ | ⟨before, kept⟩
    · exact ⟨since, later, stored, kept, inside, by simp [Kept]⟩
    · -- the look that stored the key would have found it
      obtain ⟨earlier, rfl, answered⟩ := stored
      rw [List.map_append, List.map_cons, kept_append, kept_cons] at kept
      have found : (look window now key (after window seen earlier)).2 = none :=
        Lately.look_eq_none_iff.mpr ⟨since, get?_after_iff.mpr (Or.inr ⟨before, kept.1⟩), kept.2.1⟩
      rw [found] at answered
      cases answered
  · rintro ⟨since, later, stored, kept, inside, _⟩
    exact ⟨since, get?_after_iff.mpr (Or.inl ⟨later, stored, kept⟩), inside⟩

/-- The answers tell what was stored. -/
theorem mem_answers_iff : (key, some now) ∈ answers window seen uses ↔
    ∃ later, Stored window seen uses key now later := by
  induction uses generalizing seen with
  | nil => simp [answers, Stored]
  | cons use uses inductionHypothesis =>
    simp only [stored_cons]
    cases use with
    | prune time =>
      rw [answers, inductionHypothesis]
      simp [Use.apply]
    | look time looked =>
      rw [answers, List.mem_cons, inductionHypothesis]
      constructor
      · rintro (same | ⟨later, stored⟩)
        · obtain ⟨rfl, answered⟩ := Prod.mk.inj same
          obtain rfl := look_eq_some answered.symm
          exact ⟨uses, Or.inl ⟨rfl, answered.symm, rfl⟩⟩
        · exact ⟨later, Or.inr stored⟩
      · rintro ⟨later, ⟨same, answered, _⟩ | stored⟩
        · obtain ⟨rfl, rfl⟩ := Use.look.inj same
          exact Or.inl (by rw [answered])
        · exact Or.inr ⟨later, stored⟩

end Runs

end LiquidationBot.Lately
