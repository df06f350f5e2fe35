import Mathlib.Algebra.Ring.Nat
import Mathlib.Data.List.Basic
import Mathlib.Tactic.Common

/-!
# Ranges that tile an interval

Ranges are pairs of a first and a last number. They tile an interval when the first
of them begins where it does, each of the others begins behind the one before, and
the last ends with it. Then every number of the interval is in exactly one range.
-/

namespace LiquidationBot.Tiles

/-- The ranges fill the numbers from a start on, up to but without a stop. -/
def Tile : Nat → Nat → List (Nat × Nat) → Prop
  | start, stop, [] => start = stop
  | start, stop, range :: rest =>
      range.1 = start ∧ range.1 ≤ range.2 ∧ Tile (range.2 + 1) stop rest

def Covers (range : Nat × Nat) (number : Nat) : Prop := range.1 ≤ number ∧ number ≤ range.2

variable {start middle stop : Nat} {ranges more : List (Nat × Nat)}

theorem tile_singleton {first last : Nat} (order : first ≤ last) :
    Tile first (last + 1) [(first, last)] := ⟨rfl, order, rfl⟩

theorem Tile.append (front : Tile start middle ranges) (back : Tile middle stop more) :
    Tile start stop (ranges ++ more) := by
  induction ranges generalizing start with
  | nil =>
    cases front
    exact back
  | cons range rest inductionHypothesis =>
    obtain ⟨begins, order, remaining⟩ := front
    exact ⟨begins, order, inductionHypothesis remaining⟩

theorem Tile.le (tile : Tile start stop ranges) : start ≤ stop := by
  induction ranges generalizing start with
  | nil => exact Nat.le_of_eq tile
  | cons range rest inductionHypothesis =>
    obtain ⟨rfl, order, remaining⟩ := tile
    have later := inductionHypothesis remaining
    omega

/-- The ranges cover the interval and nothing else. -/
theorem Tile.covers_iff (tile : Tile start stop ranges) (number : Nat) :
    (∃ range ∈ ranges, Covers range number) ↔ start ≤ number ∧ number < stop := by
  induction ranges generalizing start with
  | nil =>
    cases tile
    simp
  | cons range rest inductionHypothesis =>
    obtain ⟨rfl, order, remaining⟩ := tile
    have bound := remaining.le
    simp only [List.mem_cons, exists_eq_or_imp]
    rw [inductionHypothesis remaining, Covers]
    omega

/-- No number is in two of the ranges. -/
theorem Tile.disjoint (tile : Tile start stop ranges) :
    ranges.Pairwise (fun first second => ∀ number, ¬ (Covers first number ∧ Covers second number)) := by
  induction ranges generalizing start with
  | nil => exact List.Pairwise.nil
  | cons range rest inductionHypothesis =>
    obtain ⟨rfl, order, remaining⟩ := tile
    refine List.pairwise_cons.mpr ⟨?_, inductionHypothesis remaining⟩
    rintro other member number ⟨first, second⟩
    have behind := ((remaining.covers_iff number).mp ⟨other, member, second⟩).1
    exact absurd first.2 (by omega)

/-- No range comes twice. -/
theorem Tile.nodup (tile : Tile start stop ranges) : ranges.Nodup := by
  induction ranges generalizing start with
  | nil => exact List.nodup_nil
  | cons range rest inductionHypothesis =>
    obtain ⟨rfl, order, remaining⟩ := tile
    refine List.nodup_cons.mpr ⟨fun member => ?_, inductionHypothesis remaining⟩
    have behind := ((remaining.covers_iff range.1).mp ⟨range, member, Nat.le_refl _, order⟩).1
    exact absurd behind (by omega)

/-- Counting by ranges counts every number of the interval once. -/
theorem Tile.sum_countP {α : Type*} (tile : Tile start stop ranges) (items : List α)
    (number : α → Nat) (chosen : α → Prop) [DecidablePred chosen] :
    (ranges.map (fun range => items.countP (fun item =>
      decide (chosen item ∧ range.1 ≤ number item ∧ number item ≤ range.2)))).sum =
      items.countP (fun item =>
        decide (chosen item ∧ start ≤ number item ∧ number item < stop)) := by
  induction ranges generalizing start with
  | nil =>
    cases tile
    rw [List.map_nil, List.sum_nil, eq_comm, List.countP_eq_zero]
    intro item _
    simp only [decide_eq_true_eq]
    omega
  | cons range rest inductionHypothesis =>
    obtain ⟨rfl, order, remaining⟩ := tile
    have bound := remaining.le
    rw [List.map_cons, List.sum_cons, inductionHypothesis remaining]
    clear inductionHypothesis
    induction items with
    | nil => rfl
    | cons item items each =>
      simp only [List.countP_cons, decide_eq_true_eq]
      rw [← each]
      by_cases selected : chosen item
      · simp only [selected, true_and]
        split_ifs <;> omega
      · simp only [selected, false_and, if_false, Nat.add_zero]

end LiquidationBot.Tiles
