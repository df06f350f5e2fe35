import Mathlib.Algebra.Order.Ring.Abs
import Mathlib.Data.List.Nodup
import Mathlib.Tactic.Linarith

/-!
# Entries spaced in time

A key is taken up at a time, held for a while and then released, and only its
release notes the time. Whether a key may be taken up is decided by its note
alone. Entries of one key come out a gap apart as long as no key is taken up
twice at once; the note cannot tell that a key is held.
-/

namespace LiquidationBot.Spacing

universe u v
variable {κ : Type u} {T : Type v} [CommRing T] [LinearOrder T]

/-- Two entries of one key are at least the gap apart. -/
def Spaced (gap : T) (first second : κ × T) : Prop :=
  first.1 = second.1 → gap ≤ |first.2 - second.2|

/-- The key's note is at least the gap old. -/
def Free (gap : T) (noted : κ → Option T) (entry : κ × T) : Prop :=
  ∀ last, noted entry.1 = some last → gap ≤ entry.2 - last

/-- With the note of each key, the entries held and the entries released: no key
is held twice, what is held was free, and whatever the notes let pass is spaced
from all that was released. -/
structure Kept (gap : T) (noted : κ → Option T) (held released : List (κ × T)) : Prop where
  once : (held.map Prod.fst).Nodup
  free : ∀ entry ∈ held, Free gap noted entry
  covered : ∀ entry ∈ released, ∃ last, noted entry.1 = some last ∧
    ∀ time, gap ≤ time - last → gap ≤ |time - entry.2|
  spaced : released.Pairwise (Spaced gap)

variable {gap : T} {noted : κ → Option T} {held released : List (κ × T)}

theorem spaced_symm [IsStrictOrderedRing T] {first second : κ × T}
    (spaced : Spaced gap first second) : Spaced gap second first := by
  intro same
  rw [abs_sub_comm]
  exact spaced same.symm

theorem kept_empty (gap : T) (noted : κ → Option T) : Kept gap noted [] [] where
  once := List.nodup_nil
  free := by simp
  covered := by simp
  spaced := List.Pairwise.nil

/-- Take up a key that is free and not held. -/
theorem Kept.take (kept : Kept gap noted held released) {entry : κ × T} {more : List (κ × T)}
    (order : more.Perm (entry :: held)) (absent : entry.1 ∉ held.map Prod.fst)
    (free : Free gap noted entry) : Kept gap noted more released where
  once := (order.map Prod.fst).nodup_iff.mpr (List.nodup_cons.mpr ⟨absent, kept.once⟩)
  free := by
    intro other member
    rcases List.mem_cons.mp (order.mem_iff.mp member) with rfl | earlier
    · exact free
    · exact kept.free other earlier
  covered := kept.covered
  spaced := kept.spaced

/-- Give up some of what is held, without a note. -/
theorem Kept.drop (kept : Kept gap noted held released) {fewer : List (κ × T)}
    (dropped : fewer.Sublist held) : Kept gap noted fewer released where
  once := kept.once.sublist (dropped.map Prod.fst)
  free := fun entry member => kept.free entry (dropped.subset member)
  covered := kept.covered
  spaced := kept.spaced

variable [IsStrictOrderedRing T]

/-- What is a gap after a time that is a gap after another is a gap after that. -/
theorem gap_trans {first second third : T} (later : gap ≤ second - first)
    (latest : gap ≤ third - second) : gap ≤ third - first ∨ gap < 0 := by
  rcases lt_or_ge gap 0 with negative | nonneg
  · exact Or.inr negative
  · left
    linarith

/-- Release some of what is held, all with one note. -/
theorem Kept.release [DecidableEq κ] (kept : Kept gap noted held released)
    {renoted : κ → Option T} {entries rest all : List (κ × T)} {now : T}
    (order : held.Perm (entries ++ rest)) (times : ∀ entry ∈ entries, entry.2 = now)
    (notes : ∀ key, renoted key = if key ∈ entries.map Prod.fst then some now else noted key)
    (out : all.Perm (entries ++ released)) : Kept gap renoted rest all := by
  have split : ((entries ++ rest).map Prod.fst).Nodup :=
    (order.map Prod.fst).nodup_iff.mp kept.once
  rw [List.map_append, List.nodup_append] at split
  obtain ⟨entriesOnce, restOnce, distinct⟩ := split
  have freeBefore : ∀ entry ∈ entries ++ rest, Free gap noted entry := fun entry member =>
    kept.free entry (order.mem_iff.mpr member)
  constructor
  · exact restOnce
  · intro entry member last found
    have unnoted : entry.1 ∉ entries.map Prod.fst := fun also =>
      distinct entry.1 also entry.1 (List.mem_map_of_mem member) rfl
    rw [notes, if_neg unnoted] at found
    exact freeBefore entry (List.mem_append_right entries member) last found
  · intro entry member
    rcases List.mem_append.mp (out.mem_iff.mp member) with fresh | earlier
    · refine ⟨now, ?_, ?_⟩
      · rw [notes, if_pos (List.mem_map_of_mem fresh)]
      · intro time after
        rw [times entry fresh]
        exact after.trans (le_abs_self _)
    · obtain ⟨last, found, apart⟩ := kept.covered entry earlier
      by_cases again : entry.1 ∈ entries.map Prod.fst
      · refine ⟨now, ?_, ?_⟩
        · rw [notes, if_pos again]
        · intro time after
          obtain ⟨source, among, same⟩ := List.mem_map.mp again
          have before : gap ≤ now - last := by
            rw [← times source among]
            exact freeBefore source (List.mem_append_left rest among) last (by rw [same, found])
          rcases gap_trans before after with far | negative
          · exact apart time far
          · exact negative.le.trans (abs_nonneg _)
      · refine ⟨last, ?_, apart⟩
        rw [notes, if_neg again]
        exact found
  · refine (out.pairwise_iff spaced_symm).mpr (List.pairwise_append.mpr ⟨?_, kept.spaced, ?_⟩)
    · have keys : entries.Pairwise (fun first second => first.1 ≠ second.1) :=
        List.pairwise_map.mp entriesOnce
      exact keys.imp (fun different same => absurd same different)
    · intro entry fresh other earlier same
      obtain ⟨last, found, apart⟩ := kept.covered other earlier
      apply apart
      exact freeBefore entry (List.mem_append_left rest fresh) last (by rw [same, found])

end LiquidationBot.Spacing
