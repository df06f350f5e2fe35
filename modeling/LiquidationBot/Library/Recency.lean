import Mathlib.Data.List.Infix
import Mathlib.Tactic.Common

/-!
# Which of two keys is less recent

A history is a list of keys, oldest first. Of two keys, the less recent is the
one that has not occurred since some occurrence of the other.
-/

namespace LiquidationBot.Recency

universe u
variable {κ : Type u}

/-- The other key has occurred since the key did. -/
def LastBefore (history : List κ) (key other : κ) : Prop :=
  ∃ earlier later, history = earlier ++ later ∧ key ∉ later ∧ other ∈ later

variable {history : List κ} {key other last : κ}

theorem lastBefore_snoc :
    LastBefore (history ++ [last]) key other ↔
      key ≠ last ∧ (other = last ∨ LastBefore history key other) := by
  constructor
  · rintro ⟨earlier, later, split, absent, present⟩
    rcases List.eq_nil_or_concat later with rfl | ⟨before, final, rfl⟩
    · cases present
    · rw [List.concat_eq_append] at split absent present
      rw [← List.append_assoc] at split
      obtain ⟨rfl, same⟩ := List.append_inj' split rfl
      cases same
      simp only [List.mem_append, List.mem_singleton, not_or] at absent present
      refine ⟨absent.2, ?_⟩
      rcases present with inside | here
      · exact Or.inr ⟨earlier, before, rfl, absent.1, inside⟩
      · exact Or.inl here
  · rintro ⟨different, rfl | ⟨earlier, later, rfl, absent, present⟩⟩
    · exact ⟨history, [other], rfl, by simpa using different, by simp⟩
    · refine ⟨earlier, later ++ [last], by rw [List.append_assoc], ?_, ?_⟩
      · simp [absent, different]
      · simp [present]

theorem lastBefore_asymm (before : LastBefore history key other) :
    ¬ LastBefore history other key := by
  induction history using List.reverseRecOn with
  | nil =>
    obtain ⟨earlier, later, split, _, present⟩ := before
    rw [(List.append_eq_nil_iff.mp split.symm).2] at present
    cases present
  | append_singleton history last inductionHypothesis =>
    rw [lastBefore_snoc] at before ⊢
    rintro ⟨otherDifferent, after⟩
    exact inductionHypothesis (before.2.resolve_left otherDifferent)
      (after.resolve_left before.1)

/-- Two keys are comparable as soon as one of them has occurred. -/
theorem lastBefore_total (different : key ≠ other) (present : other ∈ history) :
    LastBefore history key other ∨ LastBefore history other key := by
  induction history using List.reverseRecOn with
  | nil => cases present
  | append_singleton history last inductionHypothesis =>
    rw [lastBefore_snoc, lastBefore_snoc]
    by_cases ofKey : key = last
    · exact Or.inr ⟨fun same => different (ofKey.trans same.symm), Or.inl ofKey⟩
    · by_cases ofOther : other = last
      · exact Or.inl ⟨ofKey, Or.inl ofOther⟩
      · have before : other ∈ history := by simpa [ofOther] using present
        rcases inductionHypothesis before with first | second
        · exact Or.inl ⟨ofKey, Or.inr first⟩
        · exact Or.inr ⟨ofOther, Or.inr second⟩

theorem lastBefore_iff_not (different : key ≠ other) (present : other ∈ history) :
    LastBefore history key other ↔ ¬ LastBefore history other key := by
  refine ⟨lastBefore_asymm, fun not => ?_⟩
  exact (lastBefore_total different present).resolve_right not

end LiquidationBot.Recency
