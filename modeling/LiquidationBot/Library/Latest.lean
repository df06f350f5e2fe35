import Mathlib.Data.List.DropRight
import Mathlib.Tactic.Common

/-!
# The latest entries of a log

A log that is bounded keeps the last entries of the log that is not. Bounding it after
every entry gives the same as bounding it once, so the whole run can be read off the
unbounded log.
-/

namespace LiquidationBot.Latest

universe u
variable {α : Type u}

/-- Shift the oldest entries out while there are more than the limit. -/
def shiftOver (limit : Nat) : List α → List α
  | [] => []
  | oldest :: rest =>
      if (oldest :: rest).length > limit then shiftOver limit rest else oldest :: rest

theorem shiftOver_eq (limit : Nat) (entries : List α) :
    shiftOver limit entries = entries.rtake limit := by
  induction entries with
  | nil => simp [shiftOver]
  | cons oldest rest inductionHypothesis =>
    rw [shiftOver]
    split
    next excess =>
      have one : (oldest :: rest).length - limit = rest.length - limit + 1 := by
        simp only [List.length_cons] at excess ⊢
        omega
      rw [inductionHypothesis, List.rtake, List.rtake, one, List.drop_succ_cons]
    next fits =>
      have whole : (oldest :: rest).length - limit = 0 := by omega
      rw [List.rtake, whole, List.drop_zero]

/-- Bounding the log before an entry does not change the bounded log after it. -/
theorem rtake_rtake_snoc (limit : Nat) (entries : List α) (entry : α) :
    (entries.rtake limit ++ [entry]).rtake limit = (entries ++ [entry]).rtake limit := by
  cases limit with
  | zero => simp
  | succ limit =>
    rw [List.rtake_concat_succ, List.rtake_concat_succ]
    congr 1
    simp only [List.rtake_eq_reverse_take_reverse, List.reverse_reverse, List.take_take,
      Nat.min_eq_left (Nat.le_succ limit)]

end LiquidationBot.Latest
