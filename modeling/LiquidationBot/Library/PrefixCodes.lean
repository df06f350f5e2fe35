import Mathlib.Data.List.Basic
import Mathlib.Tactic.Common

/-!
# Prefix codes

A code writes each value as a text. It is a prefix code if a text that starts with
the code of some value starts with that of no other one, so that the value and the
text behind it are determined. Pairs, alternatives and sequences of prefix codes
are prefix codes again, under what keeps their parts apart.
-/

namespace LiquidationBot

variable {α β γ : Type}

/-- A text that starts with a code determines the value and the rest. -/
def PrefixCode (write : β → List α) : Prop :=
  ∀ value other rest after, write value ++ rest = write other ++ after →
    value = other ∧ rest = after

/-- No code is empty or starts with the letter. -/
def StartsApart (letter : α) (write : β → List α) : Prop :=
  ∀ value, ∃ first rest, write value = first :: rest ∧ first ≠ letter

/-- A sequence up to its closing letter. -/
def closedBy (close : α) (write : β → List α) : List β → List α
  | [] => [close]
  | value :: values => write value ++ closedBy close write values

/-- A sequence with a letter between its values, up to its closing letter. -/
def separatedBy (separator close : α) (write : β → List α) : List β → List α
  | [] => [close]
  | value :: values => write value ++ closedBy close (fun later => separator :: write later) values

/-- By the values. -/
theorem closedBy_eq_append (close : α) (write : β → List α) (values : List β) :
    ∃ body, closedBy close write values = body ++ [close] := by
  induction values with
  | nil => exact ⟨[], rfl⟩
  | cons value values inductionHypothesis =>
    obtain ⟨body, written⟩ := inductionHypothesis
    exact ⟨write value ++ body, by rw [closedBy, written, List.append_assoc]⟩

theorem separatedBy_eq_append (separator close : α) (write : β → List α) (values : List β) :
    ∃ body, separatedBy separator close write values = body ++ [close] := by
  cases values with
  | nil => exact ⟨[], rfl⟩
  | cons value values =>
    obtain ⟨body, written⟩ :=
      closedBy_eq_append close (fun later => separator :: write later) values
    exact ⟨write value ++ body, by rw [separatedBy, written, List.append_assoc]⟩

namespace PrefixCode

variable {write : β → List α}

theorem injective (code : PrefixCode write) : Function.Injective write := by
  intro value other same
  exact (code value other [] [] (by rw [same])).1

/-- A letter in front of every code. -/
theorem mark (letter : α) (code : PrefixCode write) :
    PrefixCode (fun value => letter :: write value) := by
  intro value other rest after same
  exact code value other rest after (List.cons.inj same).2

theorem pair {writeNext : γ → List α} (code : PrefixCode write) (next : PrefixCode writeNext) :
    PrefixCode (fun value : β × γ => write value.1 ++ writeNext value.2) := by
  rintro ⟨first, second⟩ ⟨first', second'⟩ rest after same
  simp only [List.append_assoc] at same
  obtain ⟨rfl, later⟩ := code _ _ _ _ same
  obtain ⟨rfl, tail⟩ := next _ _ _ _ later
  exact ⟨rfl, tail⟩

/-- Two codes, of which one starts with a letter that the other never starts with. -/
theorem sum {letter : α} {writeOther : γ → List α}
    (code : PrefixCode (fun value => letter :: write value)) (other : PrefixCode writeOther)
    (apart : StartsApart letter writeOther) :
    PrefixCode (Sum.elim (fun value => letter :: write value) writeOther) := by
  rintro (value | value) (value' | value') rest after same
  · obtain ⟨rfl, tail⟩ := code _ _ _ _ same
    exact ⟨rfl, tail⟩
  · obtain ⟨first, behind, written, different⟩ := apart value'
    simp only [Sum.elim_inl, Sum.elim_inr, written, List.cons_append, List.cons.injEq] at same
    exact absurd same.1.symm different
  · obtain ⟨first, behind, written, different⟩ := apart value
    simp only [Sum.elim_inl, Sum.elim_inr, written, List.cons_append, List.cons.injEq] at same
    exact absurd same.1 different
  · obtain ⟨rfl, tail⟩ := other _ _ _ _ same
    exact ⟨rfl, tail⟩

/-- A value is written where another sequence may be closed: the two differ. -/
theorem close_ne {close : α} (apart : StartsApart close write) (value : β)
    (rest after : List α) : close :: rest ≠ write value ++ after := by
  obtain ⟨first, behind, written, different⟩ := apart value
  rw [written]
  intro same
  exact different (List.cons.inj same).1.symm

/-- Induction on the values, with the other sequence and the texts behind arbitrary. -/
theorem closedBy {close : α} (code : PrefixCode write) (apart : StartsApart close write) :
    PrefixCode (closedBy close write) := by
  intro values
  induction values with
  | nil =>
    intro others rest after same
    cases others with
    | nil => exact ⟨rfl, (List.cons.inj same).2⟩
    | cons other others =>
      rw [LiquidationBot.closedBy, LiquidationBot.closedBy, List.append_assoc] at same
      exact absurd same (close_ne apart other rest _)
  | cons value values inductionHypothesis =>
    intro others rest after same
    cases others with
    | nil =>
      rw [LiquidationBot.closedBy, LiquidationBot.closedBy, List.append_assoc] at same
      exact absurd same.symm (close_ne apart value after _)
    | cons other others =>
      rw [LiquidationBot.closedBy, LiquidationBot.closedBy, List.append_assoc,
        List.append_assoc] at same
      obtain ⟨rfl, later⟩ := code _ _ _ _ same
      obtain ⟨rfl, tail⟩ := inductionHypothesis _ _ _ later
      exact ⟨rfl, tail⟩

theorem separatedBy {separator close : α} (code : PrefixCode write)
    (apart : StartsApart close write) (different : separator ≠ close) :
    PrefixCode (separatedBy separator close write) := by
  have later : PrefixCode (LiquidationBot.closedBy close (fun value => separator :: write value)) :=
    (code.mark separator).closedBy (fun value => ⟨separator, write value, rfl, different⟩)
  intro values others rest after same
  cases values with
  | nil =>
    cases others with
    | nil => exact ⟨rfl, (List.cons.inj same).2⟩
    | cons other others =>
      rw [LiquidationBot.separatedBy, LiquidationBot.separatedBy, List.append_assoc] at same
      exact absurd same (close_ne apart other rest _)
  | cons value values =>
    cases others with
    | nil =>
      rw [LiquidationBot.separatedBy, LiquidationBot.separatedBy, List.append_assoc] at same
      exact absurd same.symm (close_ne apart value after _)
    | cons other others =>
      obtain ⟨equal, tail⟩ := (code.pair later) (value, values) (other, others) rest after same
      exact ⟨by rw [(Prod.mk.inj equal).1, (Prod.mk.inj equal).2], tail⟩

end PrefixCode

end LiquidationBot
