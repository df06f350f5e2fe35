import Mathlib.Data.List.Basic
import Mathlib.Tactic.Common

/-!
# Batches of a list

A loop that advances its index by a batch size and reads a slice at each stop
cuts a list at the multiples of the size. The last batch may be shorter, and
every item is in some batch.
-/

namespace LiquidationBot

namespace Batches

variable {α : Type}

/-- The items from `start` on, at most `size` of them. -/
def slice (items : List α) (start size : Nat) : List α := (items.drop start).take size

/-- The slices at the multiples of the size below the length. -/
def batches (size : Nat) (items : List α) : List (List α) :=
  (List.range ((items.length + (size - 1)) / size)).map
    (fun index => slice items (index * size) size)

theorem batches_nil {size : Nat} (positive : 0 < size) : batches size ([] : List α) = [] := by
  have none : (([] : List α).length + (size - 1)) / size = 0 :=
    Nat.div_eq_of_lt (by rw [List.length_nil]; omega)
  rw [batches, none]
  rfl

@[simp] theorem getElem?_slice (items : List α) (start size index : Nat) :
    (slice items start size)[index]? = if index < size then items[start + index]? else none := by
  simp [slice, List.getElem?_take, List.getElem?_drop]

/-- An item of a list at its place is the head or one of the rest. -/
theorem exists_getElem?_cons (head : α) (rest : List α) (holds : Nat → α → Prop) :
    (∃ place item, (head :: rest)[place]? = some item ∧ holds place item) ↔
      holds 0 head ∨ ∃ place item, rest[place]? = some item ∧ holds (place + 1) item := by
  rw [← Nat.or_exists_add_one]
  simp only [List.getElem?_cons_zero, List.getElem?_cons_succ, Option.some.injEq, exists_eq_left']

theorem lt_length_batches_iff {size : Nat} (positive : 0 < size) (items : List α) (index : Nat) :
    index < (batches size items).length ↔ index * size < items.length := by
  rw [batches, List.length_map, List.length_range, Nat.lt_div_iff_mul_lt positive]
  omega

/-- The batch at an index is the slice at its multiple of the size, as long as
that is inside the list. -/
theorem getElem?_batches {size : Nat} (positive : 0 < size) (items : List α) (index : Nat) :
    (batches size items)[index]? =
      if index * size < items.length then some (slice items (index * size) size) else none := by
  have count := lt_length_batches_iff positive items index
  split
  next inside =>
    rw [List.getElem?_eq_getElem (count.mpr inside)]
    simp [batches]
  next outside => exact List.getElem?_eq_none (Nat.le_of_not_lt (mt count.mp outside))

/-- The first slices make up the beginning of the list. -/
theorem flatten_slices (size count : Nat) (items : List α) :
    ((List.range count).map (fun index => slice items (index * size) size)).flatten =
      items.take (count * size) := by
  induction count with
  | zero => simp
  | succ count inductionHypothesis =>
    rw [List.range_succ, List.map_append, List.flatten_append, inductionHypothesis,
      Nat.succ_mul, List.take_add]
    simp [slice]

/-- The batches one after the other are the list. -/
theorem flatten_batches {size : Nat} (positive : 0 < size) (items : List α) :
    (batches size items).flatten = items := by
  rw [batches, flatten_slices]
  apply List.take_of_length_le
  have quotient := Nat.div_add_mod (items.length + (size - 1)) size
  have remainder := Nat.mod_lt (items.length + (size - 1)) positive
  rw [Nat.mul_comm] at quotient
  omega

variable {β σ : Type}

/-- A loop over the batches, each a loop over its items, is the loop over the list. -/
theorem foldl_batches {size : Nat} (positive : 0 < size) (step : σ → α → σ) (start : σ)
    (items : List α) :
    (batches size items).foldl (fun state batch => batch.foldl step state) start =
      items.foldl step start := by
  rw [← List.foldl_flatten, flatten_batches positive]

/-- A loop that finds the result of each item at the item's place in the batch. -/
theorem foldl_aligned (result : α → β) (step : σ → α → Option β → σ) (start : σ)
    (items : List α) :
    items.zipIdx.foldl (fun state entry => step state entry.1 (items.map result)[entry.2]?) start =
      items.foldl (fun state item => step state item (some (result item))) start := by
  have shifted : ∀ (before rest : List α) (state : σ),
      (rest.zipIdx before.length).foldl
          (fun state entry => step state entry.1 ((before ++ rest).map result)[entry.2]?) state =
        rest.foldl (fun state item => step state item (some (result item))) state := by
    intro before rest
    induction rest generalizing before with
    | nil => exact fun _ => rfl
    | cons item rest inductionHypothesis =>
      intro state
      have here : ((before ++ item :: rest).map result)[before.length]? = some (result item) := by
        simp
      have later := inductionHypothesis (before ++ [item]) (step state item (some (result item)))
      rw [List.append_assoc, List.singleton_append, List.length_append,
        List.length_singleton] at later
      rw [List.zipIdx_cons, List.foldl_cons, List.foldl_cons, here, later]
  exact shifted [] items start

end Batches

end LiquidationBot
