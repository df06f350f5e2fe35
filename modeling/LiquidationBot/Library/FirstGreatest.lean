import Mathlib.Data.List.Basic
import Mathlib.Data.List.Induction
import Mathlib.Order.Lattice
import Mathlib.Tactic.Common

/-!
# The head of a stably sorted list

A stable sort by descending keys puts the greatest entries first and keeps their
order. Its head is therefore the first of the greatest entries, and that is all
a caller learns who looks at the head alone.
-/

namespace LiquidationBot.FirstGreatest

universe u v
variable {α : Type u} {κ : Type v} [LinearOrder κ]

/-- No entry has a higher key, and every earlier one has a lower key. -/
def IsFirst (key : α → κ) (entries : List α) (entry : α) : Prop :=
  ∃ earlier later, entries = earlier ++ entry :: later ∧
    (∀ other ∈ earlier, key other < key entry) ∧ ∀ other ∈ later, key other ≤ key entry

def notBelow (key : α → κ) (left right : α) : Bool := decide (key right ≤ key left)

/-- Entries in descending order of their keys; equal keys keep their order. -/
def sortDescending (key : α → κ) (entries : List α) : List α :=
  entries.mergeSort (notBelow key)

def greatest (key : α → κ) (entries : List α) (entry : α) : Bool :=
  entries.all (fun other => decide (key other ≤ key entry))

theorem greatest_iff (key : α → κ) (entries : List α) (entry : α) :
    greatest key entries entry = true ↔ ∀ other ∈ entries, key other ≤ key entry := by
  simp [greatest]

theorem notBelow_trans (key : α → κ) (first second third : α)
    (left : notBelow key first second = true) (right : notBelow key second third = true) :
    notBelow key first third = true :=
  decide_eq_true ((of_decide_eq_true right).trans (of_decide_eq_true left))

theorem notBelow_total (key : α → κ) (left right : α) :
    (notBelow key left right || notBelow key right left) = true := by
  rcases le_total (key right) (key left) with below | above
  · simp [notBelow, below]
  · simp [notBelow, above]

theorem sortDescending_pairwise (key : α → κ) (entries : List α) :
    (sortDescending key entries).Pairwise (fun left right => key right ≤ key left) := by
  have sorted := List.pairwise_mergeSort (notBelow_trans key) (notBelow_total key) entries
  exact sorted.imp (fun below => of_decide_eq_true below)

/-- The greatest entries stand in the sorted list in their old order. -/
theorem filter_sortDescending (key : α → κ) (entries : List α) :
    (sortDescending key entries).filter (greatest key entries) =
      entries.filter (greatest key entries) := by
  have equalKeys : (entries.filter (greatest key entries)).Pairwise
      (fun left right => notBelow key left right = true) := by
    apply List.pairwise_of_forall_mem_list
    intro left chosen right other
    have highest := (greatest_iff key entries left).mp (List.mem_filter.mp chosen).2
    exact decide_eq_true (highest right (List.mem_filter.mp other).1)
  have kept : (entries.filter (greatest key entries)).Sublist (sortDescending key entries) :=
    List.sublist_mergeSort (notBelow_trans key) (notBelow_total key) equalKeys List.filter_sublist
  have chosen := kept.filter (greatest key entries)
  rw [List.filter_filter] at chosen
  simp only [Bool.and_self] at chosen
  have permuted : ((sortDescending key entries).filter (greatest key entries)).Perm
      (entries.filter (greatest key entries)) :=
    (List.mergeSort_perm entries _).filter _
  exact (chosen.eq_of_length permuted.length_eq.symm).symm

/-- The head of the sorted list is the first of the greatest entries. -/
theorem head?_sortDescending (key : α → κ) (entries : List α) :
    (sortDescending key entries).head? = entries.find? (greatest key entries) := by
  rw [← List.head?_filter, ← filter_sortDescending]
  cases sorted : sortDescending key entries with
  | nil => rfl
  | cons first rest =>
    have pairwise := sortDescending_pairwise key entries
    rw [sorted] at pairwise
    have members : ∀ other ∈ entries, other = first ∨ other ∈ rest := by
      intro other member
      have present : other ∈ sortDescending key entries := List.mem_mergeSort.mpr member
      rw [sorted] at present
      exact List.mem_cons.mp present
    have chosen : greatest key entries first = true := by
      rw [greatest_iff]
      intro other member
      rcases members other member with rfl | below
      · exact le_refl _
      · exact List.rel_of_pairwise_cons pairwise below
    rw [List.filter_cons_of_pos chosen]
    rfl

/-- The head is the first of the greatest entries, and there is one unless the
list is empty. -/
theorem head?_sortDescending_iff (key : α → κ) (entries : List α) (entry : α) :
    (sortDescending key entries).head? = some entry ↔ IsFirst key entries entry := by
  rw [head?_sortDescending, List.find?_eq_some_iff_append, greatest_iff]
  constructor
  · rintro ⟨highest, earlier, later, rfl, lower⟩
    refine ⟨earlier, later, rfl, ?_, ?_⟩
    · intro other member
      by_contra notLower
      have equal : key entry ≤ key other := not_lt.mp notLower
      have also : greatest key (earlier ++ entry :: later) other = true :=
        (greatest_iff _ _ _).mpr (fun any inside => (highest any inside).trans equal)
      have excluded := lower other member
      simp [also] at excluded
    · intro other member
      exact highest other (by simp [member])
  · rintro ⟨earlier, later, rfl, lower, notHigher⟩
    have highest : ∀ other ∈ earlier ++ entry :: later, key other ≤ key entry := by
      intro other member
      rcases List.mem_append.mp member with before | after
      · exact (lower other before).le
      · rcases List.mem_cons.mp after with rfl | behind
        · exact le_refl _
        · exact notHigher other behind
    refine ⟨highest, earlier, later, rfl, ?_⟩
    intro other member
    have notGreatest : greatest key (earlier ++ entry :: later) other ≠ true := by
      rw [Ne, greatest_iff]
      intro also
      exact absurd (lower other member) (not_lt.mpr (also entry (by simp)))
    simpa using notGreatest

theorem head?_sortDescending_eq_none_iff (key : α → κ) (entries : List α) :
    (sortDescending key entries).head? = none ↔ entries = [] := by
  have permuted : (sortDescending key entries).Perm entries := List.mergeSort_perm entries _
  rw [List.head?_eq_none_iff]
  constructor
  · intro nothing
    rw [nothing] at permuted
    exact permuted.nil_eq.symm
  · rintro rfl
    exact permuted.eq_nil

theorem IsFirst.unique {key : α → κ} {entries : List α} {entry other : α}
    (first : IsFirst key entries entry) (second : IsFirst key entries other) : entry = other := by
  have head := (head?_sortDescending_iff key entries entry).mpr first
  rw [(head?_sortDescending_iff key entries other).mpr second] at head
  exact (Option.some.inj head).symm

theorem IsFirst.mem {key : α → κ} {entries : List α} {entry : α}
    (first : IsFirst key entries entry) : entry ∈ entries := by
  obtain ⟨earlier, later, rfl, _, _⟩ := first
  exact List.mem_append_right earlier List.mem_cons_self

/-- The entry with the higher key; the earlier one of equals. -/
def keepGreater (key : α → κ) (best : Option α) (entry : α) : Option α :=
  match best with
  | none => some entry
  | some kept => if key kept < key entry then some entry else some kept

theorem isFirst_keepGreater {key : α → κ} {entries : List α} {kept entry best : α}
    (first : IsFirst key entries kept) (chosen : keepGreater key (some kept) entry = some best) :
    IsFirst key (entries ++ [entry]) best := by
  obtain ⟨earlier, later, rfl, lower, notHigher⟩ := first
  unfold keepGreater at chosen
  simp only at chosen
  split at chosen
  next higher =>
    cases chosen
    refine ⟨earlier ++ kept :: later, [], rfl, ?_, by simp⟩
    intro other member
    rcases List.mem_append.mp member with before | after
    · exact (lower other before).trans higher
    · rcases List.mem_cons.mp after with rfl | behind
      · exact higher
      · exact (notHigher other behind).trans_lt higher
  next same =>
    cases chosen
    refine ⟨earlier, later ++ [entry], by simp, lower, ?_⟩
    intro other member
    rcases List.mem_append.mp member with behind | last
    · exact notHigher other behind
    · cases List.mem_singleton.mp last
      exact not_lt.mp same

/-- What a loop keeps is the first of the greatest entries. Induct on the entries from the
end. -/
theorem foldl_keepGreater (key : α → κ) (entries : List α) :
    match entries.foldl (keepGreater key) none with
    | none => entries = []
    | some best => IsFirst key entries best := by
  induction entries using List.reverseRecOn with
  | nil => rfl
  | append_singleton entries entry inductionHypothesis =>
    rw [List.foldl_append, List.foldl_cons, List.foldl_nil]
    cases kept : entries.foldl (keepGreater key) none with
    | none =>
      rw [kept] at inductionHypothesis
      subst inductionHypothesis
      exact ⟨[], [], rfl, by simp, by simp⟩
    | some best =>
      rw [kept] at inductionHypothesis
      cases chosen : keepGreater key (some best) entry with
      | none =>
        unfold keepGreater at chosen
        simp only at chosen
        split at chosen
        · cases chosen
        · cases chosen
      | some next => exact isFirst_keepGreater inductionHypothesis chosen

theorem foldl_keepGreater_eq_some_iff (key : α → κ) (entries : List α) (best : α) :
    entries.foldl (keepGreater key) none = some best ↔ IsFirst key entries best := by
  have kept := foldl_keepGreater key entries
  constructor
  · intro chosen
    rwa [chosen] at kept
  · intro first
    cases chosen : entries.foldl (keepGreater key) none with
    | none =>
      rw [chosen] at kept
      subst kept
      cases first.mem
    | some other =>
      rw [chosen] at kept
      rw [first.unique kept]

/-- A loop keeps the entry that is the only one there is. -/
theorem foldl_keepGreater_of_only (key : α → κ) {entries : List α} {entry : α}
    (present : entry ∈ entries) (only : ∀ other ∈ entries, other = entry) :
    entries.foldl (keepGreater key) none = some entry := by
  have kept := foldl_keepGreater key entries
  cases chosen : entries.foldl (keepGreater key) none with
  | none =>
    rw [chosen] at kept
    rw [show entries = [] from kept] at present
    cases present
  | some found =>
    rw [chosen] at kept
    rw [only found kept.mem]

end LiquidationBot.FirstGreatest
