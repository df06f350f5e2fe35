import Mathlib.Data.List.Infix
import Mathlib.Data.List.Nodup
import Mathlib.Data.List.Dedup
import Mathlib.Tactic.Common

/-!
# First-in first-out deduplication windows

A bounded window remembers the keys it admitted last. A key inside the window is
a duplicate; any other key is admitted, appended, and pushes the oldest key out
once the capacity is exceeded. Duplicates do not refresh their place.

The window is therefore the tail of the admitted keys. A key is admitted once
over a whole run exactly when no later delivery of it comes after as many other
first deliveries as the window holds; `firsts` lists the keys in the order of
their first delivery and does not mention the window.
-/

namespace LiquidationBot.Window

universe u
variable {κ : Type u} [DecidableEq κ]

/-- The window after one delivery. -/
def accept (capacity : Nat) (window : List κ) (key : κ) : List κ :=
  if key ∈ window then window
  else if (window ++ [key]).length > capacity then (window ++ [key]).tail
  else window ++ [key]

/-- One delivery, on the window and on the keys admitted so far. -/
def deliver (capacity : Nat) (state : List κ × List κ) (key : κ) : List κ × List κ :=
  (accept capacity state.1 key, if key ∈ state.1 then state.2 else state.2 ++ [key])

def history (capacity : Nat) (deliveries : List κ) : List κ × List κ :=
  deliveries.foldl (deliver capacity) ([], [])

/-- The window after a run of deliveries. -/
def contents (capacity : Nat) (deliveries : List κ) : List κ := (history capacity deliveries).1

/-- The keys admitted over a run, in the order of their admission. -/
def admitted (capacity : Nat) (deliveries : List κ) : List κ := (history capacity deliveries).2

/-- The delivered keys without repetitions, in the order of first delivery. -/
def firsts (deliveries : List κ) : List κ :=
  deliveries.foldl (fun known key => if key ∈ known then known else known ++ [key]) []

/-- Keys whose first delivery came after the first delivery of `key`. -/
def since (deliveries : List κ) (key : κ) : List κ :=
  (firsts deliveries).drop ((firsts deliveries).idxOf key + 1)

theorem contents_snoc (capacity : Nat) (deliveries : List κ) (key : κ) :
    contents capacity (deliveries ++ [key]) =
      accept capacity (contents capacity deliveries) key := by
  rw [contents, history, List.foldl_append]
  rfl

theorem admitted_snoc (capacity : Nat) (deliveries : List κ) (key : κ) :
    admitted capacity (deliveries ++ [key]) =
      if key ∈ contents capacity deliveries then admitted capacity deliveries
      else admitted capacity deliveries ++ [key] := by
  rw [admitted, history, List.foldl_append]
  rfl

theorem firsts_snoc (deliveries : List κ) (key : κ) :
    firsts (deliveries ++ [key]) =
      if key ∈ firsts deliveries then firsts deliveries else firsts deliveries ++ [key] := by
  rw [firsts, List.foldl_append]
  rfl

theorem mem_firsts (deliveries : List κ) (key : κ) :
    key ∈ firsts deliveries ↔ key ∈ deliveries := by
  induction deliveries using List.reverseRecOn with
  | nil => simp [firsts]
  | append_singleton deliveries last inductionHypothesis =>
    rw [firsts_snoc]
    by_cases known : last ∈ firsts deliveries
    · simp only [known, if_true, inductionHypothesis, List.mem_append, List.mem_singleton]
      constructor
      · exact Or.inl
      · rintro (earlier | rfl)
        · exact earlier
        · exact inductionHypothesis.mp known
    · simp [known, inductionHypothesis]

theorem nodup_firsts (deliveries : List κ) : (firsts deliveries).Nodup := by
  induction deliveries using List.reverseRecOn with
  | nil => exact List.nodup_nil
  | append_singleton deliveries last inductionHypothesis =>
    rw [firsts_snoc]
    by_cases known : last ∈ firsts deliveries
    · simpa [known] using inductionHypothesis
    · simp only [known, if_false]
      exact inductionHypothesis.append (List.nodup_singleton last)
        (by simpa [List.disjoint_singleton] using known)

/-- The window holds the last admitted keys, as many as fit. -/
theorem contents_eq (capacity : Nat) (deliveries : List κ) :
    contents capacity deliveries =
      (admitted capacity deliveries).drop ((admitted capacity deliveries).length - capacity) := by
  induction deliveries using List.reverseRecOn with
  | nil => simp [contents, admitted, history]
  | append_singleton deliveries key inductionHypothesis =>
    rw [contents_snoc, admitted_snoc, accept]
    by_cases inside : key ∈ contents capacity deliveries
    · rw [if_pos inside, if_pos inside]
      exact inductionHypothesis
    · rw [if_neg inside, if_neg inside, inductionHypothesis]
      generalize admitted capacity deliveries = history
      rcases Nat.lt_or_ge history.length capacity with short | long
      · have whole : history.length - capacity = 0 := by omega
        have wholeNext : (history ++ [key]).length - capacity = 0 := by
          simp only [List.length_append, List.length_singleton]
          omega
        have fits : ¬ (history ++ [key]).length > capacity := by
          simp only [List.length_append, List.length_singleton]
          omega
        rw [whole, wholeNext, List.drop_zero, List.drop_zero, if_neg fits]
      · have full : (history.drop (history.length - capacity) ++ [key]).length > capacity := by
          simp only [List.length_append, List.length_drop, List.length_singleton]
          omega
        have later : (history ++ [key]).length - capacity = history.length - capacity + 1 := by
          simp only [List.length_append, List.length_singleton]
          omega
        have inner : history.length - capacity ≤ history.length := Nat.sub_le _ _
        rw [if_pos full, later, ← List.drop_append_of_le_length inner, List.tail_drop]

/-- In a list without repetitions, a member lies in the last `count` places
exactly when fewer than `count` members follow it. -/
theorem mem_last_iff {values : List κ} {key : κ} (distinct : values.Nodup) (member : key ∈ values)
    {count : Nat} :
    key ∈ values.drop (values.length - count) ↔
      (values.drop (values.idxOf key + 1)).length < count := by
  have inside : values.idxOf key < values.length := List.idxOf_lt_length_of_mem member
  rw [List.length_drop]
  constructor
  · intro late
    obtain ⟨offset, bound, located⟩ := List.mem_drop_iff_getElem.mp late
    have position : values.idxOf key = values.length - count + offset := by
      rw [← located]
      exact distinct.idxOf_getElem _ _
    omega
  · intro few
    refine List.mem_drop_iff_getElem.mpr
      ⟨values.idxOf key - (values.length - count), by omega, ?_⟩
    have position : values.length - count + (values.idxOf key - (values.length - count)) =
        values.idxOf key := by omega
    simp only [position, List.getElem_idxOf]

/-- Every redelivery of a chosen key finds it among the last admitted ones. -/
def Recent (capacity : Nat) (chosen : κ → Prop) (deliveries : List κ) : Prop :=
  ∀ past key, past ++ [key] <+: deliveries → chosen key → key ∈ past →
    (since past key).length < capacity

theorem recent_snoc (capacity : Nat) (chosen : κ → Prop) (deliveries : List κ) (key : κ) :
    Recent capacity chosen (deliveries ++ [key]) ↔
      Recent capacity chosen deliveries ∧
        (chosen key → key ∈ deliveries → (since deliveries key).length < capacity) := by
  constructor
  · intro recent
    refine ⟨fun past tested initial => ?_, recent deliveries key List.prefix_rfl⟩
    exact recent past tested (initial.trans (List.prefix_append deliveries [key]))
  · rintro ⟨earlier, last⟩ past tested initial
    rcases List.prefix_concat_iff.mp initial with same | shorter
    · obtain ⟨rfl, sameKey⟩ := List.append_inj' same rfl
      cases sameKey
      exact last
    · exact earlier past tested shorter

/-- Recency of the chosen keys and of all others is recency of every key. -/
theorem recent_all {capacity : Nat} {chosen : κ → Prop} {deliveries : List κ}
    (recent : Recent capacity chosen deliveries)
    (others : Recent capacity (fun key => ¬ chosen key) deliveries) :
    Recent capacity (fun _ => True) deliveries := by
  intro past key initial _ known
  by_cases here : chosen key
  · exact recent past key initial here known
  · exact others past key initial here known

/-- A first delivery is always admitted and nothing else ever is. -/
theorem mem_admitted (capacity : Nat) (deliveries : List κ) (key : κ) :
    key ∈ admitted capacity deliveries ↔ key ∈ deliveries := by
  induction deliveries using List.reverseRecOn with
  | nil => simp [admitted, history]
  | append_singleton deliveries last inductionHypothesis =>
    rw [admitted_snoc]
    by_cases inside : last ∈ contents capacity deliveries
    · have known : last ∈ admitted capacity deliveries :=
        List.mem_of_mem_drop (contents_eq capacity deliveries ▸ inside)
      rw [if_pos inside, inductionHypothesis, List.mem_append, List.mem_singleton]
      constructor
      · exact Or.inl
      · rintro (earlier | rfl)
        · exact earlier
        · exact inductionHypothesis.mp (by simpa using known)
    · simp [inside, inductionHypothesis]

/-- While every redelivery is recent, admission keeps exactly the first
deliveries. At a redelivery the window still holds the key; at a first delivery
it cannot. -/
theorem admitted_eq_firsts (capacity : Nat) (deliveries : List κ)
    (recent : Recent capacity (fun _ => True) deliveries) :
    admitted capacity deliveries = firsts deliveries := by
  induction deliveries using List.reverseRecOn with
  | nil => rfl
  | append_singleton deliveries key inductionHypothesis =>
    obtain ⟨earlier, last⟩ := (recent_snoc capacity _ deliveries key).mp recent
    have history := inductionHypothesis earlier
    rw [admitted_snoc, firsts_snoc, contents_eq, history]
    by_cases known : key ∈ firsts deliveries
    · have close := last trivial ((mem_firsts deliveries key).mp known)
      rw [if_pos ((mem_last_iff (nodup_firsts deliveries) known).mpr close), if_pos known]
    · have outside : key ∉ (firsts deliveries).drop ((firsts deliveries).length - capacity) :=
        fun inside => known (List.mem_of_mem_drop inside)
      rw [if_neg outside, if_neg known]

/-- If no chosen key is admitted twice and the others are redelivered recently,
the chosen ones are too: otherwise such a key had left the window and would have
been admitted again. The other keys matter because they share the window. -/
theorem recent_of_admitted_once (capacity : Nat) (chosen : κ → Prop) (deliveries : List κ)
    (others : Recent capacity (fun key => ¬ chosen key) deliveries)
    (once : ∀ key, chosen key → (admitted capacity deliveries).count key ≤ 1) :
    Recent capacity chosen deliveries := by
  induction deliveries using List.reverseRecOn with
  | nil =>
    intro past key initial
    simp at initial
  | append_singleton deliveries key inductionHypothesis =>
    have othersBefore := ((recent_snoc capacity _ deliveries key).mp others).1
    have onceBefore : ∀ tested, chosen tested →
        (admitted capacity deliveries).count tested ≤ 1 := by
      intro tested here
      have bound := once tested here
      rw [admitted_snoc] at bound
      by_cases inside : key ∈ contents capacity deliveries
      · simpa [inside] using bound
      · rw [if_neg inside, List.count_append] at bound
        omega
    have earlier := inductionHypothesis othersBefore onceBefore
    refine (recent_snoc capacity chosen deliveries key).mpr ⟨earlier, fun here known => ?_⟩
    have history := admitted_eq_firsts capacity deliveries (recent_all earlier othersBefore)
    have inside : key ∈ contents capacity deliveries := by
      by_contra outside
      have bound := once key here
      have present : 0 < (admitted capacity deliveries).count key :=
        List.count_pos_iff.mpr ((mem_admitted capacity deliveries key).mpr known)
      rw [admitted_snoc, if_neg outside, List.count_append, List.count_singleton_self] at bound
      omega
    rw [contents_eq, history] at inside
    exact (mem_last_iff (nodup_firsts deliveries)
      ((mem_firsts deliveries key).mpr known)).mp inside

/-- Every chosen key is admitted exactly once if and only if each redelivery of
one comes before the window has taken in `capacity` later keys, provided the
other keys are redelivered recently. -/
theorem admitted_once_iff (capacity : Nat) (chosen : κ → Prop) (deliveries : List κ)
    (others : Recent capacity (fun key => ¬ chosen key) deliveries) :
    (∀ key ∈ deliveries, chosen key → (admitted capacity deliveries).count key = 1) ↔
      Recent capacity chosen deliveries := by
  constructor
  · intro once
    apply recent_of_admitted_once capacity chosen deliveries others
    intro key here
    by_cases delivered : key ∈ deliveries
    · exact (once key delivered here).le
    · have absent : key ∉ admitted capacity deliveries := fun present =>
        delivered ((mem_admitted capacity deliveries key).mp present)
      rw [List.count_eq_zero_of_not_mem absent]
      omega
  · intro recent key delivered _
    rw [admitted_eq_firsts capacity deliveries (recent_all recent others)]
    exact List.count_eq_one_of_mem (nodup_firsts deliveries)
      ((mem_firsts deliveries key).mpr delivered)

end LiquidationBot.Window
