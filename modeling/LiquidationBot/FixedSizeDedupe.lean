import LiquidationBot.Library.InsertionMap
import LiquidationBot.Library.Window
import Mathlib.Data.List.DropRight

/-!
# The duplicate filter of the event source

A filter of fixed capacity remembers the keys it accepted last: a list in the
order of acceptance, and a set that answers whether a key is among them. A new
key first pushes the oldest one out once the filter is full; a duplicate changes
nothing, and so does not refresh its place.

The list and the set hold the same keys after any calls, and the list is a
first-in first-out window over the keys that were delivered since the filter was
last cleared. A key is therefore accepted exactly when it is not among the last
accepted ones.
-/

namespace LiquidationBot

/-- `FixedSizeDedupe`, with the capacity it was built for. -/
structure FixedSizeDedupe where
  capacity : Nat
  keys : List String
  seen : InsertionMap String Unit

namespace FixedSizeDedupe

/-- A new filter. -/
def new (capacity : Nat) : FixedSizeDedupe := ⟨capacity, [], .empty⟩

def has (dedupe : FixedSizeDedupe) (key : String) : Bool := dedupe.seen.has key

/-- Remove the oldest key from the list and from the set. -/
def evictOldest (dedupe : FixedSizeDedupe) : FixedSizeDedupe :=
  match dedupe.keys with
  | [] => dedupe
  | evicted :: rest => { dedupe with keys := rest, seen := dedupe.seen.delete evicted }

/-- `add`: whether the key was new. -/
def add (dedupe : FixedSizeDedupe) (key : String) : FixedSizeDedupe × Bool :=
  if dedupe.seen.has key then (dedupe, false)
  else
    let kept := if dedupe.keys.length ≥ dedupe.capacity then evictOldest dedupe else dedupe
    ({ kept with keys := kept.keys ++ [key], seen := kept.seen.set key () }, true)

def clear (dedupe : FixedSizeDedupe) : FixedSizeDedupe := { dedupe with keys := [], seen := .empty }

def size (dedupe : FixedSizeDedupe) : Nat := dedupe.seen.size

/-! ## Runs -/

inductive DedupeCall where
  | add (key : String)
  | clear
deriving DecidableEq

/-- One call, on the filter and on the keys it accepted since it was last cleared. -/
def note (state : FixedSizeDedupe × List String) : DedupeCall → FixedSizeDedupe × List String
  | .add key =>
      ((state.1.add key).1, if (state.1.add key).2 then state.2 ++ [key] else state.2)
  | .clear => (state.1.clear, [])

def traced (capacity : Nat) (calls : List DedupeCall) : FixedSizeDedupe × List String :=
  calls.foldl note (new capacity, [])

/-- The filter after a run of calls. -/
def after (capacity : Nat) (calls : List DedupeCall) : FixedSizeDedupe := (traced capacity calls).1

/-- The keys accepted since the last clear, in the order of acceptance. -/
def accepted (capacity : Nat) (calls : List DedupeCall) : List String := (traced capacity calls).2

/-- The keys delivered since the last clear. -/
def delivered (calls : List DedupeCall) : List String :=
  calls.foldl (fun keys call =>
    match call with
    | .add key => keys ++ [key]
    | .clear => []) []

/-! ## The list and the set -/

/-- The list repeats no key, and the set holds the same keys. -/
structure InStep (dedupe : FixedSizeDedupe) : Prop where
  distinct : dedupe.keys.Nodup
  same : ∀ key, key ∈ dedupe.keys ↔ dedupe.has key = true

theorem inStep_new (capacity : Nat) : (new capacity).InStep where
  distinct := List.nodup_nil
  same := by simp [new, has, InsertionMap.has]

theorem InStep.clear {dedupe : FixedSizeDedupe} : dedupe.clear.InStep where
  distinct := List.nodup_nil
  same := by simp [FixedSizeDedupe.clear, has, InsertionMap.has]

theorem InStep.evictOldest {dedupe : FixedSizeDedupe} (inStep : dedupe.InStep) :
    dedupe.evictOldest.InStep := by
  cases kept : dedupe.keys with
  | nil => rwa [FixedSizeDedupe.evictOldest, kept]
  | cons evicted rest =>
    obtain ⟨gone, distinct⟩ := List.nodup_cons.mp (kept ▸ inStep.distinct)
    rw [FixedSizeDedupe.evictOldest, kept]
    refine ⟨distinct, fun key => ?_⟩
    have before := inStep.same key
    rw [kept, has, InsertionMap.has, List.mem_cons] at before
    rw [has, InsertionMap.has, InsertionMap.get?_delete]
    by_cases oldest : key = evicted
    · subst oldest
      simp [gone]
    · rw [if_neg oldest, ← before]
      simp [oldest]

theorem keys_evictOldest (dedupe : FixedSizeDedupe) :
    dedupe.evictOldest.keys = dedupe.keys.tail := by
  cases kept : dedupe.keys with
  | nil => rw [evictOldest, kept, List.tail_nil]; exact kept
  | cons evicted rest => rw [evictOldest, kept, List.tail_cons]

/-- A new key goes behind the others. -/
theorem InStep.append {dedupe : FixedSizeDedupe} (inStep : dedupe.InStep) {key : String}
    (fresh : key ∉ dedupe.keys) :
    InStep { dedupe with keys := dedupe.keys ++ [key], seen := dedupe.seen.set key () } where
  distinct := inStep.distinct.append (List.nodup_singleton key) (by simpa using fresh)
  same := by
    intro tested
    rw [has, InsertionMap.has_set, Bool.or_eq_true, decide_eq_true_eq, List.mem_append,
      List.mem_singleton, or_comm]
    exact or_congr_right (inStep.same tested)

theorem size_eq {dedupe : FixedSizeDedupe} (inStep : dedupe.InStep) :
    dedupe.size = dedupe.keys.length := by
  have members : ∀ key, key ∈ dedupe.seen.keys ↔ key ∈ dedupe.keys := by
    intro key
    rw [InsertionMap.mem_keys_iff, inStep.same, has]
  have permuted : dedupe.seen.keys.Perm dedupe.keys :=
    (List.perm_ext_iff_of_nodup dedupe.seen.distinct inStep.distinct).mpr members
  rw [size, InsertionMap.size, ← permuted.length_eq, InsertionMap.keys, List.length_map]

/-! ## The window -/

variable {capacity : Nat} {dedupe : FixedSizeDedupe}

/-- What `add` does while the list and the set are in step. -/
theorem add_inStep (inStep : dedupe.InStep) (key : String) :
    (dedupe.add key).1.InStep ∧ (dedupe.add key).1.capacity = dedupe.capacity ∧
      ((dedupe.add key).2 = true ↔ key ∉ dedupe.keys) := by
  rw [inStep.same, has, add]
  by_cases known : dedupe.seen.has key = true
  · rw [if_pos known]
    exact ⟨inStep, rfl, by simp [known]⟩
  · rw [if_neg known]
    have fresh : key ∉ dedupe.keys := fun member => known ((inStep.same key).mp member)
    split
    · have absent : key ∉ dedupe.evictOldest.keys := by
        rw [keys_evictOldest]
        exact fun member => fresh (List.mem_of_mem_tail member)
      refine ⟨inStep.evictOldest.append absent, ?_, by simp [known]⟩
      cases kept : dedupe.keys with
      | nil => simp [evictOldest, kept]
      | cons evicted rest => simp [evictOldest, kept]
    · exact ⟨inStep.append fresh, rfl, by simp [known]⟩

/-- The list is a window that is full at the capacity. -/
theorem keys_add (positive : 0 < dedupe.capacity) (inStep : dedupe.InStep) (key : String) :
    (dedupe.add key).1.keys = Window.accept dedupe.capacity dedupe.keys key := by
  rw [add, Window.accept]
  by_cases known : dedupe.seen.has key = true
  · rw [if_pos known, if_pos ((inStep.same key).mpr known)]
  · rw [if_neg known, if_neg (fun member => known ((inStep.same key).mp member)),
      List.length_append, List.length_singleton]
    by_cases full : dedupe.keys.length ≥ dedupe.capacity
    · have nonempty : dedupe.keys ≠ [] := by
        rintro empty
        rw [empty, List.length_nil] at full
        omega
      simp only [if_pos full, if_pos (show dedupe.keys.length + 1 > dedupe.capacity by omega)]
      rw [keys_evictOldest, List.tail_append_of_ne_nil nonempty]
    · simp only [if_neg full, if_neg (show ¬ dedupe.keys.length + 1 > dedupe.capacity by omega)]

/-- The filter keeps the window over the keys delivered since it was cleared. -/
structure Follows (capacity : Nat) (state : FixedSizeDedupe × List String)
    (deliveries : List String) : Prop where
  sized : state.1.capacity = capacity
  inStep : state.1.InStep
  window : state.1.keys = Window.contents capacity deliveries
  admitted : state.2 = Window.admitted capacity deliveries

theorem Follows.clear {state : FixedSizeDedupe × List String} {deliveries : List String}
    (follows : Follows capacity state deliveries) : Follows capacity (note state .clear) [] where
  sized := follows.sized
  inStep := .clear
  window := rfl
  admitted := rfl

theorem Follows.add (positive : 0 < capacity) {state : FixedSizeDedupe × List String}
    {deliveries : List String} (follows : Follows capacity state deliveries) (key : String) :
    Follows capacity (note state (.add key)) (deliveries ++ [key]) := by
  obtain ⟨inStep, sameCapacity, answered⟩ := add_inStep follows.inStep key
  refine ⟨sameCapacity.trans follows.sized, inStep, ?_, ?_⟩
  · have moved := keys_add (follows.sized ▸ positive) follows.inStep key
    rw [Window.contents_snoc, ← follows.window, ← follows.sized]
    exact moved
  · rw [Window.admitted_snoc, ← follows.window, ← follows.admitted]
    by_cases inside : key ∈ state.1.keys
    · rw [if_pos inside, note, if_neg (fun new => answered.mp new inside)]
    · rw [if_neg inside, note, if_pos (answered.mpr inside)]

/-- Induct on the calls from the end. -/
theorem follows_traced (positive : 0 < capacity) (calls : List DedupeCall) :
    Follows capacity (traced capacity calls) (delivered calls) := by
  induction calls using List.reverseRecOn with
  | nil => exact ⟨rfl, inStep_new capacity, rfl, rfl⟩
  | append_singleton calls call inductionHypothesis =>
    rw [traced, delivered, List.foldl_append, List.foldl_append]
    cases call with
    | add key => exact inductionHypothesis.add positive key
    | clear => exact inductionHypothesis.clear

/-- A key is accepted exactly when it is not among the last accepted ones, as many as the
capacity says, since the last clear; the list and the set hold the same keys once, and no more
than that. -/
theorem add_iff_outside_window (positive : 0 < capacity) (calls : List DedupeCall) :
    (∀ key, ((after capacity calls).add key).2 = true ↔
        key ∉ (accepted capacity calls).rtake capacity) ∧
      (after capacity calls).InStep ∧ (after capacity calls).size ≤ capacity := by
  have follows := follows_traced positive calls
  have last : (after capacity calls).keys = (accepted capacity calls).rtake capacity := by
    rw [after, follows.window, accepted, follows.admitted, Window.contents_eq, List.rtake]
  refine ⟨fun key => ?_, follows.inStep, ?_⟩
  · rw [← last]
    exact (add_inStep follows.inStep key).2.2
  · rw [after, size_eq follows.inStep, ← after, last, List.rtake, List.length_drop]
    omega

/-- Two places; the key that came first leaves, although it was delivered again. -/
theorem add_iff_outside_window_two : 0 < 2 ∧
    ((∀ key, ((after 2 [.add "a", .add "b", .add "a", .add "c"]).add key).2 = true ↔
        key ∉ ["b", "c"]) ∧
      (after 2 [.add "a", .add "b", .add "a", .add "c"]).InStep ∧
      (after 2 [.add "a", .add "b", .add "a", .add "c"]).size ≤ 2) :=
  ⟨by decide, add_iff_outside_window (by decide) [.add "a", .add "b", .add "a", .add "c"]⟩

end FixedSizeDedupe

end LiquidationBot
