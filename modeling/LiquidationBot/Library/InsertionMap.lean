import Mathlib.Data.List.Nodup
import Mathlib.Tactic.Common

/-!
# Finite maps that remember insertion order

A script language's `Map` is a finite map whose iteration order is the order in
which keys were first inserted. Overwriting a present key keeps its place, an
absent key is appended, and deletion closes the gap. Keys never repeat; the
structure carries that fact, so no operation has to re-establish it for its
callers. A `Set` is the same structure with unit values.

Reading laws are stated for `get?`; the order is visible only through `entries`.
-/

namespace LiquidationBot

universe u v w

/-- Insertion-ordered entries with distinct keys. -/
structure InsertionMap (κ : Type u) (ν : Type v) where
  entries : List (κ × ν)
  distinct : (entries.map Prod.fst).Nodup
deriving DecidableEq

namespace InsertionMap

variable {κ : Type u} {ν : Type v}

@[ext] theorem ext_entries {left right : InsertionMap κ ν}
    (same : left.entries = right.entries) : left = right := by
  cases left
  cases right
  cases same
  rfl

/-- No entries. -/
def empty : InsertionMap κ ν := ⟨[], List.nodup_nil⟩

def keys (map : InsertionMap κ ν) : List κ := map.entries.map Prod.fst

def values (map : InsertionMap κ ν) : List ν := map.entries.map Prod.snd

def size (map : InsertionMap κ ν) : Nat := map.entries.length

/-- Keep the entries a predicate accepts, in their order. -/
def filter (map : InsertionMap κ ν) (keep : κ → ν → Bool) : InsertionMap κ ν where
  entries := map.entries.filter (fun entry => keep entry.1 entry.2)
  distinct := map.distinct.sublist (List.filter_sublist.map Prod.fst)

theorem size_filter_le (map : InsertionMap κ ν) (keep : κ → ν → Bool) :
    size (filter map keep) ≤ size map :=
  List.length_filter_le _ _

section Decidable

variable [DecidableEq κ]

/-- The value stored under a key in raw entries. -/
def lookup : List (κ × ν) → κ → Option ν
  | [], _ => none
  | (other, value) :: rest, key => if other = key then some value else lookup rest key

/-- Overwrite in place or append at the end. -/
def insert : List (κ × ν) → κ → ν → List (κ × ν)
  | [], key, value => [(key, value)]
  | (other, old) :: rest, key, value =>
      if other = key then (other, value) :: rest else (other, old) :: insert rest key value

def get? (map : InsertionMap κ ν) (key : κ) : Option ν := lookup map.entries key

def has (map : InsertionMap κ ν) (key : κ) : Bool := (get? map key).isSome

/-- Insertion adds at most its own key. -/
theorem mem_keys_insert (entries : List (κ × ν)) (key tested : κ) (value : ν) :
    tested ∈ (insert entries key value).map Prod.fst ↔
      tested = key ∨ tested ∈ entries.map Prod.fst := by
  induction entries with
  | nil => simp [insert]
  | cons entry rest inductionHypothesis =>
    obtain ⟨other, old⟩ := entry
    by_cases same : other = key
    · subst same
      simp [insert]
    · simp only [insert, same, if_false, List.map_cons, List.mem_cons, inductionHypothesis]
      tauto

theorem nodup_insert (entries : List (κ × ν)) (key : κ) (value : ν)
    (distinct : (entries.map Prod.fst).Nodup) :
    ((insert entries key value).map Prod.fst).Nodup := by
  induction entries with
  | nil => simp [insert]
  | cons entry rest inductionHypothesis =>
    obtain ⟨other, old⟩ := entry
    obtain ⟨absent, restDistinct⟩ := List.nodup_cons.mp distinct
    by_cases same : other = key
    · simpa [insert, same] using distinct
    · rw [insert, if_neg same, List.map_cons, List.nodup_cons, mem_keys_insert, not_or]
      exact ⟨⟨same, absent⟩, inductionHypothesis restDistinct⟩

/-- Store a value under a key. -/
def set (map : InsertionMap κ ν) (key : κ) (value : ν) : InsertionMap κ ν :=
  ⟨insert map.entries key value, nodup_insert map.entries key value map.distinct⟩

/-- Remove a key; absent keys leave the map as it is. -/
def delete (map : InsertionMap κ ν) (key : κ) : InsertionMap κ ν :=
  filter map (fun other _ => decide (other ≠ key))

/-- Apply a change to a stored value; absent keys leave the map as it is. -/
def modify (map : InsertionMap κ ν) (key : κ) (change : ν → ν) : InsertionMap κ ν :=
  match get? map key with
  | none => map
  | some value => set map key (change value)

theorem lookup_insert (entries : List (κ × ν)) (key tested : κ) (value : ν) :
    lookup (insert entries key value) tested =
      if tested = key then some value else lookup entries tested := by
  induction entries with
  | nil => simp [insert, lookup, eq_comm]
  | cons entry rest inductionHypothesis =>
    obtain ⟨other, old⟩ := entry
    by_cases same : other = key
    · subst same
      by_cases found : other = tested
      · simp [insert, lookup, found]
      · simp [insert, lookup, found, Ne.symm found]
    · simp only [insert, same, if_false, lookup, inductionHypothesis]
      split
      · next found =>
        subst found
        simp [same]
      · rfl

theorem lookup_eq_none_iff (entries : List (κ × ν)) (key : κ) :
    lookup entries key = none ↔ key ∉ entries.map Prod.fst := by
  induction entries with
  | nil => simp [lookup]
  | cons entry rest inductionHypothesis =>
    obtain ⟨other, old⟩ := entry
    by_cases same : other = key
    · simp [lookup, same]
    · simp [lookup, same, inductionHypothesis, Ne.symm same]

theorem lookup_filter (entries : List (κ × ν)) (keep : κ → ν → Bool) (key : κ)
    (distinct : (entries.map Prod.fst).Nodup) :
    lookup (entries.filter (fun entry => keep entry.1 entry.2)) key =
      (lookup entries key).filter (keep key) := by
  induction entries with
  | nil => rfl
  | cons entry rest inductionHypothesis =>
    obtain ⟨other, value⟩ := entry
    obtain ⟨absent, restDistinct⟩ := List.nodup_cons.mp distinct
    have tail := inductionHypothesis restDistinct
    by_cases same : other = key
    · subst same
      have missing : lookup rest other = none := (lookup_eq_none_iff rest other).mpr absent
      cases kept : keep other value
      · simpa [kept, lookup, missing, Option.filter] using tail
      · simp [kept, lookup, Option.filter]
    · cases kept : keep other value <;> simp [kept, lookup, same, tail]

@[simp] theorem get?_empty (key : κ) : get? (empty : InsertionMap κ ν) key = none := rfl

theorem get?_set (map : InsertionMap κ ν) (key tested : κ) (value : ν) :
    get? (set map key value) tested = if tested = key then some value else get? map tested :=
  lookup_insert map.entries key tested value

@[simp] theorem get?_set_same (map : InsertionMap κ ν) (key : κ) (value : ν) :
    get? (set map key value) key = some value := by
  simp [get?_set]

theorem get?_set_other (map : InsertionMap κ ν) {key tested : κ} (value : ν)
    (different : tested ≠ key) : get? (set map key value) tested = get? map tested := by
  simp [get?_set, different]

/-- Storing the default under an absent key changes nothing that is read with the default. -/
theorem getD_set_default (map : InsertionMap κ ν) {key : κ} {default : ν}
    (absent : get? map key = none) (tested : κ) :
    (get? (set map key default) tested).getD default = (get? map tested).getD default := by
  by_cases same : tested = key
  · subst same
    rw [get?_set_same, absent]
    rfl
  · rw [get?_set_other map default same]

/-- What is found after a set is the new value, or was there before. -/
theorem of_get?_set {map : InsertionMap κ ν} {key tested : κ} {value found : ν}
    (held : get? (set map key value) tested = some found) :
    tested = key ∧ value = found ∨ get? map tested = some found := by
  rw [get?_set] at held
  split at held
  next same => exact Or.inl ⟨same, Option.some.inj held⟩
  next => exact Or.inr held

theorem get?_filter (map : InsertionMap κ ν) (keep : κ → ν → Bool) (key : κ) :
    get? (filter map keep) key = (get? map key).filter (keep key) :=
  lookup_filter map.entries keep key map.distinct

theorem get?_delete (map : InsertionMap κ ν) (key tested : κ) :
    get? (delete map key) tested = if tested = key then none else get? map tested := by
  rw [delete, get?_filter]
  by_cases same : tested = key <;> cases get? map tested <;> simp [same, Option.filter]

@[simp] theorem get?_delete_same (map : InsertionMap κ ν) (key : κ) :
    get? (delete map key) key = none := by
  simp [get?_delete]

theorem get?_delete_other (map : InsertionMap κ ν) {key tested : κ} (different : tested ≠ key) :
    get? (delete map key) tested = get? map tested := by
  simp [get?_delete, different]

/-- What is found after a deletion was there before, under another key. -/
theorem of_get?_delete {map : InsertionMap κ ν} {key tested : κ} {found : ν}
    (held : get? (delete map key) tested = some found) :
    tested ≠ key ∧ get? map tested = some found := by
  rw [get?_delete] at held
  split at held
  next => cases held
  next different => exact ⟨different, held⟩

theorem get?_modify (map : InsertionMap κ ν) (key tested : κ) (change : ν → ν) :
    get? (modify map key change) tested =
      if tested = key then (get? map key).map change else get? map tested := by
  unfold modify
  cases found : get? map key with
  | none =>
    by_cases same : tested = key
    · simp [same, found]
    · simp [same]
  | some value => simp [get?_set]

/-- The stored pairs are the answers of `get?`. -/
theorem mem_entries_iff (map : InsertionMap κ ν) (key : κ) (value : ν) :
    (key, value) ∈ map.entries ↔ get? map key = some value := by
  have general : ∀ entries : List (κ × ν), (entries.map Prod.fst).Nodup →
      ((key, value) ∈ entries ↔ lookup entries key = some value) := by
    intro entries distinct
    induction entries with
    | nil => simp [lookup]
    | cons entry rest inductionHypothesis =>
      obtain ⟨other, old⟩ := entry
      obtain ⟨absent, restDistinct⟩ := List.nodup_cons.mp distinct
      have tail := inductionHypothesis restDistinct
      by_cases same : other = key
      · subst same
        have missing : (other, value) ∉ rest := fun member =>
          absent (List.mem_map.mpr ⟨(other, value), member, rfl⟩)
        simp [lookup, missing, eq_comm]
      · simp [lookup, same, Ne.symm same, tail]
  exact general map.entries map.distinct

theorem mem_values_iff (map : InsertionMap κ ν) (value : ν) :
    value ∈ values map ↔ ∃ key, get? map key = some value := by
  unfold values
  rw [List.mem_map]
  constructor
  · rintro ⟨⟨key, stored⟩, member, rfl⟩
    exact ⟨key, (mem_entries_iff map key stored).mp member⟩
  · rintro ⟨key, found⟩
    exact ⟨(key, value), (mem_entries_iff map key value).mpr found, rfl⟩

/-- In a map whose values carry their keys, the values of a key are its answer. -/
theorem filter_values_keyed (map : InsertionMap κ ν) {keyOf : ν → κ}
    (keyed : ∀ key value, get? map key = some value → keyOf value = key) (key : κ) :
    (values map).filter (fun value => decide (keyOf value = key)) = (get? map key).toList := by
  have general : ∀ entries : List (κ × ν), (entries.map Prod.fst).Nodup →
      (∀ entry ∈ entries, keyOf entry.2 = entry.1) →
      (entries.map Prod.snd).filter (fun value => decide (keyOf value = key)) =
        (lookup entries key).toList := by
    intro entries distinct carried
    induction entries with
    | nil => rfl
    | cons entry rest inductionHypothesis =>
      obtain ⟨other, value⟩ := entry
      obtain ⟨absent, restDistinct⟩ := List.nodup_cons.mp distinct
      have here : keyOf value = other := carried (other, value) List.mem_cons_self
      have tail := inductionHypothesis restDistinct
        (fun entry member => carried entry (List.mem_cons_of_mem _ member))
      by_cases same : other = key
      · have missing : lookup rest key = none :=
          (lookup_eq_none_iff rest key).mpr (same ▸ absent)
        rw [missing] at tail
        simp only [List.map_cons, lookup, same, if_true, Option.toList_some]
        rw [List.filter_cons_of_pos (by simp [here, same]), tail, Option.toList_none]
      · simp only [List.map_cons, lookup, same, if_false]
        rw [List.filter_cons_of_neg (by simp [here, same]), tail]
  exact general map.entries map.distinct
    (fun entry member => keyed entry.1 entry.2 ((mem_entries_iff map entry.1 entry.2).mp member))

/-- A map without answers has no entries. -/
theorem size_eq_zero (map : InsertionMap κ ν) (absent : ∀ key, get? map key = none) :
    size map = 0 := by
  unfold size
  cases entries : map.entries with
  | nil => rfl
  | cons entry rest =>
    have found := (mem_entries_iff map entry.1 entry.2).mp (by rw [entries]; exact List.mem_cons_self)
    rw [absent] at found
    cases found

theorem mem_keys_iff (map : InsertionMap κ ν) (key : κ) : key ∈ keys map ↔ has map key = true := by
  have absent := lookup_eq_none_iff map.entries key
  unfold has get? keys
  cases found : lookup map.entries key <;> simp_all

theorem has_eq_false_iff (map : InsertionMap κ ν) (key : κ) :
    has map key = false ↔ get? map key = none := by
  simp [has]

theorem has_set (map : InsertionMap κ ν) (key tested : κ) (value : ν) :
    has (set map key value) tested = (decide (tested = key) || has map tested) := by
  by_cases same : tested = key <;> simp [has, get?_set, same]

theorem length_insert (entries : List (κ × ν)) (key : κ) (value : ν) :
    (insert entries key value).length =
      if (lookup entries key).isSome then entries.length else entries.length + 1 := by
  induction entries with
  | nil => simp [insert, lookup]
  | cons entry rest inductionHypothesis =>
    obtain ⟨other, old⟩ := entry
    by_cases same : other = key
    · simp [insert, lookup, same]
    · simp only [insert, lookup, same, if_false, List.length_cons, inductionHypothesis]
      split <;> rfl

/-- A new key comes last. -/
theorem insert_of_absent {entries : List (κ × ν)} {key : κ} (value : ν)
    (absent : lookup entries key = none) :
    insert entries key value = entries ++ [(key, value)] := by
  induction entries with
  | nil => rfl
  | cons entry rest inductionHypothesis =>
    obtain ⟨other, old⟩ := entry
    by_cases same : other = key
    · simp [lookup, same] at absent
    · simp only [lookup, same, if_false] at absent
      simp [insert, same, inductionHypothesis absent]

/-- Overwriting keeps the size and a new key adds one. -/
theorem size_set (map : InsertionMap κ ν) (key : κ) (value : ν) :
    size (set map key value) = if has map key then size map else size map + 1 :=
  length_insert map.entries key value

/-- Deleting a present key removes one entry. -/
theorem size_modify (map : InsertionMap κ ν) (key : κ) (change : ν → ν) :
    size (modify map key change) = size map := by
  unfold modify
  split
  next => rfl
  next value found => rw [size_set, has, found, Option.isSome_some, if_pos rfl]

theorem size_delete (map : InsertionMap κ ν) (key : κ) :
    size (delete map key) + (if has map key then 1 else 0) = size map := by
  have removed : ∀ entries : List (κ × ν), (entries.map Prod.fst).Nodup →
      (entries.filter (fun entry => decide (entry.1 ≠ key))).length +
        (if (lookup entries key).isSome then 1 else 0) = entries.length := by
    intro entries distinct
    induction entries with
    | nil => rfl
    | cons entry rest inductionHypothesis =>
      obtain ⟨other, value⟩ := entry
      obtain ⟨absent, restDistinct⟩ := List.nodup_cons.mp distinct
      have tail := inductionHypothesis restDistinct
      by_cases same : other = key
      · subst same
        have missing : lookup rest other = none := (lookup_eq_none_iff rest other).mpr absent
        have kept : (rest.filter (fun entry => decide (entry.1 ≠ other))).length = rest.length := by
          simpa [missing] using tail
        simp only [lookup, List.length_cons]
        simpa using kept
      · simp only [lookup, same, if_false, List.length_cons]
        have front : ((other, value) :: rest).filter (fun entry => decide (entry.1 ≠ key)) =
            (other, value) :: rest.filter (fun entry => decide (entry.1 ≠ key)) :=
          List.filter_cons_of_pos (by simpa using same)
        rw [front, List.length_cons]
        omega
  exact removed map.entries map.distinct

/-- A filter that rejects an entry makes the map smaller. -/
theorem size_filter_lt {map : InsertionMap κ ν} {keep : κ → ν → Bool} {key : κ} {value : ν}
    (found : get? map key = some value) (rejected : keep key value = false) :
    size (map.filter keep) < size map := by
  apply List.length_filter_lt_length_iff_exists.mpr
  exact ⟨(key, value), (mem_entries_iff map key value).mpr found, by simp [rejected]⟩

/-- A filter that accepts every entry changes nothing. -/
theorem filter_eq_self {map : InsertionMap κ ν} {keep : κ → ν → Bool}
    (accepted : ∀ key value, get? map key = some value → keep key value = true) :
    map.filter keep = map := by
  apply ext_entries
  apply List.filter_eq_self.mpr
  intro entry member
  exact accepted entry.1 entry.2 ((mem_entries_iff map entry.1 entry.2).mp member)

/-- A map with fewer keys is smaller by the keys that it lacks. -/
theorem length_missing (before after : InsertionMap κ ν)
    (included : ∀ key, has after key = true → has before key = true) :
    ((keys before).filter (fun key => !has after key)).length + size after = size before := by
  have beforeDistinct : (keys before).Nodup := before.distinct
  have afterDistinct : (keys after).Nodup := after.distinct
  have kept : ((keys before).filter (has after)).Perm (keys after) := by
    refine (List.perm_ext_iff_of_nodup (beforeDistinct.filter _) afterDistinct).mpr ?_
    intro key
    rw [List.mem_filter, mem_keys_iff, mem_keys_iff]
    exact ⟨fun both => both.2, fun present => ⟨included key present, present⟩⟩
  have split : (keys before).length = ((keys before).filter (has after)).length +
      ((keys before).filter (fun key => !has after key)).length :=
    List.length_eq_length_filter_add (has after)
  have beforeSize : (keys before).length = size before := List.length_map _
  have afterSize : (keys after).length = size after := List.length_map _
  have keptSize := kept.length_eq
  omega

/-- Maps with the same keys have the same size. -/
theorem size_congr {before after : InsertionMap κ ν}
    (same : ∀ key, has before key = has after key) : size before = size after := by
  have missing := length_missing before after (fun key present => by rwa [same key])
  have none : (keys before).filter (fun key => !has after key) = [] := by
    apply List.filter_eq_nil_iff.mpr
    intro key member
    rw [← same key, (mem_keys_iff before key).mp member]
    simp
  rw [none, List.length_nil, Nat.zero_add] at missing
  exact missing.symm

end Decidable

end InsertionMap

end LiquidationBot
