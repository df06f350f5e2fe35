import LiquidationBot.Library.Prefixes
import Mathlib.Algebra.Order.Group.Defs
import Mathlib.Algebra.Order.Group.Unbundled.Basic
import Mathlib.Algebra.Order.Sub.Defs
import Mathlib.Data.List.DropRight

/-!
# A counter that lets one event through per interval

Events come at times that never fall. One counter counts them and remembers the
time it was opened or last let an event through. An event that is due after that
time passes with the count of the events before it, and the counter starts over;
any other event is held back and counted.

The count that passes is meant to be the number of events held back since the
last one that passed. It is that number plus the value that the counter starts
over from, so it is exact for every run if that value is zero. Otherwise it is
exact as long as no event is due a second time, which the times alone decide.
-/

namespace LiquidationBot.Throttle

open Prefixes

universe u
variable {T : Type u}

structure Tally (T : Type u) where
  count : Nat
  last : T

def passed (entry : T × Option Nat) : Bool := entry.2.isSome

def HasPassed (entries : List (T × Option Nat)) : Prop := ∃ entry ∈ entries, passed entry = true

instance (entries : List (T × Option Nat)) : Decidable (HasPassed entries) :=
  inferInstanceAs (Decidable (∃ entry ∈ entries, passed entry = true))

/-- The events held back since the last one that passed, or since the first. -/
def heldBack (entries : List (T × Option Nat)) : Nat :=
  (entries.rtakeWhile (fun entry => !passed entry)).length

/-- What passes is the number of events held back. -/
def Exact (entries : List (T × Option Nat)) : Prop :=
  EachStep (fun past entry => ∀ count ∈ entry.2, count = heldBack past) entries

theorem hasPassed_snoc (entries : List (T × Option Nat)) (entry : T × Option Nat) :
    HasPassed (entries ++ [entry]) ↔ HasPassed entries ∨ passed entry = true := by
  simp only [HasPassed, List.mem_append, List.mem_singleton, or_and_right, exists_or,
    exists_eq_left]

theorem heldBack_snoc (entries : List (T × Option Nat)) (entry : T × Option Nat) :
    heldBack (entries ++ [entry]) = if passed entry = true then 0 else heldBack entries + 1 := by
  rw [heldBack, List.rtakeWhile_concat]
  cases through : passed entry with
  | true => simp
  | false => simp [heldBack]

variable [AddCommGroup T]

/-- One event, on an opened counter: what passes, if it does. -/
def advance (due : T → Prop) [DecidablePred due] (restart : Nat) (tally : Tally T) (time : T) :
    Tally T × Option Nat :=
  if due (time - tally.last) then (⟨restart, time⟩, some tally.count)
  else (⟨tally.count + 1, tally.last⟩, none)

/-- One event, on the counter and on the answers so far; the first event opens it. -/
def step (due : T → Prop) [DecidablePred due] (restart : Nat)
    (state : Option (Tally T) × List (T × Option Nat)) (time : T) :
    Option (Tally T) × List (T × Option Nat) :=
  let advanced := advance due restart (state.1.getD ⟨0, time⟩) time
  (some advanced.1, state.2 ++ [(time, advanced.2)])

def history (due : T → Prop) [DecidablePred due] (restart : Nat) (times : List T) :
    Option (Tally T) × List (T × Option Nat) :=
  times.foldl (step due restart) (none, [])

/-- The events with what each let pass. -/
def entries (due : T → Prop) [DecidablePred due] (restart : Nat) (times : List T) :
    List (T × Option Nat) :=
  (history due restart times).2

/-- An earlier event was due after one before it, and this one is due after that. -/
def DueAgain (due : T → Prop) (past : List T) (time : T) : Prop :=
  ∃ middle ∈ past, due (time - middle) ∧ ∃ first ∈ past, due (middle - first)

/-! ## The counter and its answers -/

variable {due : T → Prop} {restart : Nat}

section Ordered

variable [LinearOrder T]

/-- A counter that counts what was held back behind the value it started over from, and the
time of the last event that passed, or of the first of all. -/
structure Kept (due : T → Prop) (restart : Nat) (tally : Tally T)
    (entries : List (T × Option Nat)) : Prop where
  counted : tally.count = heldBack entries + if HasPassed entries then restart else 0
  noted : entries ≠ [] → ∃ entry ∈ entries, entry.1 = tally.last ∧
    (HasPassed entries → passed entry = true)
  latest : ∀ entry ∈ entries, passed entry = true → entry.1 ≤ tally.last
  first : ¬ HasPassed entries → ∀ entry ∈ entries, tally.last ≤ entry.1
  spaced : (entries.filter passed).Pairwise (fun earlier later => due (later.1 - earlier.1))
  lapsed : ∀ entry ∈ entries, passed entry = true → ∃ other ∈ entries, due (entry.1 - other.1)
  reached : ∀ middle ∈ entries, ∀ other ∈ entries, due (middle.1 - other.1) →
    ∃ entry ∈ entries, passed entry = true ∧ entry.1 ≤ middle.1

variable {tally : Tally T} {entries : List (T × Option Nat)} {time : T}

theorem kept_open (time : T) : Kept due restart ⟨0, time⟩ [] where
  counted := by simp [HasPassed, heldBack]
  noted := by simp
  latest := by simp
  first := by simp
  spaced := by simp
  lapsed := by simp
  reached := by simp

theorem Kept.last_le (kept : Kept due restart tally entries)
    (opened : entries = [] → tally.last = time)
    (earlier : ∀ entry ∈ entries, entry.1 ≤ time) : tally.last ≤ time := by
  by_cases empty : entries = []
  · exact (opened empty).le
  · obtain ⟨entry, member, same, _⟩ := kept.noted empty
    exact same ▸ earlier entry member

variable [IsOrderedAddMonoid T]

/-- Where an event is due after a later one, it is due after itself. -/
theorem due_self (longer : ∀ elapsed more, elapsed ≤ more → due elapsed → due more)
    {middle other : T} (order : middle ≤ other) (passes : due (middle - other)) :
    due (middle - middle) :=
  longer _ _ (sub_le_sub_left order middle) passes

/-- A new event does not make an earlier one late. -/
theorem Kept.reached_before (longer : ∀ elapsed more, elapsed ≤ more → due elapsed → due more)
    (kept : Kept due restart tally entries) (earlier : ∀ entry ∈ entries, entry.1 ≤ time)
    {middle other : T × Option Nat} {answer : Option Nat} (member : middle ∈ entries)
    (among : other ∈ entries ++ [(time, answer)]) (late : due (middle.1 - other.1)) :
    ∃ entry ∈ entries, passed entry = true ∧ entry.1 ≤ middle.1 := by
  rcases List.mem_append.mp among with there | here
  · exact kept.reached middle member other there late
  · rw [List.mem_singleton.mp here] at late
    exact kept.reached middle member middle member (due_self longer (earlier middle member) late)

/-- A due event passes. -/
theorem Kept.pass (longer : ∀ elapsed more, elapsed ≤ more → due elapsed → due more)
    (kept : Kept due restart tally entries) (opened : entries = [] → tally.last = time)
    (earlier : ∀ entry ∈ entries, entry.1 ≤ time) (passes : due (time - tally.last)) :
    Kept due restart ⟨restart, time⟩ (entries ++ [(time, some tally.count)]) where
  counted := by
    have now : HasPassed (entries ++ [(time, some tally.count)]) :=
      (hasPassed_snoc _ _).mpr (Or.inr rfl)
    simp only [now, if_true, heldBack_snoc, passed, Option.isSome_some, Nat.zero_add]
  noted := fun _ => ⟨_, List.mem_append_right _ (List.mem_singleton.mpr rfl), rfl, fun _ => rfl⟩
  latest := by
    intro entry member _
    rcases List.mem_append.mp member with before | new
    · exact earlier entry before
    · rw [List.mem_singleton.mp new]
  first := fun none => absurd ((hasPassed_snoc _ _).mpr (Or.inr rfl)) none
  spaced := by
    rw [List.filter_append]
    refine List.pairwise_append.mpr ⟨kept.spaced, List.pairwise_singleton _ _, ?_⟩
    intro entry member other new
    rw [List.mem_singleton.mp (List.mem_filter.mp new).1]
    obtain ⟨before, through⟩ := List.mem_filter.mp member
    exact longer _ _ (sub_le_sub_left (kept.latest entry before through) time) passes
  lapsed := by
    intro entry member through
    rcases List.mem_append.mp member with before | new
    · obtain ⟨other, among, late⟩ := kept.lapsed entry before through
      exact ⟨other, List.mem_append_left _ among, late⟩
    · rw [List.mem_singleton.mp new]
      by_cases empty : entries = []
      · exact ⟨_, List.mem_append_right _ (List.mem_singleton.mpr rfl), opened empty ▸ passes⟩
      · obtain ⟨other, among, same, _⟩ := kept.noted empty
        exact ⟨other, List.mem_append_left _ among, same ▸ passes⟩
  reached := by
    intro middle member other among late
    rcases List.mem_append.mp member with before | new
    · obtain ⟨entry, found, through, order⟩ := kept.reached_before longer earlier before among late
      exact ⟨entry, List.mem_append_left _ found, through, order⟩
    · exact ⟨_, List.mem_append_right _ (List.mem_singleton.mpr rfl), rfl,
        by rw [List.mem_singleton.mp new]⟩

/-- An event that is not due is held back. -/
theorem Kept.hold (longer : ∀ elapsed more, elapsed ≤ more → due elapsed → due more)
    (kept : Kept due restart tally entries) (opened : entries = [] → tally.last = time)
    (earlier : ∀ entry ∈ entries, entry.1 ≤ time) (waits : ¬ due (time - tally.last)) :
    Kept due restart ⟨tally.count + 1, tally.last⟩ (entries ++ [(time, none)]) := by
  have same : HasPassed (entries ++ [(time, none)]) ↔ HasPassed entries := by
    simp [hasPassed_snoc, passed]
  have order := kept.last_le opened earlier
  constructor
  · have counted := kept.counted
    simp only [same, heldBack_snoc, passed, Option.isSome_none, Bool.false_eq_true, if_false]
    omega
  · intro _
    by_cases empty : entries = []
    · subst empty
      exact ⟨(time, none), by simp, (opened rfl).symm, by simp [passed, HasPassed]⟩
    · obtain ⟨entry, member, last, through⟩ := kept.noted empty
      exact ⟨entry, List.mem_append_left _ member, last, fun has => through (same.mp has)⟩
  · intro entry member through
    rcases List.mem_append.mp member with before | new
    · exact kept.latest entry before through
    · rw [List.mem_singleton.mp new] at through
      cases through
  · intro none entry member
    rcases List.mem_append.mp member with before | new
    · exact kept.first (fun has => none (same.mpr has)) entry before
    · rw [List.mem_singleton.mp new]
      exact order
  · rw [List.filter_append, List.filter_cons_of_neg (by simp [passed]), List.filter_nil,
      List.append_nil]
    exact kept.spaced
  · intro entry member through
    rcases List.mem_append.mp member with before | new
    · obtain ⟨other, among, late⟩ := kept.lapsed entry before through
      exact ⟨other, List.mem_append_left _ among, late⟩
    · rw [List.mem_singleton.mp new] at through
      cases through
  · intro middle member other among late
    rcases List.mem_append.mp member with before | new
    · obtain ⟨entry, found, through, order⟩ := kept.reached_before longer earlier before among late
      exact ⟨entry, List.mem_append_left _ found, through, order⟩
    · -- an event that is late and was held back comes after one that passed
      rw [List.mem_singleton.mp new] at late ⊢
      by_cases has : HasPassed entries
      · obtain ⟨entry, found, through⟩ := has
        exact ⟨entry, List.mem_append_left _ found, through, earlier entry found⟩
      · have notBefore : tally.last ≤ other.1 := by
          rcases List.mem_append.mp among with there | here
          · exact kept.first has other there
          · rw [List.mem_singleton.mp here]
            exact order
        exact absurd (longer _ _ (sub_le_sub_left notBefore time) late) waits

theorem Kept.advance [DecidablePred due]
    (longer : ∀ elapsed more, elapsed ≤ more → due elapsed → due more)
    (kept : Kept due restart tally entries) (opened : entries = [] → tally.last = time)
    (earlier : ∀ entry ∈ entries, entry.1 ≤ time) :
    Kept due restart (advance due restart tally time).1
      (entries ++ [(time, (Throttle.advance due restart tally time).2)]) := by
  rw [Throttle.advance]
  split
  · next passes => exact kept.pass longer opened earlier passes
  · next waits => exact kept.hold longer opened earlier waits

end Ordered

/-! ## Runs -/

variable [DecidablePred due]

theorem history_snoc (times : List T) (time : T) :
    history due restart (times ++ [time]) = step due restart (history due restart times) time := by
  rw [history, List.foldl_append]
  rfl

theorem map_fst_entries (due : T → Prop) [DecidablePred due] (restart : Nat) (times : List T) :
    (entries due restart times).map Prod.fst = times := by
  induction times using List.reverseRecOn with
  | nil => rfl
  | append_singleton times time inductionHypothesis =>
    rw [entries, history_snoc, step, List.map_append]
    exact congrArg (· ++ [time]) inductionHypothesis

theorem mem_of_mem_entries {times : List T} {entry : T × Option Nat}
    (member : entry ∈ entries due restart times) : entry.1 ∈ times := by
  rw [← map_fst_entries due restart times]
  exact List.mem_map_of_mem member

/-- The counter that an event meets. -/
def opened (due : T → Prop) [DecidablePred due] (restart : Nat) (times : List T) (time : T) :
    Tally T :=
  (history due restart times).1.getD ⟨0, time⟩

theorem entries_snoc (times : List T) (time : T) :
    entries due restart (times ++ [time]) = entries due restart times ++
      [(time, (advance due restart (opened due restart times time) time).2)] := by
  rw [entries, history_snoc]
  rfl

theorem opened_of_entries_eq_nil {times : List T} (empty : entries due restart times = [])
    (time : T) : opened due restart times time = ⟨0, time⟩ := by
  have none : times = [] := by
    rw [← map_fst_entries due restart times, empty, List.map_nil]
  rw [none]
  rfl

/-- An event passes although one has passed before. -/
def PassesAgain (due : T → Prop) [DecidablePred due] (restart : Nat) (past : List T) (time : T) :
    Prop :=
  due (time - (opened due restart past time).last) ∧ HasPassed (entries due restart past)

/-- While no event passes again, one event at most has passed, and the counter notes it. -/
theorem eq_last_of_passed {past : List T} (time : T)
    (never : EachStep (fun past time => ¬ PassesAgain due restart past time) past) :
    ∀ entry ∈ entries due restart past, passed entry = true →
      entry.1 = (opened due restart past time).last := by
  induction past using List.reverseRecOn generalizing time with
  | nil => intro entry member; cases member
  | append_singleton past last inductionHypothesis =>
    obtain ⟨earlier, here⟩ := (eachStep_snoc _ _ _).mp never
    intro entry member through
    rw [entries_snoc] at member
    have next : opened due restart (past ++ [last]) time =
        (advance due restart (opened due restart past last) last).1 := by
      rw [opened, history_snoc]
      rfl
    rw [next, advance]
    rcases List.mem_append.mp member with before | new
    · have noted := inductionHypothesis last earlier entry before through
      split
      · next passes => exact absurd ⟨passes, entry, before, through⟩ here
      · exact noted
    · rw [List.mem_singleton.mp new, advance] at through ⊢
      split
      · rfl
      · next waits =>
        rw [if_neg waits] at through
        cases through

variable [LinearOrder T]

theorem entries_le {times : List T} {time : T} (rising : (times ++ [time]).Pairwise (· ≤ ·)) :
    ∀ entry ∈ entries due restart times, entry.1 ≤ time := by
  intro entry member
  exact (List.pairwise_append.mp rising).2.2 entry.1 (mem_of_mem_entries member) time
    (List.mem_singleton.mpr rfl)

variable [IsOrderedAddMonoid T]

/-- The counter that a run leaves to the next event. Induct on the events from the end. -/
theorem kept_opened (restart : Nat)
    (longer : ∀ elapsed more, elapsed ≤ more → due elapsed → due more)
    {times : List T} (rising : times.Pairwise (· ≤ ·)) (time : T) :
    Kept due restart (opened due restart times time) (entries due restart times) := by
  induction times using List.reverseRecOn generalizing time with
  | nil => exact kept_open time
  | append_singleton times last inductionHypothesis =>
    have before := inductionHypothesis (List.pairwise_append.mp rising).1 last
    have moved := before.advance longer
      (fun empty => congrArg Tally.last (opened_of_entries_eq_nil empty last)) (entries_le rising)
    rw [entries_snoc, opened, history_snoc]
    exact moved

/-- Events that pass are due one after the other. -/
theorem spaced_entries (longer : ∀ elapsed more, elapsed ≤ more → due elapsed → due more)
    {times : List T} (rising : times.Pairwise (· ≤ ·)) :
    ((entries due restart times).filter passed).Pairwise
      (fun earlier later => due (later.1 - earlier.1)) :=
  (kept_opened restart longer rising 0).spaced

/-- What an event lets pass is exact unless it passes again from a counter that did not start
over from zero. -/
theorem exact_answer_iff (longer : ∀ elapsed more, elapsed ≤ more → due elapsed → due more)
    {past : List T} {time : T} (rising : past.Pairwise (· ≤ ·)) :
    (∀ count ∈ (advance due restart (opened due restart past time) time).2,
        count = heldBack (entries due restart past)) ↔
      restart = 0 ∨ ¬ PassesAgain due restart past time := by
  have counted := (kept_opened restart longer rising time).counted
  rw [advance, PassesAgain]
  by_cases passes : due (time - (opened due restart past time).last)
  · simp only [passes, if_true, true_and, Option.mem_def, Option.some.injEq, forall_eq']
    by_cases has : HasPassed (entries due restart past)
    · rw [if_pos has] at counted
      simp only [has, not_true_eq_false, or_false]
      omega
    · rw [if_neg has] at counted
      simp only [has, not_false_eq_true, or_true, iff_true]
      omega
  · simp [passes]

/-- Induct on the events from the end. -/
theorem exact_entries_iff (longer : ∀ elapsed more, elapsed ≤ more → due elapsed → due more)
    {times : List T} (rising : times.Pairwise (· ≤ ·)) :
    Exact (entries due restart times) ↔
      EachStep (fun past time => restart = 0 ∨ ¬ PassesAgain due restart past time) times := by
  induction times using List.reverseRecOn with
  | nil =>
    constructor
    · intro _ past time initial
      simp at initial
    · intro _ past entry initial
      simp [entries, history] at initial
  | append_singleton times time inductionHypothesis =>
    have before := (List.pairwise_append.mp rising).1
    rw [Exact, entries_snoc, eachStep_snoc, eachStep_snoc, ← inductionHypothesis before,
      ← exact_answer_iff longer before]
    rfl

theorem dueAgain_of_passesAgain
    (longer : ∀ elapsed more, elapsed ≤ more → due elapsed → due more)
    {past : List T} {time : T} (rising : past.Pairwise (· ≤ ·))
    (again : PassesAgain due restart past time) : DueAgain due past time := by
  have kept := kept_opened restart longer rising time
  obtain ⟨passes, has⟩ := again
  have nonempty : entries due restart past ≠ [] := by
    obtain ⟨entry, member, _⟩ := has
    exact List.ne_nil_of_mem member
  obtain ⟨middle, member, last, through⟩ := kept.noted nonempty
  obtain ⟨first, before, late⟩ := kept.lapsed middle member (through has)
  exact ⟨middle.1, mem_of_mem_entries member, last ▸ passes, first.1, mem_of_mem_entries before,
    late⟩

/-- An event passes again in a run that has one due again. -/
theorem eachStep_dueAgain_iff (restart : Nat)
    (longer : ∀ elapsed more, elapsed ≤ more → due elapsed → due more)
    {times : List T} (rising : times.Pairwise (· ≤ ·)) :
    EachStep (fun past time => ¬ PassesAgain due restart past time) times ↔
      EachStep (fun past time => ¬ DueAgain due past time) times := by
  constructor
  · intro never past time initial again
    obtain ⟨middle, member, late, first, before, lapsed⟩ := again
    have risingPast : past.Pairwise (· ≤ ·) :=
      rising.sublist ((List.prefix_append past [time]).trans initial).sublist
    have entryOf (tested) (among : tested ∈ past) :
        ∃ entry ∈ entries due restart past, entry.1 = tested := by
      rw [← map_fst_entries due restart past] at among
      exact List.mem_map.mp among
    obtain ⟨middleEntry, middleMember, rfl⟩ := entryOf middle member
    obtain ⟨firstEntry, firstMember, rfl⟩ := entryOf first before
    obtain ⟨entry, found, through, order⟩ := (kept_opened restart longer risingPast time).reached
      middleEntry middleMember firstEntry firstMember lapsed
    have noted := eq_last_of_passed time (fun earlier tested shorter =>
      never earlier tested (shorter.trans ((List.prefix_append past [time]).trans initial)))
      entry found through
    refine never past time initial ⟨?_, entry, found, through⟩
    exact longer _ _ (sub_le_sub_left (noted ▸ order) time) late
  · intro none past time initial again
    have risingPast : past.Pairwise (· ≤ ·) :=
      rising.sublist ((List.prefix_append past [time]).trans initial).sublist
    exact none past time initial (dueAgain_of_passesAgain longer risingPast again)

/-- A counter that starts over from another value counts exactly as long as no event is due
again. -/
theorem exact_iff (longer : ∀ elapsed more, elapsed ≤ more → due elapsed → due more)
    (positive : restart ≠ 0) {times : List T} (rising : times.Pairwise (· ≤ ·)) :
    Exact (entries due restart times) ↔
      EachStep (fun past time => ¬ DueAgain due past time) times := by
  rw [exact_entries_iff longer rising, ← eachStep_dueAgain_iff restart longer rising]
  exact eachStep_congr (fun _ _ _ => or_iff_right positive)

end LiquidationBot.Throttle
