import LiquidationBot.Library.AsyncRuns

/-!
# Turns of a loop, and calls that are programs

A loop that collects results makes one turn an item. A complete run of it is a
run of every turn, one after the other, and what is collected is what the turns
kept. Nothing is assumed about the answers, so two turns for one item may end in
different ways.

The calls of a program may themselves be programs over other calls. Replacing
them respects sequencing, so a loop stays a loop.
-/

namespace LiquidationBot

namespace Async

variable {Op : Type} {Ans : Op → Type} {ε α β γ : Type}

/-- Collect what the turns keep, item after item. -/
def collect (turn : α → Async Op Ans ε β) (keep : α → β → List γ) :
    List γ → List α → Async Op Ans ε (List γ)
  | kept, [] => .pure kept
  | kept, item :: rest =>
      (turn item).bind (fun outcome => collect turn keep (kept ++ keep item outcome) rest)

/-- A turn that was made: its item, its calls and what it came to. -/
structure Turn (Op : Type) (Ans : Op → Type) (α β : Type) where
  item : α
  events : List (Event Op Ans)
  outcome : β

/-- The turn is a complete run of its program. -/
def Turn.Ran (turn : α → Async Op Ans ε β) (made : Turn Op Ans α β) : Prop :=
  Runs (turn made.item) made.events (.ok made.outcome)

section Turns

variable {turn : α → Async Op Ans ε β} {keep : α → β → List γ} {items : List α}
  {kept result : List γ} {events : List (Event Op Ans)}

/-- A run of the loop is a run of a turn for each item. -/
theorem runs_collect :
    Runs (collect turn keep kept items) events (.ok result) ↔
      ∃ turns : List (Turn Op Ans α β), turns.map Turn.item = items ∧
        (∀ made ∈ turns, made.Ran turn) ∧ events = turns.flatMap Turn.events ∧
        result = kept ++ turns.flatMap (fun made => keep made.item made.outcome) := by
  induction items generalizing kept events with
  | nil =>
    simp only [collect, runs_pure, List.map_eq_nil_iff]
    constructor
    · rintro ⟨rfl, ended⟩
      cases ended
      exact ⟨[], rfl, by simp, rfl, by simp⟩
    · rintro ⟨turns, rfl, _, rfl, rfl⟩
      simp
  | cons item rest inductionHypothesis =>
    simp only [collect, runs_bind_ok, inductionHypothesis]
    constructor
    · rintro ⟨outcome, earlier, later, rfl, run, turns, rfl, ran, rfl, rfl⟩
      refine ⟨⟨item, earlier, outcome⟩ :: turns, rfl, ?_, rfl, by simp⟩
      rintro made (_ | ⟨_, member⟩)
      · exact run
      · exact ran made member
    · rintro ⟨turns, covered, ran, rfl, rfl⟩
      cases turns with
      | nil => cases covered
      | cons made turns =>
        obtain ⟨rfl, rfl⟩ := List.cons.inj covered
        exact ⟨made.outcome, made.events, turns.flatMap Turn.events, rfl,
          ran made List.mem_cons_self, turns, rfl,
          fun later member => ran later (List.mem_cons_of_mem made member), rfl, by simp⟩

/-- A run of the loop that ends with an exception made the turns before it, and the exception
ended the next one. -/
theorem runs_collect_error {error : ε} :
    Runs (collect turn keep kept items) events (.error error) ↔
      ∃ (turns : List (Turn Op Ans α β)) (item : α) (rest : List α) (thrown : List (Event Op Ans)),
        items = turns.map Turn.item ++ item :: rest ∧ (∀ made ∈ turns, made.Ran turn) ∧
        Runs (turn item) thrown (.error error) ∧ events = turns.flatMap Turn.events ++ thrown := by
  induction items generalizing kept events with
  | nil =>
    simp only [collect, runs_pure, reduceCtorEq, and_false, false_iff]
    rintro ⟨turns, item, rest, _, split, _⟩
    simp at split
  | cons first others inductionHypothesis =>
    simp only [collect, runs_bind, inductionHypothesis]
    constructor
    · rintro (⟨_, run, same⟩ | ⟨outcome, earlier, _, rfl, run, turns, item, rest, thrown, rfl, ran,
        ended, rfl⟩)
      · cases same
        exact ⟨[], first, others, events, rfl, by simp, run, rfl⟩
      · refine ⟨⟨first, earlier, outcome⟩ :: turns, item, rest, thrown, rfl, ?_, ended, by simp⟩
        rintro made (_ | ⟨_, member⟩)
        · exact run
        · exact ran made member
    · rintro ⟨turns, item, rest, thrown, covered, ran, ended, rfl⟩
      cases turns with
      | nil =>
        obtain ⟨rfl, rfl⟩ := List.cons.inj covered
        exact Or.inl ⟨error, ended, rfl⟩
      | cons made turns =>
        obtain ⟨rfl, rfl⟩ := List.cons.inj covered
        exact Or.inr ⟨made.outcome, made.events, _, by simp, ran made List.mem_cons_self, turns, item,
          rest, thrown, rfl, fun later member => ran later (List.mem_cons_of_mem made member), ended,
          rfl⟩

/-- A loop whose turns do not look at what was merged so far collects first and merges then. -/
theorem foldlM_eq_collect {σ : Type} {merge : σ → γ → σ} {step : σ → α → Async Op Ans ε σ}
    (steps : ∀ state item, step state item =
      (turn item).bind (fun outcome => .pure ((keep item outcome).foldl merge state)))
    (start : σ) (kept : List γ) : items.foldlM step (kept.foldl merge start) =
      (collect turn keep kept items).bind (fun all => .pure (all.foldl merge start)) := by
  induction items generalizing kept with
  | nil => rfl
  | cons item rest inductionHypothesis =>
    rw [List.foldlM_cons, steps, bind_eq, collect, bind_assoc, bind_assoc]
    congr 1
    funext outcome
    rw [pure_bind, ← List.foldl_append, inductionHypothesis]

end Turns

/-- A loop whose turns all come to a value is the fold of these values. -/
theorem evaluate_foldlM {σ : Type} {answer : (op : Op) → Ans op} {step : σ → α → Async Op Ans ε σ}
    {next : σ → α → σ}
    (steps : ∀ state item, (step state item).evaluate answer = .ok (next state item))
    (items : List α) (start : σ) :
    (items.foldlM step start).evaluate answer = .ok (items.foldl next start) := by
  induction items generalizing start with
  | nil => rfl
  | cons item rest inductionHypothesis =>
    rw [List.foldlM_cons, bind_eq, evaluate_bind, steps]
    exact inductionHypothesis (next start item)

section Expansion

variable {Op' : Type} {Ans' : Op' → Type} (meaning : ∀ op, Async Op' Ans' ε (Ans op))

/-- The program with each of its calls replaced by a program. -/
def expand : Async Op Ans ε α → Async Op' Ans' ε α
  | .pure value => .pure value
  | .throw error => .throw error
  | .call op resume => (meaning op).bind (fun answer => (resume answer).expand)

@[simp] theorem expand_pure (value : α) :
    (.pure value : Async Op Ans ε α).expand meaning = .pure value := rfl

@[simp] theorem expand_throw (error : ε) :
    (.throw error : Async Op Ans ε α).expand meaning = .throw error := rfl

@[simp] theorem expand_call (op : Op) (resume : Ans op → Async Op Ans ε α) :
    (Async.call op resume).expand meaning =
      (meaning op).bind (fun answer => (resume answer).expand meaning) := rfl

@[simp] theorem expand_orThrow (answer : Except ε α) :
    (orThrow answer : Async Op Ans ε α).expand meaning = orThrow answer := by
  cases answer with
  | ok value => rfl
  | error error => rfl

@[simp] theorem expand_bind (program : Async Op Ans ε β) (rest : β → Async Op Ans ε α) :
    (program.bind rest).expand meaning =
      (program.expand meaning).bind (fun value => (rest value).expand meaning) := by
  induction program with
  | pure value => rfl
  | throw error => rfl
  | call op resume inductionHypothesis =>
    simp only [call_bind, expand_call, inductionHypothesis, bind_assoc]

/-- Each turn of the loop is replaced. -/
theorem expand_collect (turn : α → Async Op Ans ε β) (keep : α → β → List γ) (kept : List γ)
    (items : List α) :
    (collect turn keep kept items).expand meaning =
      collect (fun item => (turn item).expand meaning) keep kept items := by
  induction items generalizing kept with
  | nil => rfl
  | cons item rest inductionHypothesis =>
    simp only [collect, expand_bind, inductionHypothesis]

/-- A run of the replaced program is a run of the program with a run behind each of its calls. -/
theorem runs_expand {meaning : ∀ op, Async Op' Ans' ε (Ans op)}
    (returns : ∀ op events error, ¬ Runs (meaning op) events (.error error))
    {program : Async Op Ans ε α} {events : List (Event Op' Ans')} {result : Except ε α} :
    Runs (program.expand meaning) events result ↔
      ∃ calls : List (Event Op Ans × List (Event Op' Ans')),
        Runs program (calls.map Prod.fst) result ∧ events = calls.flatMap Prod.snd ∧
          ∀ call ∈ calls, Runs (meaning call.1.1) call.2 (.ok call.1.2) := by
  induction program generalizing events with
  | pure value =>
    simp only [expand_pure, runs_pure, List.map_eq_nil_iff]
    constructor
    · rintro ⟨rfl, rfl⟩
      exact ⟨[], ⟨rfl, rfl⟩, rfl, by simp⟩
    · rintro ⟨_, ⟨rfl, rfl⟩, rfl, _⟩
      exact ⟨rfl, rfl⟩
  | throw error =>
    simp only [expand_throw, runs_throw, List.map_eq_nil_iff]
    constructor
    · rintro ⟨rfl, rfl⟩
      exact ⟨[], ⟨rfl, rfl⟩, rfl, by simp⟩
    · rintro ⟨_, ⟨rfl, rfl⟩, rfl, _⟩
      exact ⟨rfl, rfl⟩
  | call op resume inductionHypothesis =>
    simp only [expand_call, runs_bind, inductionHypothesis, runs_call]
    constructor
    · rintro (⟨error, thrown, _⟩ | ⟨answer, earlier, _, rfl, run, calls, rest, rfl, behind⟩)
      · exact absurd thrown (returns op events error)
      · refine ⟨(⟨op, answer⟩, earlier) :: calls, ⟨answer, _, rfl, rest⟩, rfl, ?_⟩
        rintro call (_ | ⟨_, member⟩)
        · exact run
        · exact behind call member
    · rintro ⟨calls, ⟨answer, later, split, rest⟩, rfl, behind⟩
      obtain ⟨⟨_, earlier⟩, calls, rfl, rfl, rfl⟩ := List.map_eq_cons_iff.mp split
      exact Or.inr ⟨answer, earlier, calls.flatMap Prod.snd, rfl, behind _ List.mem_cons_self,
        calls, rest, rfl, fun call member => behind call (List.mem_cons_of_mem _ member)⟩

end Expansion

/-- Catching an exception to throw it again changes nothing. -/
theorem attempt_bind_orThrow (program : Async Op Ans ε α) :
    program.attempt.bind orThrow = program := by
  induction program with
  | pure value => rfl
  | throw error => rfl
  | call op resume inductionHypothesis =>
    simp only [attempt, call_bind, handle] at inductionHypothesis ⊢
    simp only [inductionHypothesis]

end Async

end LiquidationBot
