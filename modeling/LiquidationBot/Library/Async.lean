import Mathlib.Tactic.Common

/-!
# Asynchronous programs

An asynchronous function computes until it needs an answer from outside: a
remote read, a shared object, a caller-supplied hook. The program type records
exactly these calls and what happens after each possible answer, including
thrown exceptions. It fixes no scheduler and no meaning of the calls; those are
supplied where programs are run.

A protocol is a finite-state reading of the calls made so far: `next phase op
answer` is the phase after a call, or none when the phase forbids the call.
`Conforms` says that every path of a program follows the protocol and ends in a
phase its postcondition accepts. The rules below follow the program's own
structure, so a proof about a program is a walk through its text.
-/

namespace LiquidationBot

/-- A program over calls `op` answered in `Ans op`, ending with a value or an
exception. -/
inductive Async (Op : Type) (Ans : Op → Type) (ε α : Type) : Type where
  | pure (value : α)
  | throw (error : ε)
  | call (op : Op) (resume : Ans op → Async Op Ans ε α)

namespace Async

variable {Op : Type} {Ans : Op → Type} {ε α β γ : Type}

/-- Continue with a later program; exceptions skip it. -/
def bind : Async Op Ans ε α → (α → Async Op Ans ε β) → Async Op Ans ε β
  | .pure value, rest => rest value
  | .throw error, _ => .throw error
  | .call op resume, rest => .call op (fun answer => (resume answer).bind rest)

/-- Continue with a handler after an exception; results skip it. -/
def handle : Async Op Ans ε α → (ε → Async Op Ans ε α) → Async Op Ans ε α
  | .pure value, _ => .pure value
  | .throw error, handler => handler error
  | .call op resume, handler => .call op (fun answer => (resume answer).handle handler)

instance : Monad (Async Op Ans ε) where
  pure := .pure
  bind := bind

/-- One call, returning its answer. -/
def perform (op : Op) : Async Op Ans ε (Ans op) := .call op .pure

/-- Turn an answered exception into a thrown one. -/
def orThrow : Except ε α → Async Op Ans ε α
  | .ok value => .pure value
  | .error error => .throw error

/-- Run a program inside a larger set of calls. -/
def translate {Op' : Type} {Ans' : Op' → Type} (embed : Op → Op')
    (back : ∀ op, Ans' (embed op) → Ans op) : Async Op Ans ε α → Async Op' Ans' ε α
  | .pure value => .pure value
  | .throw error => .throw error
  | .call op resume => .call (embed op) (fun answer => (resume (back op answer)).translate embed back)

/-- Catch an exception and go on with the outcome. -/
def attempt (program : Async Op Ans ε α) : Async Op Ans ε (Except ε α) :=
  (program.bind (fun value => .pure (.ok value))).handle (fun error => .pure (.error error))

/-- The result of a program whose calls are answered by a function. -/
def evaluate (answer : (op : Op) → Ans op) : Async Op Ans ε α → Except ε α
  | .pure value => .ok value
  | .throw error => .error error
  | .call op resume => evaluate answer (resume (answer op))

/-- The program has an answer to wait for. -/
def unfinished : Async Op Ans ε α → Bool
  | .call _ _ => true
  | _ => false

@[simp] theorem pure_eq (value : α) : (Pure.pure value : Async Op Ans ε α) = .pure value := rfl

@[simp] theorem bind_eq (program : Async Op Ans ε α) (rest : α → Async Op Ans ε β) :
    (program >>= rest) = program.bind rest := rfl

@[simp] theorem pure_bind (value : α) (rest : α → Async Op Ans ε β) :
    (Async.pure value : Async Op Ans ε α).bind rest = rest value := rfl

@[simp] theorem throw_bind (error : ε) (rest : α → Async Op Ans ε β) :
    (Async.throw error : Async Op Ans ε α).bind rest = .throw error := rfl

@[simp] theorem call_bind (op : Op) (resume : Ans op → Async Op Ans ε α)
    (rest : α → Async Op Ans ε β) :
    (Async.call op resume).bind rest = .call op (fun answer => (resume answer).bind rest) := rfl

theorem bind_assoc (program : Async Op Ans ε α) (first : α → Async Op Ans ε β)
    (second : β → Async Op Ans ε γ) :
    (program.bind first).bind second = program.bind (fun value => (first value).bind second) := by
  induction program with
  | pure value => rfl
  | throw error => rfl
  | call op resume inductionHypothesis => simp only [call_bind, inductionHypothesis]

/-- Sequencing evaluates in order; an exception ends there. -/
theorem evaluate_bind (answer : (op : Op) → Ans op) (program : Async Op Ans ε α)
    (rest : α → Async Op Ans ε β) :
    (program.bind rest).evaluate answer = match program.evaluate answer with
      | .ok value => (rest value).evaluate answer
      | .error error => .error error := by
  induction program with
  | pure value => rfl
  | throw error => rfl
  | call op resume inductionHypothesis => exact inductionHypothesis (answer op)

/-- An attempt gives the outcome of its program. -/
theorem evaluate_attempt (answer : (op : Op) → Ans op) (program : Async Op Ans ε α) :
    program.attempt.evaluate answer = .ok (program.evaluate answer) := by
  induction program with
  | pure value => rfl
  | throw error => rfl
  | call op resume inductionHypothesis => exact inductionHypothesis (answer op)

section Uses

variable {allowed : Op → Prop}

/-- Every call that the program can make is allowed. -/
def Uses (allowed : Op → Prop) : Async Op Ans ε α → Prop
  | .pure _ => True
  | .throw _ => True
  | .call op resume => allowed op ∧ ∀ answer, (resume answer).Uses allowed

theorem Uses.mono {wider : Op → Prop} {program : Async Op Ans ε α} (uses : program.Uses allowed)
    (included : ∀ op, allowed op → wider op) : program.Uses wider := by
  induction program with
  | pure value => trivial
  | throw error => trivial
  | call op resume inductionHypothesis =>
    exact ⟨included op uses.1, fun answer => inductionHypothesis answer (uses.2 answer)⟩

theorem Uses.bind {program : Async Op Ans ε α} {rest : α → Async Op Ans ε β}
    (uses : program.Uses allowed) (later : ∀ value, (rest value).Uses allowed) :
    (program.bind rest).Uses allowed := by
  induction program with
  | pure value => exact later value
  | throw error => trivial
  | call op resume inductionHypothesis =>
    exact ⟨uses.1, fun answer => inductionHypothesis answer (uses.2 answer)⟩

theorem Uses.handle {program : Async Op Ans ε α} {handler : ε → Async Op Ans ε α}
    (uses : program.Uses allowed) (handled : ∀ error, (handler error).Uses allowed) :
    (program.handle handler).Uses allowed := by
  induction program with
  | pure value => trivial
  | throw error => exact handled error
  | call op resume inductionHypothesis =>
    exact ⟨uses.1, fun answer => inductionHypothesis answer (uses.2 answer)⟩

theorem uses_pure (value : α) : (.pure value : Async Op Ans ε α).Uses allowed := trivial

theorem Uses.attempt {program : Async Op Ans ε α} (uses : program.Uses allowed) :
    program.attempt.Uses allowed :=
  (uses.bind (fun _ => uses_pure _)).handle (fun _ => uses_pure _)

/-- A program inside a larger set of calls makes embedded calls only. -/
theorem uses_translate {Op' : Type} {Ans' : Op' → Type} {embedded : Op' → Prop} (embed : Op → Op')
    (back : ∀ op, Ans' (embed op) → Ans op) (included : ∀ op, embedded (embed op))
    (program : Async Op Ans ε α) : (program.translate embed back).Uses embedded := by
  induction program with
  | pure value => trivial
  | throw error => trivial
  | call op resume inductionHypothesis =>
    exact ⟨included op, fun answer => inductionHypothesis (back op answer)⟩

theorem uses_orThrow (answer : Except ε α) :
    (orThrow answer : Async Op Ans ε α).Uses allowed := by
  cases answer with
  | ok value => trivial
  | error error => trivial

end Uses

section Protocol

variable {Phase : Type} (next : Phase → (op : Op) → Ans op → Option Phase)

/-- Every path of the program is allowed by the protocol and ends in a phase
the postcondition accepts. -/
def Conforms (accept : Phase → Except ε α → Prop) : Phase → Async Op Ans ε α → Prop
  | phase, .pure value => accept phase (.ok value)
  | phase, .throw error => accept phase (.error error)
  | phase, .call op resume =>
      ∀ answer, ∃ after, next phase op answer = some after ∧ Conforms accept after (resume answer)

variable {next} {accept weaker : Phase → Except ε α → Prop} {phase : Phase}

@[simp] theorem conforms_pure (value : α) :
    Conforms next accept phase (.pure value) ↔ accept phase (.ok value) := Iff.rfl

@[simp] theorem conforms_throw (error : ε) :
    Conforms next accept phase (.throw error) ↔ accept phase (.error error) := Iff.rfl

theorem conforms_call (op : Op) (resume : Ans op → Async Op Ans ε α) :
    Conforms next accept phase (.call op resume) ↔
      ∀ answer, ∃ after, next phase op answer = some after ∧
        Conforms next accept after (resume answer) := Iff.rfl

/-- Weakening the postcondition. -/
theorem Conforms.mono {program : Async Op Ans ε α}
    (conforms : Conforms next accept phase program)
    (implied : ∀ after result, accept after result → weaker after result) :
    Conforms next weaker phase program := by
  induction program generalizing phase with
  | pure value => exact implied phase _ conforms
  | throw error => exact implied phase _ conforms
  | call op resume inductionHypothesis =>
    intro answer
    obtain ⟨after, allowed, rest⟩ := conforms answer
    exact ⟨after, allowed, inductionHypothesis answer rest⟩

/-- Calls that leave the phase alone leave it alone in any order. -/
theorem Uses.conforms {allowed : Op → Prop} {program : Async Op Ans ε α}
    (uses : program.Uses allowed)
    (kept : ∀ op, allowed op → ∀ answer, next phase op answer = some phase)
    (accepted : ∀ result, accept phase result) : Conforms next accept phase program := by
  induction program with
  | pure value => exact accepted _
  | throw error => exact accepted _
  | call op resume inductionHypothesis =>
    intro answer
    exact ⟨phase, kept op uses.1 answer, inductionHypothesis answer (uses.2 answer)⟩

/-- Sequencing: a result continues with the rest, an exception ends there. -/
theorem conforms_bind {program : Async Op Ans ε β} {rest : β → Async Op Ans ε α} :
    Conforms next accept phase (program.bind rest) ↔
      Conforms next (fun after result => match result with
        | .ok value => Conforms next accept after (rest value)
        | .error error => accept after (.error error)) phase program := by
  induction program generalizing phase with
  | pure value => rfl
  | throw error => rfl
  | call op resume inductionHypothesis =>
    simp only [call_bind, conforms_call, inductionHypothesis]

/-- Exception handling: a result ends there, an exception continues with the
handler. -/
theorem conforms_handle {program : Async Op Ans ε α} {handler : ε → Async Op Ans ε α} :
    Conforms next accept phase (program.handle handler) ↔
      Conforms next (fun after result => match result with
        | .ok value => accept after (.ok value)
        | .error error => Conforms next accept after (handler error)) phase program := by
  induction program generalizing phase with
  | pure value => rfl
  | throw error => rfl
  | call op resume inductionHypothesis =>
    simp only [handle, conforms_call, inductionHypothesis]

/-- A caught program conforms when its outcome does. -/
theorem conforms_attempt {accept : Phase → Except ε (Except ε α) → Prop}
    {program : Async Op Ans ε α} :
    Conforms next accept phase program.attempt ↔
      Conforms next (fun after result => accept after (.ok result)) phase program := by
  induction program generalizing phase with
  | pure value => rfl
  | throw error => rfl
  | call op resume inductionHypothesis =>
    simp only [attempt, call_bind, handle, conforms_call] at inductionHypothesis ⊢
    simp only [inductionHypothesis]

end Protocol

/-- A call together with its answer. -/
abbrev Event (Op : Type) (Ans : Op → Type) := Σ op : Op, Ans op

/-- The phase reached by a sequence of answered calls. -/
def replay {Phase : Type} (next : Phase → (op : Op) → Ans op → Option Phase) :
    Phase → List (Event Op Ans) → Option Phase
  | phase, [] => some phase
  | phase, event :: rest => (next phase event.1 event.2).bind (fun after => replay next after rest)

theorem replay_append {Phase : Type} (next : Phase → (op : Op) → Ans op → Option Phase)
    (phase : Phase) (earlier later : List (Event Op Ans)) :
    replay next phase (earlier ++ later) =
      (replay next phase earlier).bind (fun current => replay next current later) := by
  induction earlier generalizing phase with
  | nil => rfl
  | cons event rest inductionHypothesis =>
    cases allowed : next phase event.1 event.2 with
    | none => simp [replay, allowed]
    | some after => simp [replay, allowed, inductionHypothesis]

/-- A complete path through the program with its calls and its result. -/
inductive Runs : Async Op Ans ε α → List (Event Op Ans) → Except ε α → Prop where
  | pure (value : α) : Runs (.pure value) [] (.ok value)
  | throw (error : ε) : Runs (.throw error) [] (.error error)
  | call (op : Op) (resume : Ans op → Async Op Ans ε α) (answer : Ans op)
      (events : List (Event Op Ans)) (result : Except ε α)
      (rest : Runs (resume answer) events result) :
      Runs (.call op resume) (⟨op, answer⟩ :: events) result

/-- Follow a program along recorded calls: its result and the calls behind it. -/
def follow [DecidableEq Op] :
    Async Op Ans ε α → List (Event Op Ans) → Option (Except ε α × List (Event Op Ans))
  | .pure value, events => some (.ok value, events)
  | .throw error, events => some (.error error, events)
  | .call _ _, [] => none
  | .call op resume, ⟨made, answer⟩ :: events =>
      if same : made = op then (resume (same ▸ answer)).follow events else none

theorem runs_of_follow [DecidableEq Op] {program : Async Op Ans ε α}
    {events rest : List (Event Op Ans)} {result : Except ε α}
    (followed : program.follow events = some (result, rest)) :
    ∃ taken, events = taken ++ rest ∧ Runs program taken result := by
  induction program generalizing events with
  | pure value =>
    rw [follow] at followed
    cases followed
    exact ⟨[], rfl, .pure value⟩
  | throw error =>
    rw [follow] at followed
    cases followed
    exact ⟨[], rfl, .throw error⟩
  | call op resume inductionHypothesis =>
    cases events with
    | nil => cases followed
    | cons event events =>
      obtain ⟨made, answer⟩ := event
      obtain ⟨rfl, remaining⟩ := Option.dite_none_right_eq_some.mp followed
      obtain ⟨taken, rfl, runs⟩ := inductionHypothesis answer remaining
      exact ⟨⟨made, answer⟩ :: taken, rfl, .call made resume answer taken result runs⟩

/-- Along every complete path, a conforming program's calls replay to a phase
that the postcondition accepts. -/
theorem Conforms.replay {Phase : Type} {next : Phase → (op : Op) → Ans op → Option Phase}
    {accept : Phase → Except ε α → Prop} {phase : Phase} {program : Async Op Ans ε α}
    {events : List (Event Op Ans)} {result : Except ε α}
    (conforms : Conforms next accept phase program) (run : Runs program events result) :
    ∃ after, Async.replay next phase events = some after ∧ accept after result := by
  induction run generalizing phase with
  | pure value => exact ⟨phase, rfl, conforms⟩
  | throw error => exact ⟨phase, rfl, conforms⟩
  | call op resume answer events result rest inductionHypothesis =>
    obtain ⟨after, allowed, remaining⟩ := conforms answer
    obtain ⟨final, replayed, accepted⟩ := inductionHypothesis remaining
    refine ⟨final, ?_, accepted⟩
    simpa [Async.replay, allowed] using replayed

end Async

end LiquidationBot
