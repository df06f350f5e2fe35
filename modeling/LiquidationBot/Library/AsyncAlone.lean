import LiquidationBot.Library.AsyncPool

/-!
# Programs alone with the server

What a program does when no other takes turns with it, read off its text: a
value and an exception leave the state alone, a call makes one step of it, and
a sequence hands the state on. With a server that decides every answer itself there
is one such path, and it can be computed.
-/

namespace LiquidationBot

open Async

variable {ω σ Op : Type} {Ans : Op → Type} {ε α β : Type} {serve : Server ω σ Op Ans}
  {shared after : σ} {events : List (Event Op Ans)} {result : Except ε α}

theorem alone_pure {value : α} :
    Alone serve shared (.pure value) events result after ↔
      events = [] ∧ result = .ok value ∧ after = shared := by
  constructor
  · rintro ⟨⟩
    exact ⟨rfl, rfl, rfl⟩
  · rintro ⟨rfl, rfl, rfl⟩
    exact .pure after value

theorem alone_throw {error : ε} :
    Alone serve shared (.throw error) events result after ↔
      events = [] ∧ result = .error error ∧ after = shared := by
  constructor
  · rintro ⟨⟩
    exact ⟨rfl, rfl, rfl⟩
  · rintro ⟨rfl, rfl, rfl⟩
    exact .throw after error

theorem alone_call {op : Op} {resume : Ans op → Async Op Ans ε α} :
    Alone serve shared (.call op resume) events result after ↔
      ∃ oracle between answer later, serve oracle shared op = some (between, answer) ∧
        events = ⟨op, answer⟩ :: later ∧ Alone serve between (resume answer) later result after := by
  constructor
  · rintro ⟨⟩
    exact ⟨_, _, _, _, ‹_›, rfl, ‹_›⟩
  · rintro ⟨oracle, between, answer, later, served, rfl, rest⟩
    exact .call shared between after oracle op resume answer later result served rest

/-- A sequence ends in its first part with an exception, or the rest starts where
the first part has ended. -/
theorem alone_bind {program : Async Op Ans ε β} {rest : β → Async Op Ans ε α} :
    Alone serve shared (program.bind rest) events result after ↔
      (∃ error, Alone serve shared program events (.error error) after ∧ result = .error error) ∨
      ∃ value between earlier later, events = earlier ++ later ∧
        Alone serve shared program earlier (.ok value) between ∧
        Alone serve between (rest value) later result after := by
  induction program generalizing events shared with
  | pure value => simp [alone_pure]
  | throw error =>
    simp only [throw_bind, alone_throw, Except.error.injEq, reduceCtorEq, false_and, and_false,
      exists_false, or_false]
    constructor
    · rintro ⟨events, rfl, rest⟩
      exact ⟨error, ⟨events, rfl, rest⟩, rfl⟩
    · rintro ⟨_, ⟨events, rfl, rest⟩, rfl⟩
      exact ⟨events, rfl, rest⟩
  | call op resume inductionHypothesis =>
    simp only [call_bind, alone_call, inductionHypothesis]
    constructor
    · rintro ⟨oracle, first, answer, tail, served, rfl,
        ⟨error, alone, rfl⟩ | ⟨value, between, earlier, later, rfl, alone, remaining⟩⟩
      · exact Or.inl ⟨error, ⟨oracle, first, answer, tail, served, rfl, alone⟩, rfl⟩
      · exact Or.inr ⟨value, between, ⟨op, answer⟩ :: earlier, later, rfl,
          ⟨oracle, first, answer, earlier, served, rfl, alone⟩, remaining⟩
    · rintro (⟨error, ⟨oracle, first, answer, tail, served, rfl, alone⟩, rfl⟩ |
        ⟨value, between, _, later, rfl, ⟨oracle, first, answer, earlier, served, rfl, alone⟩,
          remaining⟩)
      · exact ⟨oracle, first, answer, tail, served, rfl, Or.inl ⟨error, alone, rfl⟩⟩
      · exact ⟨oracle, first, answer, earlier ++ later, served, rfl,
          Or.inr ⟨value, between, earlier, later, rfl, alone, remaining⟩⟩

/-- Run a program to its end with a server that decides every answer; none when a
call has to wait. -/
def runToEnd (serve : σ → (op : Op) → Option (σ × Ans op)) :
    σ → Async Op Ans ε α → Option (σ × Except ε α)
  | shared, .pure value => some (shared, .ok value)
  | shared, .throw error => some (shared, .error error)
  | shared, .call op resume =>
      (serve shared op).bind (fun served => runToEnd serve served.1 (resume served.2))

section RunToEnd

variable {answers : σ → (op : Op) → Option (σ × Ans op)}

/-- After a first part that returns, the rest goes on where it has ended. -/
theorem runToEnd_bind {between : σ} {program : Async Op Ans ε β} {rest : β → Async Op Ans ε α}
    {value : β} (first : runToEnd answers shared program = some (between, .ok value)) :
    runToEnd answers shared (program.bind rest) = runToEnd answers between (rest value) := by
  induction program generalizing shared with
  | pure value =>
    cases first
    rfl
  | throw error => cases first
  | call op resume inductionHypothesis =>
    obtain ⟨served, answered, ran⟩ := Option.bind_eq_some_iff.mp first
    rw [call_bind, runToEnd, answered]
    exact inductionHypothesis served.2 ran

theorem runToEnd_call {between : σ} {op : Op} {answer : Ans op}
    (served : answers shared op = some (between, answer)) (resume : Ans op → Async Op Ans ε α) :
    runToEnd answers shared (.call op resume) = runToEnd answers between (resume answer) := by
  rw [runToEnd, served]
  rfl

end RunToEnd

end LiquidationBot
