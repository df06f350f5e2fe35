import LiquidationBot.Library.Async

/-!
# Decomposing complete runs

A complete run of a sequence is a complete run of its first part followed by one
of its continuation, or a run of the first part that ends with an exception. The
laws split the recorded calls in source order and assume nothing about answers.
-/

namespace LiquidationBot

namespace Async

variable {Op : Type} {Ans : Op → Type} {ε α β : Type} {events : List (Event Op Ans)}
  {result : Except ε α}

theorem runs_pure {value : α} :
    Runs (.pure value : Async Op Ans ε α) events result ↔ events = [] ∧ result = .ok value := by
  constructor
  · rintro ⟨⟩
    exact ⟨rfl, rfl⟩
  · rintro ⟨rfl, rfl⟩
    exact .pure value

theorem runs_throw {error : ε} :
    Runs (.throw error : Async Op Ans ε α) events result ↔
      events = [] ∧ result = .error error := by
  constructor
  · rintro ⟨⟩
    exact ⟨rfl, rfl⟩
  · rintro ⟨rfl, rfl⟩
    exact .throw error

/-- A run of a call is an answer and a run of what resumes with it. -/
theorem runs_call {op : Op} {resume : Ans op → Async Op Ans ε α} :
    Runs (.call op resume) events result ↔
      ∃ answer rest, events = ⟨op, answer⟩ :: rest ∧ Runs (resume answer) rest result := by
  constructor
  · intro run
    cases run with
    | call _ _ answer rest _ run => exact ⟨answer, rest, rfl, run⟩
  · rintro ⟨answer, rest, rfl, run⟩
    exact .call op resume answer rest result run

theorem runs_orThrow {answer : Except ε α} :
    Runs (orThrow answer : Async Op Ans ε α) events result ↔ events = [] ∧ result = answer := by
  cases answer with
  | ok value => exact runs_pure
  | error error => exact runs_throw

/-- A run of a sequence ends in its first part with an exception, or splits into
a run of the first part and one of the rest with its value. -/
theorem runs_bind {program : Async Op Ans ε β} {rest : β → Async Op Ans ε α} :
    Runs (program.bind rest) events result ↔
      (∃ error, Runs program events (.error error) ∧ result = .error error) ∨
      ∃ value earlier later, events = earlier ++ later ∧ Runs program earlier (.ok value) ∧
        Runs (rest value) later result := by
  induction program generalizing events with
  | pure value => simp [runs_pure]
  | throw error => simp [runs_throw]
  | call op resume inductionHypothesis =>
    simp only [call_bind, runs_call, inductionHypothesis]
    constructor
    · rintro ⟨answer, tail, rfl, ⟨error, run, rfl⟩ | ⟨value, earlier, later, rfl, run, after⟩⟩
      · exact Or.inl ⟨error, ⟨answer, tail, rfl, run⟩, rfl⟩
      · exact Or.inr ⟨value, ⟨op, answer⟩ :: earlier, later, rfl,
          ⟨answer, earlier, rfl, run⟩, after⟩
    · rintro (⟨error, ⟨answer, tail, rfl, run⟩, rfl⟩ |
        ⟨value, _, later, rfl, ⟨answer, earlier, rfl, run⟩, after⟩)
      · exact ⟨answer, tail, rfl, Or.inl ⟨error, run, rfl⟩⟩
      · exact ⟨answer, earlier ++ later, rfl, Or.inr ⟨value, earlier, later, rfl, run, after⟩⟩

/-- A run of a sequence that ends with a value. -/
theorem runs_bind_ok {program : Async Op Ans ε β} {rest : β → Async Op Ans ε α} {value : α} :
    Runs (program.bind rest) events (.ok value) ↔
      ∃ middle earlier later, events = earlier ++ later ∧ Runs program earlier (.ok middle) ∧
        Runs (rest middle) later (.ok value) := by
  simp [runs_bind]

/-- A run under a handler ends with a value of its first part, or splits into a
run that ends with an exception and one of the handler. -/
theorem runs_handle {program : Async Op Ans ε α} {handler : ε → Async Op Ans ε α} :
    Runs (program.handle handler) events result ↔
      (∃ value, Runs program events (.ok value) ∧ result = .ok value) ∨
      ∃ error earlier later, events = earlier ++ later ∧ Runs program earlier (.error error) ∧
        Runs (handler error) later result := by
  induction program generalizing events with
  | pure value => simp [handle, runs_pure]
  | throw error => simp [handle, runs_throw]
  | call op resume inductionHypothesis =>
    simp only [handle, runs_call, inductionHypothesis]
    constructor
    · rintro ⟨answer, tail, rfl, ⟨value, run, rfl⟩ | ⟨error, earlier, later, rfl, run, after⟩⟩
      · exact Or.inl ⟨value, ⟨answer, tail, rfl, run⟩, rfl⟩
      · exact Or.inr ⟨error, ⟨op, answer⟩ :: earlier, later, rfl,
          ⟨answer, earlier, rfl, run⟩, after⟩
    · rintro (⟨value, ⟨answer, tail, rfl, run⟩, rfl⟩ |
        ⟨error, _, later, rfl, ⟨answer, earlier, rfl, run⟩, after⟩)
      · exact ⟨answer, tail, rfl, Or.inl ⟨value, run, rfl⟩⟩
      · exact ⟨answer, earlier ++ later, rfl, Or.inr ⟨error, earlier, later, rfl, run, after⟩⟩

/-- A run of a caught program is a run of the program. -/
theorem runs_attempt {program : Async Op Ans ε α} {outcome : Except ε (Except ε α)} :
    Runs program.attempt events outcome ↔
      ∃ ended, Runs program events ended ∧ outcome = .ok ended := by
  induction program generalizing events with
  | pure value =>
    refine runs_pure.trans ⟨?_, ?_⟩
    · rintro ⟨rfl, rfl⟩
      exact ⟨_, .pure value, rfl⟩
    · rintro ⟨ended, run, rfl⟩
      obtain ⟨rfl, rfl⟩ := runs_pure.mp run
      exact ⟨rfl, rfl⟩
  | throw error =>
    refine runs_pure.trans ⟨?_, ?_⟩
    · rintro ⟨rfl, rfl⟩
      exact ⟨_, .throw error, rfl⟩
    · rintro ⟨ended, run, rfl⟩
      obtain ⟨rfl, rfl⟩ := runs_throw.mp run
      exact ⟨rfl, rfl⟩
  | call op resume inductionHypothesis =>
    refine runs_call.trans ⟨?_, ?_⟩
    · rintro ⟨answer, rest, rfl, run⟩
      obtain ⟨ended, ran, rfl⟩ := (inductionHypothesis answer).mp run
      exact ⟨ended, .call op resume answer rest ended ran, rfl⟩
    · rintro ⟨ended, run, rfl⟩
      obtain ⟨answer, rest, rfl, ran⟩ := runs_call.mp run
      exact ⟨answer, rest, rfl, (inductionHypothesis answer).mpr ⟨ended, ran, rfl⟩⟩

/-- Every recorded call of a run is one the program can make. -/
theorem Uses.of_run {allowed : Op → Prop} {program : Async Op Ans ε α}
    (uses : program.Uses allowed) (run : Runs program events result) :
    ∀ event ∈ events, allowed event.1 := by
  induction run with
  | pure value => simp
  | throw error => simp
  | call op resume answer events result rest inductionHypothesis =>
    intro event member
    rcases List.mem_cons.mp member with rfl | later
    · exact uses.1
    · exact inductionHypothesis (uses.2 answer) event later

/-- The calls of a program whose answers come from a function. -/
def trace (answer : (op : Op) → Ans op) : Async Op Ans ε α → List (Event Op Ans)
  | .pure _ => []
  | .throw _ => []
  | .call op resume => ⟨op, answer op⟩ :: trace answer (resume (answer op))

theorem runs_trace (answer : (op : Op) → Ans op) (program : Async Op Ans ε α) :
    Runs program (program.trace answer) (program.evaluate answer) := by
  induction program with
  | pure value => exact .pure value
  | throw error => exact .throw error
  | call op resume inductionHypothesis =>
    exact .call op resume (answer op) _ _ (inductionHypothesis (answer op))

/-- The answers come from a pattern that knows the calls made before. -/
def Follows (pattern : List (Event Op Ans) → (op : Op) → Ans op) (events : List (Event Op Ans)) :
    Prop :=
  ∀ earlier event later, events = earlier ++ event :: later → event.2 = pattern earlier event.1

/-- Whatever the pattern of the answers, the program comes to an end. -/
theorem exists_runs (pattern : List (Event Op Ans) → (op : Op) → Ans op)
    (program : Async Op Ans ε α) : ∃ events result, Runs program events result ∧
      Follows pattern events := by
  induction program generalizing pattern with
  | pure value => exact ⟨[], _, .pure value, by simp [Follows]⟩
  | throw error => exact ⟨[], _, .throw error, by simp [Follows]⟩
  | call op resume inductionHypothesis =>
    obtain ⟨events, result, run, follows⟩ := inductionHypothesis (pattern [] op)
      (fun earlier => pattern (⟨op, pattern [] op⟩ :: earlier))
    refine ⟨_, result, .call op resume (pattern [] op) events result run, ?_⟩
    intro earlier event later split
    cases earlier with
    | nil =>
      cases split
      rfl
    | cons first earlier =>
      obtain ⟨rfl, rest⟩ := List.cons.inj split
      exact follows earlier event later rest

/-- Two runs of one program that meet the same answers are the same run. -/
theorem Runs.unique {program : Async Op Ans ε α} {earlier other rest tail : List (Event Op Ans)}
    {ended : Except ε α} (first : Runs program earlier result) (second : Runs program other ended)
    (same : earlier ++ rest = other ++ tail) :
    earlier = other ∧ result = ended ∧ rest = tail := by
  induction first generalizing other with
  | pure value =>
    obtain ⟨rfl, rfl⟩ := runs_pure.mp second
    exact ⟨rfl, rfl, same⟩
  | throw error =>
    obtain ⟨rfl, rfl⟩ := runs_throw.mp second
    exact ⟨rfl, rfl, same⟩
  | call op resume answer events result _ inductionHypothesis =>
    obtain ⟨reply, following, rfl, resumed⟩ := runs_call.mp second
    obtain ⟨heads, tails⟩ := List.cons.inj same
    cases heads
    obtain ⟨rfl, ends, left⟩ := inductionHypothesis resumed tails
    exact ⟨rfl, ends, left⟩

/-- No path of the program ends with an exception. -/
def NeverThrows : Async Op Ans ε α → Prop
  | .pure _ => True
  | .throw _ => False
  | .call _ resume => ∀ answer, (resume answer).NeverThrows

theorem NeverThrows.bind {program : Async Op Ans ε β} {rest : β → Async Op Ans ε α}
    (never : program.NeverThrows) (later : ∀ value, (rest value).NeverThrows) :
    (program.bind rest).NeverThrows := by
  induction program with
  | pure value => exact later value
  | throw error => exact never.elim
  | call op resume inductionHypothesis => exact fun answer => inductionHypothesis answer (never answer)

/-- A handler has nothing to do in a first part that never throws. -/
theorem NeverThrows.bind_handle {program : Async Op Ans ε β} {rest : β → Async Op Ans ε α}
    {handler : ε → Async Op Ans ε α} (never : program.NeverThrows) :
    (program.bind rest).handle handler = program.bind (fun value => (rest value).handle handler) := by
  induction program with
  | pure value => rfl
  | throw error => exact never.elim
  | call op resume inductionHypothesis =>
    simp only [call_bind, handle, inductionHypothesis _ (never _)]

theorem NeverThrows.runs_bind {program : Async Op Ans ε β} {rest : β → Async Op Ans ε α}
    (never : program.NeverThrows) :
    Runs (program.bind rest) events result ↔
      ∃ value earlier later, events = earlier ++ later ∧ Runs program earlier (.ok value) ∧
        Runs (rest value) later result := by
  have returns : ∀ {events error}, ¬ Runs program events (.error error) := by
    intro events error run
    induction program generalizing events with
    | pure value => cases (runs_pure.mp run).2
    | throw error => exact never
    | call op resume inductionHypothesis =>
      obtain ⟨answer, tail, rfl, resumed⟩ := runs_call.mp run
      exact inductionHypothesis answer (never answer) resumed
  rw [Async.runs_bind]
  constructor
  · rintro (⟨error, failed, _⟩ | split)
    · exact absurd failed returns
    · exact split
  · exact Or.inr

/-! ## Answers read in another way -/

section Reading

variable {Raw : Op → Type} (read other : ∀ op, Raw op → Ans op)

/-- The program over raw answers, each read before the program goes on. -/
def reading (read : ∀ op, Raw op → Ans op) (program : Async Op Ans ε α) : Async Op Raw ε α :=
  program.translate id read

@[simp] theorem reading_pure (value : α) :
    (.pure value : Async Op Ans ε α).reading read = .pure value := rfl

@[simp] theorem reading_throw (error : ε) :
    (.throw error : Async Op Ans ε α).reading read = .throw error := rfl

@[simp] theorem reading_call (op : Op) (resume : Ans op → Async Op Ans ε α) :
    (Async.call op resume).reading read =
      .call op (fun raw => (resume (read op raw)).reading read) := rfl

@[simp] theorem reading_orThrow (answer : Except ε α) :
    (orThrow answer : Async Op Ans ε α).reading read = orThrow answer := by
  cases answer with
  | ok value => rfl
  | error error => rfl

@[simp] theorem reading_bind (program : Async Op Ans ε β) (rest : β → Async Op Ans ε α) :
    (program.bind rest).reading read =
      (program.reading read).bind (fun value => (rest value).reading read) := by
  induction program with
  | pure value => rfl
  | throw error => rfl
  | call op resume inductionHypothesis =>
    simp only [call_bind, reading_call, inductionHypothesis]

@[simp] theorem reading_handle (program : Async Op Ans ε α) (handler : ε → Async Op Ans ε α) :
    (program.handle handler).reading read =
      (program.reading read).handle (fun error => (handler error).reading read) := by
  induction program with
  | pure value => rfl
  | throw error => rfl
  | call op resume inductionHypothesis =>
    simp only [handle, reading_call, inductionHypothesis]

variable {read other}

/-- Only the calls that a program can make are read. -/
theorem Uses.reading_eq {allowed : Op → Prop} {program : Async Op Ans ε α}
    (uses : program.Uses allowed) (agree : ∀ op, allowed op → read op = other op) :
    program.reading read = program.reading other := by
  induction program with
  | pure value => rfl
  | throw error => rfl
  | call op resume inductionHypothesis =>
    simp only [reading_call, agree op uses.1, inductionHypothesis _ (uses.2 _)]

theorem Uses.reading {allowed : Op → Prop} {program : Async Op Ans ε α}
    (uses : program.Uses allowed) : (program.reading read).Uses allowed := by
  induction program with
  | pure value => trivial
  | throw error => trivial
  | call op resume inductionHypothesis =>
    exact ⟨uses.1, fun raw => inductionHypothesis _ (uses.2 _)⟩

end Reading

end Async

end LiquidationBot
