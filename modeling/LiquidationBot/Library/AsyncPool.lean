import LiquidationBot.Library.Async
import Mathlib.Algebra.Ring.Nat
import Mathlib.Data.List.Forall2

/-!
# Interleavings of asynchronous programs

Started programs share a state and take turns, one answered call at a time. The
server gives each call its answer and its effect on the shared state; calls that
reach outside read their answers from an oracle that the run chooses freely at
every turn, and a call without an answer waits. Each thread keeps the calls it
has made, so a protocol phase of a thread can be read off a run.

Runs carry a side condition on their steps. The invariant rule reduces a
statement about every such run of conforming programs to one obligation for a
start and one for an answered call, both stated on protocol phases instead of
program texts.
-/

namespace LiquidationBot

open Async

/-- A started program and the calls it has made, oldest first. -/
structure Thread (Op : Type) (Ans : Op → Type) (ε α : Type) where
  program : Async Op Ans ε α
  log : List (Event Op Ans)

/-- Started programs over one shared state. -/
structure Pool (σ Op : Type) (Ans : Op → Type) (ε α : Type) where
  shared : σ
  threads : List (Thread Op Ans ε α)

/-- One turn: start a program, or let a thread's call be answered. -/
inductive Act (ω Op : Type) (Ans : Op → Type) (ε α : Type) where
  | start (program : Async Op Ans ε α)
  | run (index : Nat) (oracle : ω)

/-- Effect and answer of a call; none while the call has to wait. -/
abbrev Server (ω σ Op : Type) (Ans : Op → Type) := ω → σ → (op : Op) → Option (σ × Ans op)

variable {ω σ Op : Type} {Ans : Op → Type} {ε α Phase : Type}

/-- Answer the call a thread waits for. -/
def Thread.advance (serve : Server ω σ Op Ans) (oracle : ω) (shared : σ)
    (thread : Thread Op Ans ε α) : Option (σ × Thread Op Ans ε α) :=
  match thread.program with
  | .call op resume => (serve oracle shared op).map (fun served =>
      (served.1, ⟨resume served.2, thread.log ++ [⟨op, served.2⟩]⟩))
  | _ => none

/-- What is left of a program once its calls were answered so. -/
inductive Reaches (program : Async Op Ans ε α) : List (Event Op Ans) → Async Op Ans ε α → Prop where
  | refl : Reaches program [] program
  | answer (log : List (Event Op Ans)) (op : Op) (resume : Ans op → Async Op Ans ε α)
      (answer : Ans op) (reached : Reaches program log (.call op resume)) :
      Reaches program (log ++ [⟨op, answer⟩]) (resume answer)

/-- A complete path of what is left completes the calls made so far. -/
theorem Reaches.runs {program rest : Async Op Ans ε α} {log later : List (Event Op Ans)}
    {result : Except ε α} (reaches : Reaches program log rest) (run : Runs rest later result) :
    Runs program (log ++ later) result := by
  induction reaches generalizing later with
  | refl => exact run
  | answer log op resume answer reached inductionHypothesis =>
    rw [List.append_assoc]
    exact inductionHypothesis (.call op resume answer later result run)

/-- One program alone with the server, from its start to its result: the state
it starts in, its calls with their answers, and the state it ends in. -/
inductive Alone (serve : Server ω σ Op Ans) :
    σ → Async Op Ans ε α → List (Event Op Ans) → Except ε α → σ → Prop where
  | pure (shared : σ) (value : α) : Alone serve shared (.pure value) [] (.ok value) shared
  | throw (shared : σ) (error : ε) : Alone serve shared (.throw error) [] (.error error) shared
  | call (shared between after : σ) (oracle : ω) (op : Op) (resume : Ans op → Async Op Ans ε α)
      (answer : Ans op) (events : List (Event Op Ans)) (result : Except ε α)
      (served : serve oracle shared op = some (between, answer))
      (rest : Alone serve between (resume answer) events result after) :
      Alone serve shared (.call op resume) (⟨op, answer⟩ :: events) result after

/-- The record of a program that ran alone. -/
structure AloneRun (σ Op : Type) (Ans : Op → Type) (ε α : Type) where
  events : List (Event Op Ans)
  result : Except ε α
  after : σ

/-- Run a program alone, one oracle for each call; none when the oracles run out
or a call has to wait. -/
def runAlone (serve : Server ω σ Op Ans) :
    List ω → σ → Async Op Ans ε α → Option (AloneRun σ Op Ans ε α)
  | _, shared, .pure value => some ⟨[], .ok value, shared⟩
  | _, shared, .throw error => some ⟨[], .error error, shared⟩
  | [], _, .call _ _ => none
  | oracle :: oracles, shared, .call op resume =>
      (serve oracle shared op).bind (fun served =>
        (runAlone serve oracles served.1 (resume served.2)).map (fun run =>
          ⟨⟨op, served.2⟩ :: run.events, run.result, run.after⟩))

theorem runAlone_pure (serve : Server ω σ Op Ans) (oracles : List ω) (shared : σ) (value : α) :
    runAlone serve oracles shared (.pure value : Async Op Ans ε α) =
      some ⟨[], .ok value, shared⟩ := by
  rw [runAlone]

theorem alone_of_runAlone {serve : Server ω σ Op Ans} {oracles : List ω} {shared : σ}
    {program : Async Op Ans ε α} {run : AloneRun σ Op Ans ε α}
    (ran : runAlone serve oracles shared program = some run) :
    Alone serve shared program run.events run.result run.after := by
  induction program generalizing oracles shared run with
  | pure value =>
    rw [runAlone] at ran
    cases ran
    exact .pure shared value
  | throw error =>
    rw [runAlone] at ran
    cases ran
    exact .throw shared error
  | call op resume inductionHypothesis =>
    cases oracles with
    | nil => cases ran
    | cons oracle oracles =>
      obtain ⟨⟨between, answer⟩, served, rest⟩ := Option.bind_eq_some_iff.mp ran
      obtain ⟨later, ranLater, rfl⟩ := Option.map_eq_some_iff.mp rest
      exact .call shared between _ oracle op resume answer _ _ served
        (inductionHypothesis answer ranLater)

/-- A program alone keeps what every step of its protocol keeps, and ends in a
phase that its postcondition accepts. -/
theorem Alone.outcome (Inv : σ → Phase → Prop) {serve : Server ω σ Op Ans}
    {next : Phase → (op : Op) → Ans op → Option Phase} {accept : Phase → Except ε α → Prop}
    {program : Async Op Ans ε α} {events : List (Event Op Ans)} {result : Except ε α}
    {shared after : σ} {phase : Phase}
    (alone : Alone serve shared program events result after)
    (conforms : Conforms next accept phase program) (initially : Inv shared phase)
    (step : ∀ oracle before op between answer here there, Inv before here →
      serve oracle before op = some (between, answer) → next here op answer = some there →
      Inv between there) :
    ∃ final, replay next phase events = some final ∧ accept final result ∧ Inv after final := by
  induction alone generalizing phase with
  | pure shared value => exact ⟨phase, rfl, conforms, initially⟩
  | throw shared error => exact ⟨phase, rfl, conforms, initially⟩
  | call shared between after oracle op resume answer events result served rest
      inductionHypothesis =>
    obtain ⟨there, allowed, remaining⟩ := conforms answer
    obtain ⟨final, replayed, accepted, holds⟩ :=
      inductionHypothesis remaining (step _ _ _ _ _ _ _ initially served allowed)
    refine ⟨final, ?_, accepted, holds⟩
    simpa [replay, allowed] using replayed

/-- A program alone takes a complete path. -/
theorem Alone.runs {serve : Server ω σ Op Ans} {program : Async Op Ans ε α}
    {events : List (Event Op Ans)} {result : Except ε α} {shared after : σ}
    (alone : Alone serve shared program events result after) : Runs program events result := by
  induction alone with
  | pure shared value => exact .pure value
  | throw shared error => exact .throw error
  | call shared between after oracle op resume answer events result served rest
      inductionHypothesis => exact .call op resume answer events result inductionHypothesis

namespace Pool

/-- No started program yet. -/
def initial (shared : σ) : Pool σ Op Ans ε α := ⟨shared, []⟩

def step (serve : Server ω σ Op Ans) (pool : Pool σ Op Ans ε α) :
    Act ω Op Ans ε α → Option (Pool σ Op Ans ε α)
  | .start program => some ⟨pool.shared, pool.threads ++ [⟨program, []⟩]⟩
  | .run index oracle => do
      let thread ← pool.threads[index]?
      let served ← thread.advance serve oracle pool.shared
      some ⟨served.1, pool.threads.set index served.2⟩

/-- Take turns in the given order; none when one of them is impossible or fails
the test. -/
def execute (serve : Server ω σ Op Ans) (test : Pool σ Op Ans ε α → Act ω Op Ans ε α → Bool) :
    Pool σ Op Ans ε α → List (Act ω Op Ans ε α) → Option (Pool σ Op Ans ε α)
  | pool, [] => some pool
  | pool, act :: rest =>
      if test pool act then
        (step serve pool act).bind (fun after => execute serve test after rest)
      else none

/-- Pools reached by turns that each meet the side condition. -/
inductive Run (serve : Server ω σ Op Ans)
    (allowed : Pool σ Op Ans ε α → Act ω Op Ans ε α → Prop) (start : Pool σ Op Ans ε α) :
    Pool σ Op Ans ε α → Prop where
  | refl : Run serve allowed start start
  | step (before after : Pool σ Op Ans ε α) (act : Act ω Op Ans ε α)
      (reached : Run serve allowed start before) (permitted : allowed before act)
      (taken : before.step serve act = some after) : Run serve allowed start after

/-- A taken turn is a start, or the answer of the call its thread waits for. -/
theorem step_run_eq_some {serve : Server ω σ Op Ans} {pool after : Pool σ Op Ans ε α}
    {index : Nat} {oracle : ω} (taken : pool.step serve (.run index oracle) = some after) :
    ∃ op resume log shared answer,
      pool.threads[index]? = some ⟨.call op resume, log⟩ ∧
      serve oracle pool.shared op = some (shared, answer) ∧
      after = ⟨shared, pool.threads.set index ⟨resume answer, log ++ [⟨op, answer⟩]⟩⟩ := by
  simp only [step] at taken
  cases found : pool.threads[index]? with
  | none => simp [found] at taken
  | some thread =>
    obtain ⟨program, log⟩ := thread
    cases program with
    | pure value => simp [found, Thread.advance] at taken
    | throw error => simp [found, Thread.advance] at taken
    | call op resume =>
      cases served : serve oracle pool.shared op with
      | none => simp [found, Thread.advance, served] at taken
      | some reply =>
        obtain ⟨shared, answer⟩ := reply
        refine ⟨op, resume, log, shared, answer, rfl, served, ?_⟩
        simpa [found, Thread.advance, served, eq_comm] using taken

/-- The thread at an index was started as this program. -/
def Started (pool : Pool σ Op Ans ε α) (index : Nat) (program : Async Op Ans ε α) : Prop :=
  ∃ thread, pool.threads[index]? = some thread ∧ Reaches program thread.log thread.program

theorem Started.lt {pool : Pool σ Op Ans ε α} {index : Nat} {program : Async Op Ans ε α}
    (started : pool.Started index program) : index < pool.threads.length := by
  obtain ⟨thread, found, _⟩ := started
  exact (List.getElem?_eq_some_iff.mp found).1

theorem Started.step {serve : Server ω σ Op Ans} {pool after : Pool σ Op Ans ε α} {index : Nat}
    {program : Async Op Ans ε α} {act : Act ω Op Ans ε α} (started : pool.Started index program)
    (taken : pool.step serve act = some after) : after.Started index program := by
  have inside := started.lt
  obtain ⟨thread, found, reaches⟩ := started
  cases act with
  | start other =>
    cases taken
    exact ⟨thread, (List.getElem?_append_left inside).trans found, reaches⟩
  | run moved oracle =>
    obtain ⟨op, resume, log, shared, answer, waiting, _, rfl⟩ := step_run_eq_some taken
    by_cases here : moved = index
    · subst here
      rw [waiting] at found
      cases found
      refine ⟨_, List.getElem?_set_self inside, ?_⟩
      exact .answer log op resume answer reaches
    · exact ⟨thread, (List.getElem?_set_ne here).trans found, reaches⟩

/-- A schedule that passes a test implying the side condition is a run. -/
theorem run_of_execute {serve : Server ω σ Op Ans}
    {allowed : Pool σ Op Ans ε α → Act ω Op Ans ε α → Prop}
    {test : Pool σ Op Ans ε α → Act ω Op Ans ε α → Bool} {start before after : Pool σ Op Ans ε α}
    {acts : List (Act ω Op Ans ε α)} (reached : Run serve allowed start before)
    (sound : ∀ act ∈ acts, ∀ pool, test pool act = true → allowed pool act)
    (executed : before.execute serve test acts = some after) : Run serve allowed start after := by
  induction acts generalizing before with
  | nil =>
    cases executed
    exact reached
  | cons act rest inductionHypothesis =>
    rw [execute] at executed
    split at executed
    next passed =>
      obtain ⟨mid, taken, remaining⟩ := Option.bind_eq_some_iff.mp executed
      have permitted := sound act List.mem_cons_self before passed
      exact inductionHypothesis (.step before mid act reached permitted taken)
        (fun later member => sound later (List.mem_cons_of_mem act member)) remaining
    next => cases executed

section Tracking

variable (next : Phase → (op : Op) → Ans op → Option Phase) (accept : Phase → Except ε α → Prop)
variable (start : Phase)

/-- The thread's calls replay to the phase, from which its remaining program
conforms. -/
def ThreadTracks (thread : Thread Op Ans ε α) (phase : Phase) : Prop :=
  replay next start thread.log = some phase ∧ Conforms next accept phase thread.program

/-- Every thread follows the protocol; `phases` lists their current phases. -/
def Tracks (pool : Pool σ Op Ans ε α) (phases : List Phase) : Prop :=
  List.Forall₂ (ThreadTracks next accept start) pool.threads phases

variable {next accept start}

theorem Tracks.thread {pool : Pool σ Op Ans ε α} {phases : List Phase}
    (tracks : Tracks next accept start pool phases) {index : Nat} {thread : Thread Op Ans ε α}
    (found : pool.threads[index]? = some thread) :
    ∃ phase, phases[index]? = some phase ∧ ThreadTracks next accept start thread phase := by
  have sameLength := List.Forall₂.length_eq tracks
  obtain ⟨inside, rfl⟩ := List.getElem?_eq_some_iff.mp found
  have phaseInside : index < phases.length := sameLength ▸ inside
  exact ⟨phases[index], List.getElem?_eq_getElem phaseInside,
    (List.forall₂_iff_get.mp tracks).2 index inside phaseInside⟩

/-- Every listed phase is that of a thread. -/
theorem Tracks.phase {pool : Pool σ Op Ans ε α} {phases : List Phase}
    (tracks : Tracks next accept start pool phases) {index : Nat} {phase : Phase}
    (found : phases[index]? = some phase) :
    ∃ thread, pool.threads[index]? = some thread ∧ ThreadTracks next accept start thread phase := by
  have sameLength := List.Forall₂.length_eq tracks
  obtain ⟨inside, rfl⟩ := List.getElem?_eq_some_iff.mp found
  have threadInside : index < pool.threads.length := sameLength ▸ inside
  exact ⟨pool.threads[index], List.getElem?_eq_getElem threadInside,
    (List.forall₂_iff_get.mp tracks).2 index threadInside inside⟩

theorem Tracks.started {pool : Pool σ Op Ans ε α} {phases : List Phase}
    (tracks : Tracks next accept start pool phases) {program : Async Op Ans ε α}
    (conforms : Conforms next accept start program) :
    Tracks next accept start ⟨pool.shared, pool.threads ++ [⟨program, []⟩]⟩
      (phases ++ [start]) :=
  List.rel_append tracks (.cons ⟨rfl, conforms⟩ .nil)

theorem forall₂_set {R : α → Phase → Prop} {values : List α} {phases : List Phase}
    (related : List.Forall₂ R values phases) (index : Nat) {value : α} {phase : Phase}
    (here : R value phase) : List.Forall₂ R (values.set index value) (phases.set index phase) := by
  induction related generalizing index with
  | nil => exact .nil
  | cons first rest inductionHypothesis =>
    cases index with
    | zero => exact .cons here rest
    | succ index => exact .cons first (inductionHypothesis index)

/-- An answered call moves one thread to the protocol's next phase. -/
theorem Tracks.run {pool : Pool σ Op Ans ε α} {phases : List Phase}
    (tracks : Tracks next accept start pool phases) {index : Nat} {op : Op}
    {resume : Ans op → Async Op Ans ε α} {log : List (Event Op Ans)}
    (found : pool.threads[index]? = some ⟨.call op resume, log⟩) (shared : σ) (answer : Ans op) :
    ∃ phase after, phases[index]? = some phase ∧ next phase op answer = some after ∧
      Tracks next accept start
        ⟨shared, pool.threads.set index ⟨resume answer, log ++ [⟨op, answer⟩]⟩⟩
        (phases.set index after) := by
  obtain ⟨phase, located, replayed, conforms⟩ := tracks.thread found
  obtain ⟨after, allowed, remaining⟩ := conforms answer
  refine ⟨phase, after, located, allowed, forall₂_set tracks index ⟨?_, remaining⟩⟩
  rw [replay_append, replayed]
  simp [replay, allowed]

/-- Invariants of conforming pools. A start must preserve the invariant and
start a conforming program; an answered call must preserve it for the protocol's
own step. Both obligations may use the side condition of the run. -/
theorem Run.invariant (Inv : Pool σ Op Ans ε α → List Phase → Prop) {serve : Server ω σ Op Ans}
    {allowed : Pool σ Op Ans ε α → Act ω Op Ans ε α → Prop} {first pool : Pool σ Op Ans ε α}
    (reached : Run serve allowed first pool)
    (initially : ∃ phases, Tracks next accept start first phases ∧ Inv first phases)
    (started : ∀ before phases program, Tracks next accept start before phases →
      Inv before phases → allowed before (.start program) →
      Conforms next accept start program ∧
        Inv ⟨before.shared, before.threads ++ [⟨program, []⟩]⟩ (phases ++ [start]))
    (answered : ∀ before phases index oracle op resume log shared answer phase after,
      Tracks next accept start before phases → Inv before phases →
      allowed before (.run index oracle) →
      before.threads[index]? = some ⟨.call op resume, log⟩ →
      serve oracle before.shared op = some (shared, answer) →
      phases[index]? = some phase → next phase op answer = some after →
      Tracks next accept start
        ⟨shared, before.threads.set index ⟨resume answer, log ++ [⟨op, answer⟩]⟩⟩
        (phases.set index after) →
      Inv ⟨shared, before.threads.set index ⟨resume answer, log ++ [⟨op, answer⟩]⟩⟩
        (phases.set index after)) :
    ∃ phases, Tracks next accept start pool phases ∧ Inv pool phases := by
  induction reached with
  | refl => exact initially
  | step before after act reached permitted taken inductionHypothesis =>
    obtain ⟨phases, tracks, holds⟩ := inductionHypothesis
    cases act with
    | start program =>
      obtain ⟨conforms, preserved⟩ := started before phases program tracks holds permitted
      cases taken
      exact ⟨phases ++ [start], tracks.started conforms, preserved⟩
    | run index oracle =>
      obtain ⟨op, resume, log, shared, answer, found, served, rfl⟩ := step_run_eq_some taken
      obtain ⟨phase, moved, located, stepped, remaining⟩ := tracks.run found shared answer
      exact ⟨phases.set index moved, remaining,
        answered before phases index oracle op resume log shared answer phase moved tracks holds
          permitted found served located stepped remaining⟩

/-- A property of the shared state and one of each phase, where a turn keeps the
state's, gives the moved thread's, and leaves that of every other thread. -/
theorem Run.keeps (World : σ → Prop) (Knows : σ → Phase → Prop) {serve : Server ω σ Op Ans}
    {allowed : Pool σ Op Ans ε α → Act ω Op Ans ε α → Prop} {shared : σ}
    {pool : Pool σ Op Ans ε α} (reached : Run serve allowed (initial shared) pool)
    (initially : World shared) (nothing : ∀ current, World current → Knows current start)
    (conforms : ∀ before program, allowed before (.start program) →
      Conforms next accept start program)
    (answered : ∀ before index oracle op resume log after answer phase moved,
      allowed before (.run index oracle) →
      before.threads[index]? = some ⟨.call op resume, log⟩ →
      serve oracle before.shared op = some (after, answer) → next phase op answer = some moved →
      World before.shared → Knows before.shared phase →
      World after ∧ Knows after moved ∧
        ∀ other, Knows before.shared other → Knows after other) :
    ∃ phases, Tracks next accept start pool phases ∧ World pool.shared ∧
      ∀ phase ∈ phases, Knows pool.shared phase := by
  refine Run.invariant
    (fun pool phases => World pool.shared ∧ ∀ phase ∈ phases, Knows pool.shared phase) reached
    ⟨[], .nil, initially, by simp⟩ ?_ ?_
  · rintro before phases program _ ⟨world, knows⟩ permitted
    refine ⟨conforms before program permitted, world, fun phase member => ?_⟩
    rcases List.mem_append.mp member with earlier | new
    · exact knows phase earlier
    · rw [List.mem_singleton.mp new]
      exact nothing before.shared world
  · rintro before phases index oracle op resume log after answer phase moved _ ⟨world, knows⟩
      permitted found served located stepped _
    obtain ⟨kept, here, others⟩ := answered before index oracle op resume log after answer phase
      moved permitted found served stepped world (knows phase (List.mem_of_getElem? located))
    refine ⟨kept, fun other member => ?_⟩
    rcases List.mem_or_eq_of_mem_set member with earlier | rfl
    · exact others other (knows other earlier)
    · exact here

end Tracking

section Totals

variable {serve : Server ω σ Op Ans} (measure : σ → Nat) (weight : Event Op Ans → Nat)

/-- What the calls of a thread add up to. -/
def logTotal (thread : Thread Op Ans ε α) : Nat := (thread.log.map weight).sum

theorem sum_logTotal_set {threads : List (Thread Op Ans ε α)} {index : Nat}
    {program later : Async Op Ans ε α} {log : List (Event Op Ans)}
    (found : threads[index]? = some ⟨program, log⟩) (event : Event Op Ans) :
    ((threads.set index ⟨later, log ++ [event]⟩).map (logTotal weight)).sum =
      (threads.map (logTotal weight)).sum + weight event := by
  induction threads generalizing index with
  | nil => cases found
  | cons thread rest inductionHypothesis =>
    cases index with
    | zero =>
      cases found
      simp [logTotal]
      omega
    | succ index =>
      simp only [List.set_cons_succ, List.map_cons, List.sum_cons]
      rw [inductionHypothesis found, Nat.add_assoc]

/-- A measure of the shared state to which every answered call adds its weight
has grown by the weights of all calls. -/
theorem Run.total {allowed : Pool σ Op Ans ε α → Act ω Op Ans ε α → Prop} {shared : σ}
    {pool : Pool σ Op Ans ε α}
    (adds : ∀ oracle before op after answer, serve oracle before op = some (after, answer) →
      measure after = measure before + weight ⟨op, answer⟩)
    (run : Run serve allowed (initial shared) pool) :
    measure pool.shared = measure shared + (pool.threads.map (logTotal weight)).sum := by
  induction run with
  | refl => rfl
  | step before after act reached permitted taken inductionHypothesis =>
    cases act with
    | start program =>
      cases taken
      simp [inductionHypothesis, logTotal]
    | run index oracle =>
      obtain ⟨op, resume, log, shared, answer, found, served, rfl⟩ := step_run_eq_some taken
      rw [adds oracle before.shared op shared answer served, inductionHypothesis,
        sum_logTotal_set weight found, Nat.add_assoc]

end Totals

end Pool

end LiquidationBot
