import LiquidationBot.Library.Prefixes
import Mathlib.Data.List.Basic
import Mathlib.Data.List.Range

/-!
# The shutdown coordinator

A shutdown runs the registered hooks one after another, each raced against a
timer. The first call begins the routine, and later calls are meant to join it
through the promise in `inFlight`. That promise exists only once the routine has
come to its first `await`, so the first hook is called before it is assigned.

Hooks are other code. Between two steps of the coordinator they may call
`shutdown` or `addHook`, from their synchronous part or later. A hook's synchronous
part is therefore a frame on a stack, and what runs during it comes on top.
-/

namespace LiquidationBot

/-- What the race of a hook ends with: `run` fulfils, it throws or rejects, or the
timer is first. -/
inductive HookOutcome where
  | fulfilled
  | failed (message : String)
  | timedOut
deriving DecidableEq

inductive ShutdownStatus where
  | completed
  | completed_with_errors
  | already_completed
deriving DecidableEq

structure ShutdownResult where
  status : ShutdownStatus
  errors : List String
deriving DecidableEq

/-- Where a call of `runShutdown` stands: in the synchronous part of its hook, at the
`await` of it, or at its end. -/
inductive ShutdownPhase where
  | calling
  | awaiting
  | returned (result : ShutdownResult)
deriving DecidableEq

/-- A call of `runShutdown`: the index of its hook and the errors so far. -/
structure ShutdownRun where
  hook : Nat
  errors : List String
  phase : ShutdownPhase
deriving DecidableEq

/-- The coordinator with the calls of `runShutdown`, numbered from the oldest. The
promise in `inFlight` is that of a numbered call, and `stack` has the calls whose
hook is in its synchronous part, innermost first. `started` lists the indices of the
hooks as they were called, and `atFirstCall` counts those registered before the first
call of `shutdown`. -/
structure GracefulShutdownCoordinator where
  hooks : List String
  completed : Bool
  inFlight : Option Nat
  runs : List ShutdownRun
  stack : List Nat
  recordedErrors : Nat
  started : List Nat
  atFirstCall : Option Nat
deriving DecidableEq

/-- What happens to a coordinator. With a hook on the stack, the calls of `addHook`
and `shutdown` are made by that hook. -/
inductive ShutdownEvent where
  | addHook (name : String)
  | shutdown
  | hookReturns
  | settles (run : Nat) (outcome : HookOutcome)
deriving DecidableEq

namespace GracefulShutdownCoordinator

def create : GracefulShutdownCoordinator where
  hooks := []
  completed := false
  inFlight := none
  runs := []
  stack := []
  recordedErrors := 0
  started := []
  atFirstCall := none

/-- `runWithTimeout`: the error it returns. -/
def runWithTimeout (name : String) : HookOutcome → Option String
  | .fulfilled => none
  | .failed message => some message
  | .timedOut => some (name ++ " timed out")

def addHook (coordinator : GracefulShutdownCoordinator) (name : String) :
    GracefulShutdownCoordinator :=
  { coordinator with hooks := coordinator.hooks ++ [name] }

/-- The loop of `runShutdown` at the hook of an index: it is called, or the routine
ends where none is left. The list is read anew at every turn. -/
def proceed (coordinator : GracefulShutdownCoordinator) (run hook : Nat) (errors : List String) :
    GracefulShutdownCoordinator :=
  if hook < coordinator.hooks.length then
    { coordinator with
      runs := coordinator.runs.set run ⟨hook, errors, .calling⟩
      stack := run :: coordinator.stack
      started := coordinator.started ++ [hook] }
  else
    let status : ShutdownStatus := if errors.isEmpty then .completed else .completed_with_errors
    { coordinator with
      completed := true
      inFlight := none
      runs := coordinator.runs.set run ⟨hook, errors, .returned ⟨status, errors⟩⟩ }

/-- `shutdown`. The call of `runShutdown` comes back at once where there are no hooks,
and otherwise when its first hook does. -/
def shutdown (coordinator : GracefulShutdownCoordinator) : GracefulShutdownCoordinator :=
  let called := { coordinator with
    atFirstCall := some (coordinator.atFirstCall.getD coordinator.hooks.length) }
  if called.completed then called
  else if called.inFlight.isSome then called
  else
    let run := called.runs.length
    let begun := proceed { called with runs := called.runs ++ [⟨0, [], .calling⟩] } run 0 []
    if 0 < called.hooks.length then begun else { begun with inFlight := some run }

/-- The synchronous part of the innermost hook is over. A first hook was called within
`shutdown`, which now has the promise to assign. -/
def hookReturns (coordinator : GracefulShutdownCoordinator) : GracefulShutdownCoordinator :=
  match coordinator.stack with
  | [] => coordinator
  | run :: below =>
    match coordinator.runs[run]? with
    | none => coordinator
    | some frame =>
      { coordinator with
        runs := coordinator.runs.set run { frame with phase := .awaiting }
        stack := below
        inFlight := if frame.hook = 0 then some run else coordinator.inFlight }

/-- The race of an awaited hook is over, which continues its call with the next one. A
continuation runs on an empty stack. -/
def settles (coordinator : GracefulShutdownCoordinator) (run : Nat) (outcome : HookOutcome) :
    GracefulShutdownCoordinator :=
  match coordinator.stack, coordinator.runs[run]? with
  | [], some ⟨hook, errors, .awaiting⟩ =>
    match runWithTimeout (coordinator.hooks.getD hook "") outcome with
    | none => coordinator.proceed run (hook + 1) errors
    | some error =>
      proceed { coordinator with recordedErrors := coordinator.recordedErrors + 1 } run (hook + 1)
        (errors ++ [error])
  | _, _ => coordinator

def step (coordinator : GracefulShutdownCoordinator) :
    ShutdownEvent → GracefulShutdownCoordinator
  | .addHook name => coordinator.addHook name
  | .shutdown => coordinator.shutdown
  | .hookReturns => coordinator.hookReturns
  | .settles run outcome => coordinator.settles run outcome

/-- The coordinator after a run. -/
def after (run : List ShutdownEvent) : GracefulShutdownCoordinator := run.foldl step create

/-- Nothing is left to happen of itself: no hook is in its synchronous part, and none
is awaited. -/
def Idle (coordinator : GracefulShutdownCoordinator) : Prop :=
  coordinator.stack = [] ∧ ∀ run ∈ coordinator.runs, run.phase ≠ .awaiting

/-- Each hook is called once and in the order of registration, and by the time that
nothing is left to happen those registered before the first call of `shutdown` all
have been. -/
structure EachHookOnce (coordinator : GracefulShutdownCoordinator) : Prop where
  inOrder : coordinator.started = List.range coordinator.started.length
  all : coordinator.Idle → ∀ registered, coordinator.atFirstCall = some registered →
    registered ≤ coordinator.started.length

/-- The event is a call of `shutdown` by a first hook, before it first awaits. -/
def CallsFromFirstHook (coordinator : GracefulShutdownCoordinator) (event : ShutdownEvent) : Prop :=
  event = .shutdown ∧ ∃ run frame, coordinator.stack.head? = some run ∧
    coordinator.runs[run]? = some frame ∧ frame.hook = 0

/-! ## One routine -/

/-- Where a coordinator stands that has begun at most one routine: before it, in the
synchronous part of a hook, at the `await` of one, or after the last. -/
inductive Orderly : GracefulShutdownCoordinator → Prop
  | unasked (hooks : List String) (recordedErrors : Nat) :
      Orderly ⟨hooks, false, none, [], [], recordedErrors, [], none⟩
  | calling {hooks : List String} {hook registered : Nat} (errors : List String)
      (recordedErrors : Nat) (listed : hook < hooks.length) (earlier : registered ≤ hooks.length) :
      Orderly ⟨hooks, false, if hook = 0 then none else some 0, [⟨hook, errors, .calling⟩], [0],
        recordedErrors, List.range (hook + 1), some registered⟩
  | awaiting {hooks : List String} {hook registered : Nat} (errors : List String)
      (recordedErrors : Nat) (listed : hook < hooks.length) (earlier : registered ≤ hooks.length) :
      Orderly ⟨hooks, false, some 0, [⟨hook, errors, .awaiting⟩], [], recordedErrors,
        List.range (hook + 1), some registered⟩
  | ended {hook registered : Nat} (hooks : List String) (inFlight : Option Nat)
      (errors : List String) (result : ShutdownResult) (recordedErrors : Nat)
      (earlier : registered ≤ hook) :
      Orderly ⟨hooks, true, inFlight, [⟨hook, errors, .returned result⟩], [], recordedErrors,
        List.range hook, some registered⟩

/-- The loop of the one routine, at a hook whose predecessors have been called. -/
theorem orderly_proceed {hooks : List String} {hook registered : Nat} {frame : ShutdownRun}
    (errors : List String) (recordedErrors : Nat) (earlier : registered ≤ hooks.length) :
    Orderly (proceed ⟨hooks, false, if hook = 0 then none else some 0, [frame], [],
      recordedErrors, List.range hook, some registered⟩ 0 hook errors) := by
  by_cases listed : hook < hooks.length
  · rw [proceed, if_pos listed, ← List.range_succ]
    exact .calling errors recordedErrors listed earlier
  · have all : hooks.length ≤ hook := not_lt.mp listed
    rw [proceed, if_neg listed]
    exact .ended hooks none errors _ recordedErrors (earlier.trans all)

theorem Orderly.addHook {coordinator : GracefulShutdownCoordinator} (orderly : Orderly coordinator)
    (name : String) : Orderly (coordinator.addHook name) := by
  have longer : ∀ {count : Nat} {hooks : List String}, count ≤ hooks.length →
      count ≤ (hooks ++ [name]).length := by
    intro count hooks bound
    rw [List.length_append]
    exact Nat.le_add_right_of_le bound
  cases orderly with
  | unasked hooks recordedErrors => exact .unasked _ recordedErrors
  | calling errors recordedErrors listed earlier =>
    exact .calling errors recordedErrors (longer listed) (longer earlier)
  | awaiting errors recordedErrors listed earlier =>
    exact .awaiting errors recordedErrors (longer listed) (longer earlier)
  | ended hooks inFlight errors result recordedErrors earlier =>
    exact .ended _ inFlight errors result recordedErrors earlier

/-- A call begins the routine where none has begun, and joins it otherwise. -/
theorem Orderly.shutdown {coordinator : GracefulShutdownCoordinator} (orderly : Orderly coordinator)
    (other : ¬ coordinator.CallsFromFirstHook .shutdown) : Orderly coordinator.shutdown := by
  cases orderly with
  | unasked hooks recordedErrors =>
    have begins := fun frame => @orderly_proceed hooks 0 hooks.length frame [] recordedErrors (le_refl hooks.length)
    by_cases some : 0 < hooks.length
    · simpa [GracefulShutdownCoordinator.shutdown, some] using begins ⟨0, [], .calling⟩
    · have none : hooks = [] := List.eq_nil_of_length_eq_zero (Nat.eq_zero_of_not_pos some)
      subst none
      exact .ended [] (Option.some 0) [] ⟨.completed, []⟩ recordedErrors (le_refl 0)
  | @calling hooks hook registered errors recordedErrors listed earlier =>
    by_cases first : hook = 0
    · exact absurd ⟨rfl, 0, _, rfl, rfl, first⟩ other
    · have joins := Orderly.calling errors recordedErrors listed earlier
      simpa [GracefulShutdownCoordinator.shutdown, first] using joins
  | awaiting errors recordedErrors listed earlier =>
    exact .awaiting errors recordedErrors listed earlier
  | ended hooks inFlight errors result recordedErrors earlier =>
    exact .ended hooks inFlight errors result recordedErrors earlier

theorem Orderly.hookReturns {coordinator : GracefulShutdownCoordinator}
    (orderly : Orderly coordinator) : Orderly coordinator.hookReturns := by
  cases orderly with
  | unasked hooks recordedErrors => exact .unasked hooks recordedErrors
  | @calling hooks hook registered errors recordedErrors listed earlier =>
    have waits := Orderly.awaiting errors recordedErrors listed earlier
    by_cases first : hook = 0
    · simpa [GracefulShutdownCoordinator.hookReturns, first] using waits
    · simpa [GracefulShutdownCoordinator.hookReturns, first] using waits
  | awaiting errors recordedErrors listed earlier =>
    exact .awaiting errors recordedErrors listed earlier
  | ended hooks inFlight errors result recordedErrors earlier =>
    exact .ended hooks inFlight errors result recordedErrors earlier

/-- However a hook ends, the routine goes on to the next. -/
theorem Orderly.settles {coordinator : GracefulShutdownCoordinator} (orderly : Orderly coordinator)
    (run : Nat) (outcome : HookOutcome) : Orderly (coordinator.settles run outcome) := by
  cases orderly with
  | unasked hooks recordedErrors => exact .unasked hooks recordedErrors
  | calling errors recordedErrors listed earlier =>
    exact .calling errors recordedErrors listed earlier
  | @awaiting hooks hook registered errors recordedErrors listed earlier =>
    cases run with
    | succ run => exact .awaiting errors recordedErrors listed earlier
    | zero =>
      have goesOn : ∀ known recorded, Orderly (proceed ⟨hooks, false, some 0,
          [⟨hook, errors, .awaiting⟩], [], recorded, List.range (hook + 1), some registered⟩ 0
          (hook + 1) known) := fun known recorded => orderly_proceed known recorded earlier
      cases ends : runWithTimeout (hooks.getD hook "") outcome with
      | none =>
        simp only [GracefulShutdownCoordinator.settles, List.getElem?_cons_zero, ends]
        exact goesOn errors recordedErrors
      | some error =>
        simp only [GracefulShutdownCoordinator.settles, List.getElem?_cons_zero, ends]
        exact goesOn (errors ++ [error]) (recordedErrors + 1)
  | ended hooks inFlight errors result recordedErrors earlier =>
    cases run with
    | zero => exact .ended hooks inFlight errors result recordedErrors earlier
    | succ run => exact .ended hooks inFlight errors result recordedErrors earlier

theorem Orderly.step {coordinator : GracefulShutdownCoordinator} {event : ShutdownEvent}
    (orderly : Orderly coordinator) (other : ¬ coordinator.CallsFromFirstHook event) :
    Orderly (coordinator.step event) := by
  cases event with
  | addHook name => exact orderly.addHook name
  | shutdown => exact orderly.shutdown other
  | hookReturns => exact orderly.hookReturns
  | settles run outcome => exact orderly.settles run outcome

theorem Orderly.eachHookOnce {coordinator : GracefulShutdownCoordinator}
    (orderly : Orderly coordinator) : coordinator.EachHookOnce := by
  constructor
  · cases orderly with
    | unasked hooks recordedErrors => rfl
    | calling errors recordedErrors listed earlier => rw [List.length_range]
    | awaiting errors recordedErrors listed earlier => rw [List.length_range]
    | ended hooks inFlight errors result recordedErrors earlier => rw [List.length_range]
  · rintro ⟨returned, settled⟩ count asked
    cases orderly with
    | unasked hooks recordedErrors => cases asked
    | calling errors recordedErrors listed earlier => cases returned
    | awaiting errors recordedErrors listed earlier =>
      exact absurd rfl (settled _ List.mem_cons_self)
    | ended hooks inFlight errors result recordedErrors earlier =>
      cases asked
      rw [List.length_range]
      exact earlier

/-! ## The first hook that calls back -/

theorem EachHookOnce.not_twice {coordinator : GracefulShutdownCoordinator}
    (once : coordinator.EachHookOnce) : coordinator.started ≠ [0, 0] := by
  intro twice
  have inOrder := once.inOrder
  rw [twice] at inOrder
  exact absurd inOrder (by decide)

/-- A first hook that calls `shutdown` before it awaits is called again: there is no
promise to join yet. -/
theorem Orderly.called_again {coordinator : GracefulShutdownCoordinator} {event : ShutdownEvent}
    (orderly : Orderly coordinator) (first : coordinator.CallsFromFirstHook event) :
    ¬ (coordinator.step event).EachHookOnce := by
  obtain ⟨rfl, run, frame, top, found, zero⟩ := first
  intro once
  cases orderly with
  | unasked hooks recordedErrors => cases top
  | awaiting errors recordedErrors listed earlier => cases top
  | ended hooks inFlight errors result recordedErrors earlier => cases top
  | @calling hooks hook registered errors recordedErrors listed earlier =>
    cases top
    cases found
    subst zero
    have again : (GracefulShutdownCoordinator.step ⟨hooks, false, none, [⟨0, errors, .calling⟩],
        [0], recordedErrors, [0], some registered⟩ .shutdown).started = [0, 0] := by
      simp [GracefulShutdownCoordinator.step, GracefulShutdownCoordinator.shutdown, proceed, listed]
    exact once.not_twice again

theorem after_snoc (past : List ShutdownEvent) (event : ShutdownEvent) :
    after (past ++ [event]) = (after past).step event := by
  rw [after, List.foldl_append]
  rfl

/-- Every hook runs once, in every run of calls, hooks and timers, exactly when no
first hook calls `shutdown` before it awaits. -/
theorem eachHookOnce_iff (run : List ShutdownEvent) :
    Prefixes.Always (fun past => (after past).EachHookOnce) run ↔
      Prefixes.EachStep (fun past event => ¬ (after past).CallsFromFirstHook event) run := by
  refine @Prefixes.always_iff_eachStep_of_invariant _ (fun past => Orderly (after past)) _ _
    ?_ ?_ ?_ ?_ run
  · exact .unasked [] 0
  · exact fun past orderly => orderly.eachHookOnce
  · intro past event orderly other
    rw [after_snoc]
    exact orderly.step other
  · intro past event orderly first
    rw [after_snoc]
    exact orderly.called_again (not_not.mp first)

/-- A first hook that asks for shutdown in its synchronous part starts twice. -/
theorem first_hook_started_twice :
    (after [.addHook "http", .shutdown, .shutdown]).started = [0, 0] ∧
      ¬ (after [.addHook "http", .shutdown, .shutdown]).EachHookOnce :=
  ⟨rfl, fun once => once.not_twice rfl⟩

end GracefulShutdownCoordinator

end LiquidationBot
