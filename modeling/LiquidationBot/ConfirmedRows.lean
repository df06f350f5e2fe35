import LiquidationBot.AccountEvents
import LiquidationBot.EventPurityStack

/-!
# The rows of a flush, one after another

After a flush each row is stored, and a row below one is handed to the callback
of the executor's side, which may run a whole trading cycle. The loop waits for
the callback. When it throws, the loop ends there: the rows behind are neither
stored nor handed on, and their accounts have left the urgent set already.

The segments of other handlers that run during a callback are part of the
callback's description, so a run covers every interleaving.
-/

namespace LiquidationBot

namespace EventPurityStack

/-- One call of `onLiquidatableCandidate`: what other handlers do until it
settles, and how it settles. -/
structure Callback where
  meanwhile : List (Segment × Int)
  outcome : Except Unit Unit

/-- What the loop over the rows does to the outside. -/
inductive ConfirmEffect where
  | confirmOnChain (row : ConfirmResult)
  | onLiquidatableCandidate (row : ConfirmResult)
deriving DecidableEq

/-- The loop's end: the stack, the effects in order and the outcome. -/
structure ConfirmRun where
  stack : EventPurityStack
  effects : List ConfirmEffect
  outcome : Except Unit Unit

/-- The run with earlier effects. -/
def ConfirmRun.after (run : ConfirmRun) (effects : List ConfirmEffect) : ConfirmRun :=
  { run with effects := effects ++ run.effects }

/-- The stack after the row's `confirmOnChain`. -/
def withConfirmed (stack : EventPurityStack) (row : ConfirmResult) (blockNumber : Nat) :
    EventPurityStack :=
  stack.withModel (stack.model.confirmOnChain row.address row.totalCollateralBase
    row.totalDebtBase row.liquidationThreshold row.healthFactor blockNumber row.eModeCategoryId)

/-- The loop of `handleTierChanges` over the rows of its flush, each with the
callback it would get. -/
def handleConfirmed (config : EventPurityStackConfig) (blockNumber : Nat) :
    EventPurityStack → List (ConfirmResult × Callback) → ConfirmRun
  | stack, [] => ⟨stack, [], .ok ()⟩
  | stack, (row, callback) :: rest =>
      let confirmed := withConfirmed stack row blockNumber
      if row.healthFactor < WAD ∧ confirmed.model.isFullySeeded row.address = true then
        let effects := [.confirmOnChain row, .onLiquidatableCandidate row]
        let resumed := callback.meanwhile.foldl (fun stack segment =>
          (step config stack segment).1) confirmed
        match callback.outcome with
        | .error thrown => ⟨resumed, effects, .error thrown⟩
        | .ok () => (handleConfirmed config blockNumber resumed rest).after effects
      else (handleConfirmed config blockNumber confirmed rest).after [.confirmOnChain row]

/-- The row of an effect of `confirmOnChain`. -/
def ConfirmEffect.confirmed : ConfirmEffect → Option ConfirmResult
  | .confirmOnChain row => some row
  | .onLiquidatableCandidate _ => none

/-- Every row is stored, and every row below one is handed on or urgent again. -/
def NoneDropped (rows : List ConfirmResult) (run : ConfirmRun) : Prop :=
  run.effects.filterMap ConfirmEffect.confirmed = rows ∧
    ∀ row ∈ rows, row.healthFactor < WAD →
      .onLiquidatableCandidate row ∈ run.effects ∨ run.stack.confirmQueue.Urgent row.address

/-- A callback that throws belongs to the last row. -/
def OnlyLastThrows (rows : List (ConfirmResult × Callback)) : Prop :=
  ∀ before row callback after, rows = before ++ (row, callback) :: after →
    row.healthFactor < WAD → callback.outcome = .error () → after = []

theorem onlyLastThrows_cons (row : ConfirmResult) (callback : Callback)
    (rest : List (ConfirmResult × Callback)) :
    OnlyLastThrows ((row, callback) :: rest) ↔
      (row.healthFactor < WAD → callback.outcome = .error () → rest = []) ∧
        OnlyLastThrows rest := by
  constructor
  · intro last
    refine ⟨last [] row callback rest rfl, ?_⟩
    intro before other thrower after split
    exact last ((row, callback) :: before) other thrower after (by rw [split, List.cons_append])
  · rintro ⟨first, later⟩ before other thrower after split
    cases before with
    | nil =>
      cases split
      exact first
    | cons head before =>
      cases split
      exact later before other thrower after rfl

/-- A row that has just been stored is fully seeded. -/
theorem isFullySeeded_withConfirmed (stack : EventPurityStack) (row : ConfirmResult)
    (blockNumber : Nat) : (withConfirmed stack row blockNumber).model.isFullySeeded row.address := by
  have stored := LocalPositionModel.getOrCreate_account stack.model row.address blockNumber
  simp [withConfirmed, withModel, LocalPositionModel.confirmOnChain,
    LocalPositionModel.isFullySeeded, Positions.get?_put, stored]

section Turns

variable (config : EventPurityStackConfig) (blockNumber : Nat) (stack : EventPurityStack)
  {row : ConfirmResult} (callback : Callback) (rest : List (ConfirmResult × Callback))

/-- The stack when the row's callback has settled. -/
def resumed (stack : EventPurityStack) (row : ConfirmResult) (callback : Callback) :
    EventPurityStack :=
  callback.meanwhile.foldl (fun stack segment => (step config stack segment).1)
    (withConfirmed stack row blockNumber)

theorem handleConfirmed_skip (healthy : ¬ row.healthFactor < WAD) :
    handleConfirmed config blockNumber stack ((row, callback) :: rest) =
      (handleConfirmed config blockNumber (withConfirmed stack row blockNumber) rest).after
        [.confirmOnChain row] := by
  simp [handleConfirmed, healthy]

theorem handleConfirmed_settle (liquidatable : row.healthFactor < WAD)
    (settles : callback.outcome = .ok ()) :
    handleConfirmed config blockNumber stack ((row, callback) :: rest) =
      (handleConfirmed config blockNumber (resumed config blockNumber stack row callback) rest).after
        [.confirmOnChain row, .onLiquidatableCandidate row] := by
  have seeded := isFullySeeded_withConfirmed stack row blockNumber
  simp [handleConfirmed, liquidatable, seeded, settles, resumed]

theorem handleConfirmed_throw (liquidatable : row.healthFactor < WAD)
    (throws : callback.outcome = .error ()) :
    handleConfirmed config blockNumber stack ((row, callback) :: rest) =
      ⟨resumed config blockNumber stack row callback,
        [.confirmOnChain row, .onLiquidatableCandidate row], .error ()⟩ := by
  have seeded := isFullySeeded_withConfirmed stack row blockNumber
  simp [handleConfirmed, liquidatable, seeded, throws, resumed]

end Turns

/-- Induct on the rows: the rows stored are all rows exactly when no callback
before the last one throws. -/
theorem confirmed_iff (config : EventPurityStackConfig) (blockNumber : Nat)
    (stack : EventPurityStack) (rows : List (ConfirmResult × Callback)) :
    (handleConfirmed config blockNumber stack rows).effects.filterMap ConfirmEffect.confirmed =
        rows.map Prod.fst ↔ OnlyLastThrows rows := by
  induction rows generalizing stack with
  | nil => simp [handleConfirmed, OnlyLastThrows]
  | cons entry rest inductionHypothesis =>
    obtain ⟨row, callback⟩ := entry
    rw [onlyLastThrows_cons]
    by_cases liquidatable : row.healthFactor < WAD
    · cases outcome : callback.outcome with
      | error thrown =>
        cases thrown
        rw [handleConfirmed_throw config blockNumber stack callback rest liquidatable outcome]
        cases rest with
        | nil => simp [ConfirmEffect.confirmed, OnlyLastThrows]
        | cons entry rest => simp [List.filterMap_cons, ConfirmEffect.confirmed, liquidatable]
      | ok settled =>
        cases settled
        rw [handleConfirmed_settle config blockNumber stack callback rest liquidatable outcome]
        simp [ConfirmRun.after, List.filterMap_cons, ConfirmEffect.confirmed, inductionHypothesis]
    · rw [handleConfirmed_skip config blockNumber stack callback rest liquidatable]
      simp [ConfirmRun.after, ConfirmEffect.confirmed, inductionHypothesis, liquidatable]

/-- Every row that is reached and below one is handed on. -/
theorem handed_of_onlyLastThrows (config : EventPurityStackConfig) (blockNumber : Nat)
    (stack : EventPurityStack) (rows : List (ConfirmResult × Callback))
    (last : OnlyLastThrows rows) :
    ∀ row ∈ rows.map Prod.fst, row.healthFactor < WAD →
      .onLiquidatableCandidate row ∈ (handleConfirmed config blockNumber stack rows).effects := by
  induction rows generalizing stack with
  | nil => simp
  | cons entry rest inductionHypothesis =>
    obtain ⟨row, callback⟩ := entry
    rw [onlyLastThrows_cons] at last
    obtain ⟨first, later⟩ := last
    intro tested member below
    rw [List.map_cons, List.mem_cons] at member
    by_cases liquidatable : row.healthFactor < WAD
    · cases outcome : callback.outcome with
      | error thrown =>
        cases thrown
        rw [handleConfirmed_throw config blockNumber stack callback rest liquidatable outcome]
        simp only [first liquidatable outcome, List.map_nil, List.not_mem_nil, or_false] at member
        simp [member]
      | ok settled =>
        cases settled
        rw [handleConfirmed_settle config blockNumber stack callback rest liquidatable outcome]
        rcases member with rfl | member
        · simp [ConfirmRun.after]
        · simp [ConfirmRun.after, inductionHypothesis _ later tested member below]
    · rw [handleConfirmed_skip config blockNumber stack callback rest liquidatable]
      rcases member with rfl | member
      · exact absurd below liquidatable
      · simp [ConfirmRun.after, inductionHypothesis _ later tested member below]

/-- From any stack and with any callbacks, no row is dropped exactly when only
the last row's callback throws, if any does. -/
theorem rows_not_dropped_iff (config : EventPurityStackConfig) (blockNumber : Nat)
    (stack : EventPurityStack) (rows : List (ConfirmResult × Callback)) :
    NoneDropped (rows.map Prod.fst) (handleConfirmed config blockNumber stack rows) ↔
      OnlyLastThrows rows := by
  constructor
  · rintro ⟨confirmed, _⟩
    exact (confirmed_iff config blockNumber stack rows).mp confirmed
  · intro last
    refine ⟨(confirmed_iff config blockNumber stack rows).mpr last, ?_⟩
    intro row member below
    exact Or.inl (handed_of_onlyLastThrows config blockNumber stack rows last row member below)

/-- A chain without feeds. -/
def noFeeds : EventPurityStackConfig where
  model := defaultConfig
  enableWatchTierConfirm := true
  feeds := []

/-- Two liquidatable accounts, and the first callback throws. -/
def firstThrows : List (ConfirmResult × Callback) :=
  [(⟨⟨1, 0⟩, 900000000000000000, 900, 1000, 8100, 0⟩, ⟨[], .error ()⟩),
    (⟨⟨2, 0⟩, 800000000000000000, 1000, 1000, 8000, 0⟩, ⟨[], .ok ()⟩)]

/-- The second account is neither stored nor handed on, and not urgent. -/
theorem second_row_dropped :
    (handleConfirmed noFeeds 700000 (initial noFeeds) firstThrows).effects =
        [.confirmOnChain ⟨⟨1, 0⟩, 900000000000000000, 900, 1000, 8100, 0⟩,
          .onLiquidatableCandidate ⟨⟨1, 0⟩, 900000000000000000, 900, 1000, 8100, 0⟩] ∧
      ¬ (handleConfirmed noFeeds 700000 (initial noFeeds) firstThrows).stack.confirmQueue.Urgent
        ⟨2, 0⟩ ∧
      ¬ NoneDropped (firstThrows.map Prod.fst)
        (handleConfirmed noFeeds 700000 (initial noFeeds) firstThrows) := by
  have below : 900000000000000000 < WAD := by decide
  rw [firstThrows, handleConfirmed_throw noFeeds 700000 (initial noFeeds) _ _ below rfl]
  refine ⟨rfl, by decide +kernel, ?_⟩
  rintro ⟨confirmed, _⟩
  cases confirmed

end EventPurityStack

end LiquidationBot
