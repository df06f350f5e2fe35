import LiquidationBot.ArbitrageScanner
import LiquidationBot.Library.AsyncRuns

/-!
# A cycle of the bot

A cycle scans, and then takes the candidates one after the other: it checks the expected
value, executes, counts what came of it and reports it. An execution that throws is
counted as failed. A report that is refused is not caught, and neither is a figure that
the check refuses: both end the cycle, and the candidates behind are not attempted.
-/

namespace LiquidationBot

/-! ## The check of the expected value -/

/-- What `calculateLiquidationEV` asserts to be non-negative. -/
inductive LiquidationEVField where
  | debtToCover
  | collateralReceived
  | gasEstimate
  | gasPrice
  | minProfitThreshold
  | bonusPercentage
deriving DecidableEq

/-- What ends a cycle early. -/
inductive BotError where
  | outside
  | negative (field : LiquidationEVField)
deriving DecidableEq

/-- `LiquidationEV`. -/
structure LiquidationEV where
  profitWei : Int
  rawProfitWei : Int
  gasCostWei : Int
  slippageBufferWei : Int
  isProfitable : Bool
deriving DecidableEq

/-- `assertNonNegativeBigint` of a figure of a liquidation. -/
def assertWei (field : LiquidationEVField) (value : Int) : Except BotError Unit :=
  if value < 0 then .error (.negative field) else .ok ()

/-- `assertNonNegative` of a figure of a liquidation, which is none if it is not finite. -/
def assertFinite (field : LiquidationEVField) : Option ℚ → Except BotError ℚ
  | none => .error (.negative field)
  | some value => if value < 0 then .error (.negative field) else .ok value

def calculateLiquidationEV (debtToCover collateralReceived : Int) (bonusPercentage : Option ℚ)
    (gasEstimate gasPrice minProfitThreshold : Int) : Except BotError LiquidationEV := do
  assertWei .debtToCover debtToCover
  assertWei .collateralReceived collateralReceived
  assertWei .gasEstimate gasEstimate
  assertWei .gasPrice gasPrice
  assertWei .minProfitThreshold minProfitThreshold
  let bonus ← assertFinite .bonusPercentage bonusPercentage
  let bonusWei := (collateralReceived * mathTrunc bonus).tdiv 10000
  let gasCostWei := gasEstimate * gasPrice
  let slippageBufferWei := (collateralReceived * 100).tdiv 10000
  let rawProfitWei := bonusWei - gasCostWei - slippageBufferWei
  let isProfitable := decide (minProfitThreshold ≤ rawProfitWei)
  return ⟨if isProfitable then rawProfitWei else 0, rawProfitWei, gasCostWei, slippageBufferWei,
    isProfitable⟩

namespace Bot

/-! ## The data of a cycle -/

/-- `LiquidationCandidate`, with the optional figures of its expected value. A bonus
that is there and not finite has no value. -/
structure Candidate extends LiquidationCandidate where
  collateralReceivedWei : Option Int
  bonusPercentage : Option (Option ℚ)
  gasEstimate : Option Int
  gasPrice : Option Int
deriving DecidableEq

/-- `ExecutionResult`. -/
inductive ExecutionResult where
  | sent (txHash : String) (expectedProfitWei : Option Int)
  | simulated (expectedProfitWei : Int)
  | skipped (reason : String)
  | failed (reason : String)
deriving DecidableEq

inductive AlertMode where
  | simulated
  | executed
deriving DecidableEq

/-- `LiquidationAlertEvent`. -/
structure LiquidationAlertEvent where
  mode : AlertMode
  candidate : Candidate
  evProfitWei : Int
  txHash : Option String
deriving DecidableEq

/-- `BotCycleSummary`. -/
structure BotCycleSummary where
  scanned : Nat
  executed : Nat
  skipped : Nat
  failed : Nat
deriving DecidableEq

/-- `BotDependencies`: the least profit, and whether the optional functions are there. -/
structure BotDependencies where
  minProfitWei : Option Int
  hasScanStats : Bool
  hasAlert : Bool

/-- The functions that a cycle calls. -/
inductive BotOp where
  | scanOnce
  | getLastScanStats
  | execute (candidate : Candidate)
  | alert (event : LiquidationAlertEvent)
deriving DecidableEq

@[reducible] def BotOp.Answer : BotOp → Type
  | .scanOnce => Except BotError (List Candidate)
  | .getLastScanStats => Nat
  | .execute _ => Except BotError ExecutionResult
  | .alert _ => Except BotError Unit

abbrev BotM := Async BotOp BotOp.Answer BotError

abbrev BotEvents := List (Async.Event BotOp BotOp.Answer)

/-! ## The cycle -/

def hasPositiveEv (dependencies : BotDependencies) (candidate : Candidate) : Except BotError Bool :=
  match dependencies.minProfitWei, candidate.collateralReceivedWei, candidate.gasEstimate,
      candidate.gasPrice with
  | some minProfitWei, some collateralReceivedWei, some gasEstimate, some gasPrice => do
      let ev ← calculateLiquidationEV candidate.debtToCover collateralReceivedWei
        (candidate.bonusPercentage.getD (some candidate.liquidationBonusBps)) gasEstimate gasPrice
        minProfitWei
      return ev.isProfitable
  | _, _, _, _ => .ok true

def executeSafely (candidate : Candidate) : BotM ExecutionResult :=
  .call (.execute candidate) (fun answer =>
    match answer with
    | .ok result => .pure result
    | .error _ => .pure (.failed "uncaught_executor_error"))

/-- What `afterExecution` reports, if anything. -/
def alertEvent (candidate : Candidate) : ExecutionResult → Option LiquidationAlertEvent
  | .sent txHash expectedProfitWei =>
      some ⟨.executed, candidate, expectedProfitWei.getD 0, some txHash⟩
  | .simulated expectedProfitWei => some ⟨.simulated, candidate, expectedProfitWei, none⟩
  | .skipped _ => none
  | .failed _ => none

def afterExecution (dependencies : BotDependencies) (candidate : Candidate)
    (result : ExecutionResult) : BotM Unit :=
  match alertEvent candidate result with
  | none => .pure ()
  | some event =>
      if dependencies.hasAlert then .call (.alert event) Async.orThrow else .pure ()

/-- The counters of the loop. -/
structure Counts where
  executed : Nat
  skipped : Nat
  failed : Nat
deriving DecidableEq

def Counts.total (counts : Counts) : Nat := counts.executed + counts.skipped + counts.failed

/-- A result is counted under one of them. -/
def Counts.record (counts : Counts) : ExecutionResult → Counts
  | .sent _ _ => { counts with executed := counts.executed + 1 }
  | .simulated _ => { counts with executed := counts.executed + 1 }
  | .skipped _ => { counts with skipped := counts.skipped + 1 }
  | .failed _ => { counts with failed := counts.failed + 1 }

/-- A turn of the loop. -/
def handleCandidate (dependencies : BotDependencies) (counts : Counts) (candidate : Candidate) :
    BotM Counts := do
  let positive ← Async.orThrow (hasPositiveEv dependencies candidate)
  if !positive then return { counts with skipped := counts.skipped + 1 }
  let result ← executeSafely candidate
  afterExecution dependencies candidate result
  return counts.record result

def lastScanned (dependencies : BotDependencies) (candidates : List Candidate) : BotM Nat :=
  if dependencies.hasScanStats then .call .getLastScanStats .pure else .pure candidates.length

def runOnce (dependencies : BotDependencies) : BotM BotCycleSummary := do
  let candidates ← (.call .scanOnce Async.orThrow : BotM (List Candidate))
  let scanned ← lastScanned dependencies candidates
  let counts ← candidates.foldlM (handleCandidate dependencies) ⟨0, 0, 0⟩
  return ⟨scanned, counts.executed, counts.skipped, counts.failed⟩

/-! ## What a cycle does with its candidates -/

/-- The candidates that were executed, in their order. -/
def attempted (events : BotEvents) : List Candidate :=
  events.filterMap (fun event => match event.1 with
    | .execute candidate => some candidate
    | _ => none)

def passesEv (dependencies : BotDependencies) (candidate : Candidate) : Bool :=
  match hasPositiveEv dependencies candidate with
  | .ok positive => positive
  | .error _ => false

/-- Each candidate that passes the check is executed once, and all are counted. -/
structure HandlesAll (dependencies : BotDependencies) (candidates : List Candidate)
    (events : BotEvents) (result : Except BotError BotCycleSummary) : Prop where
  executes : attempted events = candidates.filter (passesEv dependencies)
  resolves : ∃ summary, result = .ok summary ∧
    summary.executed + summary.skipped + summary.failed = candidates.length

/-- The check refuses no figure of a candidate, and no alert that was asked for is refused. -/
structure Undisturbed (dependencies : BotDependencies) (candidates : List Candidate)
    (events : BotEvents) : Prop where
  figures : ∀ candidate ∈ candidates, ∃ positive, hasPositiveEv dependencies candidate = .ok positive
  alerts : ∀ event error, (⟨.alert event, .error error⟩ : Async.Event BotOp BotOp.Answer) ∉ events

section Turns

variable {dependencies : BotDependencies} {candidates : List Candidate} {counts : Counts}
  {events : BotEvents} {result : Except BotError Counts}

theorem attempted_append (earlier later : BotEvents) :
    attempted (earlier ++ later) = attempted earlier ++ attempted later :=
  List.filterMap_append

theorem undisturbed_append {first rest : List Candidate} {earlier later : BotEvents} :
    Undisturbed dependencies (first ++ rest) (earlier ++ later) ↔
      Undisturbed dependencies first earlier ∧ Undisturbed dependencies rest later := by
  constructor
  · rintro ⟨figures, alerts⟩
    constructor
    · exact ⟨fun candidate member => figures candidate (List.mem_append_left _ member),
        fun event error member => alerts event error (List.mem_append_left _ member)⟩
    · exact ⟨fun candidate member => figures candidate (List.mem_append_right _ member),
        fun event error member => alerts event error (List.mem_append_right _ member)⟩
  · rintro ⟨⟨figures, alerts⟩, ⟨laterFigures, laterAlerts⟩⟩
    constructor
    · intro candidate member
      exact (List.mem_append.mp member).elim (figures candidate) (laterFigures candidate)
    · intro event error member
      exact (List.mem_append.mp member).elim (alerts event error) (laterAlerts event error)

theorem total_record (counts : Counts) (result : ExecutionResult) :
    (counts.record result).total = counts.total + 1 := by
  cases result <;> simp only [Counts.record, Counts.total] <;> omega

/-- What a part of the loop has done with its candidates: it has executed those that pass
and counted each, or it was disturbed and throws. -/
def Handled (dependencies : BotDependencies) (candidates : List Candidate) (counts : Counts)
    (events : BotEvents) (result : Except BotError Counts) : Prop :=
  (∃ after, result = .ok after ∧ after.total = counts.total + candidates.length ∧
    attempted events = candidates.filter (passesEv dependencies) ∧
    Undisturbed dependencies candidates events) ∨
  ∃ error, result = .error error ∧ ¬ Undisturbed dependencies candidates events

/-- The report is refused, or nothing is. -/
theorem runs_afterExecution {candidate : Candidate} {outcome : ExecutionResult}
    {ended : Except BotError Unit}
    (run : Async.Runs (afterExecution dependencies candidate outcome) events ended) :
    attempted events = [] ∧
      ((ended = .ok () ∧ ∀ event error,
          (⟨.alert event, .error error⟩ : Async.Event BotOp BotOp.Answer) ∉ events) ∨
        ∃ error event, ended = .error error ∧
          (⟨.alert event, .error error⟩ : Async.Event BotOp BotOp.Answer) ∈ events) := by
  have silent {ended : Except BotError Unit} (run : Async.Runs (.pure () : BotM Unit) events ended) :
      events = [] ∧ ended = .ok () := Async.runs_pure.mp run
  unfold afterExecution at run
  split at run
  next =>
    obtain ⟨rfl, rfl⟩ := silent run
    exact ⟨rfl, Or.inl ⟨rfl, by simp⟩⟩
  next event _ =>
    split at run
    next =>
      obtain ⟨answer, later, rfl, resumed⟩ := Async.runs_call.mp run
      obtain ⟨rfl, rfl⟩ := Async.runs_orThrow.mp resumed
      refine ⟨rfl, ?_⟩
      cases ended with
      | ok => exact Or.inl ⟨rfl, by simp⟩
      | error error => exact Or.inr ⟨error, event, rfl, List.mem_cons_self⟩
    next =>
      obtain ⟨rfl, rfl⟩ := silent run
      exact ⟨rfl, Or.inl ⟨rfl, by simp⟩⟩

/-- A turn handles its candidate. -/
theorem runs_handleCandidate {candidate : Candidate}
    (run : Async.Runs (handleCandidate dependencies counts candidate) events result) :
    Handled dependencies [candidate] counts events result := by
  cases checked : hasPositiveEv dependencies candidate with
  | error error =>
    rw [handleCandidate, checked] at run
    obtain ⟨rfl, rfl⟩ := Async.runs_throw.mp run
    refine Or.inr ⟨error, rfl, ?_⟩
    intro undisturbed
    obtain ⟨positive, known⟩ := undisturbed.figures candidate List.mem_cons_self
    cases checked.symm.trans known
  | ok positive =>
    have figures : ∀ tested ∈ [candidate], ∃ passes, hasPositiveEv dependencies tested = .ok passes := by
      intro tested member
      exact ⟨positive, (congrArg _ (List.mem_singleton.mp member)).trans checked⟩
    have passes : [candidate].filter (passesEv dependencies) = if positive then [candidate] else [] := by
      simp [List.filter_cons, passesEv, checked]
    rw [handleCandidate, checked, Async.orThrow, Async.bind_eq, Async.pure_bind] at run
    cases positive with
    | false =>
      obtain ⟨rfl, rfl⟩ := Async.runs_pure.mp run
      refine Or.inl ⟨_, rfl, ?_, passes.symm, figures, by simp⟩
      simp only [Counts.total, List.length_singleton]
      omega
    | true =>
      obtain ⟨answer, tail, rfl, resumed⟩ := Async.runs_call.mp run
      obtain ⟨outcome, reporting⟩ : ∃ outcome, Async.Runs ((afterExecution dependencies candidate outcome).bind
          (fun _ => .pure (counts.record outcome))) tail result := by
        cases answer with
        | ok outcome => exact ⟨outcome, resumed⟩
        | error error => exact ⟨.failed "uncaught_executor_error", resumed⟩
      rcases Async.runs_bind.mp reporting with ⟨error, reported, rfl⟩ | ⟨_, _, _, rfl, reported, ended⟩
      · obtain ⟨_, ⟨impossible, _⟩ | ⟨_, event, ⟨⟩, refused⟩⟩ := runs_afterExecution reported
        · cases impossible
        · refine Or.inr ⟨error, rfl, ?_⟩
          intro undisturbed
          exact undisturbed.alerts event error (List.mem_cons_of_mem _ refused)
      · obtain ⟨rfl, rfl⟩ := Async.runs_pure.mp ended
        obtain ⟨quiet, ⟨_, answered⟩ | ⟨_, _, impossible, _⟩⟩ := runs_afterExecution reported
        · refine Or.inl ⟨_, rfl, total_record counts outcome, ?_, figures, ?_⟩
          · rw [passes, List.append_nil]
            exact congrArg (candidate :: ·) quiet
          · simpa using answered
        · cases impossible

/-- The loop handles all candidates. Induct on those that are left. -/
theorem runs_handleCandidates
    (run : Async.Runs (candidates.foldlM (handleCandidate dependencies) counts) events result) :
    Handled dependencies candidates counts events result := by
  induction candidates generalizing counts events with
  | nil =>
    obtain ⟨rfl, rfl⟩ := Async.runs_pure.mp run
    exact Or.inl ⟨counts, rfl, rfl, rfl, by simp, by simp⟩
  | cons candidate rest inductionHypothesis =>
    rw [List.foldlM_cons] at run
    rcases Async.runs_bind.mp run with ⟨error, turn, rfl⟩ | ⟨middle, earlier, later, rfl, turn, run⟩
    · obtain ⟨_, impossible, _⟩ | ⟨_, ⟨⟩, disturbed⟩ := runs_handleCandidate turn
      · cases impossible
      · refine Or.inr ⟨error, rfl, ?_⟩
        intro undisturbed
        rw [← List.singleton_append, ← List.append_nil events, undisturbed_append] at undisturbed
        exact disturbed undisturbed.1
    · obtain ⟨_, ⟨⟩, counted, executed, turnUndisturbed⟩ | ⟨_, impossible, _⟩ :=
        runs_handleCandidate turn
      · rcases inductionHypothesis run with
          ⟨after, rfl, total, executions, undisturbed⟩ | ⟨error, rfl, disturbed⟩
        · refine Or.inl ⟨after, rfl, ?_, ?_, ?_⟩
          · rw [total, counted, List.length_singleton, List.length_cons]
            omega
          · rw [attempted_append, executed, executions, ← List.filter_append,
              List.singleton_append]
          · exact undisturbed_append.mpr ⟨turnUndisturbed, undisturbed⟩
        · refine Or.inr ⟨error, rfl, ?_⟩
          intro undisturbed
          rw [← List.singleton_append, undisturbed_append] at undisturbed
          exact disturbed undisturbed.2
      · cases impossible

/-- Asking for the statistics disturbs nothing. -/
theorem runs_lastScanned {ended : Except BotError Nat}
    (run : Async.Runs (lastScanned dependencies candidates) events ended) :
    (∃ scanned, ended = .ok scanned) ∧ attempted events = [] ∧
      Undisturbed dependencies [] events := by
  unfold lastScanned at run
  split at run
  next =>
    obtain ⟨answer, later, rfl, resumed⟩ := Async.runs_call.mp run
    obtain ⟨rfl, rfl⟩ := Async.runs_pure.mp resumed
    exact ⟨⟨_, rfl⟩, rfl, by simp, by simp⟩
  next =>
    obtain ⟨rfl, rfl⟩ := Async.runs_pure.mp run
    exact ⟨⟨_, rfl⟩, rfl, by simp, by simp⟩

end Turns

/-- A cycle over scanned candidates handles all of them exactly if nothing disturbs it. -/
theorem handlesAll_iff (dependencies : BotDependencies) (candidates : List Candidate)
    (events : BotEvents) (result : Except BotError BotCycleSummary)
    (run : Async.Runs (runOnce dependencies) (⟨.scanOnce, .ok candidates⟩ :: events) result) :
    HandlesAll dependencies candidates events result ↔
      Undisturbed dependencies candidates events := by
  obtain ⟨_, _, same, scanned⟩ := Async.runs_call.mp run
  cases same
  rw [Async.orThrow, Async.pure_bind] at scanned
  rcases Async.runs_bind.mp scanned with ⟨_, asked, _⟩ | ⟨number, earlier, later, rfl, asked, loop⟩
  · obtain ⟨⟨_, impossible⟩, _⟩ := runs_lastScanned asked
    cases impossible
  · obtain ⟨_, quiet, undisturbed⟩ := runs_lastScanned asked
    have split : Undisturbed dependencies candidates (earlier ++ later) ↔
        Undisturbed dependencies candidates later := by
      rw [← List.nil_append candidates, undisturbed_append]
      exact ⟨And.right, fun rest => ⟨undisturbed, rest⟩⟩
    rw [split]
    rcases Async.runs_bind.mp loop with ⟨error, failed, rfl⟩ | ⟨counts, handled, _, rfl, ran, ended⟩
    · obtain ⟨_, impossible, _⟩ | ⟨_, _, disturbed⟩ := runs_handleCandidates failed
      · cases impossible
      · constructor
        · rintro ⟨_, _, impossible, _⟩
          cases impossible
        · exact fun calm => absurd calm disturbed
    · obtain ⟨rfl, rfl⟩ := Async.runs_pure.mp ended
      obtain ⟨_, ⟨⟩, total, executed, calm⟩ | ⟨_, impossible, _⟩ := runs_handleCandidates ran
      · rw [List.append_nil]
        refine iff_of_true ⟨?_, _, rfl, ?_⟩ calm
        · rw [attempted_append, quiet, executed, List.nil_append]
        · rw [Counts.total] at total
          rw [total, Counts.total]
          exact Nat.zero_add _
      · cases impossible

/-- A bot with an alert and a least profit. -/
def alertingBot : BotDependencies := ⟨some 1, false, true⟩

/-- A candidate with the figures of its expected value. -/
def richCandidate (account : Address) : Candidate where
  account := account
  collateralAsset := ZERO_ADDRESS
  debtAsset := ZERO_ADDRESS
  debtToCover := 100
  repayValueUsd := 1000
  liquidationBonusBps := 500
  healthFactor := 900000000000000000
  collateralReceivedWei := some 1000000000000000000
  bonusPercentage := none
  gasEstimate := some 1000000
  gasPrice := some 1000000000

def twoCandidates : List Candidate := [richCandidate BASE_USDC, richCandidate BASE_USDBC]

/-- Every execution is sent, and every alert answered in the given way. -/
def sending (alerted : Except BotError Unit) : (op : BotOp) → op.Answer
  | .scanOnce => .ok twoCandidates
  | .getLastScanStats => 2
  | .execute _ => .ok (.sent "0xabc" none)
  | .alert _ => alerted

/-- The calls of a cycle behind its scan. -/
def cycleCalls (alerted : Except BotError Unit) : BotEvents :=
  ((runOnce alertingBot).trace (sending alerted)).tail

def cycleResult (alerted : Except BotError Unit) : Except BotError BotCycleSummary :=
  (runOnce alertingBot).evaluate (sending alerted)

theorem runs_cycle (alerted : Except BotError Unit) :
    Async.Runs (runOnce alertingBot) (⟨.scanOnce, .ok twoCandidates⟩ :: cycleCalls alerted)
      (cycleResult alerted) :=
  Async.runs_trace (sending alerted) (runOnce alertingBot)

/-- With its alerts accepted, a cycle over two candidates handles both. -/
theorem handlesAll_iff_accepted :
    HandlesAll alertingBot twoCandidates (cycleCalls (.ok ())) (cycleResult (.ok ())) := by
  apply (handlesAll_iff alertingBot twoCandidates _ _ (runs_cycle (.ok ()))).mpr
  constructor
  · intro candidate member
    refine ⟨true, ?_⟩
    revert candidate
    decide +kernel
  · intro event error refused
    have calls : cycleCalls (.ok ()) = twoCandidates.flatMap (fun candidate =>
        [⟨.execute candidate, .ok (.sent "0xabc" none)⟩,
          ⟨.alert ⟨.executed, candidate, 0, some "0xabc"⟩, .ok ()⟩]) := rfl
    rw [calls] at refused
    simp [twoCandidates] at refused

/-- The first alert is refused: the second candidate is not attempted, and the cycle throws. -/
theorem refused_alert_ends_cycle :
    ¬ ∀ (dependencies : BotDependencies) (candidates : List Candidate) (events : BotEvents)
      (result : Except BotError BotCycleSummary),
      Async.Runs (runOnce dependencies) (⟨.scanOnce, .ok candidates⟩ :: events) result →
        HandlesAll dependencies candidates events result := by
  intro claim
  obtain ⟨_, summary, resolved, _⟩ := claim alertingBot twoCandidates _ _ (runs_cycle (.error .outside))
  have thrown : cycleResult (.error .outside) = .error .outside := by decide +kernel
  cases thrown.symm.trans resolved

end Bot

end LiquidationBot
