import LiquidationBot.ExecutorRequests
import LiquidationBot.Library.AsyncRuns
import LiquidationBot.NonceWorld

/-!
# What an execution has passed before it sends

A complete run of `execute` either submits nothing or splits in two: the calls that
prepare a transaction, and the submission of it. The preparation has passed every
gate in between, each by an answer that stands in the record, and the submission
sends the prepared transaction only.
-/

namespace LiquidationBot

namespace SafeTransactionExecutor

/-- The gas price that a call answers. -/
def answeredGasPrice : ExecutorEvent → Option Nat
  | ⟨.ask (.getGasPrice _), .ok gasPrice⟩ => some gasPrice
  | _ => none

/-- The `maxFeePerGas` that a call answers. -/
def answeredQuote : ExecutorEvent → Option Nat
  | ⟨.ask (.quoteExecutionGasCap _ _), .ok maxFeePerGas⟩ => some maxFeePerGas
  | _ => none

def gasPrices (events : List ExecutorEvent) : List Nat := events.filterMap answeredGasPrice

def quotes (events : List ExecutorEvent) : List Nat := events.filterMap answeredQuote

@[simp] theorem gasPrices_append (earlier later : List ExecutorEvent) :
    gasPrices (earlier ++ later) = gasPrices earlier ++ gasPrices later := List.filterMap_append

@[simp] theorem quotes_append (earlier later : List ExecutorEvent) :
    quotes (earlier ++ later) = quotes earlier ++ quotes later := List.filterMap_append

theorem answered_of_unpriced {op : ExecutorOp} {answer : op.Answer} (unpriced : prices op = false) :
    answeredGasPrice ⟨op, answer⟩ = none ∧ answeredQuote ⟨op, answer⟩ = none := by
  cases op with
  | memory op => exact ⟨rfl, rfl⟩
  | ask op =>
    cases op with
    | getGasPrice => cases unpriced
    | quoteExecutionGasCap => cases unpriced
    | _ => exact ⟨rfl, rfl⟩

theorem figures_of_unpriced {events : List ExecutorEvent}
    (unpriced : ∀ event ∈ events, prices event.1 = false) :
    gasPrices events = [] ∧ quotes events = [] := by
  constructor
  · refine List.filterMap_eq_nil_iff.mpr ?_
    exact fun event member => (answered_of_unpriced (unpriced event member)).1
  · refine List.filterMap_eq_nil_iff.mpr ?_
    exact fun event member => (answered_of_unpriced (unpriced event member)).2

/-- The gates that a run has passed when it submits a transaction: what was
answered to the calls before. -/
structure Admitted (config : SafeTransactionExecutorConfig) (request : SafeExecutionRequest)
    (before : List ExecutorEvent) (transaction : TransactionEnvelope)
    (overrides : TransactionOverrides) : Prop where
  breaker : ∃ status, ⟨.memory (.executionBreaker request.chain), .ok status⟩ ∈ before ∧
    status ≠ .open
  route : ∃ route, ⟨.ask (.selectBestRoute request.opportunityId), .ok (.selected route)⟩ ∈ before ∧
    ⟨.ask (.buildTransaction route), .ok transaction⟩ ∈ before ∧
    route.provider = transaction.provider ∧
    (request.buildsFlashLoanPreview = true → ∃ previewTx,
      ⟨.ask (.buildFlashLoanPreviewTransaction route), .ok previewTx⟩ ∈ before ∧
      ⟨.ask (.simulateContract previewTx overrides), .ok .success⟩ ∈ before)
  simulated : ⟨.ask (.simulateContract transaction overrides), .ok .success⟩ ∈ before
  accepted : config.rejectBeforeBroadcast = true →
    ⟨.ask (.rejectBeforeBroadcast request), .ok none⟩ ∈ before
  live : config.dryRunMode = false
  reserved : ∃ ref, ⟨.memory (.takeFrom ref), .ok overrides.nonce⟩ ∈ before

/-- Later calls leave the gates passed. -/
theorem Admitted.mono {config : SafeTransactionExecutorConfig} {request : SafeExecutionRequest}
    {before more : List ExecutorEvent} {transaction : TransactionEnvelope}
    {overrides : TransactionOverrides}
    (admitted : Admitted config request before transaction overrides)
    (included : ∀ event ∈ before, event ∈ more) :
    Admitted config request more transaction overrides where
  breaker := by
    obtain ⟨status, answered, closed⟩ := admitted.breaker
    exact ⟨status, included _ answered, closed⟩
  route := by
    obtain ⟨route, selected, built, provider, previewed⟩ := admitted.route
    refine ⟨route, included _ selected, included _ built, provider, ?_⟩
    intro builds
    obtain ⟨previewTx, there, viewed⟩ := previewed builds
    exact ⟨previewTx, included _ there, included _ viewed⟩
  simulated := included _ admitted.simulated
  accepted := fun present => included _ (admitted.accepted present)
  live := admitted.live
  reserved := by
    obtain ⟨ref, taken⟩ := admitted.reserved
    exact ⟨ref, included _ taken⟩

/-- The gas price of the submission: the node's, or the quote where it is lower. -/
structure Priced (config : SafeTransactionExecutorConfig) (before : List ExecutorEvent)
    (overrides : TransactionOverrides) (gasPrice : Nat) : Prop where
  asked : gasPrices before = [gasPrice]
  quoted : config.quoteExecutionGasCap = true → ∃ maxFeePerGas, quotes before = [maxFeePerGas] ∧
    overrides.gasPrice = if gasPrice < maxFeePerGas then gasPrice else maxFeePerGas

section Runs

variable {config : SafeTransactionExecutorConfig} {request : SafeExecutionRequest}
  {events : List ExecutorEvent}

theorem runs_ask {op : Collaborator} {result : Except Thrown op.Result} :
    Async.Runs (ask op) events result ↔ events = [⟨.ask op, result⟩] := by
  simp only [ask, Async.runs_call, Async.runs_orThrow]
  constructor
  · rintro ⟨answer, rest, rfl, rfl, rfl⟩
    rfl
  · rintro rfl
    exact ⟨result, [], rfl, rfl, rfl⟩

theorem runs_memory {op : MemoryOp} {answer : op.Answer} :
    Async.Runs (memory op) events (.ok answer) ↔ events = [⟨.memory op, answer⟩] := by
  simp only [memory, Async.runs_call, Async.runs_pure]
  constructor
  · rintro ⟨answered, rest, rfl, rfl, same⟩
    cases same
    rfl
  · rintro rfl
    exact ⟨answer, [], rfl, rfl, rfl⟩

/-- A finished reservation has been given the nonce that it reports. -/
theorem reserve_ran {nonce : Nat} (run : Async.Runs (reserve request) events (.ok nonce)) :
    ∃ ref, ⟨.memory (.takeFrom ref), .ok nonce⟩ ∈ events := by
  have taken : ∀ ref later, Async.Runs ((memory (.takeFrom ref)).bind Async.orThrow) later
      (.ok nonce) → ⟨.memory (.takeFrom ref), .ok nonce⟩ ∈ later := by
    intro ref later run
    obtain ⟨answer, earlier, none, rfl, asked, given⟩ := Async.runs_bind_ok.mp run
    obtain ⟨rfl, rfl⟩ := Async.runs_orThrow.mp given
    rw [runs_memory.mp asked]
    exact List.mem_append_left _ (List.mem_singleton_self _)
  obtain ⟨⟨ref, created⟩, looked, later, rfl, _, run⟩ := Async.runs_bind_ok.mp run
  refine ⟨ref, List.mem_append_right _ ?_⟩
  cases created with
  | false => exact taken ref later run
  | true =>
    obtain ⟨_, read, rest, rfl, _, run⟩ := Async.runs_bind_ok.mp run
    obtain ⟨_, stored, last, rfl, _, run⟩ := Async.runs_bind_ok.mp run
    exact List.mem_append_right _ (List.mem_append_right _ (taken ref last run))

theorem routeAndGasPrice_ran {selection : RouteSelectionResult} {gasPrice : Nat}
    (run : Async.Runs (routeAndGasPrice request) events (.ok (selection, gasPrice))) :
    events = [⟨.ask (.selectBestRoute request.opportunityId), .ok selection⟩,
      ⟨.ask (.getGasPrice request.chain), .ok gasPrice⟩] := by
  obtain ⟨route, selected, later, rfl, asked, run⟩ := Async.runs_bind_ok.mp run
  obtain ⟨price, priced, none, rfl, priceAsked, run⟩ := Async.runs_bind_ok.mp run
  obtain ⟨rfl, same⟩ := Async.runs_pure.mp run
  cases same
  rw [runs_ask.mp asked, runs_ask.mp priceAsked]
  rfl

/-- A finished preflight is a reservation, the selection and the gas price. -/
theorem runPreflight_ran {selection : RouteSelectionResult} {gasPrice nonce : Nat}
    (run : Async.Runs (runPreflight request) events (.ok (selection, gasPrice, nonce))) :
    ∃ reservation, Async.Runs (reserve request) reservation (.ok nonce) ∧
      events = reservation ++
        [⟨.ask (.selectBestRoute request.opportunityId), .ok selection⟩,
          ⟨.ask (.getGasPrice request.chain), .ok gasPrice⟩] := by
  obtain ⟨taken, reservation, later, rfl, reserved, run⟩ := Async.runs_bind_ok.mp run
  obtain ⟨⟨route, price⟩, asked, none, rfl, run, done⟩ := Async.runs_bind_ok.mp run
  obtain ⟨rfl, same⟩ := Async.runs_pure.mp done
  cases same
  refine ⟨reservation, reserved, ?_⟩
  rcases Async.runs_handle.mp run with ⟨value, run, same⟩ | ⟨error, _, _, _, _, run⟩
  · cases same
    rw [routeAndGasPrice_ran run, List.append_nil]
  · -- the handler throws in every case
    obtain ⟨_, _, _, _, _, run⟩ := Async.runs_bind_ok.mp run
    cases (Async.runs_throw.mp run).2

/-- The overrides are made of the given figures and of the quote. -/
theorem quoteOverrides_ran {route : SelectedRoute} {gas gasPrice nonce : Nat}
    {overrides : TransactionOverrides}
    (run : Async.Runs (quoteOverrides config route gas gasPrice nonce) events (.ok overrides)) :
    overrides.nonce = nonce ∧ gasPrices events = [] ∧
      (config.quoteExecutionGasCap = true → ∃ maxFeePerGas, quotes events = [maxFeePerGas] ∧
        overrides.gasPrice = if gasPrice < maxFeePerGas then gasPrice else maxFeePerGas) := by
  unfold quoteOverrides at run
  split at run
  next absent =>
    obtain ⟨rfl, same⟩ := Async.runs_pure.mp run
    cases same
    refine ⟨rfl, rfl, ?_⟩
    intro present
    simp [present] at absent
  next present =>
    obtain ⟨maxFeePerGas, quoted, none, rfl, asked, run⟩ := Async.runs_bind_ok.mp run
    obtain ⟨rfl, same⟩ := Async.runs_pure.mp run
    cases same
    rw [runs_ask.mp asked]
    exact ⟨rfl, rfl, fun _ => ⟨maxFeePerGas, rfl, rfl⟩⟩

/-- A preview that lets the execution go on has simulated its transaction. -/
theorem runPreview_ran {route : SelectedRoute} {overrides : TransactionOverrides}
    (run : Async.Runs (runPreview config request route overrides) events (.ok none))
    (builds : request.buildsFlashLoanPreview = true) :
    ∃ previewTx, ⟨.ask (.buildFlashLoanPreviewTransaction route), .ok previewTx⟩ ∈ events ∧
      ⟨.ask (.simulateContract previewTx overrides), .ok .success⟩ ∈ events := by
  simp only [runPreview, builds, Bool.not_true, Bool.false_eq_true, if_false] at run
  obtain ⟨reason, hooked, later, rfl, _, run⟩ := Async.runs_bind_ok.mp run
  cases reason with
  | some reason =>
    obtain ⟨_, _, last, _, _, run⟩ := Async.runs_bind_ok.mp run
    cases reason with
    | borrower_cooldown => cases (Async.runs_pure.mp run).2
    | dust => cases (Async.runs_pure.mp run).2
    | other => cases (Async.runs_pure.mp run).2
  | none =>
    obtain ⟨previewTx, built, rest, rfl, asked, run⟩ := Async.runs_bind_ok.mp run
    obtain ⟨simulation, simulated, last, rfl, simulating, run⟩ := Async.runs_bind_ok.mp run
    cases simulation with
    | success =>
      refine ⟨previewTx, ?_, ?_⟩
      · simp [runs_ask.mp asked]
      · simp [runs_ask.mp simulating]
    | failure =>
      obtain ⟨_, _, _, _, _, run⟩ := Async.runs_bind_ok.mp run
      cases (Async.runs_pure.mp run).2

theorem broadcastRejectReason_ran
    (run : Async.Runs (broadcastRejectReason config request) events (.ok none))
    (hooked : config.rejectBeforeBroadcast = true) :
    ⟨.ask (.rejectBeforeBroadcast request), .ok none⟩ ∈ events := by
  rw [broadcastRejectReason, if_pos hooked] at run
  simp [runs_ask.mp run]

/-- Nothing is sent and no receipt is awaited. -/
def Silent (events : List ExecutorEvent) : Prop := ∀ event ∈ events, submits event.1 = false

theorem silent_append {earlier later : List ExecutorEvent} :
    Silent (earlier ++ later) ↔ Silent earlier ∧ Silent later := List.forall_mem_append

theorem silent_of_precedes {α : Type} {program : ExecutorM α} {result : Except Thrown α}
    (uses : program.Uses (Precedes request)) (run : Async.Runs program events result) :
    Silent events :=
  fun event member => (uses.of_run run event member).1

theorem unpriced_of_prepares {α : Type} {program : ExecutorM α} {result : Except Thrown α}
    (uses : program.Uses (Prepares request)) (run : Async.Runs program events result) :
    gasPrices events = [] ∧ quotes events = [] :=
  figures_of_unpriced (fun event member => (uses.of_run run event member).1)

/-- A part of a run that hands over to the submission of a transaction. -/
def HandsOver (config : SafeTransactionExecutorConfig) (request : SafeExecutionRequest)
    (events : List ExecutorEvent) (result : Except Thrown SafeExecutionResult)
    (cleared : List ExecutorEvent → TransactionEnvelope → TransactionOverrides → Prop) : Prop :=
  Silent events ∨ ∃ before submission transaction overrides, events = before ++ submission ∧
    Silent before ∧ cleared before transaction overrides ∧
    Async.Runs (submitWithReplacement config request transaction overrides) submission result

variable {result : Except Thrown SafeExecutionResult}
  {cleared further : List ExecutorEvent → TransactionEnvelope → TransactionOverrides → Prop}

/-- Silent calls may come first. -/
theorem HandsOver.after {earlier later : List ExecutorEvent} (silent : Silent earlier)
    (rest : HandsOver config request later result cleared)
    (carried : ∀ before transaction overrides, cleared before transaction overrides →
      further (earlier ++ before) transaction overrides) :
    HandsOver config request (earlier ++ later) result further := by
  rcases rest with quiet | ⟨before, submission, transaction, overrides, rfl, quiet, passed, run⟩
  · exact Or.inl (silent_append.mpr ⟨silent, quiet⟩)
  · exact Or.inr ⟨earlier ++ before, submission, transaction, overrides,
      (List.append_assoc _ _ _).symm, silent_append.mpr ⟨silent, quiet⟩,
      carried before transaction overrides passed, run⟩

/-- A release ends a run without a submission. -/
theorem release_silent {nonce : Nat} {ended : SafeExecutionResult}
    (run : Async.Runs ((releaseNonce request nonce).bind (fun _ => .pure ended)) events result) :
    Silent events := by
  have uses : ((releaseNonce request nonce).bind (fun _ => .pure ended)).Uses
      (Prepares request) := (prepares_memory _).bind (fun _ => trivial)
  exact silent_of_precedes (Prepares.precedes uses) run

theorem silent_ask {op : Collaborator} {answer : Except Thrown op.Result}
    (preceding : submits (.ask op) = false) (run : Async.Runs (ask op) events answer) :
    Silent events := by
  rw [runs_ask.mp run]
  intro event member
  obtain rfl := List.mem_singleton.mp member
  exact preceding

theorem figures_of_ask {op : Collaborator} {answer : Except Thrown op.Result}
    (unpriced : prices (.ask op) = false) (run : Async.Runs (ask op) events answer) :
    gasPrices events = [] ∧ quotes events = [] := by
  rw [runs_ask.mp run]
  apply figures_of_unpriced
  intro event member
  obtain rfl := List.mem_singleton.mp member
  exact unpriced

/-- What the final simulation and the last hook have answered. -/
structure Simulated (config : SafeTransactionExecutorConfig) (request : SafeExecutionRequest)
    (before : List ExecutorEvent) (transaction : TransactionEnvelope)
    (overrides : TransactionOverrides) : Prop where
  unpriced : gasPrices before = [] ∧ quotes before = []
  simulated : ⟨.ask (.simulateContract transaction overrides), .ok .success⟩ ∈ before
  accepted : config.rejectBeforeBroadcast = true →
    ⟨.ask (.rejectBeforeBroadcast request), .ok none⟩ ∈ before
  live : config.dryRunMode = false

theorem simulateAndSubmit_ran {transaction : TransactionEnvelope}
    {overrides : TransactionOverrides}
    (run : Async.Runs (simulateAndSubmit config request transaction overrides) events result) :
    HandsOver config request events result (fun before sent given =>
      sent = transaction ∧ given = overrides ∧
        Simulated config request before transaction overrides) := by
  rcases Async.runs_bind.mp run with
    ⟨error, asked, _⟩ | ⟨simulation, simulated, later, rfl, asked, run⟩
  · exact Or.inl (silent_ask rfl asked)
  have quiet : Silent simulated := silent_ask rfl asked
  cases simulation with
  | failure => exact Or.inl (silent_append.mpr ⟨quiet, release_silent run⟩)
  | success =>
    dsimp only at run
    split at run
    next => exact Or.inl (silent_append.mpr ⟨quiet, release_silent run⟩)
    next broadcasting =>
      rcases Async.runs_bind.mp run with ⟨error, hook, _⟩ | ⟨reason, hooked, rest, rfl, hook, run⟩
      · exact Or.inl (silent_append.mpr ⟨quiet, silent_of_precedes
          (Prepares.precedes broadcastRejectReason_prepares) hook⟩)
      have quietHook : Silent hooked :=
        silent_of_precedes (Prepares.precedes broadcastRejectReason_prepares) hook
      cases reason with
      | some reason =>
        exact Or.inl (silent_append.mpr ⟨quiet,
          silent_append.mpr ⟨quietHook, release_silent run⟩⟩)
      | none =>
        obtain ⟨unpriced, unquoted⟩ := unpriced_of_prepares broadcastRejectReason_prepares hook
        refine Or.inr ⟨simulated ++ hooked, rest, transaction, overrides,
          (List.append_assoc _ _ _).symm, silent_append.mpr ⟨quiet, quietHook⟩, ⟨rfl, rfl, ?_⟩, run⟩
        rw [runs_ask.mp asked]
        exact
          { unpriced := ⟨unpriced, unquoted⟩
            simulated := List.mem_append_left _ (List.mem_singleton_self _)
            accepted := fun present =>
              List.mem_append_right _ (broadcastRejectReason_ran hook present)
            live := by simpa using broadcasting }

/-- What the calls between the preflight and the submission have answered. -/
structure Prepared (config : SafeTransactionExecutorConfig) (request : SafeExecutionRequest)
    (route : SelectedRoute) (gasPrice nonce : Nat) (before : List ExecutorEvent)
    (transaction : TransactionEnvelope) (overrides : TransactionOverrides) : Prop where
  built : ⟨.ask (.buildTransaction route), .ok transaction⟩ ∈ before
  provider : route.provider = transaction.provider
  previewed : request.buildsFlashLoanPreview = true → ∃ previewTx,
    ⟨.ask (.buildFlashLoanPreviewTransaction route), .ok previewTx⟩ ∈ before ∧
    ⟨.ask (.simulateContract previewTx overrides), .ok .success⟩ ∈ before
  simulated : ⟨.ask (.simulateContract transaction overrides), .ok .success⟩ ∈ before
  accepted : config.rejectBeforeBroadcast = true →
    ⟨.ask (.rejectBeforeBroadcast request), .ok none⟩ ∈ before
  live : config.dryRunMode = false
  own : overrides.nonce = nonce
  unpriced : gasPrices before = []
  quoted : config.quoteExecutionGasCap = true → ∃ maxFeePerGas, quotes before = [maxFeePerGas] ∧
    overrides.gasPrice = if gasPrice < maxFeePerGas then gasPrice else maxFeePerGas

theorem prepareAndSubmit_ran {route : SelectedRoute} {gasPrice nonce : Nat}
    (run : Async.Runs (prepareAndSubmit config request route gasPrice nonce) events result) :
    HandsOver config request events result (Prepared config request route gasPrice nonce) := by
  rcases Async.runs_bind.mp run with ⟨error, asked, _⟩ | ⟨transaction, built, later, rfl, asked, run⟩
  · exact Or.inl (silent_ask rfl asked)
  have quietBuilt : Silent built := silent_ask rfl asked
  split at run
  next => exact Or.inl (silent_append.mpr ⟨quietBuilt, release_silent run⟩)
  next provider =>
    have gasUses : (getGasLimit request transaction).Uses (Prepares request) :=
      getGasLimit_prepares transaction
    rcases Async.runs_bind.mp run with ⟨error, limited, _⟩ | ⟨gas, limits, rest, rfl, limited, run⟩
    · exact Or.inl (silent_append.mpr
        ⟨quietBuilt, silent_of_precedes (Prepares.precedes gasUses) limited⟩)
    have quietLimits : Silent limits := silent_of_precedes (Prepares.precedes gasUses) limited
    have quoteUses : (quoteOverrides config route gas gasPrice nonce).Uses (Precedes request) :=
      quoteOverrides_precedes route gas gasPrice nonce
    rcases Async.runs_bind.mp run with
      ⟨error, quoting, _⟩ | ⟨overrides, quoted, rest, rfl, quoting, run⟩
    · exact Or.inl (silent_append.mpr ⟨quietBuilt,
        silent_append.mpr ⟨quietLimits, silent_of_precedes quoteUses quoting⟩⟩)
    have quietQuoted : Silent quoted := silent_of_precedes quoteUses quoting
    have previewUses : (runPreview config request route overrides).Uses (Prepares request) :=
      runPreview_prepares route overrides
    have quiet : ∀ {last}, Silent last → Silent (built ++ (limits ++ (quoted ++ last))) :=
      fun silent => silent_append.mpr ⟨quietBuilt, silent_append.mpr ⟨quietLimits,
        silent_append.mpr ⟨quietQuoted, silent⟩⟩⟩
    rcases Async.runs_bind.mp run with
      ⟨error, viewing, _⟩ | ⟨verdict, viewed, rest, rfl, viewing, run⟩
    · exact Or.inl (quiet (silent_of_precedes (Prepares.precedes previewUses) viewing))
    have quietViewed : Silent viewed :=
      silent_of_precedes (Prepares.precedes previewUses) viewing
    cases verdict with
    | some verdict =>
      obtain ⟨rfl, _⟩ := Async.runs_pure.mp run
      exact Or.inl (quiet (silent_append.mpr ⟨quietViewed, by simp [Silent]⟩))
    | none =>
      rcases simulateAndSubmit_ran run with
        silent | ⟨last, submission, sent, given, rfl, silent, ⟨rfl, rfl, simulated⟩, submitted⟩
      · exact Or.inl (quiet (silent_append.mpr ⟨quietViewed, silent⟩))
      · refine Or.inr ⟨built ++ (limits ++ (quoted ++ (viewed ++ last))), submission, _, _,
          by simp only [List.append_assoc],
          quiet (silent_append.mpr ⟨quietViewed, silent⟩), ?_, submitted⟩
        obtain ⟨own, noGasPrice, quoted⟩ := quoteOverrides_ran quoting
        obtain ⟨limitsPrice, limitsQuote⟩ := unpriced_of_prepares gasUses limited
        obtain ⟨viewedPrice, viewedQuote⟩ := unpriced_of_prepares previewUses viewing
        obtain ⟨lastPrice, lastQuote⟩ := simulated.unpriced
        obtain ⟨builtPrice, builtQuote⟩ : gasPrices built = [] ∧ quotes built = [] :=
          figures_of_ask (by rfl) asked
        exact
          { built := by simp [runs_ask.mp asked]
            provider := not_not.mp provider
            previewed := fun builds => by
              obtain ⟨previewTx, there, viewedOk⟩ := runPreview_ran viewing builds
              exact ⟨previewTx, by simp [there], by simp [viewedOk]⟩
            simulated := by simp [simulated.simulated]
            accepted := fun present => by simp [simulated.accepted present]
            live := simulated.live
            own := own
            unpriced := by simp [builtPrice, limitsPrice, noGasPrice, viewedPrice, lastPrice]
            quoted := fun present => by
              obtain ⟨maxFeePerGas, answered, capped⟩ := quoted present
              exact ⟨maxFeePerGas,
                by simp [builtQuote, limitsQuote, answered, viewedQuote, lastQuote], capped⟩ }

/-- The preflight has been answered with a selected route, and the rest is as
prepared. -/
theorem preflightAndSubmit_ran
    (run : Async.Runs (preflightAndSubmit config request) events result) :
    HandsOver config request events result (fun before transaction overrides =>
      ∃ route gasPrice preflight prepared, before = preflight ++ prepared ∧
        ⟨.ask (.selectBestRoute request.opportunityId), .ok (.selected route)⟩ ∈ preflight ∧
        (∃ ref, ⟨.memory (.takeFrom ref), .ok overrides.nonce⟩ ∈ preflight) ∧
        gasPrices preflight = [gasPrice] ∧ quotes preflight = [] ∧
        Prepared config request route gasPrice overrides.nonce prepared transaction overrides) := by
  rcases Async.runs_bind.mp run with
    ⟨error, failed, _⟩ | ⟨⟨selection, gasPrice, nonce⟩, preflight, later, rfl, ran, rest⟩
  · exact Or.inl (silent_of_precedes runPreflight_precedes failed)
  have quiet : Silent preflight := silent_of_precedes runPreflight_precedes ran
  cases selection with
  | rejected => exact Or.inl (silent_append.mpr ⟨quiet, release_silent rest⟩)
  | selected route =>
    obtain ⟨reservation, reserved, rfl⟩ := runPreflight_ran ran
    obtain ⟨reservedPrice, reservedQuote⟩ := unpriced_of_prepares reserve_prepares reserved
    obtain ⟨ref, taken⟩ := reserve_ran reserved
    refine (prepareAndSubmit_ran rest).after quiet ?_
    intro prepared transaction overrides passed
    refine ⟨route, gasPrice, _, prepared, rfl, by simp, ⟨ref, ?_⟩, ?_, ?_, passed.own ▸ passed⟩
    · rw [passed.own]
      exact List.mem_append_left _ taken
    · rw [gasPrices_append, reservedPrice]
      rfl
    · rw [quotes_append, reservedQuote]
      rfl

/-- A run of `execute` submits nothing, or it submits a transaction after every
gate. -/
theorem execute_ran (run : Async.Runs (execute config request) events result) :
    HandsOver config request events result (fun before transaction overrides =>
      Admitted config request before transaction overrides ∧
        ∃ gasPrice, Priced config before overrides gasPrice) := by
  unfold execute at run
  split at run
  next => exact Or.inl (by simp [(Async.runs_throw.mp run).1, Silent])
  next =>
    have uses : ((memory (.executionBreaker request.chain)).bind Async.orThrow).Uses
        (Prepares request) :=
      (prepares_memory _).bind (fun answer => Async.uses_orThrow answer)
    rcases Async.runs_bind.mp run with ⟨error, failed, _⟩ | ⟨status, checked, later, rfl, ran, run⟩
    · exact Or.inl (silent_of_precedes (Prepares.precedes uses) failed)
    have quiet : Silent checked := silent_of_precedes (Prepares.precedes uses) ran
    obtain ⟨checkedPrice, checkedQuote⟩ := unpriced_of_prepares uses ran
    have answered : ⟨.memory (.executionBreaker request.chain), .ok status⟩ ∈ checked := by
      obtain ⟨answer, asked, none, rfl, called, given⟩ := Async.runs_bind_ok.mp ran
      obtain ⟨rfl, rfl⟩ := Async.runs_orThrow.mp given
      simp [runs_memory.mp called]
    split at run
    next =>
      obtain ⟨rfl, _⟩ := Async.runs_pure.mp run
      exact Or.inl (by simpa using quiet)
    next closed =>
      refine (preflightAndSubmit_ran run).after quiet ?_
      rintro _ transaction overrides
        ⟨route, gasPrice, preflight, prepared, rfl, selected, ⟨ref, taken⟩, asked, unquoted, passed⟩
      refine ⟨?_, gasPrice, ?_⟩
      · exact
          { breaker := ⟨status, by simp [answered], closed⟩
            route := by
              refine ⟨route, by simp [selected], by simp [passed.built], passed.provider, ?_⟩
              intro builds
              obtain ⟨previewTx, there, viewed⟩ := passed.previewed builds
              exact ⟨previewTx, by simp [there], by simp [viewed]⟩
            simulated := by simp [passed.simulated]
            accepted := fun present => by simp [passed.accepted present]
            live := passed.live
            reserved := ⟨ref, by simp [taken]⟩ }
      · exact
          { asked := by simp [checkedPrice, asked, passed.unpriced]
            quoted := fun present => by
              obtain ⟨maxFeePerGas, quoted, capped⟩ := passed.quoted present
              exact ⟨maxFeePerGas, by simp [checkedQuote, unquoted, quoted], capped⟩ }

/-- A run reserves one nonce, and every send carries it. -/
theorem reserved_unique (run : Async.Runs (execute config request) events result)
    {event : ExecutorEvent} {nonce sent : Nat} (member : event ∈ events)
    (reserved : reservedNonce event = some nonce)
    (sends : ∃ event ∈ events, sentNonce event = some sent) : nonce = sent := by
  obtain ⟨phase, replayed, _⟩ := (execute_conforms config request).replay run
  have records := records_replay events replayed
  have own := (records.reserved nonce).mp ⟨event, member, reserved⟩
  have handed := (records.sent sent).mp sends
  cases phase with
  | sending => exact (Option.some.inj own).symm.trans (Option.some.inj handed)
  | resynced => exact (Option.some.inj own).symm.trans (Option.some.inj handed)
  | _ => cases handed

end Runs

/-- A send in a run of `execute` comes after every gate: the breaker was not open,
the selected route is the transaction's, the preview and this very transaction
simulated with the gas limit and the nonce of the send, the last hook let it pass
and it is no dry run. The nonce is the reserved one. -/
theorem send_gated (config : SafeTransactionExecutorConfig) (request : SafeExecutionRequest)
    (events : List ExecutorEvent) (result : Except Thrown SafeExecutionResult)
    (run : Async.Runs (execute config request) events result)
    (before after : List ExecutorEvent) (route : SubmissionRoute) (passed : SafeExecutionRequest)
    (transaction : TransactionEnvelope) (overrides : TransactionOverrides)
    (answer : Except Thrown Hash)
    (split : events = before ++ ⟨.ask (.send route passed transaction overrides), answer⟩ :: after) :
    passed = request ∧
    (∃ simulated : TransactionOverrides, simulated.gas = overrides.gas ∧
      simulated.nonce = overrides.nonce ∧
      Admitted config request before transaction simulated) ∧
    ∀ event ∈ events, ∀ nonce, reservedNonce event = some nonce → nonce = overrides.nonce := by
  have sends : ∃ event ∈ events, sentNonce event = some overrides.nonce :=
    ⟨_, by rw [split]; exact List.mem_append_right _ (List.mem_cons_self ..), rfl⟩
  have unique : ∀ event ∈ events, ∀ nonce, reservedNonce event = some nonce →
      nonce = overrides.nonce :=
    fun event member nonce reserved => reserved_unique run member reserved sends
  rcases execute_ran run with
    silent | ⟨earlier, submission, built, simulated, rfl, silent, ⟨admitted, _⟩, submitted⟩
  · have quiet := silent ⟨.ask (.send route passed transaction overrides), answer⟩
      (by rw [split]; simp)
    cases quiet
  · have delivering := submitWithReplacement_delivers.of_run submitted
    -- the send is one of the submission, whatever stands before it
    obtain ⟨middle, rfl, submission_eq⟩ : ∃ middle, before = earlier ++ middle ∧
        submission =
          middle ++ ⟨.ask (.send route passed transaction overrides), answer⟩ :: after := by
      rcases List.append_eq_append_iff.mp split with
        ⟨middle, rfl, same⟩ | ⟨middle, rfl, same⟩
      · exact ⟨middle, rfl, same⟩
      · cases middle with
        | nil => exact ⟨[], by simp, by simpa using same.symm⟩
        | cons event middle =>
          obtain ⟨rfl, rfl⟩ := List.cons.inj same
          cases silent _ (List.mem_append_right _ (List.mem_cons_self ..))
    obtain ⟨_, concerned, rfl, gas, nonce⟩ := delivering
      ⟨.ask (.send route passed transaction overrides), answer⟩ (by simp [submission_eq])
    have same : passed = request := (concerns_iff _ _).mp concerned passed rfl
    refine ⟨same, ⟨simulated, gas.symm, nonce.symm, ?_⟩, unique⟩
    exact admitted.mono (fun event member => List.mem_append_left _ member)

/-- A private submission with a preview, a quote and the last hook; it falls back
to the public client. -/
def gatedConfig : SafeTransactionExecutorConfig :=
  { plainConfig false with
    bundleRouter := true
    privateFirstChains := [.base]
    allowPublicFallbackAfterBundleFailure := true
    rejectBeforePreview := true
    rejectBeforeBroadcast := true
    quoteExecutionGasCap := true }

def gatedRequest : SafeExecutionRequest := { plainRequest with buildsFlashLoanPreview := true }

/-- Its calls where the bundle router fails and all else goes well. -/
def gatedRun : List ExecutorEvent :=
  (execute gatedConfig gatedRequest).trace (NonceWorld.failing (fun op => match op with
    | .send .private_bundle _ _ _ => true
    | _ => false)).answer

/-- The public send at the end of that run has passed every gate. -/
theorem gated_fallback : ∃ simulated : TransactionOverrides, simulated.gas = 500000 ∧
    simulated.nonce = 0 ∧
    Admitted gatedConfig gatedRequest (gatedRun.take 16) ⟨⟨7, 0⟩, [], .aaveV3, none⟩ simulated :=
  (send_gated gatedConfig gatedRequest gatedRun _ (Async.runs_trace _ _) (gatedRun.take 16)
    (gatedRun.drop 17) .public_rpc gatedRequest ⟨⟨7, 0⟩, [], .aaveV3, none⟩ ⟨500000, 10, 0⟩ (.ok 1)
    rfl).2.1

end SafeTransactionExecutor

end LiquidationBot
