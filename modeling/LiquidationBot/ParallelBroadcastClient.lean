import LiquidationBot.ReplacementPrices
import Mathlib.Data.List.Infix

/-!
# Broadcasting in parallel

The public client of the executor may stand for several endpoints. It sends a
transaction to all of them and answers with the first hash; where every endpoint
rejects, the exception is an `AggregateError`, which has a message of its own.

The executor tells an underpriced transaction from other failures by the message of
the exception. Over several endpoints that message never says so.

The executor's program does not change: a public send is answered by the outcomes of
all endpoints, and the answer that the executor sees is read off these.
-/

namespace LiquidationBot

/-- `isUnderpricedError`, of a message. -/
def isUnderpricedError (message : String) : Bool :=
  decide ("underpriced".toList <:+: message.toList.map Char.toLower)

/-- An exception with a message, as the executor tells it from others. -/
def Thrown.ofMessage (message : String) : Thrown := ⟨isUnderpricedError message⟩

/-- What the endpoints make of one transaction, in the order in which they settle. -/
structure Broadcast where
  settled : List (Except String Hash)
  nonempty : settled ≠ []

namespace Broadcast

def accepts : Except String Hash → Bool
  | .ok _ => true
  | .error _ => false

def rejectsUnderpriced : Except String Hash → Bool
  | .ok _ => false
  | .error message => isUnderpricedError message

/-- Every endpoint rejects the transaction as underpriced. -/
def allUnderpriced (broadcast : Broadcast) : Bool := broadcast.settled.all rejectsUnderpriced

end Broadcast

namespace ParallelBroadcastClient

/-- `Promise.any` of promises in the order in which they settle. -/
def any : List (Except String Hash) → Except String Hash
  | [] => .error "All promises were rejected"
  | .ok hash :: _ => .ok hash
  | .error _ :: rest => any rest

/-- `send`. -/
def send (broadcast : Broadcast) : Except Thrown Hash :=
  (any broadcast.settled).mapError Thrown.ofMessage

end ParallelBroadcastClient

/-- A client that is transparent: it answers a hash that some endpoint has accepted
if any accepts, and else an exception that is underpriced where every endpoint says
so. -/
structure Transparent (client : Broadcast → Except Thrown Hash) : Prop where
  accepted : ∀ broadcast hash, client broadcast = .ok hash → .ok hash ∈ broadcast.settled
  rejected : ∀ broadcast error, client broadcast = .error error →
    broadcast.settled.any Broadcast.accepts = false ∧
      error.underpriced = broadcast.allUnderpriced

/-- What a collaborator answers where the public client is several endpoints. -/
@[reducible] def Collaborator.Raw : Collaborator → Type
  | .send .public_rpc _ _ _ => Broadcast
  | op => Except Thrown op.Result

@[reducible] def ExecutorOp.Raw : ExecutorOp → Type
  | .memory op => op.Answer
  | .ask op => op.Raw

/-- A call of the executor with what answers it. -/
abbrev RawEvent := Async.Event ExecutorOp ExecutorOp.Raw

namespace SafeTransactionExecutor

/-- The answer that a collaborator gives through a client of the endpoints. -/
def askThrough (client : Broadcast → Except Thrown Hash) :
    (op : Collaborator) → op.Raw → Except Thrown op.Result
  | .send .public_rpc _ _ _, broadcast => client broadcast
  | .send .private_bundle _ _ _, answer => answer
  | .getPendingNonce _, answer => answer
  | .selectBestRoute _, answer => answer
  | .getGasPrice _, answer => answer
  | .buildTransaction _, answer => answer
  | .estimateGas _, answer => answer
  | .quoteExecutionGasCap _ _, answer => answer
  | .rejectBeforePreview _, answer => answer
  | .buildFlashLoanPreviewTransaction _, answer => answer
  | .simulateContract _ _, answer => answer
  | .rejectBeforeBroadcast _, answer => answer
  | .assess _ _, answer => answer
  | .waitForReceipt _, answer => answer

/-- The answers that the executor sees through a client of the endpoints. -/
def through (client : Broadcast → Except Thrown Hash) : (op : ExecutorOp) → op.Raw → op.Answer
  | .memory _, answer => answer
  | .ask op, answer => askThrough client op answer


/-- The first broadcast of an execution, unless a bundle or a replacement is sent
before it. A private submission that is taken over leads to it. -/
def firstBroadcast (config : SafeTransactionExecutorConfig) : List RawEvent → Option Broadcast
  | [] => none
  | ⟨.ask (.send .public_rpc _ _ _), broadcast⟩ :: _ => some broadcast
  | ⟨.ask (.send .private_bundle _ _ _), answer⟩ :: rest =>
    if fallsBack config .private_bundle answer then firstBroadcast config rest else none
  | _ :: rest => firstBroadcast config rest

/-- The first transmission of an execution comes to the endpoints, and all reject it as
underpriced. -/
def RefusedByAll (config : SafeTransactionExecutorConfig) (calls : List RawEvent) : Prop :=
  ∃ broadcast, firstBroadcast config calls = some broadcast ∧ broadcast.allUnderpriced = true

/-- What an execution does with the outcomes of the endpoints is what the executor
does over a transparent client. -/
def ActsTransparently (config : SafeTransactionExecutorConfig) (request : SafeExecutionRequest)
    (calls : List RawEvent) (result : Except Thrown SafeExecutionResult) : Prop :=
  ∃ client, Transparent client ∧ Async.Runs ((execute config request).reading (through client))
    calls result

/-! ## One transmission -/

/-- What a transmission ends with: the bundle router's answer, or a broadcast. -/
inductive Transmitted where
  | answered (answer : Except Thrown Hash)
  | settled (broadcast : Broadcast)

/-- The result of a transmission through a client of the endpoints. -/
def Transmitted.outcome (client : Broadcast → Except Thrown Hash) :
    Transmitted → Except Thrown Hash
  | .answered answer => answer
  | .settled broadcast => client broadcast

section

variable {config : SafeTransactionExecutorConfig} {request : SafeExecutionRequest}
  {transaction : TransactionEnvelope} {overrides : TransactionOverrides}
  {client other : Broadcast → Except Thrown Hash}

/-- The public send, its outcomes unread. -/
def transmitPublic (request : SafeExecutionRequest) (transaction : TransactionEnvelope)
    (overrides : TransactionOverrides) : Async ExecutorOp ExecutorOp.Raw Thrown Transmitted :=
  .call (.ask (.send .public_rpc request transaction overrides)) (fun broadcast =>
    .pure (.settled broadcast))

def transmitPrivate (config : SafeTransactionExecutorConfig) (request : SafeExecutionRequest)
    (transaction : TransactionEnvelope) (overrides : TransactionOverrides) :
    Async ExecutorOp ExecutorOp.Raw Thrown Transmitted :=
  .call (.ask (.send .private_bundle request transaction overrides)) (fun answer =>
    if fallsBack config .private_bundle answer then transmitPublic request transaction overrides
    else .pure (.answered answer))

/-- `sendTransaction` up to its last answer. The assessment asks no endpoint, so that it
may be read through any client. -/
def transmit (config : SafeTransactionExecutorConfig) (request : SafeExecutionRequest)
    (transaction : TransactionEnvelope) (overrides : TransactionOverrides) :
    Async ExecutorOp ExecutorOp.Raw Thrown Transmitted :=
  if config.bundleRouter && config.privateFirstChains.contains request.chain then
    transmitPrivate config request transaction overrides
  else
    ((assessCompetitorRisk config request overrides).reading
        (through ParallelBroadcastClient.send)).bind (fun risk =>
      if config.bundleRouter &&
          risk.any (fun riskBps => decide (riskBps ≥ config.privateBundleRiskThresholdBps)) then
        transmitPrivate config request transaction overrides
      else transmitPublic request transaction overrides)

/-- The call goes to the endpoints. -/
def broadcasts : ExecutorOp → Bool
  | .ask (.send .public_rpc _ _ _) => true
  | _ => false

theorem through_eq {op : ExecutorOp} (elsewhere : broadcasts op = false) :
    through client op = through other op := by
  cases op with
  | memory op => rfl
  | ask op =>
    cases op with
    | send route =>
      cases route with
      | public_rpc => cases elsewhere
      | private_bundle => rfl
    | _ => rfl

theorem broadcasts_of_submits {op : ExecutorOp} (silent : submits op = false) :
    broadcasts op = false := by
  cases op with
  | memory op => rfl
  | ask op =>
    cases op with
    | send => cases silent
    | _ => rfl

/-- A part that sends nothing does not see the client. -/
theorem reading_of_precedes {α : Type} {program : ExecutorM α}
    (uses : program.Uses (Precedes request)) :
    program.reading (through client) = program.reading (through other) :=
  uses.reading_eq (fun _ preceding => through_eq (broadcasts_of_submits preceding.1))

theorem assessCompetitorRisk_silent :
    (assessCompetitorRisk config request overrides).Uses (Precedes request) := by
  unfold assessCompetitorRisk
  split
  · trivial
  · refine ⟨⟨rfl, concerns_passed rfl⟩, ?_⟩
    rintro (error | riskBps)
    · trivial
    · trivial

theorem transmitPublic_reading :
    (ask (.send .public_rpc request transaction overrides)).reading (through client) =
      (transmitPublic request transaction overrides).bind
        (fun last => Async.orThrow (last.outcome client)) := by
  simp only [ask, Async.reading_call, Async.reading_orThrow]
  rfl

theorem sendPrivate_reading :
    (sendPrivate config request transaction overrides).reading (through client) =
      (transmitPrivate config request transaction overrides).bind
        (fun last => Async.orThrow (last.outcome client)) := by
  simp only [sendPrivate, ask, Async.reading_handle, Async.reading_call, Async.reading_orThrow,
    transmitPrivate, Async.call_bind, Async.handle]
  congr 1
  funext answer
  cases answer with
  | ok hash => simp [fallsBack, threw, through, askThrough, Async.orThrow, Async.handle,
      Transmitted.outcome]
  | error error =>
    by_cases allowed : config.allowPublicFallbackAfterBundleFailure = true
    · have taken : fallsBack config .private_bundle (.error error) = true := by
        simp [fallsBack, threw, allowed]
      rw [if_pos taken, ← transmitPublic_reading]
      exact congrArg (Async.reading (through client)) (if_pos allowed)
    · simp [fallsBack, threw, allowed, through, askThrough, Async.orThrow, Async.handle,
        Transmitted.outcome]

/-- A transmission asks the same whatever the client makes of the outcomes, which only
its result shows. -/
theorem sendTransaction_reading :
    (sendTransaction config request transaction overrides).reading (through client) =
      (transmit config request transaction overrides).bind
        (fun last => Async.orThrow (last.outcome client)) := by
  unfold sendTransaction transmit
  split
  · exact sendPrivate_reading
  · have blind : (assessCompetitorRisk config request overrides).reading (through client) =
        (assessCompetitorRisk config request overrides).reading
          (through ParallelBroadcastClient.send) := reading_of_precedes assessCompetitorRisk_silent
    rw [Async.bind_eq, Async.reading_bind, Async.bind_assoc, blind]
    congr 1
    funext risk
    split
    · exact sendPrivate_reading
    · exact transmitPublic_reading

/-- A transmission ends with an answer: its exceptions are answers too. -/
theorem transmit_neverThrows :
    (transmit config request transaction overrides).NeverThrows := by
  have publicly : (transmitPublic request transaction overrides).NeverThrows := fun _ => trivial
  have privately : (transmitPrivate config request transaction overrides).NeverThrows := by
    intro answer
    dsimp only
    split
    · exact publicly
    · trivial
  have assessed : ((assessCompetitorRisk config request overrides).reading
      (through ParallelBroadcastClient.send)).NeverThrows := by
    unfold assessCompetitorRisk
    split
    · trivial
    · rintro (error | riskBps)
      · trivial
      · trivial
  unfold transmit
  split
  · exact privately
  · refine assessed.bind (fun risk => ?_)
    split
    · exact privately
    · exact publicly

/-- What a failed transmission is followed by. -/
def giveUp (request : SafeExecutionRequest) : ExecutorM (Option Hash) :=
  (resyncNonce request).bind (fun _ => .pure none)

/-- A run of a transmission with a handler is one of `transmit`, after which the answer
through the client decides. -/
theorem runs_sendOr {handler : Thrown → ExecutorM (Option Hash)} {calls : List RawEvent}
    {outcome : Except Thrown (Option Hash)} :
    Async.Runs ((((sendTransaction config request transaction overrides).bind
        (fun hash => .pure (some hash))).handle handler).reading (through client)) calls outcome ↔
      ∃ last sent rest, calls = sent ++ rest ∧
        Async.Runs (transmit config request transaction overrides) sent (.ok last) ∧
        ((∃ hash, last.outcome client = .ok hash ∧ rest = [] ∧ outcome = .ok (some hash)) ∨
          ∃ error, last.outcome client = .error error ∧
            Async.Runs ((handler error).reading (through client)) rest outcome) := by
  rw [Async.reading_handle, Async.reading_bind, sendTransaction_reading, Async.bind_assoc,
    transmit_neverThrows.bind_handle, transmit_neverThrows.runs_bind]
  refine exists_congr (fun last => exists_congr (fun sent => exists_congr (fun rest => ?_)))
  refine and_congr_right (fun _ => and_congr_right (fun _ => ?_))
  cases last.outcome client with
  | ok hash => simp [Async.orThrow, Async.handle, Async.runs_pure]
  | error error => simp [Async.orThrow, Async.handle]

/-! ## The first broadcast -/

theorem firstBroadcast_silent {earlier : List RawEvent} (later : List RawEvent)
    (silent : ∀ event ∈ earlier, submits event.1 = false) :
    firstBroadcast config (earlier ++ later) = firstBroadcast config later := by
  induction earlier with
  | nil => rfl
  | cons event rest inductionHypothesis =>
    obtain ⟨op, raw⟩ := event
    have quiet : submits op = false := silent _ List.mem_cons_self
    have skipped := inductionHypothesis (fun event member =>
      silent event (List.mem_cons_of_mem _ member))
    cases op with
    | memory op => exact skipped
    | ask op =>
      cases op with
      | send => cases quiet
      | _ => exact skipped

theorem silent_of_reading {α : Type} {program : ExecutorM α} {calls : List RawEvent}
    {ended : Except Thrown α} (uses : program.Uses (Precedes request))
    (run : Async.Runs (program.reading (through client)) calls ended) :
    ∀ event ∈ calls, submits event.1 = false :=
  fun event member => (uses.reading.of_run run event member).1

theorem firstBroadcast_transmitPublic {calls : List RawEvent} {last : Transmitted}
    (run : Async.Runs (transmitPublic request transaction overrides) calls (.ok last))
    (rest : List RawEvent) :
    ∃ broadcast, last = .settled broadcast ∧
      firstBroadcast config (calls ++ rest) = some broadcast := by
  obtain ⟨broadcast, following, rfl, done⟩ := Async.runs_call.mp run
  obtain ⟨_, same⟩ := Async.runs_pure.mp done
  cases same
  exact ⟨broadcast, rfl, rfl⟩

/-- The broadcast of a transmission, if it comes to one. -/
def Transmitted.broadcast? : Transmitted → Option Broadcast
  | .answered _ => none
  | .settled broadcast => some broadcast

theorem firstBroadcast_transmitPrivate {calls : List RawEvent} {last : Transmitted}
    (run : Async.Runs (transmitPrivate config request transaction overrides) calls (.ok last))
    (rest : List RawEvent) :
    firstBroadcast config (calls ++ rest) = last.broadcast? := by
  obtain ⟨answer, following, rfl, done⟩ := Async.runs_call.mp run
  by_cases taken : fallsBack config .private_bundle answer = true
  · rw [if_pos taken] at done
    obtain ⟨broadcast, rfl, first⟩ : ∃ broadcast, last = .settled broadcast ∧
        firstBroadcast config (following ++ rest) = some broadcast :=
      firstBroadcast_transmitPublic done rest
    rw [List.cons_append, firstBroadcast, if_pos taken, first]
    rfl
  · rw [if_neg taken] at done
    obtain ⟨rfl, same⟩ := Async.runs_pure.mp done
    cases same
    rw [List.cons_append, firstBroadcast, if_neg taken]
    rfl

theorem firstBroadcast_transmit {calls : List RawEvent} {last : Transmitted}
    (run : Async.Runs (transmit config request transaction overrides) calls (.ok last))
    (rest : List RawEvent) :
    firstBroadcast config (calls ++ rest) = last.broadcast? := by
  unfold transmit at run
  split at run
  · exact firstBroadcast_transmitPrivate run rest
  · obtain ⟨risk, assessed, sent, rfl, ran, run⟩ := Async.runs_bind_ok.mp run
    rw [List.append_assoc,
      firstBroadcast_silent _ (silent_of_reading assessCompetitorRisk_silent ran)]
    split at run
    · exact firstBroadcast_transmitPrivate run rest
    · obtain ⟨broadcast, rfl, first⟩ : ∃ broadcast, last = .settled broadcast ∧
          firstBroadcast config (sent ++ rest) = some broadcast :=
        firstBroadcast_transmitPublic run rest
      exact first

/-- A transmission begins with an assessment or with a send. -/
theorem transmit_head {calls : List RawEvent} {last : Transmitted}
    (run : Async.Runs (transmit config request transaction overrides) calls (.ok last)) :
    ∃ op raw rest, calls = ⟨.ask op, raw⟩ :: rest ∧ ∀ key, op ≠ .getPendingNonce key := by
  have publicly : ∀ {calls}, Async.Runs (transmitPublic request transaction overrides) calls
      (.ok last) → ∃ op raw rest, calls = ⟨.ask op, raw⟩ :: rest ∧
        ∀ key, op ≠ .getPendingNonce key := by
    intro calls run
    obtain ⟨broadcast, rest, rfl, _⟩ := Async.runs_call.mp run
    exact ⟨_, _, rest, rfl, fun key same => nomatch same⟩
  have privately : ∀ {calls}, Async.Runs (transmitPrivate config request transaction overrides)
      calls (.ok last) → ∃ op raw rest, calls = ⟨.ask op, raw⟩ :: rest ∧
        ∀ key, op ≠ .getPendingNonce key := by
    intro calls run
    obtain ⟨answer, rest, rfl, _⟩ := Async.runs_call.mp run
    exact ⟨_, _, rest, rfl, fun key same => nomatch same⟩
  unfold transmit at run
  split at run
  · exact privately run
  · obtain ⟨risk, assessed, sent, rfl, ran, following⟩ := Async.runs_bind_ok.mp run
    unfold assessCompetitorRisk at ran
    split at ran
    · obtain ⟨rfl, _⟩ := Async.runs_pure.mp ran
      split at following
      · exact privately following
      · exact publicly following
    · obtain ⟨answer, rest, rfl, _⟩ := Async.runs_call.mp ran
      exact ⟨_, _, rest ++ sent, rfl, fun key same => nomatch same⟩

/-! ## The clients compared -/

/-- The client that is transparent and picks the hash that the broadcaster picks. -/
def transparent (broadcast : Broadcast) : Except Thrown Hash :=
  match ParallelBroadcastClient.any broadcast.settled with
  | .ok hash => .ok hash
  | .error _ => .error ⟨broadcast.allUnderpriced⟩

theorem any_ok {settled : List (Except String Hash)} {hash : Hash}
    (won : ParallelBroadcastClient.any settled = .ok hash) : .ok hash ∈ settled := by
  induction settled with
  | nil => cases won
  | cons outcome rest inductionHypothesis =>
    cases outcome with
    | ok accepted =>
      cases won
      exact List.mem_cons_self
    | error message => exact List.mem_cons_of_mem _ (inductionHypothesis won)

/-- The exception of the broadcaster has the aggregate's message. -/
theorem any_error {settled : List (Except String Hash)} {message : String}
    (lost : ParallelBroadcastClient.any settled = .error message) :
    settled.any Broadcast.accepts = false ∧ message = "All promises were rejected" := by
  induction settled with
  | nil =>
    cases lost
    exact ⟨rfl, rfl⟩
  | cons outcome rest inductionHypothesis =>
    cases outcome with
    | ok accepted => cases lost
    | error own => exact inductionHypothesis lost

theorem transparent_transparent : Transparent transparent := by
  constructor
  · intro broadcast hash answered
    unfold transparent at answered
    split at answered
    next won =>
      cases answered
      exact any_ok won
    next => cases answered
  · intro broadcast error answered
    unfold transparent at answered
    split at answered
    next => cases answered
    next lost =>
      cases answered
      exact ⟨(any_error lost).1, rfl⟩

/-- The broadcaster and the transparent client accept alike and reject alike; only the
broadcaster's exceptions are never underpriced. -/
theorem send_cases (broadcast : Broadcast) :
    (∃ hash, ParallelBroadcastClient.send broadcast = .ok hash ∧
      transparent broadcast = .ok hash) ∨
    (ParallelBroadcastClient.send broadcast = .error ⟨false⟩ ∧
      transparent broadcast = .error ⟨broadcast.allUnderpriced⟩) := by
  unfold ParallelBroadcastClient.send transparent
  cases found : ParallelBroadcastClient.any broadcast.settled with
  | ok hash => exact Or.inl ⟨hash, rfl, rfl⟩
  | error message =>
    obtain ⟨_, rfl⟩ := any_error found
    have plain : Thrown.ofMessage "All promises were rejected" = ⟨false⟩ := by decide
    exact Or.inr ⟨congrArg Except.error plain, rfl⟩

/-- Where every endpoint rejects as underpriced, no endpoint accepts, so that a
transparent client throws an underpriced exception. -/
theorem throws_underpriced (honest : Transparent client) {broadcast : Broadcast}
    (all : broadcast.allUnderpriced = true) :
    ∃ error, client broadcast = .error error ∧ error.underpriced = true := by
  cases answered : client broadcast with
  | ok hash =>
    have accepted := honest.accepted broadcast hash answered
    exact absurd (List.all_eq_true.mp all _ accepted) (by simp [Broadcast.rejectsUnderpriced])
  | error error => exact ⟨error, rfl, (honest.rejected broadcast error answered).2.trans all⟩

theorem giveUp_precedes : (giveUp request).Uses (Precedes request) := by
  have read : (resyncNonce request).Uses (Prepares request) :=
    (prepares_ask (by exact ⟨rfl, rfl, rfl⟩)).bind (fun nextNonce => prepares_memory _)
  exact Prepares.precedes (read.bind (fun _ => trivial))

/-- A replacement that fails is given up whatever the exception says. -/
theorem sendReplacement_same {calls : List RawEvent} {outcome : Except Thrown (Option Hash)}
    (run : Async.Runs ((sendReplacement config request transaction overrides).reading
      (through ParallelBroadcastClient.send)) calls outcome) :
    Async.Runs ((sendReplacement config request transaction overrides).reading
      (through transparent)) calls outcome := by
  unfold sendReplacement at run ⊢
  obtain ⟨last, sent, rest, rfl, ran, ended⟩ := runs_sendOr.mp run
  refine runs_sendOr.mpr ⟨last, sent, rest, rfl, ran, ?_⟩
  have blind : (giveUp request).reading (through ParallelBroadcastClient.send) =
      (giveUp request).reading (through transparent) := reading_of_precedes giveUp_precedes
  cases last with
  | answered answer =>
    rcases ended with accepted | ⟨error, thrown, given⟩
    · exact Or.inl accepted
    · exact Or.inr ⟨error, thrown, blind ▸ given⟩
  | settled broadcast =>
    rcases send_cases broadcast with ⟨hash, sends, same⟩ | ⟨throws, same⟩
    · rcases ended with ⟨accepted, won, done⟩ | ⟨error, thrown, _⟩
      · exact Or.inl ⟨accepted, same.trans (sends.symm.trans won), done⟩
      · cases sends.symm.trans thrown
    · rcases ended with ⟨accepted, won, _⟩ | ⟨error, thrown, given⟩
      · cases throws.symm.trans won
      · exact Or.inr ⟨_, same, blind ▸ given⟩

/-- The executor over the broadcaster and over the transparent client, before a run in
which no endpoints have all refused the first transmission. -/
theorem sendOrReplaceUnderpriced_same {calls : List RawEvent}
    {outcome : Except Thrown (Option Hash)}
    (run : Async.Runs ((sendOrReplaceUnderpriced config request transaction overrides).reading
      (through ParallelBroadcastClient.send)) calls outcome)
    (later : List RawEvent) (kept : ¬ RefusedByAll config (calls ++ later)) :
    Async.Runs ((sendOrReplaceUnderpriced config request transaction overrides).reading
      (through transparent)) calls outcome := by
  unfold sendOrReplaceUnderpriced at run ⊢
  obtain ⟨last, sent, rest, rfl, ran, ended⟩ := runs_sendOr.mp run
  refine runs_sendOr.mpr ⟨last, sent, rest, rfl, ran, ?_⟩
  have blind : (giveUp request).reading (through ParallelBroadcastClient.send) =
      (giveUp request).reading (through transparent) := reading_of_precedes giveUp_precedes
  have follows : ∀ (error : Thrown) {rest : List RawEvent},
      Async.Runs ((if !error.underpriced then giveUp request
        else sendReplacement config request transaction
          { overrides with
            gasPrice := bumpGasPrice overrides.gasPrice config.replacementBumpBps }).reading
        (through ParallelBroadcastClient.send)) rest outcome →
      Async.Runs ((if !error.underpriced then giveUp request
        else sendReplacement config request transaction
          { overrides with
            gasPrice := bumpGasPrice overrides.gasPrice config.replacementBumpBps }).reading
        (through transparent)) rest outcome := by
    intro error rest handled
    split at handled
    next plain =>
      rw [if_pos plain]
      exact blind ▸ handled
    next underpriced =>
      rw [if_neg underpriced]
      exact sendReplacement_same handled
  cases last with
  | answered answer =>
    rcases ended with accepted | ⟨error, thrown, given⟩
    · exact Or.inl accepted
    · exact Or.inr ⟨error, thrown, follows error given⟩
  | settled broadcast =>
    have first := firstBroadcast_transmit ran (rest ++ later)
    rw [← List.append_assoc] at first
    rcases send_cases broadcast with ⟨hash, sends, same⟩ | ⟨throws, same⟩
    · rcases ended with ⟨accepted, won, done⟩ | ⟨error, thrown, _⟩
      · exact Or.inl ⟨accepted, same.trans (sends.symm.trans won), done⟩
      · cases sends.symm.trans thrown
    · have some : broadcast.allUnderpriced = false := by
        by_contra all
        exact kept ⟨broadcast, first, by simpa using all⟩
      rw [some] at same
      rcases ended with ⟨accepted, won, _⟩ | ⟨error, thrown, given⟩
      · cases throws.symm.trans won
      · cases throws.symm.trans thrown
        exact Or.inr ⟨_, same, follows _ given⟩

/-- Where every endpoint has refused the first transmission as underpriced, the executor
gives up, and over a transparent client it would go on to a replacement. -/
theorem sendOrReplaceUnderpriced_differs {calls tested later rest : List RawEvent}
    {outcome ended : Except Thrown (Option Hash)}
    (run : Async.Runs ((sendOrReplaceUnderpriced config request transaction overrides).reading
      (through ParallelBroadcastClient.send)) calls outcome)
    (refused : RefusedByAll config (calls ++ later)) (honest : Transparent client)
    (same : calls ++ later = tested ++ rest) :
    ¬ Async.Runs ((sendOrReplaceUnderpriced config request transaction overrides).reading
      (through client)) tested ended := by
  intro other
  unfold sendOrReplaceUnderpriced at run other
  obtain ⟨broadcast, first, all⟩ := refused
  obtain ⟨last, sent, given, rfl, ran, finished⟩ := runs_sendOr.mp run
  obtain ⟨again, repeated, replaced, rfl, rerun, refinished⟩ := runs_sendOr.mp other
  rw [List.append_assoc, firstBroadcast_transmit ran] at first
  rw [List.append_assoc, List.append_assoc] at same
  obtain ⟨rfl, unchanged, remaining⟩ := ran.unique rerun same
  cases unchanged
  cases last with
  | answered answer => cases first
  | settled sentTo =>
    cases first
    -- the broadcaster's exception is not underpriced, a transparent one is
    have lost : ParallelBroadcastClient.send broadcast = .error ⟨false⟩ := by
      rcases send_cases broadcast with ⟨hash, _, accepted⟩ | ⟨throws, _⟩
      · obtain ⟨error, thrown, _⟩ := throws_underpriced transparent_transparent all
        cases accepted.symm.trans thrown
      · exact throws
    obtain ⟨error, thrown, underpriced⟩ := throws_underpriced honest all
    rcases finished with ⟨hash, won, _⟩ | ⟨plain, failed, resyncs⟩
    · cases lost.symm.trans won
    rcases refinished with ⟨hash, won, _⟩ | ⟨raised, refailed, replaces⟩
    · cases thrown.symm.trans won
    cases lost.symm.trans failed
    cases thrown.symm.trans refailed
    -- so one asks for the nonce next, and the other sends
    obtain ⟨answer, tail, rfl, _⟩ := Async.runs_call.mp resyncs
    rw [if_neg (by simp [underpriced])] at replaces
    unfold sendReplacement at replaces
    obtain ⟨next, resent, left, rfl, transmitted, _⟩ := runs_sendOr.mp replaces
    obtain ⟨op, raw, following, rfl, distinct⟩ := transmit_head transmitted
    obtain ⟨head, _⟩ := List.cons.inj remaining
    have ops := congrArg Sigma.fst head
    exact distinct _ (ExecutorOp.ask.inj ops).symm

/-! ## The whole execution -/

/-- A part of an execution acts transparently exactly when its first transmission is not
refused by every endpoint. -/
def Judged (config : SafeTransactionExecutorConfig) {α : Type} (program : ExecutorM α) : Prop :=
  ∀ calls result, Async.Runs (program.reading (through ParallelBroadcastClient.send)) calls result →
    ((∃ client, Transparent client ∧ Async.Runs (program.reading (through client)) calls result) ↔
      ¬ RefusedByAll config calls)

theorem not_refused_of_silent {calls : List RawEvent}
    (silent : ∀ event ∈ calls, submits event.1 = false) : ¬ RefusedByAll config calls := by
  rintro ⟨broadcast, first, _⟩
  have skipped : firstBroadcast config (calls ++ []) = none := firstBroadcast_silent [] silent
  rw [List.append_nil, first] at skipped
  cases skipped

theorem judged_of_precedes {α : Type} {program : ExecutorM α}
    (uses : program.Uses (Precedes request)) : Judged config program := by
  intro calls result run
  refine iff_of_true ⟨transparent, transparent_transparent, ?_⟩ ?_
  · exact reading_of_precedes uses ▸ run
  · exact not_refused_of_silent (silent_of_reading uses run)

/-- What is asked before the first send leaves the judgement to the rest. -/
theorem Judged.after {α β : Type} {program : ExecutorM β} {rest : β → ExecutorM α}
    (uses : program.Uses (Precedes request)) (judged : ∀ value, Judged config (rest value)) :
    Judged config (program.bind rest) := by
  intro calls result run
  have blind : ∀ client, program.reading (through client) =
      program.reading (through ParallelBroadcastClient.send) := fun _ => reading_of_precedes uses
  simp only [Async.reading_bind, blind] at run ⊢
  rcases Async.runs_bind.mp run with ⟨error, failed, rfl⟩ | ⟨value, earlier, later, rfl, ran, run⟩
  · refine iff_of_true ⟨transparent, transparent_transparent, ?_⟩ ?_
    · exact Async.runs_bind.mpr (Or.inl ⟨error, failed, rfl⟩)
    · exact not_refused_of_silent (silent_of_reading uses failed)
  · have skipped : RefusedByAll config (earlier ++ later) ↔ RefusedByAll config later := by
      rw [RefusedByAll, firstBroadcast_silent later (silent_of_reading uses ran)]
      rfl
    rw [skipped, ← judged value later result run]
    constructor
    · rintro ⟨client, honest, other⟩
      rcases Async.runs_bind.mp other with ⟨error, failed, _⟩ | ⟨again, first, last, same, reran, rest⟩
      · have whole : earlier ++ later = (earlier ++ later) ++ [] := (List.append_nil _).symm
        cases (ran.unique failed whole).2.1
      · obtain ⟨rfl, unchanged, rfl⟩ := ran.unique reran same
        cases unchanged
        exact ⟨client, honest, rest⟩
    · rintro ⟨client, honest, rest⟩
      exact ⟨client, honest, Async.runs_bind.mpr (Or.inr ⟨value, earlier, later, rfl, ran, rest⟩)⟩

/-- What the executor does over the broadcaster it also does over the transparent
client. -/
def Survives {α : Type} (program : ExecutorM α) : Prop :=
  ∀ calls result, Async.Runs (program.reading (through ParallelBroadcastClient.send)) calls result →
    Async.Runs (program.reading (through transparent)) calls result

theorem survives_of_elsewhere {α : Type} {program : ExecutorM α}
    (uses : program.Uses (fun op => broadcasts op = false)) : Survives program := by
  intro calls result run
  rw [uses.reading_eq (fun _ elsewhere => through_eq elsewhere)]
  exact run

theorem Survives.bind {α β : Type} {program : ExecutorM β} {rest : β → ExecutorM α}
    (first : Survives program) (later : ∀ value, Survives (rest value)) :
    Survives (program.bind rest) := by
  intro calls result run
  rw [Async.reading_bind] at run ⊢
  rcases Async.runs_bind.mp run with ⟨error, failed, rfl⟩ | ⟨value, earlier, last, rfl, ran, follows⟩
  · exact Async.runs_bind.mpr (Or.inl ⟨error, first _ _ failed, rfl⟩)
  · exact Async.runs_bind.mpr
      (Or.inr ⟨value, earlier, last, rfl, first _ _ ran, later value _ _ follows⟩)

theorem survives_waitForReceipt (hash : Hash) : Survives (ask (.waitForReceipt hash)) :=
  survives_of_elsewhere ⟨rfl, fun answer => Async.uses_orThrow answer⟩

/-- What `submitWithReplacement` does with the hash of the first send. -/
def awaitInclusion (config : SafeTransactionExecutorConfig) (request : SafeExecutionRequest)
    (transaction : TransactionEnvelope) (overrides : TransactionOverrides) :
    Option Hash → ExecutorM SafeExecutionResult
  | none => pure (.failed .send_failed)
  | some firstHash => do
      match ← ask (.waitForReceipt firstHash) with
      | .included => pure (.sent firstHash)
      | .underpriced =>
          match ← sendReplacement config request transaction
              { overrides with
                gasPrice := bumpGasPrice overrides.gasPrice config.replacementBumpBps } with
          | none => pure (.failed .send_failed)
          | some replacementHash =>
              match ← ask (.waitForReceipt replacementHash) with
              | .included => pure (.sent replacementHash)
              | receipt => pure (toFailedReceipt receipt)
      | receipt => pure (toFailedReceipt receipt)

theorem submitWithReplacement_eq : submitWithReplacement config request transaction overrides =
    (sendOrReplaceUnderpriced config request transaction overrides).bind
      (awaitInclusion config request transaction overrides) := by
  rw [submitWithReplacement, Async.bind_eq]
  rfl

theorem awaitInclusion_survives (outcome : Option Hash) :
    Survives (awaitInclusion config request transaction overrides outcome) := by
  have ended : ∀ result : SafeExecutionResult, Survives (pure result : ExecutorM _) :=
    fun _ => survives_of_elsewhere trivial
  cases outcome with
  | none => exact ended _
  | some firstHash =>
    refine (survives_waitForReceipt firstHash).bind (fun receipt => ?_)
    cases receipt with
    | included => exact ended _
    | reorged => exact ended _
    | reverted => exact ended _
    | underpriced =>
      have replaced : Survives (sendReplacement config request transaction
          { overrides with
            gasPrice := bumpGasPrice overrides.gasPrice config.replacementBumpBps }) :=
        fun _ _ => sendReplacement_same
      refine replaced.bind (fun outcome => ?_)
      cases outcome with
      | none => exact ended _
      | some replacementHash =>
        refine (survives_waitForReceipt replacementHash).bind (fun receipt => ?_)
        cases receipt with
        | included => exact ended _
        | underpriced => exact ended _
        | reorged => exact ended _
        | reverted => exact ended _

/-- The submission: everything after the first transmission is the same through both
clients. -/
theorem submitWithReplacement_judged :
    Judged config (submitWithReplacement config request transaction overrides) := by
  intro calls result run
  simp only [submitWithReplacement_eq, Async.reading_bind] at run ⊢
  constructor
  · rintro ⟨client, honest, other⟩ refused
    obtain ⟨outcome, earlier, later, split, ran⟩ : ∃ outcome earlier later,
        calls = earlier ++ later ∧ Async.Runs ((sendOrReplaceUnderpriced config request transaction
          overrides).reading (through ParallelBroadcastClient.send)) earlier outcome := by
      rcases Async.runs_bind.mp run with ⟨error, failed, _⟩ | ⟨value, earlier, later, split, ran, _⟩
      · exact ⟨_, calls, [], (List.append_nil _).symm, failed⟩
      · exact ⟨_, earlier, later, split, ran⟩
    rw [split] at refused
    rcases Async.runs_bind.mp other with ⟨error, failed, _⟩ | ⟨value, tested, rest, same, ran', _⟩
    · have whole : earlier ++ later = calls ++ [] := split.symm.trans (List.append_nil _).symm
      exact sendOrReplaceUnderpriced_differs ran refused honest whole failed
    · exact sendOrReplaceUnderpriced_differs ran refused honest (split.symm.trans same) ran'
  · intro kept
    refine ⟨transparent, transparent_transparent, ?_⟩
    rcases Async.runs_bind.mp run with
      ⟨error, failed, rfl⟩ | ⟨outcome, earlier, later, rfl, ran, follows⟩
    · rw [← List.append_nil calls] at kept
      exact Async.runs_bind.mpr (Or.inl ⟨error, sendOrReplaceUnderpriced_same failed [] kept, rfl⟩)
    · exact Async.runs_bind.mpr (Or.inr ⟨outcome, earlier, later, rfl,
        sendOrReplaceUnderpriced_same ran later kept, awaitInclusion_survives outcome _ _ follows⟩)

theorem ended_judged (request : SafeExecutionRequest) (ended : SafeExecutionResult) :
    Judged config (pure ended : ExecutorM SafeExecutionResult) := by
  have silent : (pure ended : ExecutorM SafeExecutionResult).Uses (Precedes request) := trivial
  exact judged_of_precedes silent

theorem release_judged {nonce : Nat} {ended : SafeExecutionResult} :
    Judged config ((releaseNonce request nonce).bind (fun _ => .pure ended)) := by
  have released : ((releaseNonce request nonce).bind (fun _ => .pure ended)).Uses
      (Prepares request) := (prepares_memory _).bind (fun _ => trivial)
  exact judged_of_precedes (Prepares.precedes released)

/-- An awaited call that neither sends nor waits for a receipt. -/
theorem judged_after_ask {op : Collaborator} {α : Type} {rest : op.Result → ExecutorM α}
    (preceding : Precedes request (.ask op)) (judged : ∀ value, Judged config (rest value)) :
    Judged config ((ask op).bind rest) :=
  Judged.after (precedes_ask preceding) judged

theorem simulateAndSubmit_judged :
    Judged config (simulateAndSubmit config request transaction overrides) := by
  have simulating : Precedes request (.ask (.simulateContract transaction overrides)) := ⟨rfl, rfl⟩
  refine judged_after_ask simulating ?_
  rintro (_ | _)
  · dsimp only
    split
    · exact release_judged
    · refine Judged.after (Prepares.precedes broadcastRejectReason_prepares) ?_
      rintro (_ | reason)
      · exact submitWithReplacement_judged
      · exact release_judged
  · exact release_judged

theorem prepareAndSubmit_judged (route : SelectedRoute) (gasPrice nonce : Nat) :
    Judged config (prepareAndSubmit config request route gasPrice nonce) := by
  have building : Precedes request (.ask (.buildTransaction route)) := ⟨rfl, rfl⟩
  refine judged_after_ask building ?_
  intro transaction
  split
  · exact release_judged
  · refine Judged.after (Prepares.precedes (getGasLimit_prepares transaction)) (fun gas => ?_)
    refine Judged.after (@quoteOverrides_precedes request config route gas gasPrice nonce) ?_
    intro overrides
    refine Judged.after (Prepares.precedes (runPreview_prepares route overrides)) ?_
    rintro (_ | result)
    · exact simulateAndSubmit_judged
    · exact ended_judged request _

theorem execute_judged : Judged config (execute config request) := by
  unfold execute
  split
  · have thrown : (.throw ⟨false⟩ : ExecutorM SafeExecutionResult).Uses (Precedes request) := trivial
    exact judged_of_precedes thrown
  · have breaker : ((memory (.executionBreaker request.chain)).bind Async.orThrow).Uses
        (Precedes request) :=
      Prepares.precedes ((prepares_memory _).bind (fun answer => Async.uses_orThrow answer))
    refine Judged.after breaker (fun status => ?_)
    split
    · exact ended_judged request _
    · refine Judged.after runPreflight_precedes ?_
      rintro ⟨selection, gasPrice, nonce⟩
      cases selection with
      | rejected => exact release_judged
      | selected route => exact prepareAndSubmit_judged route gasPrice nonce

end

/-- What the executor does over a transparent client: with a hash that some endpoint has
accepted it goes on, where every endpoint says underpriced it sends the bumped
replacement, and otherwise it gives up. -/
theorem sendOrReplaceUnderpriced_through {config : SafeTransactionExecutorConfig}
    {request : SafeExecutionRequest} {transaction : TransactionEnvelope}
    {overrides : TransactionOverrides} {client : Broadcast → Except Thrown Hash}
    (honest : Transparent client) {calls : List RawEvent} {outcome : Except Thrown (Option Hash)}
    (run : Async.Runs ((sendOrReplaceUnderpriced config request transaction overrides).reading
      (through client)) calls outcome) :
    ∃ last sent rest, calls = sent ++ rest ∧
      Async.Runs (transmit config request transaction overrides) sent (.ok last) ∧
      ∀ broadcast, last = .settled broadcast →
        (∃ hash, .ok hash ∈ broadcast.settled ∧ rest = [] ∧ outcome = .ok (some hash)) ∨
        broadcast.settled.any Broadcast.accepts = false ∧
          (broadcast.allUnderpriced = true ∧
            Async.Runs ((sendReplacement config request transaction
              { overrides with
                gasPrice := bumpGasPrice overrides.gasPrice config.replacementBumpBps }).reading
              (through client)) rest outcome ∨
          broadcast.allUnderpriced = false ∧
            Async.Runs ((giveUp request).reading (through client)) rest outcome) := by
  unfold sendOrReplaceUnderpriced at run
  obtain ⟨last, sent, rest, rfl, ran, ended⟩ := runs_sendOr.mp run
  refine ⟨last, sent, rest, rfl, ran, ?_⟩
  rintro broadcast rfl
  rcases ended with ⟨hash, won, done, same⟩ | ⟨error, thrown, given⟩
  · exact Or.inl ⟨hash, honest.accepted broadcast hash won, done, same⟩
  · obtain ⟨none, told⟩ := honest.rejected broadcast error thrown
    rw [told] at given
    refine Or.inr ⟨none, ?_⟩
    cases all : broadcast.allUnderpriced with
    | true =>
      rw [all] at given
      exact Or.inl ⟨rfl, given⟩
    | false =>
      rw [all] at given
      exact Or.inr ⟨rfl, given⟩

/-- Endpoints that all behave alike are to a transparent client what one of them alone
is. -/
theorem transparent_alike {client : Broadcast → Except Thrown Hash} (honest : Transparent client)
    {broadcast : Broadcast} {outcome : Except String Hash}
    (alike : ∀ each ∈ broadcast.settled, each = outcome) :
    client broadcast = outcome.mapError Thrown.ofMessage := by
  obtain ⟨first, member⟩ := List.exists_mem_of_ne_nil _ broadcast.nonempty
  have listed : outcome ∈ broadcast.settled := alike first member ▸ member
  cases answered : client broadcast with
  | ok hash =>
    have same := alike _ (honest.accepted broadcast hash answered)
    rw [← same]
    rfl
  | error error =>
    obtain ⟨none, underpriced⟩ := honest.rejected broadcast error answered
    cases outcome with
    | ok hash =>
      have rejects := List.any_eq_false.mp none _ listed
      exact absurd rfl rejects
    | error message =>
      have judged : broadcast.allUnderpriced = isUnderpricedError message := by
        rw [Broadcast.allUnderpriced, Bool.eq_iff_iff, List.all_eq_true]
        constructor
        · exact fun all => all _ listed
        · intro said each member
          rw [alike each member]
          exact said
      exact congrArg (fun said => Except.error (Thrown.mk said)) (underpriced.trans judged)

/-- An execution over endpoints acts transparently, in every run, exactly when its first
transmission is not refused as underpriced by every endpoint. -/
theorem actsTransparently_iff (config : SafeTransactionExecutorConfig)
    (request : SafeExecutionRequest) (calls : List RawEvent)
    (result : Except Thrown SafeExecutionResult)
    (run : Async.Runs ((execute config request).reading (through ParallelBroadcastClient.send))
      calls result) :
    ActsTransparently config request calls result ↔ ¬ RefusedByAll config calls :=
  execute_judged calls result run

/-- The collaborators of an executor whose public client is endpoints that settle so. -/
def overEndpoints (answer : (op : ExecutorOp) → op.Answer) (broadcast : Broadcast) :
    (op : ExecutorOp) → op.Raw
  | .memory op => answer (.memory op)
  | .ask (.send .public_rpc _ _ _) => broadcast
  | .ask (.send .private_bundle request transaction overrides) =>
    answer (.ask (.send .private_bundle request transaction overrides))
  | .ask (.getPendingNonce key) => answer (.ask (.getPendingNonce key))
  | .ask (.selectBestRoute opportunityId) => answer (.ask (.selectBestRoute opportunityId))
  | .ask (.getGasPrice chain) => answer (.ask (.getGasPrice chain))
  | .ask (.buildTransaction route) => answer (.ask (.buildTransaction route))
  | .ask (.estimateGas transaction) => answer (.ask (.estimateGas transaction))
  | .ask (.quoteExecutionGasCap profit gas) => answer (.ask (.quoteExecutionGasCap profit gas))
  | .ask (.rejectBeforePreview request) => answer (.ask (.rejectBeforePreview request))
  | .ask (.buildFlashLoanPreviewTransaction route) =>
    answer (.ask (.buildFlashLoanPreviewTransaction route))
  | .ask (.simulateContract transaction overrides) =>
    answer (.ask (.simulateContract transaction overrides))
  | .ask (.rejectBeforeBroadcast request) => answer (.ask (.rejectBeforeBroadcast request))
  | .ask (.assess request overrides) => answer (.ask (.assess request overrides))
  | .ask (.waitForReceipt hash) => answer (.ask (.waitForReceipt hash))

/-- The run of a plain request over endpoints that settle so. -/
def endpointRun (broadcast : Broadcast) : List RawEvent :=
  ((execute (plainConfig false) plainRequest).reading (through ParallelBroadcastClient.send)).trace
    (overEndpoints NonceWorld.willing.answer broadcast)

/-- The equivalence where the first endpoint refuses and the second accepts. -/
theorem actsTransparently_iff_accepted :
    ActsTransparently (plainConfig false) plainRequest
        (endpointRun ⟨[.error "nonce too low", .ok 1], List.cons_ne_nil _ _⟩) (.ok (.sent 1)) ↔
      ¬ RefusedByAll (plainConfig false)
        (endpointRun ⟨[.error "nonce too low", .ok 1], List.cons_ne_nil _ _⟩) :=
  actsTransparently_iff (plainConfig false) plainRequest _ _ (Async.runs_trace _ _)

/-- Two endpoints refuse a transaction as underpriced, and the execution gives up. -/
theorem refused_not_replaced :
    Async.Runs
      ((execute (plainConfig false) plainRequest).reading (through ParallelBroadcastClient.send))
      (endpointRun ⟨[.error "replacement transaction underpriced", .error "transaction underpriced"],
        List.cons_ne_nil _ _⟩) (.ok (.failed .send_failed)) ∧
    ¬ ActsTransparently (plainConfig false) plainRequest
      (endpointRun ⟨[.error "replacement transaction underpriced", .error "transaction underpriced"],
        List.cons_ne_nil _ _⟩) (.ok (.failed .send_failed)) := by
  have run : Async.Runs
      ((execute (plainConfig false) plainRequest).reading (through ParallelBroadcastClient.send))
      (endpointRun ⟨[.error "replacement transaction underpriced", .error "transaction underpriced"],
        List.cons_ne_nil _ _⟩) (.ok (.failed .send_failed)) := Async.runs_trace _ _
  refine ⟨run, fun acts => ?_⟩
  exact (execute_judged _ _ run).mp acts ⟨_, rfl, by decide⟩

end SafeTransactionExecutor

end LiquidationBot
