import LiquidationBot.BotCycle
import LiquidationBot.LiquidationEconomics
import LiquidationBot.Library.AsyncTurns
import LiquidationBot.Library.Prefixes

/-!
# The executor behind a cycle

The executor judges a candidate once more, on a gas estimate and a gas price of its own,
simulates the call and then sends it. A cycle of the bot calls it for each candidate that
passes, and the polling loop makes one cycle after the other.

However the network answers, no transaction is sent but the one that was simulated
immediately before, and none that is not profitable on the figures that were just read.
-/

namespace LiquidationBot

open Async

namespace Bot

/-- `TransactionOverrides`. -/
structure TransactionOverrides where
  gas : Int
  gasPrice : Int
  nonce : Nat
deriving DecidableEq

/-- `LiquidationCallParameters`. The contract and the function are always the same. -/
structure LiquidationCallParameters where
  address : Address
  account : Address
  overrides : Option TransactionOverrides
  collateralAsset : Address
  debtAsset : Address
  user : Address
  debtToCover : Nat
  receiveAToken : Bool
deriving DecidableEq

/-- `LiquidationExecutorConfig`, with the pool and the account of its actions. The gas estimate,
the gas price and the nonce have functions of their own or not. -/
structure LiquidationExecutorConfig where
  pool : Address
  account : Address
  minProfitUsd : ℚ := 0
  gasCostUsd : ℚ := 0
  slippageBps : ℚ := 0
  minProfitWei : Option Int
  simulationMode : Bool := true
  estimatesGas : Bool
  getsGasPrice : Bool
  getsNonce : Bool

/-- What a cycle and its executor call. -/
inductive CycleOp where
  | scanOnce
  | getLastScanStats
  | alert (event : LiquidationAlertEvent)
  | estimateGas (candidate : Candidate)
  | getGasPrice
  | getNonce
  | simulateContract (parameters : LiquidationCallParameters)
  | writeContract (parameters : LiquidationCallParameters)
deriving DecidableEq

/-- The calls of the executor refuse with a text. -/
@[reducible] def CycleOp.Answer : CycleOp → Type
  | .scanOnce => Except BotError (List Candidate)
  | .getLastScanStats => Nat
  | .alert _ => Except BotError Unit
  | .estimateGas _ => Except String Int
  | .getGasPrice => Except String Int
  | .getNonce => Except String Nat
  | .simulateContract _ => Except String Unit
  | .writeContract _ => Except String String

abbrev CycleM := Async CycleOp CycleOp.Answer BotError

abbrev CycleEvents := List (Event CycleOp CycleOp.Answer)

/-! ## The executor -/

/-- `toLiquidationCall`. -/
def toLiquidationCall (config : LiquidationExecutorConfig) (candidate : Candidate)
    (overrides : Option TransactionOverrides) : LiquidationCallParameters where
  address := config.pool
  account := config.account
  overrides := overrides
  collateralAsset := candidate.collateralAsset
  debtAsset := candidate.debtAsset
  user := candidate.account
  debtToCover := candidate.debtToCover
  receiveAToken := false

/-- What a callback refuses with is thrown. The bot only logs it. -/
def thrown {α : Type} (answer : Except String α) : CycleM α :=
  Async.orThrow (answer.mapError (fun _ => .outside))

def usesEthEv (config : LiquidationExecutorConfig) (candidate : Candidate) : Bool :=
  config.minProfitWei.isSome || candidate.collateralReceivedWei.isSome ||
    candidate.gasEstimate.isSome || candidate.gasPrice.isSome

def getGasEstimate (config : LiquidationExecutorConfig) (candidate : Candidate) : CycleM Int :=
  if config.estimatesGas then .call (.estimateGas candidate) thrown
  else
    match candidate.gasEstimate with
    | some gasEstimate => .pure gasEstimate
    | none => .throw .outside

def getGasPrice (config : LiquidationExecutorConfig) : CycleM Int :=
  if config.getsGasPrice then .call .getGasPrice thrown else .throw .outside

def getNonce (config : LiquidationExecutorConfig) : CycleM Nat :=
  if config.getsNonce then .call .getNonce thrown else .throw .outside

def addOptimismGasBuffer (gasEstimate : Int) : Int := (gasEstimate * 120).tdiv 100

/-- The expected value of a candidate on the figures of the executor. -/
def ethEv (config : LiquidationExecutorConfig) (candidate : Candidate)
    (gasEstimate gasPrice : Int) : Except BotError LiquidationEV :=
  calculateLiquidationEV candidate.debtToCover
    (candidate.collateralReceivedWei.getD candidate.debtToCover)
    (candidate.bonusPercentage.getD (some candidate.liquidationBonusBps)) gasEstimate gasPrice
    (config.minProfitWei.getD ArbitrageScanner.MIN_PROFIT_THRESHOLD_WEI)

/-- `executeWithEthEv`, once its figures are read. -/
def submit (config : LiquidationExecutorConfig) (candidate : Candidate)
    (gasEstimate gasPrice : Int) (nonce : Nat) : CycleM ExecutionResult := do
  let ev ← Async.orThrow (ethEv config candidate gasEstimate gasPrice)
  if !ev.isProfitable then return .skipped "below_min_profit"
  let parameters := toLiquidationCall config candidate
    (some ⟨addOptimismGasBuffer gasEstimate, gasPrice, nonce⟩)
  .call (.simulateContract parameters) thrown
  if config.simulationMode then return .simulated ev.profitWei
  let txHash ← .call (.writeContract parameters) thrown
  return .sent txHash (some ev.profitWei)

def executeWithEthEv (config : LiquidationExecutorConfig) (candidate : Candidate) :
    CycleM ExecutionResult := do
  let gasEstimate ← getGasEstimate config candidate
  let gasPrice ← getGasPrice config
  let nonce ← getNonce config
  submit config candidate gasEstimate gasPrice nonce

/-- `simulateAndSend`; the results carry no expected profit in wei. -/
def simulateAndSend (config : LiquidationExecutorConfig) (candidate : Candidate) :
    CycleM ExecutionResult :=
  let parameters := toLiquidationCall config candidate none
  .call (.simulateContract parameters) (fun answer =>
    match answer with
    | .error message => .pure (.failed message)
    | .ok () => .call (.writeContract parameters) (fun answer =>
        match answer with
        | .error message => .pure (.failed message)
        | .ok txHash => .pure (.sent txHash none)))

/-- The expected value in dollars. -/
def usdEv (config : LiquidationExecutorConfig) (candidate : Candidate) :
    Except BotError LiquidationEv :=
  (calculateLiquidationEv ⟨candidate.repayValueUsd, candidate.liquidationBonusBps,
    config.gasCostUsd, config.slippageBps, config.minProfitUsd⟩).mapError (fun _ => .outside)

def execute (config : LiquidationExecutorConfig) (candidate : Candidate) :
    CycleM ExecutionResult :=
  if usesEthEv config candidate then executeWithEthEv config candidate
  else do
    let ev ← Async.orThrow (usdEv config candidate)
    if !ev.isProfitable then return .skipped "below_min_profit"
    simulateAndSend config candidate

/-! ## The polling loop -/

/-- The calls of a cycle, with the executor behind `execute`. -/
def behind (config : LiquidationExecutorConfig) : (op : BotOp) → CycleM op.Answer
  | .scanOnce => .call .scanOnce .pure
  | .getLastScanStats => .call .getLastScanStats .pure
  | .execute candidate => (execute config candidate).attempt
  | .alert event => .call (.alert event) .pure

/-- `runPollingCycle`: what a cycle throws is logged. -/
def runPollingCycle (config : LiquidationExecutorConfig) (dependencies : BotDependencies) :
    CycleM (Except BotError BotCycleSummary) :=
  ((runOnce dependencies).expand (behind config)).attempt

/-- `runPollingLoop`, up to the cycle in which it is told to end: the outcomes of its cycles. -/
def runPollingLoop (config : LiquidationExecutorConfig) (dependencies : BotDependencies)
    (cycles : Nat) : CycleM (List (Except BotError BotCycleSummary)) :=
  collect (fun _ => runPollingCycle config dependencies) (fun _ outcome => [outcome]) []
    (List.range cycles)

/-! ## One execution -/

def isSend (event : Event CycleOp CycleOp.Answer) : Bool :=
  match event with
  | ⟨.writeContract _, _⟩ => true
  | _ => false

def isAcceptedSend (event : Event CycleOp CycleOp.Answer) : Bool :=
  match event with
  | ⟨.writeContract _, .ok _⟩ => true
  | _ => false

def isSent : Except BotError ExecutionResult → Bool
  | .ok (.sent _ _) => true
  | _ => false

def isSimulated : Except BotError ExecutionResult → Bool
  | .ok (.simulated _) => true
  | _ => false

/-- Nothing is sent. -/
def Quiet (events : CycleEvents) : Prop := ∀ event ∈ events, isSend event = false

/-- How the gas estimate comes about: it is read, or the candidate carries it. -/
def Estimated (config : LiquidationExecutorConfig) (candidate : Candidate) (gasEstimate : Int)
    (events : CycleEvents) : Prop :=
  (config.estimatesGas = true ∧ events = [⟨.estimateGas candidate, .ok gasEstimate⟩]) ∨
    (config.estimatesGas = false ∧ candidate.gasEstimate = some gasEstimate ∧ events = [])

/-- What leads to a simulation: the figures just read, on which the candidate is profitable. -/
inductive Approach (config : LiquidationExecutorConfig) (candidate : Candidate) :
    Option TransactionOverrides → CycleEvents → Prop where
  | eth (gasEstimate gasPrice : Int) (nonce : Nat) (ev : LiquidationEV) (estimate : CycleEvents)
      (uses : usesEthEv config candidate = true)
      (estimated : Estimated config candidate gasEstimate estimate)
      (judged : ethEv config candidate gasEstimate gasPrice = .ok ev)
      (profitable : ev.isProfitable = true) :
      Approach config candidate (some ⟨addOptimismGasBuffer gasEstimate, gasPrice, nonce⟩)
        (estimate ++ [⟨.getGasPrice, .ok gasPrice⟩, ⟨.getNonce, .ok nonce⟩])
  | usd (ev : LiquidationEv) (uses : usesEthEv config candidate = false)
      (judged : usdEv config candidate = .ok ev) (profitable : ev.isProfitable = true) :
      Approach config candidate none []

/-- A call is sent in the way of the executor: after its figures, and immediately after its
own simulation; with overrides not in simulation mode. -/
structure Vetting (config : LiquidationExecutorConfig) (parameters : LiquidationCallParameters)
    (past : CycleEvents) : Prop where
  approached : ∃ candidate overrides front figures,
    parameters = toLiquidationCall config candidate overrides ∧
    Approach config candidate overrides figures ∧
    past = front ++ figures ++ [⟨.simulateContract parameters, .ok ()⟩]
  live : parameters.overrides.isSome = true → config.simulationMode = false

section Execution

variable {config : LiquidationExecutorConfig} {candidate : Candidate} {events : CycleEvents}

theorem quiet_append {earlier later : CycleEvents} :
    Quiet (earlier ++ later) ↔ Quiet earlier ∧ Quiet later :=
  List.forall_mem_append

theorem Approach.quiet {overrides : Option TransactionOverrides}
    (approach : Approach config candidate overrides events) : Quiet events := by
  cases approach with
  | eth gasEstimate gasPrice nonce ev estimate uses estimated judged profitable =>
    rcases estimated with ⟨_, rfl⟩ | ⟨_, _, rfl⟩
    · simp [Quiet, isSend]
    · simp [Quiet, isSend]
  | usd => simp [Quiet]

theorem runs_getGasEstimate {result : Except BotError Int}
    (run : Runs (getGasEstimate config candidate) events result) :
    Quiet events ∧ ∀ gasEstimate, result = .ok gasEstimate →
      Estimated config candidate gasEstimate events := by
  rw [getGasEstimate] at run
  split at run
  next reads =>
    obtain ⟨answer, tail, rfl, resumed⟩ := runs_call.mp run
    obtain ⟨rfl, rfl⟩ := runs_orThrow.mp resumed
    refine ⟨by simp [Quiet, isSend], ?_⟩
    intro gasEstimate given
    cases answer with
    | ok read =>
      cases given
      exact Or.inl ⟨reads, rfl⟩
    | error message => cases given
  next reads =>
    split at run
    next carried =>
      obtain ⟨rfl, rfl⟩ := runs_pure.mp run
      refine ⟨by simp [Quiet], ?_⟩
      rintro gasEstimate ⟨⟩
      exact Or.inr ⟨Bool.eq_false_iff.mpr reads, carried, rfl⟩
    next =>
      obtain ⟨rfl, rfl⟩ := runs_throw.mp run
      exact ⟨by simp [Quiet], nofun⟩

theorem runs_getGasPrice {result : Except BotError Int}
    (run : Runs (getGasPrice config) events result) :
    Quiet events ∧ ∀ gasPrice, result = .ok gasPrice → events = [⟨.getGasPrice, .ok gasPrice⟩] := by
  rw [getGasPrice] at run
  split at run
  next =>
    obtain ⟨answer, tail, rfl, resumed⟩ := runs_call.mp run
    obtain ⟨rfl, rfl⟩ := runs_orThrow.mp resumed
    refine ⟨by simp [Quiet, isSend], ?_⟩
    intro gasPrice given
    cases answer with
    | ok read =>
      cases given
      rfl
    | error message => cases given
  next =>
    obtain ⟨rfl, rfl⟩ := runs_throw.mp run
    exact ⟨by simp [Quiet], nofun⟩

theorem runs_getNonce {result : Except BotError Nat}
    (run : Runs (getNonce config) events result) :
    Quiet events ∧ ∀ nonce, result = .ok nonce → events = [⟨.getNonce, .ok nonce⟩] := by
  rw [getNonce] at run
  split at run
  next =>
    obtain ⟨answer, tail, rfl, resumed⟩ := runs_call.mp run
    obtain ⟨rfl, rfl⟩ := runs_orThrow.mp resumed
    refine ⟨by simp [Quiet, isSend], ?_⟩
    intro nonce given
    cases answer with
    | ok read =>
      cases given
      rfl
    | error message => cases given
  next =>
    obtain ⟨rfl, rfl⟩ := runs_throw.mp run
    exact ⟨by simp [Quiet], nofun⟩

/-- What an execution comes to: it sends nothing, or it ends with a vetted send. -/
def Execution (config : LiquidationExecutorConfig) (candidate : Candidate) (events : CycleEvents)
    (result : Except BotError ExecutionResult) : Prop :=
  (Quiet events ∧ isSent result = false ∧
    (isSimulated result = true → config.simulationMode = true)) ∨
  ∃ overrides figures answer, Approach config candidate overrides figures ∧
    events = figures ++ [⟨.simulateContract (toLiquidationCall config candidate overrides), .ok ()⟩,
      ⟨.writeContract (toLiquidationCall config candidate overrides), answer⟩] ∧
    (overrides.isSome = true → config.simulationMode = false) ∧
    isSent result = answer.isOk ∧ isSimulated result = false

/-- A result that is neither sent nor simulated needs a quiet run only. -/
theorem Execution.unsent {result : Except BotError ExecutionResult} (quiet : Quiet events)
    (sent : isSent result = false) (simulated : isSimulated result = false) :
    Execution config candidate events result := by
  refine Or.inl ⟨quiet, sent, fun claimed => ?_⟩
  rw [simulated] at claimed
  cases claimed

/-- An exception before anything is sent. -/
theorem Execution.failed (quiet : Quiet events) (error : BotError) :
    Execution config candidate events (.error error) :=
  .unsent quiet rfl rfl

/-- A send without overrides, whatever the node answers. -/
theorem Execution.sent {result : Except BotError ExecutionResult} {figures : CycleEvents}
    {answer : Except String String} (approach : Approach config candidate none figures)
    (sent : isSent result = answer.isOk) (simulated : isSimulated result = false) :
    Execution config candidate (figures ++
      [⟨.simulateContract (toLiquidationCall config candidate none), .ok ()⟩,
        ⟨.writeContract (toLiquidationCall config candidate none), answer⟩]) result :=
  Or.inr ⟨none, figures, answer, approach, rfl, fun overridden => absurd overridden
    Bool.false_ne_true, sent, simulated⟩

/-- With its figures read, an execution sends nothing, or it sends what it has simulated. -/
theorem runs_submit {figures : CycleEvents} {gasEstimate gasPrice : Int} {nonce : Nat}
    {result : Except BotError ExecutionResult} (quiet : Quiet figures)
    (approach : ∀ ev, ethEv config candidate gasEstimate gasPrice = .ok ev →
      ev.isProfitable = true → Approach config candidate
        (some ⟨addOptimismGasBuffer gasEstimate, gasPrice, nonce⟩) figures)
    (run : Runs (submit config candidate gasEstimate gasPrice nonce) events result) :
    Execution config candidate (figures ++ events) result := by
  rw [submit] at run
  cases judged : ethEv config candidate gasEstimate gasPrice with
  | error error =>
    rw [judged] at run
    obtain ⟨rfl, rfl⟩ := runs_throw.mp run
    exact .failed (by rwa [List.append_nil]) error
  | ok ev =>
    rw [judged, orThrow, bind_eq, pure_bind] at run
    cases profitable : ev.isProfitable with
    | false =>
      rw [profitable] at run
      obtain ⟨rfl, rfl⟩ := runs_pure.mp run
      exact .unsent (by rwa [List.append_nil]) rfl rfl
    | true =>
      rw [profitable] at run
      obtain ⟨simulated, tail, rfl, simulating⟩ := runs_call.mp run
      cases simulated with
      | error message =>
        obtain ⟨rfl, rfl⟩ := runs_throw.mp simulating
        exact .failed (quiet_append.mpr ⟨quiet, by simp [Quiet, isSend]⟩) .outside
      | ok _ =>
        cases mode : config.simulationMode with
        | true =>
          simp only [thrown, mode] at simulating
          obtain ⟨rfl, rfl⟩ := runs_pure.mp simulating
          exact Or.inl ⟨quiet_append.mpr ⟨quiet, by simp [Quiet, isSend]⟩, rfl, fun _ => mode⟩
        | false =>
          simp only [thrown, mode] at simulating
          obtain ⟨answer, last, rfl, sending⟩ := runs_call.mp simulating
          cases answer with
          | error message =>
            obtain ⟨rfl, rfl⟩ := runs_throw.mp sending
            exact Or.inr ⟨_, _, _, approach ev judged profitable, rfl, fun _ => mode, rfl, rfl⟩
          | ok txHash =>
            obtain ⟨rfl, rfl⟩ := runs_pure.mp sending
            exact Or.inr ⟨_, _, _, approach ev judged profitable, rfl, fun _ => mode, rfl, rfl⟩

theorem runs_executeWithEthEv (uses : usesEthEv config candidate = true)
    {result : Except BotError ExecutionResult}
    (run : Runs (executeWithEthEv config candidate) events result) :
    Execution config candidate events result := by
  rw [executeWithEthEv, bind_eq] at run
  rcases runs_bind.mp run with
    ⟨error, early, rfl⟩ | ⟨gasEstimate, estimate, _, rfl, estimating, afterEstimate⟩
  · exact .failed (runs_getGasEstimate early).1 error
  obtain ⟨estimateQuiet, estimated⟩ := runs_getGasEstimate estimating
  rcases runs_bind.mp afterEstimate with
    ⟨error, early, rfl⟩ | ⟨gasPrice, _, _, rfl, pricing, afterPrice⟩
  · exact .failed (quiet_append.mpr ⟨estimateQuiet, (runs_getGasPrice early).1⟩) error
  obtain ⟨priceQuiet, priced⟩ := runs_getGasPrice pricing
  rcases runs_bind.mp afterPrice with
    ⟨error, early, rfl⟩ | ⟨nonce, _, rest, rfl, counting, afterNonce⟩
  · exact .failed (quiet_append.mpr ⟨estimateQuiet,
      quiet_append.mpr ⟨priceQuiet, (runs_getNonce early).1⟩⟩) error
  obtain ⟨nonceQuiet, counted⟩ := runs_getNonce counting
  rw [← List.append_assoc, ← List.append_assoc]
  refine runs_submit (quiet_append.mpr ⟨quiet_append.mpr ⟨estimateQuiet, priceQuiet⟩, nonceQuiet⟩)
    (fun ev judged profitable => ?_) afterNonce
  rw [priced gasPrice rfl, counted nonce rfl, List.append_assoc]
  exact .eth gasEstimate gasPrice nonce ev estimate uses (estimated gasEstimate rfl) judged
    profitable

theorem runs_execute {result : Except BotError ExecutionResult}
    (run : Runs (execute config candidate) events result) :
    Execution config candidate events result := by
  rw [execute] at run
  split at run
  next uses => exact runs_executeWithEthEv uses run
  next uses =>
    cases judged : usdEv config candidate with
    | error error =>
      rw [judged] at run
      obtain ⟨rfl, rfl⟩ := runs_throw.mp run
      exact .failed (by simp [Quiet]) error
    | ok ev =>
      rw [judged, orThrow, bind_eq, pure_bind] at run
      cases profitable : ev.isProfitable with
      | false =>
        rw [profitable] at run
        obtain ⟨rfl, rfl⟩ := runs_pure.mp run
        exact .unsent (by simp [Quiet]) rfl rfl
      | true =>
        have approach := Approach.usd ev (Bool.eq_false_iff.mpr uses) judged profitable
        rw [profitable] at run
        obtain ⟨simulated, tail, rfl, simulating⟩ := runs_call.mp run
        cases simulated with
        | error message =>
          obtain ⟨rfl, rfl⟩ := runs_pure.mp simulating
          exact .unsent (by simp [Quiet, isSend]) rfl rfl
        | ok _ =>
          obtain ⟨answer, last, rfl, sending⟩ := runs_call.mp simulating
          cases answer with
          | error message =>
            obtain ⟨rfl, rfl⟩ := runs_pure.mp sending
            exact .sent approach rfl rfl
          | ok txHash =>
            obtain ⟨rfl, rfl⟩ := runs_pure.mp sending
            exact .sent approach rfl rfl

/-- Every send of a run is vetted by what comes before it. -/
def Vetted (config : LiquidationExecutorConfig) (past : CycleEvents)
    (event : Event CycleOp CycleOp.Answer) : Prop :=
  ∀ parameters answer, event = ⟨.writeContract parameters, answer⟩ →
    Vetting config parameters past

theorem Vetted.longer (front past : CycleEvents) (event : Event CycleOp CycleOp.Answer)
    (vetted : Vetted config past event) : Vetted config (front ++ past) event := by
  intro parameters answer same
  obtain ⟨⟨candidate, overrides, earlier, figures, call, approach, rfl⟩, live⟩ :=
    vetted parameters answer same
  refine ⟨⟨candidate, overrides, front ++ earlier, figures, call, approach, ?_⟩, live⟩
  simp only [List.append_assoc]

theorem Quiet.vetted (quiet : Quiet events) : Prefixes.EachStep (Vetted config) events := by
  rintro past event initial parameters answer rfl
  have member := initial.subset (List.mem_append_right past (List.mem_singleton_self _))
  cases quiet _ member

theorem Quiet.accepted (quiet : Quiet events) : events.countP isAcceptedSend = 0 := by
  apply List.countP_eq_zero.mpr
  intro event member accepted
  have silent := quiet event member
  unfold isAcceptedSend at accepted
  split at accepted
  next => cases silent
  next => cases accepted

theorem Execution.vetted {result : Except BotError ExecutionResult}
    (execution : Execution config candidate events result) :
    Prefixes.EachStep (Vetted config) events := by
  rcases execution with ⟨quiet, _⟩ | ⟨overrides, figures, answer, approach, rfl, live, _⟩
  · exact quiet.vetted
  · rw [List.append_cons, Prefixes.eachStep_snoc]
    constructor
    · exact (quiet_append.mpr ⟨approach.quiet, by simp [Quiet, isSend]⟩).vetted
    · intro parameters _ same
      cases same
      exact ⟨⟨candidate, overrides, [], figures, rfl, approach, rfl⟩, live⟩

/-- An execution has an accepted send exactly if that is its result. -/
theorem Execution.accepted {result : Except BotError ExecutionResult}
    (execution : Execution config candidate events result) :
    events.countP isAcceptedSend = if isSent result then 1 else 0 := by
  rcases execution with ⟨quiet, unsent, _⟩ | ⟨overrides, figures, answer, approach, rfl, _, sent, _⟩
  · rw [quiet.accepted, unsent]
    rfl
  · rw [List.countP_append, approach.quiet.accepted, sent]
    cases answer <;> rfl

/-- Only in simulation mode an execution ends with its simulation. -/
theorem Execution.unsimulated {result : Except BotError ExecutionResult}
    (execution : Execution config candidate events result)
    (live : config.simulationMode = false) : isSimulated result = false := by
  rcases execution with ⟨_, _, mode⟩ | ⟨_, _, _, _, _, _, _, unsimulated⟩
  · by_contra simulated
    cases live.symm.trans (mode (Bool.not_eq_false _ ▸ simulated))
  · exact unsimulated

/-- With a least profit in wei the executor sends nothing in simulation mode. -/
theorem Execution.quiet {result : Except BotError ExecutionResult}
    (execution : Execution config candidate events result)
    (least : config.minProfitWei.isSome = true) (simulating : config.simulationMode = true) :
    Quiet events := by
  rcases execution with ⟨quiet, _⟩ | ⟨overrides, figures, answer, approach, rfl, live, _⟩
  · exact quiet
  · cases approach with
    | eth => cases simulating.symm.trans (live rfl)
    | usd ev uses => simp [usesEthEv, least] at uses

end Execution

/-! ## What a cycle counts -/

section Counting

variable {dependencies : BotDependencies}

/-- An execution that the cycle counts as executed. -/
def isExecuted (event : Event BotOp BotOp.Answer) : Bool :=
  match event with
  | ⟨.execute _, .ok (.sent _ _)⟩ => true
  | ⟨.execute _, .ok (.simulated _)⟩ => true
  | _ => false

theorem isExecuted_execute (candidate : Candidate) (answer : Except BotError ExecutionResult) :
    isExecuted ⟨.execute candidate, answer⟩ = (isSent answer || isSimulated answer) := by
  cases answer with
  | error error => rfl
  | ok result => cases result <;> rfl

theorem executed_record (counts : Counts) (result : ExecutionResult) (candidate : Candidate) :
    (counts.record result).executed =
      counts.executed + if isExecuted ⟨.execute candidate, .ok result⟩ then 1 else 0 := by
  cases result <;> rfl

theorem countP_afterExecution {candidate : Candidate} {result : ExecutionResult}
    {events : BotEvents} {ended : Except BotError Unit}
    (run : Runs (afterExecution dependencies candidate result) events ended) :
    events.countP isExecuted = 0 := by
  rw [afterExecution] at run
  split at run
  next =>
    obtain ⟨rfl, _⟩ := runs_pure.mp run
    rfl
  next =>
    split at run
    next =>
      obtain ⟨answer, tail, rfl, resumed⟩ := runs_call.mp run
      obtain ⟨rfl, _⟩ := runs_orThrow.mp resumed
      rfl
    next =>
      obtain ⟨rfl, _⟩ := runs_pure.mp run
      rfl

/-- A turn counts its execution. -/
theorem executed_handleCandidate {counts after : Counts} {candidate : Candidate}
    {events : BotEvents}
    (run : Runs (handleCandidate dependencies counts candidate) events (.ok after)) :
    after.executed = counts.executed + events.countP isExecuted := by
  cases checked : hasPositiveEv dependencies candidate with
  | error error =>
    rw [handleCandidate, checked] at run
    cases (runs_throw.mp run).2
  | ok positive =>
    rw [handleCandidate, checked, orThrow, bind_eq, pure_bind] at run
    cases positive with
    | false =>
      obtain ⟨rfl, same⟩ := runs_pure.mp run
      cases same
      rfl
    | true =>
      obtain ⟨answer, tail, rfl, resumed⟩ := runs_call.mp run
      obtain ⟨result, same, reporting⟩ : ∃ result,
          isExecuted ⟨.execute candidate, answer⟩ = isExecuted ⟨.execute candidate, .ok result⟩ ∧
          Runs ((afterExecution dependencies candidate result).bind
            (fun _ => .pure (counts.record result))) tail (.ok after) := by
        cases answer with
        | ok result => exact ⟨result, rfl, resumed⟩
        | error error => exact ⟨.failed "uncaught_executor_error", rfl, resumed⟩
      obtain ⟨_, earlier, later, rfl, reported, ended⟩ := runs_bind_ok.mp reporting
      obtain ⟨rfl, counted⟩ := runs_pure.mp ended
      cases counted
      rw [List.append_nil, List.countP_cons, countP_afterExecution reported, Nat.zero_add, same]
      exact executed_record counts result candidate

/-- The loop counts its executions. Induct on the candidates that are left. -/
theorem executed_handleCandidates {candidates : List Candidate} {counts after : Counts}
    {events : BotEvents}
    (run : Runs (candidates.foldlM (handleCandidate dependencies) counts) events (.ok after)) :
    after.executed = counts.executed + events.countP isExecuted := by
  induction candidates generalizing counts events with
  | nil =>
    obtain ⟨rfl, same⟩ := runs_pure.mp run
    cases same
    rfl
  | cons candidate rest inductionHypothesis =>
    rw [List.foldlM_cons] at run
    obtain ⟨middle, earlier, later, rfl, turn, others⟩ := runs_bind_ok.mp run
    rw [inductionHypothesis others, executed_handleCandidate turn, List.countP_append,
      Nat.add_assoc]

/-- The summary of a cycle reports the executions that sent or simulated. -/
theorem executed_runOnce {events : BotEvents} {summary : BotCycleSummary}
    (run : Runs (runOnce dependencies) events (.ok summary)) :
    summary.executed = events.countP isExecuted := by
  obtain ⟨answer, tail, rfl, scanned⟩ := runs_call.mp run
  obtain ⟨candidates, _, _, rfl, read, rest⟩ := runs_bind_ok.mp scanned
  obtain ⟨rfl, _⟩ := runs_orThrow.mp read
  obtain ⟨number, asked, later, rfl, asking, loop⟩ := runs_bind_ok.mp rest
  obtain ⟨after, earlier, last, rfl, handling, ended⟩ := runs_bind_ok.mp loop
  obtain ⟨rfl, same⟩ := runs_pure.mp ended
  cases same
  have statistics : asked.countP isExecuted = 0 := by
    rw [lastScanned] at asking
    split at asking
    next =>
      obtain ⟨answer, tail, rfl, resumed⟩ := runs_call.mp asking
      obtain ⟨rfl, _⟩ := runs_pure.mp resumed
      rfl
    next =>
      obtain ⟨rfl, _⟩ := runs_pure.mp asking
      rfl
  rw [List.append_nil, List.nil_append, List.countP_cons, List.countP_append, statistics,
    ← executed_handleCandidates handling]
  simp [isExecuted]

end Counting

/-! ## The whole loop -/

section Loop

variable {config : LiquidationExecutorConfig} {dependencies : BotDependencies}
  {events : CycleEvents}

/-- The cycles that ended report this many executions. -/
def executedOf : Except BotError BotCycleSummary → Nat
  | .ok summary => summary.executed
  | .error _ => 0

/-- What a part of the loop did: its sends are vetted, in simulation mode there is none, and
otherwise those that were accepted are at least the executions reported. -/
structure Accounted (config : LiquidationExecutorConfig) (events : CycleEvents) (reported : Nat)
    (complete : Prop) : Prop where
  vetted : Prefixes.EachStep (Vetted config) events
  quiet : config.minProfitWei.isSome = true → config.simulationMode = true → Quiet events
  reports : config.simulationMode = false → reported ≤ events.countP isAcceptedSend
  reportsAll : config.simulationMode = false → complete →
    reported = events.countP isAcceptedSend

theorem Accounted.append {later : CycleEvents} {first second : Nat} {one other : Prop}
    (earlier : Accounted config events first one) (rest : Accounted config later second other) :
    Accounted config (events ++ later) (first + second) (one ∧ other) := by
  refine ⟨earlier.vetted.append Vetted.longer rest.vetted, fun least simulating => ?_,
    fun live => ?_, fun live complete => ?_⟩
  · exact quiet_append.mpr ⟨earlier.quiet least simulating, rest.quiet least simulating⟩
  · rw [List.countP_append]
    exact Nat.add_le_add (earlier.reports live) (rest.reports live)
  · rw [List.countP_append, earlier.reportsAll live complete.1, rest.reportsAll live complete.2]

/-- A call of the cycle, with the calls of the executor behind it. -/
theorem behind_call {call : Event BotOp BotOp.Answer × CycleEvents}
    (run : Runs (behind config call.1.1) call.2 (.ok call.1.2)) :
    Prefixes.EachStep (Vetted config) call.2 ∧
      (config.minProfitWei.isSome = true → config.simulationMode = true → Quiet call.2) ∧
      (config.simulationMode = false →
        call.2.countP isAcceptedSend = if isExecuted call.1 then 1 else 0) := by
  have outside : ∀ events : CycleEvents, Quiet events → isExecuted call.1 = false →
      Prefixes.EachStep (Vetted config) events ∧
        (config.minProfitWei.isSome = true → config.simulationMode = true → Quiet events) ∧
        (config.simulationMode = false →
          events.countP isAcceptedSend = if isExecuted call.1 then 1 else 0) := by
    intro events quiet other
    refine ⟨quiet.vetted, fun _ _ => quiet, fun _ => ?_⟩
    rw [quiet.accepted, other]
    rfl
  obtain ⟨⟨op, answer⟩, events⟩ := call
  cases op with
  | scanOnce =>
    obtain ⟨_, _, rfl, rest⟩ := runs_call.mp run
    obtain ⟨rfl, _⟩ := runs_pure.mp rest
    exact outside _ (by simp [Quiet, isSend]) rfl
  | getLastScanStats =>
    obtain ⟨_, _, rfl, rest⟩ := runs_call.mp run
    obtain ⟨rfl, _⟩ := runs_pure.mp rest
    exact outside _ (by simp [Quiet, isSend]) rfl
  | alert event =>
    obtain ⟨_, _, rfl, rest⟩ := runs_call.mp run
    obtain ⟨rfl, _⟩ := runs_pure.mp rest
    exact outside _ (by simp [Quiet, isSend]) rfl
  | execute candidate =>
    obtain ⟨result, executed, same⟩ := runs_attempt.mp run
    cases same
    have execution := runs_execute executed
    refine ⟨execution.vetted, execution.quiet, fun live => ?_⟩
    rw [execution.accepted, isExecuted_execute, execution.unsimulated live, Bool.or_false]

theorem returns_behind (op : BotOp) (events : CycleEvents) (error : BotError) :
    ¬ Runs (behind config op) events (.error error) := by
  intro run
  cases op with
  | execute candidate =>
    obtain ⟨_, _, impossible⟩ := runs_attempt.mp run
    cases impossible
  | scanOnce =>
    obtain ⟨_, _, _, rest⟩ := runs_call.mp run
    cases (runs_pure.mp rest).2
  | getLastScanStats =>
    obtain ⟨_, _, _, rest⟩ := runs_call.mp run
    cases (runs_pure.mp rest).2
  | alert event =>
    obtain ⟨_, _, _, rest⟩ := runs_call.mp run
    cases (runs_pure.mp rest).2

theorem runs_pollingCycle {outcome : Except BotError BotCycleSummary}
    (run : Runs (runPollingCycle config dependencies) events (.ok outcome)) :
    Accounted config events (executedOf outcome) (∃ summary, outcome = .ok summary) := by
  obtain ⟨_, expanded, same⟩ := runs_attempt.mp run
  cases same
  obtain ⟨calls, cycle, rfl, ran⟩ := (runs_expand returns_behind).mp expanded
  have each := fun call member => behind_call (ran call member)
  have accepted : config.simulationMode = false →
      (calls.flatMap Prod.snd).countP isAcceptedSend = (calls.map Prod.fst).countP isExecuted := by
    intro live
    have counted := fun call member => (each call member).2.2 live
    clear cycle ran each run expanded
    induction calls with
    | nil => rfl
    | cons call rest inductionHypothesis =>
      rw [List.flatMap_cons, List.countP_append, counted call List.mem_cons_self,
        inductionHypothesis (fun other member => counted other (List.mem_cons_of_mem call member)),
        List.map_cons, List.countP_cons, Nat.add_comm]
  constructor
  · rw [List.flatMap_def]
    refine Prefixes.EachStep.flatten Vetted.longer (fun run member => ?_)
    obtain ⟨call, among, rfl⟩ := List.mem_map.mp member
    exact (each call among).1
  · intro least simulating event member
    obtain ⟨call, among, here⟩ := List.mem_flatMap.mp member
    exact (each call among).2.1 least simulating event here
  · intro live
    rw [accepted live]
    cases outcome with
    | ok summary => exact (executed_runOnce cycle).le
    | error error => exact Nat.zero_le _
  · rintro live ⟨summary, rfl⟩
    rw [accepted live]
    exact executed_runOnce cycle

end Loop

/-- An executor that sends, with a least profit. -/
def liveExecutor : LiquidationExecutorConfig where
  pool := ZERO_ADDRESS
  account := BASE_USDC
  minProfitWei := some 1
  simulationMode := false
  estimatesGas := true
  getsGasPrice := true
  getsNonce := true

/-- Every call is answered, and every transaction accepted. -/
def accepting : (op : CycleOp) → op.Answer
  | .scanOnce => .ok twoCandidates
  | .getLastScanStats => 2
  | .alert _ => .ok ()
  | .estimateGas _ => .ok 1000000
  | .getGasPrice => .ok 1000000000
  | .getNonce => .ok 7
  | .simulateContract _ => .ok ()
  | .writeContract _ => .ok "0xabc"

end Bot

end LiquidationBot
