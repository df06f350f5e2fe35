import LiquidationBot.BroadcastGates

/-!
# Gas prices of a submission

The first send of an execution is priced by the node's gas price, capped by the
quote. A transaction found underpriced is replaced at a bumped price, and the bump
looks neither at the cap nor at the price of the transaction that it replaces: it
starts from the overrides of the first send. A refused send is replaced once, an
underpriced receipt once more.
-/

namespace LiquidationBot

namespace SafeTransactionExecutor

/-- What a run shows of its transactions: a send with its price, a receipt. -/
inductive Signal where
  | sent (route : SubmissionRoute) (gasPrice : Nat) (answer : Except Thrown Hash)
  | receipt (answer : Except Thrown ExecutionReceipt)

def signal? : ExecutorEvent → Option Signal
  | ⟨.ask (.send route _ _ overrides), answer⟩ => some (.sent route overrides.gasPrice answer)
  | ⟨.ask (.waitForReceipt _), answer⟩ => some (.receipt answer)
  | _ => none

def signals (events : List ExecutorEvent) : List Signal := events.filterMap signal?

/-- The prices of all sends. -/
def sentPrices : List Signal → List Nat
  | [] => []
  | .sent _ gasPrice _ :: rest => gasPrice :: sentPrices rest
  | .receipt _ :: rest => sentPrices rest

/-- A sender refuses a transaction as underpriced. -/
def refusesUnderpriced : Except Thrown Hash → Bool
  | .ok _ => false
  | .error error => error.underpriced

/-- A receipt calls for a replacement. -/
def reportsUnderpriced : Except Thrown ExecutionReceipt → Bool
  | .ok .underpriced => true
  | _ => false

/-- The public client takes over a private submission that has failed, with the
same transaction. -/
def fallsBack (config : SafeTransactionExecutorConfig) (route : SubmissionRoute)
    (answer : Except Thrown Hash) : Bool :=
  decide (route = .private_bundle) && threw answer && config.allowPublicFallbackAfterBundleFailure

/-- The last transaction sent, and whether it has been found underpriced since. -/
structure Outstanding where
  gasPrice : Nat
  underpriced : Bool

/-- Every transaction that replaces an underpriced one has a higher price. -/
def ReplacementsRise (config : SafeTransactionExecutorConfig) :
    Option Outstanding → List Signal → Prop
  | _, [] => True
  | last, .sent route gasPrice answer :: rest =>
      (∀ replaced, last = some ⟨replaced, true⟩ → replaced < gasPrice) ∧
        ReplacementsRise config
          (some ⟨gasPrice, refusesUnderpriced answer && !fallsBack config route answer⟩) rest
  | last, .receipt answer :: rest =>
      ReplacementsRise config
        (last.map (fun sent => ⟨sent.gasPrice, sent.underpriced || reportsUnderpriced answer⟩)) rest

/-- No send exceeds the quote of the run, and replacements rise. -/
def GasCapHolds (config : SafeTransactionExecutorConfig) (events : List ExecutorEvent) : Prop :=
  (∀ gasPrice ∈ sentPrices (signals events), quotes events ≠ [] ∧
    ∀ maxFeePerGas ∈ quotes events, gasPrice ≤ maxFeePerGas) ∧
  ReplacementsRise config none (signals events)

/-- The first send that is not taken over is refused as underpriced. -/
def firstRefused (config : SafeTransactionExecutorConfig) : List Signal → Bool
  | [] => false
  | .sent route _ answer :: rest =>
      if fallsBack config route answer then firstRefused config rest else refusesUnderpriced answer
  | .receipt _ :: rest => firstRefused config rest

/-- The first receipt is underpriced. -/
def firstStuck : List Signal → Bool
  | [] => false
  | .sent _ _ _ :: rest => firstStuck rest
  | .receipt answer :: _ => reportsUnderpriced answer

/-- No replacement is called for, or one is and its bump fits below the quote. -/
def BumpFits (config : SafeTransactionExecutorConfig) (events : List ExecutorEvent) : Prop :=
  (firstRefused config (signals events) = false ∧ firstStuck (signals events) = false) ∨
  (¬ (firstRefused config (signals events) = true ∧ firstStuck (signals events) = true) ∧
    ∀ gasPrice ∈ gasPrices events, ∀ maxFeePerGas ∈ quotes events,
      10000 ≤ min gasPrice maxFeePerGas * config.replacementBumpBps ∧
      min gasPrice maxFeePerGas + min gasPrice maxFeePerGas * config.replacementBumpBps / 10000 ≤
        maxFeePerGas)

@[simp] theorem signals_append (earlier later : List ExecutorEvent) :
    signals (earlier ++ later) = signals earlier ++ signals later := List.filterMap_append

theorem signals_of_silent {events : List ExecutorEvent} (silent : Silent events) :
    signals events = [] := by
  refine List.filterMap_eq_nil_iff.mpr ?_
  rintro ⟨op, answer⟩ member
  have quiet : submits op = false := silent _ member
  cases op with
  | memory op => rfl
  | ask op =>
    cases op with
    | send => cases quiet
    | waitForReceipt => cases quiet
    | _ => rfl

/-- One transmission of a transaction: a send, or a private one that has failed and
the public one that takes over. -/
inductive Attempt (config : SafeTransactionExecutorConfig) (gasPrice : Nat) :
    List Signal → Except Thrown Hash → Prop where
  | settled (route : SubmissionRoute) (answer : Except Thrown Hash)
      (kept : fallsBack config route answer = false) :
      Attempt config gasPrice [.sent route gasPrice answer] answer
  | fellBack (error : Thrown) (answer : Except Thrown Hash)
      (taken : fallsBack config .private_bundle (.error error) = true) :
      Attempt config gasPrice
        [.sent .private_bundle gasPrice (.error error), .sent .public_rpc gasPrice answer] answer

section Attempts

variable {config : SafeTransactionExecutorConfig} {gasPrice : Nat} {sent rest : List Signal}
  {answer : Except Thrown Hash}

@[simp] theorem fallsBack_public : fallsBack config .public_rpc answer = false := by
  simp [fallsBack]

/-- Only the price of an attempt counts for the cap. -/
theorem sentPrices_attempt (attempt : Attempt config gasPrice sent answer) (holds : Nat → Prop) :
    (∀ price ∈ sentPrices (sent ++ rest), holds price) ↔
      holds gasPrice ∧ ∀ price ∈ sentPrices rest, holds price := by
  cases attempt with
  | settled route answer kept => simp [sentPrices]
  | fellBack error answer taken => simp [sentPrices]

/-- An attempt replaces what was outstanding, and stands for it from then on. -/
theorem replacementsRise_attempt (attempt : Attempt config gasPrice sent answer)
    (last : Option Outstanding) :
    ReplacementsRise config last (sent ++ rest) ↔
      (∀ replaced, last = some ⟨replaced, true⟩ → replaced < gasPrice) ∧
        ReplacementsRise config (some ⟨gasPrice, refusesUnderpriced answer⟩) rest := by
  cases attempt with
  | settled route answer kept => simp [ReplacementsRise, kept]
  | fellBack error answer taken => simp [ReplacementsRise, taken]

theorem firstRefused_attempt (attempt : Attempt config gasPrice sent answer) :
    firstRefused config (sent ++ rest) = refusesUnderpriced answer := by
  cases attempt with
  | settled route answer kept => simp [firstRefused, kept]
  | fellBack error answer taken => simp [firstRefused, taken]

theorem firstStuck_attempt (attempt : Attempt config gasPrice sent answer) :
    firstStuck (sent ++ rest) = firstStuck rest := by
  cases attempt with
  | settled route answer kept => rfl
  | fellBack error answer taken => rfl

end Attempts

section Runs

variable {config : SafeTransactionExecutorConfig} {request : SafeExecutionRequest}
  {transaction : TransactionEnvelope} {overrides : TransactionOverrides}
  {events : List ExecutorEvent}

/-- A private submission is one attempt. -/
theorem sendPrivate_attempts {answer : Except Thrown Hash}
    (run : Async.Runs (sendPrivate config request transaction overrides) events answer) :
    Attempt config overrides.gasPrice (signals events) answer := by
  rcases Async.runs_handle.mp run with
    ⟨hash, sent, rfl⟩ | ⟨error, earlier, later, rfl, sent, handled⟩
  · rw [runs_ask.mp sent]
    exact .settled .private_bundle (.ok hash) (by simp [fallsBack, threw])
  · rw [runs_ask.mp sent]
    split at handled
    next allowed =>
      rw [runs_ask.mp handled]
      exact .fellBack error answer (by simp [fallsBack, threw, allowed])
    next refused =>
      obtain ⟨rfl, rfl⟩ := Async.runs_throw.mp handled
      exact .settled .private_bundle (.error error) (by simp [fallsBack, refused])

/-- Whatever the assessment says, a transaction is transmitted once. -/
theorem sendTransaction_attempts {answer : Except Thrown Hash}
    (run : Async.Runs (sendTransaction config request transaction overrides) events answer) :
    Attempt config overrides.gasPrice (signals events) answer := by
  unfold sendTransaction at run
  split at run
  next => exact sendPrivate_attempts run
  next =>
    have assessed : ∀ {earlier : List ExecutorEvent} {risk : Except Thrown (Option Nat)},
        Async.Runs (assessCompetitorRisk config request overrides) earlier risk →
        signals earlier = [] ∧ ∃ riskBps, risk = .ok riskBps := by
      intro earlier risk assessing
      unfold assessCompetitorRisk at assessing
      split at assessing
      next =>
        obtain ⟨rfl, rfl⟩ := Async.runs_pure.mp assessing
        exact ⟨rfl, none, rfl⟩
      next =>
        obtain ⟨reply, tail, rfl, following⟩ := Async.runs_call.mp assessing
        cases reply with
        | ok riskBps =>
          obtain ⟨rfl, rfl⟩ := Async.runs_pure.mp following
          exact ⟨rfl, some riskBps, rfl⟩
        | error error =>
          obtain ⟨rfl, rfl⟩ := Async.runs_pure.mp following
          exact ⟨rfl, none, rfl⟩
    rcases Async.runs_bind.mp run with ⟨error, failed, _⟩ | ⟨risk, earlier, later, rfl, ran, run⟩
    · obtain ⟨_, riskBps, impossible⟩ := assessed failed
      cases impossible
    · rw [signals_append, (assessed ran).1, List.nil_append]
      split at run
      next => exact sendPrivate_attempts run
      next =>
        rw [runs_ask.mp run]
        exact .settled .public_rpc answer (by simp [fallsBack])

/-- Giving up sends nothing and yields no hash. -/
theorem giveUp_silent {outcome : Except Thrown (Option Hash)}
    (run : Async.Runs ((resyncNonce request).bind (fun _ => .pure none)) events outcome) :
    signals events = [] ∧ ∀ hash, outcome ≠ .ok (some hash) := by
  have uses : ((resyncNonce request).bind (fun _ => (.pure none : ExecutorM (Option Hash)))).Uses
      (Prepares request) := by
    refine Async.Uses.bind ?_ (fun _ => trivial)
    refine (prepares_ask (by exact ⟨rfl, rfl, rfl⟩)).bind ?_
    exact fun nextNonce => prepares_memory _
  refine ⟨signals_of_silent (silent_of_precedes (Prepares.precedes uses) run), ?_⟩
  rintro hash rfl
  obtain ⟨_, earlier, later, rfl, _, run⟩ := Async.runs_bind_ok.mp run
  cases (Async.runs_pure.mp run).2

/-- A hash that is sent is returned as it is, and only an exception is handled. -/
theorem sent_or_handled {handler : Thrown → ExecutorM (Option Hash)}
    {outcome : Except Thrown (Option Hash)}
    (run : Async.Runs (((sendTransaction config request transaction overrides).bind
      (fun hash => pure (some hash))).handle handler) events outcome) :
    (∃ hash, Async.Runs (sendTransaction config request transaction overrides) events (.ok hash) ∧
        outcome = .ok (some hash)) ∨
      ∃ error earlier later, events = earlier ++ later ∧
        Async.Runs (sendTransaction config request transaction overrides) earlier (.error error) ∧
        Async.Runs (handler error) later outcome := by
  rcases Async.runs_handle.mp run with
    ⟨value, sent, rfl⟩ | ⟨error, earlier, later, rfl, sent, handled⟩
  · obtain ⟨hash, sending, none, rfl, given, done⟩ := Async.runs_bind_ok.mp sent
    obtain ⟨rfl, same⟩ := Async.runs_pure.mp done
    cases same
    exact Or.inl ⟨hash, by simpa using given, rfl⟩
  · rcases Async.runs_bind.mp sent with ⟨_, given, same⟩ | ⟨_, _, _, _, _, done⟩
    · cases same
      exact Or.inr ⟨error, earlier, later, rfl, given, handled⟩
    · cases (Async.runs_pure.mp done).2

/-- A replacement is one attempt, and a hash comes of it if the attempt has one. -/
theorem sendReplacement_attempts {outcome : Except Thrown (Option Hash)}
    (run : Async.Runs (sendReplacement config request transaction overrides) events outcome) :
    ∃ answer, Attempt config overrides.gasPrice (signals events) answer ∧
      ∀ hash, outcome = .ok (some hash) → answer = .ok hash := by
  rcases sent_or_handled run with ⟨hash, sent, rfl⟩ | ⟨error, earlier, later, rfl, sent, handled⟩
  · refine ⟨.ok hash, sendTransaction_attempts sent, ?_⟩
    rintro _ ⟨⟩
    rfl
  · obtain ⟨quiet, nothing⟩ := giveUp_silent handled
    refine ⟨.error error, by simpa [quiet] using sendTransaction_attempts sent, ?_⟩
    exact fun hash given => absurd given (nothing hash)

/-- The signals up to the first receipt: one transmission, and a second one at the
bumped price where the first is refused as underpriced. -/
structure Opening (config : SafeTransactionExecutorConfig) (gasPrice bumped : Nat)
    (refused : Bool) (answer : Except Thrown Hash) (opening : List Signal) : Prop where
  prices : ∀ (rest : List Signal) (holds : Nat → Prop),
    (∀ price ∈ sentPrices (opening ++ rest), holds price) ↔
      holds gasPrice ∧ (refused = true → holds bumped) ∧ ∀ price ∈ sentPrices rest, holds price
  rises : ∀ rest : List Signal, ReplacementsRise config none (opening ++ rest) ↔
    (refused = true → gasPrice < bumped) ∧ ReplacementsRise config
      (some ⟨if refused = true then bumped else gasPrice, refusesUnderpriced answer⟩) rest
  first : ∀ rest : List Signal, firstRefused config (opening ++ rest) = refused
  stuck : ∀ rest : List Signal, firstStuck (opening ++ rest) = firstStuck rest

theorem opening_single {gasPrice bumped : Nat} {answer : Except Thrown Hash} {sent : List Signal}
    (attempt : Attempt config gasPrice sent answer) (kept : refusesUnderpriced answer = false) :
    Opening config gasPrice bumped false answer sent where
  prices := fun rest holds => by simp [sentPrices_attempt attempt]
  rises := fun rest => by simp [replacementsRise_attempt attempt]
  first := fun rest => by rw [firstRefused_attempt attempt, kept]
  stuck := fun rest => firstStuck_attempt attempt

theorem opening_double {gasPrice bumped : Nat} {error : Thrown} {answer : Except Thrown Hash}
    {sent again : List Signal} (attempt : Attempt config gasPrice sent (.error error))
    (underpriced : error.underpriced = true) (second : Attempt config bumped again answer) :
    Opening config gasPrice bumped true answer (sent ++ again) where
  prices := fun rest holds => by
    simp [List.append_assoc, sentPrices_attempt attempt, sentPrices_attempt second]
  rises := fun rest => by
    simp [List.append_assoc, replacementsRise_attempt attempt, replacementsRise_attempt second,
      refusesUnderpriced, underpriced]
  first := fun rest => by
    rw [List.append_assoc, firstRefused_attempt attempt, refusesUnderpriced, underpriced]
  stuck := fun rest => by
    rw [List.append_assoc, firstStuck_attempt attempt, firstStuck_attempt second]

theorem sendOrReplaceUnderpriced_opens {outcome : Except Thrown (Option Hash)}
    (run : Async.Runs (sendOrReplaceUnderpriced config request transaction overrides) events
      outcome) :
    ∃ refused answer, Opening config overrides.gasPrice
        (bumpGasPrice overrides.gasPrice config.replacementBumpBps) refused answer
        (signals events) ∧
      ∀ hash, outcome = .ok (some hash) → answer = .ok hash := by
  rcases sent_or_handled run with ⟨hash, sent, rfl⟩ | ⟨error, earlier, later, rfl, sent, handled⟩
  · refine ⟨false, .ok hash, opening_single (sendTransaction_attempts sent) rfl, ?_⟩
    rintro _ ⟨⟩
    rfl
  · have attempt := sendTransaction_attempts sent
    split at handled
    next other =>
      obtain ⟨quiet, nothing⟩ := giveUp_silent handled
      have kept : refusesUnderpriced (.error error) = false := by
        simpa [refusesUnderpriced] using other
      refine ⟨false, .error error, by simpa [quiet] using opening_single attempt kept, ?_⟩
      exact fun hash given => absurd given (nothing hash)
    next underpriced =>
      obtain ⟨answer, second, hashed⟩ := sendReplacement_attempts handled
      refine ⟨true, answer, ?_, hashed⟩
      rw [signals_append]
      exact opening_double attempt (by simpa using underpriced) second

theorem signals_waitForReceipt {hash : Hash} {answer : Except Thrown ExecutionReceipt}
    (run : Async.Runs (ask (.waitForReceipt hash)) events answer) :
    signals events = [.receipt answer] := by
  rw [runs_ask.mp run]
  rfl

/-- What follows the opening of a submission. -/
inductive Ending (config : SafeTransactionExecutorConfig) (bumped : Nat) : List Signal → Prop where
  | none : Ending config bumped []
  | settled (verdict : Except Thrown ExecutionReceipt)
      (priced : reportsUnderpriced verdict = false) : Ending config bumped [.receipt verdict]
  | replaced (verdict : Except Thrown ExecutionReceipt) (sent : List Signal)
      (answer : Except Thrown Hash) (receipts : List (Except Thrown ExecutionReceipt))
      (underpriced : reportsUnderpriced verdict = true) (attempt : Attempt config bumped sent answer) :
      Ending config bumped (.receipt verdict :: (sent ++ receipts.map .receipt))

theorem submitWithReplacement_signals {result : Except Thrown SafeExecutionResult}
    (run : Async.Runs (submitWithReplacement config request transaction overrides) events result) :
    ∃ refused answer opening ending, signals events = opening ++ ending ∧
      Opening config overrides.gasPrice
        (bumpGasPrice overrides.gasPrice config.replacementBumpBps) refused answer opening ∧
      (ending ≠ [] → refusesUnderpriced answer = false) ∧
      Ending config (bumpGasPrice overrides.gasPrice config.replacementBumpBps) ending := by
  rcases Async.runs_bind.mp run with ⟨error, opened, _⟩ | ⟨outcome, first, later, rfl, opened, rest⟩
  · obtain ⟨refused, answer, opening, _⟩ := sendOrReplaceUnderpriced_opens opened
    exact ⟨refused, answer, _, [], by simp, opening, by simp, .none⟩
  obtain ⟨refused, answer, opening, hashed⟩ := sendOrReplaceUnderpriced_opens opened
  cases outcome with
  | none =>
    obtain ⟨rfl, _⟩ := Async.runs_pure.mp rest
    exact ⟨refused, answer, _, [], by simp, opening, by simp, .none⟩
  | some firstHash =>
    have kept : refusesUnderpriced answer = false := by
      rw [hashed firstHash rfl]
      rfl
    refine ⟨refused, answer, signals first, signals later, signals_append _ _, opening,
      fun _ => kept, ?_⟩
    rcases Async.runs_bind.mp rest with
      ⟨error, awaited, _⟩ | ⟨receipt, waited, last, rfl, awaited, rest⟩
    · rw [signals_waitForReceipt awaited]
      exact .settled (.error error) rfl
    rw [signals_append, signals_waitForReceipt awaited]
    cases receipt with
    | included =>
      obtain ⟨rfl, _⟩ := Async.runs_pure.mp rest
      exact .settled (.ok .included) rfl
    | reorged =>
      obtain ⟨rfl, _⟩ := Async.runs_pure.mp rest
      exact .settled (.ok .reorged) rfl
    | reverted =>
      obtain ⟨rfl, _⟩ := Async.runs_pure.mp rest
      exact .settled (.ok .reverted) rfl
    | underpriced =>
      rcases Async.runs_bind.mp rest with
        ⟨error, failed, _⟩ | ⟨outcome, replaced, final, rfl, replacing, rest⟩
      · obtain ⟨reply, attempt, _⟩ := sendReplacement_attempts failed
        simpa using Ending.replaced (.ok .underpriced) _ reply [] rfl attempt
      obtain ⟨reply, attempt, _⟩ := sendReplacement_attempts replacing
      obtain ⟨receipts, heard⟩ : ∃ receipts : List (Except Thrown ExecutionReceipt),
          signals final = receipts.map .receipt := by
        cases outcome with
        | none =>
          obtain ⟨rfl, _⟩ := Async.runs_pure.mp rest
          exact ⟨[], rfl⟩
        | some replacementHash =>
          rcases Async.runs_bind.mp rest with
            ⟨error, awaited, _⟩ | ⟨receipt, waited, last, rfl, awaited, done⟩
          · exact ⟨[.error error], signals_waitForReceipt awaited⟩
          · have quiet : signals last = [] := by
              cases receipt <;> rw [(Async.runs_pure.mp done).1] <;> rfl
            exact ⟨[.ok receipt], by simp [signals_waitForReceipt awaited, quiet]⟩
      rw [signals_append, heard]
      exact .replaced (.ok .underpriced) _ reply receipts rfl attempt

/-- Receipts send nothing. -/
theorem receipts_quiet (receipts : List (Except Thrown ExecutionReceipt))
    (last : Option Outstanding) :
    sentPrices (receipts.map .receipt) = [] ∧
      ReplacementsRise config last (receipts.map .receipt) := by
  induction receipts generalizing last with
  | nil => exact ⟨rfl, trivial⟩
  | cons answer rest inductionHypothesis =>
    exact ⟨(inductionHypothesis last).1, (inductionHypothesis _).2⟩

/-- Whether a submission keeps below a cap and rises depends on what its first
transmission and its first receipt were answered, and on one bump. -/
theorem submission_prices_iff {gasPrice bumped cap : Nat} {refused : Bool}
    {answer : Except Thrown Hash} {opening ending : List Signal} (below : gasPrice ≤ cap)
    (opened : Opening config gasPrice bumped refused answer opening)
    (kept : ending ≠ [] → refusesUnderpriced answer = false) (ended : Ending config bumped ending) :
    ((∀ price ∈ sentPrices (opening ++ ending), price ≤ cap) ∧
      ReplacementsRise config none (opening ++ ending)) ↔
    (refused = false ∧ firstStuck ending = false) ∨
      (¬ (refused = true ∧ firstStuck ending = true) ∧ gasPrice < bumped ∧ bumped ≤ cap) := by
  rw [opened.prices ending (· ≤ cap), opened.rises ending]
  cases ended with
  | none =>
    cases refused with
    | false => simp [below, sentPrices, ReplacementsRise, firstStuck]
    | true => simp [below, sentPrices, ReplacementsRise, firstStuck, and_comm]
  | settled verdict priced =>
    cases refused with
    | false => simp [below, sentPrices, ReplacementsRise, firstStuck, priced]
    | true => simp [below, sentPrices, ReplacementsRise, firstStuck, priced, and_comm]
  | replaced verdict sent reply receipts underpriced attempt =>
    obtain ⟨unsent, rising⟩ := @receipts_quiet config receipts
      (some ⟨bumped, refusesUnderpriced reply⟩)
    rw [sentPrices, sentPrices_attempt attempt, unsent, ReplacementsRise,
      replacementsRise_attempt attempt]
    cases refused with
    | false => simp [below, firstStuck, underpriced, rising, and_comm]
    | true => simp [firstStuck, underpriced]

end Runs

theorem lt_bumpGasPrice_iff (gasPrice bumpBps : Nat) :
    gasPrice < bumpGasPrice gasPrice bumpBps ↔ 10000 ≤ gasPrice * bumpBps := by
  unfold bumpGasPrice
  omega

/-- In every run of an executor with a quote, all sends stay below the quote and
replacements rise if and only if the answers call for no replacement, or for one
whose bump is at least one unit and fits below the quote. -/
theorem gas_cap_iff (config : SafeTransactionExecutorConfig)
    (quoting : config.quoteExecutionGasCap = true) (request : SafeExecutionRequest)
    (events : List ExecutorEvent) (result : Except Thrown SafeExecutionResult)
    (run : Async.Runs (execute config request) events result) :
    GasCapHolds config events ↔ BumpFits config events := by
  rcases execute_ran run with
    silent | ⟨before, submission, transaction, overrides, rfl, silent, ⟨_, gasPrice, priced⟩, sent⟩
  · simp [GasCapHolds, BumpFits, signals_of_silent silent, sentPrices, ReplacementsRise,
      firstRefused, firstStuck]
  obtain ⟨cap, quoted, capped⟩ := priced.quoted quoting
  obtain ⟨noPrices, noQuotes⟩ := figures_of_unpriced
    (fun event member => (submitWithReplacement_delivers.of_run sent event member).1)
  have asked : gasPrices (before ++ submission) = [gasPrice] := by
    rw [gasPrices_append, priced.asked, noPrices, List.append_nil]
  have answered : quotes (before ++ submission) = [cap] := by
    rw [quotes_append, quoted, noQuotes, List.append_nil]
  have start : overrides.gasPrice = min gasPrice cap := by
    rw [capped]
    split <;> omega
  obtain ⟨refused, answer, opening, ending, heard, opened, kept, ended⟩ :=
    submitWithReplacement_signals sent
  have below : overrides.gasPrice ≤ cap := by omega
  have shown : signals (before ++ submission) = opening ++ ending := by
    rw [signals_append, signals_of_silent silent, heard, List.nil_append]
  have exact_prices := submission_prices_iff below opened kept ended
  rw [lt_bumpGasPrice_iff, bumpGasPrice, start] at exact_prices
  simp only [GasCapHolds, BumpFits, shown, asked, answered, opened.first, opened.stuck,
    List.mem_singleton, forall_eq, ne_eq, List.cons_ne_nil, not_false_eq_true, true_and]
  exact exact_prices

def cappedConfig : SafeTransactionExecutorConfig :=
  { plainConfig false with quoteExecutionGasCap := true }

/-- A node at a gas price of one hundred that refuses lower prices than it likes.
Receipts of what it accepts are underpriced or not. -/
def choosy (quote floor : Nat) (receipt : ExecutionReceipt) : (op : ExecutorOp) → op.Answer
  | .ask (.getGasPrice _) => .ok 100
  | .ask (.quoteExecutionGasCap _ _) => .ok quote
  | .ask (.send _ _ _ overrides) => if overrides.gasPrice < floor then .error ⟨true⟩ else .ok 1
  | .ask (.waitForReceipt _) => .ok receipt
  | op => NonceWorld.willing.answer op

/-- A run at a quote of one hundred whose first send is refused. -/
def refusedRun : List ExecutorEvent :=
  (execute cappedConfig plainRequest).trace (choosy 100 110 .included)

/-- A run with room below its quote: the first send is refused, and the replacement
is stuck. -/
def stuckRun : List ExecutorEvent :=
  (execute cappedConfig plainRequest).trace (choosy 1000 110 .underpriced)

/-- The equivalence at the first of these runs. -/
theorem gas_cap_iff_refused :
    GasCapHolds cappedConfig refusedRun ↔ BumpFits cappedConfig refusedRun :=
  gas_cap_iff cappedConfig rfl plainRequest refusedRun _ (Async.runs_trace _ _)

/-- The replacement exceeds the quote; and a second one has the price of the first. -/
theorem replacement_above_quote :
    Async.Runs (execute cappedConfig plainRequest) refusedRun (.ok (.sent 1)) ∧
    quotes refusedRun = [100] ∧ sentPrices (signals refusedRun) = [100, 112] ∧
    ¬ GasCapHolds cappedConfig refusedRun ∧
    Async.Runs (execute cappedConfig plainRequest) stuckRun (.ok (toFailedReceipt .underpriced)) ∧
    quotes stuckRun = [1000] ∧ sentPrices (signals stuckRun) = [100, 112, 112] ∧
    ¬ GasCapHolds cappedConfig stuckRun := by
  have above : sentPrices (signals refusedRun) = [100, 112] := rfl
  refine ⟨Async.runs_trace (choosy 100 110 .included) _, rfl, above, ?_,
    Async.runs_trace (choosy 1000 110 .underpriced) _, rfl, rfl, ?_⟩
  · intro holds
    have below : 112 ≤ 100 := (holds.1 112 (by simp [above])).2 100 (List.mem_singleton_self _)
    omega
  · rintro ⟨_, _, _, rises, _⟩
    exact Nat.lt_irrefl 112 (rises 112 rfl)

end SafeTransactionExecutor

end LiquidationBot
