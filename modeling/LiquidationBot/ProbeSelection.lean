import LiquidationBot.ApprovalSoundness
import LiquidationBot.ArbitrageProbes
import LiquidationBot.Library.Lately

/-!
# Which probe of a direction is pushed

A poll of a direction scans it and pushes the opportunity that comes out, if the evaluation
approves it. The scan keeps the candidate with the greatest revenue, while the approval
compares the revenue with the capital. The signature of a candidate is stored before either
decision, and when a later turn throws, it stays stored without a candidate.

An approvable candidate is therefore pushed only if the first of the greatest revenue is
approvable and nothing throws, and what is not pushed is suppressed until the window of its
signature is over.
-/

namespace LiquidationBot

namespace ArbitrageScanner

open Async FirstGreatest ProfitabilityEngine

/-- `pruneDedupe`. -/
def pruneDedupe (dedupeWindowMs nowMs : Int) (dedupe : InsertionMap Signature Int) :
    InsertionMap Signature Int :=
  let threshold := nowMs - dedupeWindowMs
  dedupe.filter (fun _ seenAt => !decide (seenAt < threshold))

/-- What `checkSingleDirection` does with the signature of a probe that passed the checks. -/
def lookUp (dedupeWindowMs now : Int) (signature : Signature) (dedupe : InsertionMap Signature Int) :
    InsertionMap Signature Int × Option Int :=
  let pruned := pruneDedupe dedupeWindowMs now dedupe
  if pruned.has signature then (pruned, none) else (pruned.set signature now, some now)

/-- What the poll of a direction pushes to the sink. -/
def pollDirection (config : ArbitrageScannerConfig) (registry : ChainRegistry)
    (simulate : ProfitSimulationInput Int → Except RouteError (EthCallSimulationResult Int))
    (chain : SupportedChain) (route : Route) (pair : TokenPairConfig) (gasPrice : Int) :
    ScannerM (List ArbitrageOpportunity) := do
  let attempt ← checkSingleDirection config chain route pair gasPrice
  return attempt.toList.filter
    (fun opportunity => isApproved (evaluateOpportunity registry simulate opportunity))

/-! ## The signatures of a direction among all others -/

theorem lookUp_eq : lookUp = Lately.look := rfl

/-- The direction that a signature belongs to. -/
def OfDirection (chain : SupportedChain) (route : Route) (pair : TokenPairConfig)
    (signature : Signature) : Prop :=
  signature = signatureOf chain route pair signature.amountIn

instance (chain : SupportedChain) (route : Route) (pair : TokenPairConfig) (signature : Signature) :
    Decidable (OfDirection chain route pair signature) :=
  inferInstanceAs (Decidable (_ = _))

/-- The signatures that an event asks for, with the answer. -/
def askedIn : ScannerEvent → Option (Signature × Option Int)
  | ⟨.dedupe signature, answer⟩ => some (signature, answer)
  | _ => none

/-- The map of signatures that all directions use answers what this one asks for, between the
uses of the others and of the timer that prunes it. -/
def Answered (chain : SupportedChain) (route : Route) (pair : TokenPairConfig) (dedupeWindowMs : Int)
    (dedupe : InsertionMap Signature Int) (uses : List (Lately.Use Signature))
    (events : List ScannerEvent) : Prop :=
  events.filterMap askedIn = (Lately.answers dedupeWindowMs dedupe uses).filter
    (fun asked => OfDirection chain route pair asked.1)

/-- At the next poll the signature would still be found. -/
def Suppressed (dedupeWindowMs : Int) (dedupe : InsertionMap Signature Int)
    (uses : List (Lately.Use Signature)) (next : Int) (signature : Signature) : Prop :=
  (lookUp dedupeWindowMs next signature (Lately.after dedupeWindowMs dedupe uses)).2 = none

/-! ## What a poll keeps -/

section Poll

variable (config : ArbitrageScannerConfig) (registry : ChainRegistry)
  (simulate : ProfitSimulationInput Int → Except RouteError (EthCallSimulationResult Int))
  (chain : SupportedChain) (route : Route) (pair : TokenPairConfig) (gasPrice : Int)
  (dedupeWindowMs : Int) (dedupe : InsertionMap Signature Int) (uses : List (Lately.Use Signature))
  (next : Int) (scan : DirectionScan)

/-- An approvable candidate gets an approved one pushed, and a signature whose opportunity was not
pushed does not suppress its probe in the next poll. -/
structure KeepsApprovable (pushed : List ArbitrageOpportunity) : Prop where
  pushes : ∀ candidate ∈ scan.candidates,
    isApproved (evaluateOpportunity registry simulate candidate) = true →
      ∃ opportunity ∈ pushed, opportunity ∈ scan.candidates ∧
        isApproved (evaluateOpportunity registry simulate opportunity) = true
  releases : ∀ signature now, (signature, now) ∈ scan.events.filterMap storedIn →
    (∀ opportunity ∈ pushed, signatureOf chain route pair opportunity.amountIn ≠ signature) →
      ¬ Suppressed dedupeWindowMs dedupe uses next signature

/-- No turn throws, and the first candidate with the greatest revenue is approvable. -/
def Chosen (opportunity : ArbitrageOpportunity) : Prop :=
  scan.thrown = none ∧ IsFirst revenueOf scan.candidates opportunity ∧
    isApproved (evaluateOpportunity registry simulate opportunity) = true

/-- If any candidate is approvable, the first with the greatest revenue is, and no turn throws. Of
every other signature that was stored, the window is over by the next poll. -/
structure SelectsApprovable : Prop where
  first : ∀ candidate ∈ scan.candidates,
    isApproved (evaluateOpportunity registry simulate candidate) = true →
      ∃ opportunity, Chosen registry simulate scan opportunity
  expired : ∀ signature now later, OfDirection chain route pair signature →
    Lately.Stored dedupeWindowMs dedupe uses signature now later →
      (∃ opportunity, Chosen registry simulate scan opportunity ∧
        signatureOf chain route pair opportunity.amountIn = signature) ∨
      ∃ time ∈ later.map Lately.Use.time ++ [next], now < time - dedupeWindowMs

variable {config registry simulate chain route pair gasPrice dedupeWindowMs dedupe uses next scan}
  {pushed : List ArbitrageOpportunity}

/-- What is pushed is the best of the scan, if it is approved. -/
theorem mem_pushed_iff (scans : scan.Scans config chain route pair gasPrice)
    (run : Runs (pollDirection config registry simulate chain route pair gasPrice) scan.events
      (.ok pushed)) (opportunity : ArbitrageOpportunity) :
    opportunity ∈ pushed ↔ Chosen registry simulate scan opportunity := by
  obtain ⟨attempt, events, rest, split, scanned, ended⟩ := runs_bind_ok.mp run
  obtain ⟨rfl, same⟩ := runs_pure.mp ended
  have alone : Runs (checkSingleDirection config chain route pair gasPrice) scan.events
      (.ok scan.best) := runs_checkSingleDirection.mpr ⟨scan, scans, rfl, rfl⟩
  obtain ⟨_, found, _⟩ := alone.unique scanned (show scan.events ++ [] = events ++ [] by
    rw [← split, List.append_nil])
  cases found
  cases same
  rw [List.mem_filter, Option.mem_toList, scan.best_eq_some_iff, and_assoc]
  rfl

/-- What the events store is what the map stored for this direction. -/
theorem stored_iff (answered : Answered chain route pair dedupeWindowMs dedupe uses scan.events)
    (signature : Signature) (now : Int) :
    (signature, now) ∈ scan.events.filterMap storedIn ↔
      OfDirection chain route pair signature ∧
        ∃ later, Lately.Stored dedupeWindowMs dedupe uses signature now later := by
  have asked : (signature, now) ∈ scan.events.filterMap storedIn ↔
      (signature, some now) ∈ scan.events.filterMap askedIn := by
    simp only [List.mem_filterMap]
    refine exists_congr (fun event => and_congr_right (fun _ => ?_))
    obtain ⟨op, answer⟩ := event
    cases op with
    | dedupe other =>
      rcases answer with _ | time
      · simp [storedIn, askedIn]
      · simp [storedIn, askedIn]
    | _ => simp [storedIn, askedIn]
  rw [asked, answered, List.mem_filter, Lately.mem_answers_iff, and_comm]
  simp

/-- A stored signature suppresses its probe exactly if some time that it was stored under is still
inside the window. -/
theorem not_suppressed_iff {signature : Signature} {now : Int} {later : List (Lately.Use Signature)}
    (stored : Lately.Stored dedupeWindowMs dedupe uses signature now later) :
    ¬ Suppressed dedupeWindowMs dedupe uses next signature ↔
      ∀ since later, Lately.Stored dedupeWindowMs dedupe uses signature since later →
        ∃ time ∈ later.map Lately.Use.time ++ [next], since < time - dedupeWindowMs := by
  rw [Suppressed, lookUp_eq, stored.look_eq_none_iff]
  simp only [Lately.Kept, not_exists, not_and, not_forall, not_le, exists_prop]

/-- A poll keeps approvable probes exactly if it selects an approvable one. -/
theorem keepsApprovable_iff (scans : scan.Scans config chain route pair gasPrice)
    (run : Runs (pollDirection config registry simulate chain route pair gasPrice) scan.events
      (.ok pushed))
    (answered : Answered chain route pair dedupeWindowMs dedupe uses scan.events) :
    KeepsApprovable registry simulate chain route pair dedupeWindowMs dedupe uses next scan pushed ↔
      SelectsApprovable registry simulate chain route pair dedupeWindowMs dedupe uses next scan := by
  have isPushed := mem_pushed_iff scans run
  constructor
  · intro keeps
    refine ⟨fun candidate member approvable => ?_, fun signature now later own stored => ?_⟩
    · obtain ⟨opportunity, among, _⟩ := keeps.pushes candidate member approvable
      exact ⟨opportunity, (isPushed opportunity).mp among⟩
    · by_cases chosen : ∃ opportunity, Chosen registry simulate scan opportunity ∧
        signatureOf chain route pair opportunity.amountIn = signature
      · exact Or.inl chosen
      · have released := keeps.releases signature now
          ((stored_iff answered signature now).mpr ⟨own, later, stored⟩)
          (fun opportunity among same => chosen ⟨opportunity, (isPushed opportunity).mp among, same⟩)
        exact Or.inr ((not_suppressed_iff stored).mp released now later stored)
  · intro selects
    refine ⟨fun candidate member approvable => ?_, fun signature now member others => ?_⟩
    · obtain ⟨opportunity, chosen⟩ := selects.first candidate member approvable
      exact ⟨opportunity, (isPushed opportunity).mpr chosen, chosen.2.1.mem, chosen.2.2⟩
    · obtain ⟨own, later, stored⟩ := (stored_iff answered signature now).mp member
      refine (not_suppressed_iff stored).mpr (fun since after again => ?_)
      rcases selects.expired signature since after own again with ⟨opportunity, chosen, same⟩ | expired
      · exact absurd same (others opportunity ((isPushed opportunity).mpr chosen))
      · exact expired

theorem runs_pollDirection (scans : scan.Scans config chain route pair gasPrice) :
    Runs (pollDirection config registry simulate chain route pair gasPrice) scan.events
      (.ok (scan.best.toList.filter
        (fun opportunity => isApproved (evaluateOpportunity registry simulate opportunity)))) :=
  runs_bind_ok.mpr ⟨scan.best, scan.events, [], (List.append_nil _).symm,
    runs_checkSingleDirection.mpr ⟨scan, scans, rfl, rfl⟩, .pure _⟩

end Poll

/-! ## A small probe behind a large one -/

/-- Ten thousand dollars come back as twenty-five thousand, and the largest probe as a fifth more,
unless it is not quoted. -/
def steepAnswer (quotesLarge : Bool) : (op : ScannerOp) → op.Answer
  | .quoteAmountOut _ _ _ amountIn =>
      if amountIn = 10000000000 then .ok 11000000000
      else if amountIn = 11000000000 then .ok 25000000000
      else if amountIn = 500000000000 ∧ quotesLarge = true then .ok 550000000000
      else if amountIn = 550000000000 then .ok 600000000000
      else .error ⟨false⟩
  | .call .. => .ok ()
  | .estimateGas .. => .ok 0
  | .batchGetUsdPrices _ => .ok .empty
  | .dedupe _ => some 0

/-- The revenue is more than the capital. -/
def smallOpportunity : ArbitrageOpportunity :=
  { dollarOpportunity with
    amountIn := 10000000000
    expectedIntermediateOut := 11000000000
    expectedAmountOut := 25000000000
    expectedRevenue := ⟨usdc, 15000000000, by decide⟩
    flashLoanFee := ⟨usdc, 9000000, by decide⟩
    slippageBuffer := ⟨usdc, 150000000, by decide⟩
    safetyBuffer := ⟨usdc, 75000000, by decide⟩
    capitalAtRisk := ⟨usdc, 10000000000, by decide⟩ }

/-- The revenue is more than that of the small one, but a fifth of the capital. -/
def largeOpportunity : ArbitrageOpportunity :=
  { dollarOpportunity with
    expectedAmountOut := 600000000000
    expectedRevenue := ⟨usdc, 100000000000, by decide⟩
    slippageBuffer := ⟨usdc, 1000000000, by decide⟩
    safetyBuffer := ⟨usdc, 500000000, by decide⟩ }

def steepTurn (quotesLarge : Bool) (amountIn : Int) (outcome : Option ArbitrageOpportunity) :
    Turn ScannerOp ScannerOp.Answer Int (Option ArbitrageOpportunity) :=
  ⟨amountIn, (probe defaultScanner .base dollarRoute dollarPair 1 amountIn).trace
    (steepAnswer quotesLarge), outcome⟩

def steepScan (quotesLarge : Bool) : DirectionScan where
  turns := [steepTurn quotesLarge 10000000000 (some smallOpportunity),
    steepTurn quotesLarge 25000000000 none, steepTurn quotesLarge 50000000000 none,
    steepTurn quotesLarge 500000000000 (if quotesLarge then some largeOpportunity else none)]
  thrown := none

theorem steepScan_scans (quotesLarge : Bool) :
    (steepScan quotesLarge).Scans defaultScanner .base dollarRoute dollarPair 1 := by
  have turns (amountIn : Int) := runs_trace (steepAnswer quotesLarge)
    (probe defaultScanner .base dollarRoute dollarPair 1 amountIn)
  refine ⟨?_, rfl⟩
  simp only [steepScan, List.forall_mem_cons]
  cases quotesLarge with
  | true => exact ⟨turns _, turns _, turns _, turns _, by simp⟩
  | false => exact ⟨turns _, turns _, turns _, turns _, by simp⟩

/-- The looks of the scan, all at one time. -/
def steepUses (quotesLarge : Bool) : List (Lately.Use Signature) :=
  .look 0 (signatureOf .base dollarRoute dollarPair 10000000000) ::
    if quotesLarge then [.look 0 (signatureOf .base dollarRoute dollarPair 500000000000)] else []

theorem steepUses_answered (quotesLarge : Bool) : Answered .base dollarRoute dollarPair 60000 .empty
    (steepUses quotesLarge) (steepScan quotesLarge).events := by
  unfold Answered
  cases quotesLarge with
  | true => decide +kernel
  | false => decide +kernel

/-- Where the large probe is not quoted, the small one is pushed. -/
theorem keepsApprovable_small :
    KeepsApprovable baseRegistry repeating .base dollarRoute dollarPair 60000 .empty (steepUses false)
      400 (steepScan false) [smallOpportunity] := by
  have approved : isApproved (evaluateOpportunity baseRegistry repeating smallOpportunity) = true := by
    decide +kernel
  have chosen : Chosen baseRegistry repeating (steepScan false) smallOpportunity :=
    ⟨rfl, ⟨[], [], rfl, by simp, by simp⟩, approved⟩
  have pushed : (steepScan false).best.toList.filter (fun opportunity =>
      isApproved (evaluateOpportunity baseRegistry repeating opportunity)) = [smallOpportunity] :=
    List.filter_cons_of_pos approved
  refine (keepsApprovable_iff (steepScan_scans false) (pushed ▸ runs_pollDirection
    (steepScan_scans false)) (steepUses_answered false)).mpr
      ⟨fun _ _ _ => ⟨smallOpportunity, chosen⟩, fun signature now later _ stored => Or.inl ⟨_, chosen, ?_⟩⟩
  rcases Lately.stored_cons.mp stored with ⟨same, _⟩ | ⟨_, impossible, _⟩
  · obtain ⟨_, same⟩ := Lately.Use.look.inj same
    exact same
  · simp at impossible

/-- Where it is quoted, it has the greater revenue and is rejected, and both are suppressed. -/
theorem large_probe_hides_small :
    ¬ ∀ (config : ArbitrageScannerConfig) (registry : ChainRegistry)
      (simulate : ProfitSimulationInput Int → Except RouteError (EthCallSimulationResult Int))
      (chain : SupportedChain) (route : Route) (pair : TokenPairConfig) (gasPrice : Int)
      (dedupeWindowMs : Int) (dedupe : InsertionMap Signature Int)
      (uses : List (Lately.Use Signature)) (next : Int) (scan : DirectionScan)
      (pushed : List ArbitrageOpportunity),
      scan.Scans config chain route pair gasPrice →
      Runs (pollDirection config registry simulate chain route pair gasPrice) scan.events
        (.ok pushed) →
      Answered chain route pair dedupeWindowMs dedupe uses scan.events →
        KeepsApprovable registry simulate chain route pair dedupeWindowMs dedupe uses next scan
          pushed := by
  intro claim
  have rejected : ¬ isApproved (evaluateOpportunity baseRegistry repeating largeOpportunity) = true := by
    decide +kernel
  have pushed : (steepScan true).best.toList.filter (fun opportunity =>
      isApproved (evaluateOpportunity baseRegistry repeating opportunity)) = [] :=
    List.filter_cons_of_neg rejected
  have keeps := claim defaultScanner baseRegistry repeating .base dollarRoute dollarPair 1 60000 .empty
    (steepUses true) 400 (steepScan true) [] (steepScan_scans true)
    (pushed ▸ runs_pollDirection (steepScan_scans true)) (steepUses_answered true)
  obtain ⟨_, none, _⟩ := keeps.pushes smallOpportunity (by simp [steepScan, DirectionScan.candidates,
    steepTurn]) (by decide +kernel)
  cases none

end ArbitrageScanner

end LiquidationBot
