import LiquidationBot.ArbitrageScanner
import LiquidationBot.Library.AsyncTurns
import LiquidationBot.Library.FirstGreatest

/-!
# The probes of a direction

A turn of the scan does not look at the best opportunity so far: it finds a candidate or
none, and the best of both is kept behind it. The scan of a direction is therefore a turn
for each probe, and then the first of the candidates with the greatest revenue. When a turn
throws outside its quotes, the candidates before it are lost.
-/

namespace LiquidationBot

namespace ArbitrageScanner

open Async FirstGreatest

/-- The events of a scan. -/
abbrev ScannerEvent := Event ScannerOp ScannerOp.Answer

/-- The result of an evaluation is an approval. -/
def isApproved : Except RouteError (ProfitabilityResult Int) → Bool
  | .ok (.approved ..) => true
  | _ => false

/-- The signature that a probe is stored under. -/
def signatureOf (chain : SupportedChain) (route : Route) (pair : TokenPairConfig) (amountIn : Int) :
    Signature :=
  ⟨chain, route.buyDex.name, route.sellDex.name, pair.symbolIn, pair.symbolOut, amountIn⟩

def revenueOf (opportunity : ArbitrageOpportunity) : Int := opportunity.expectedRevenue.raw

theorem better_eq (best : Option ArbitrageOpportunity) (candidate : ArbitrageOpportunity) :
    better best candidate = keepGreater revenueOf best candidate := by
  cases best <;> rfl

/-- A turn of the scan on its own: the candidate of one probe. -/
def probe (config : ArbitrageScannerConfig) (chain : SupportedChain) (route : Route)
    (pair : TokenPairConfig) (gasPrice amountIn : Int) : ScannerM (Option ArbitrageOpportunity) :=
  checkProbe config chain route pair gasPrice none amountIn

/-- The signatures that an event stores, with their time. -/
def storedIn : ScannerEvent → Option (Signature × Int)
  | ⟨.dedupe signature, answer⟩ => Option.map (fun now => (signature, now)) answer
  | _ => none

/-- The call leaves the signatures alone. -/
def ScannerOp.Stateless : ScannerOp → Prop
  | .dedupe _ => False
  | _ => True

section Turns

variable {config : ArbitrageScannerConfig} {chain : SupportedChain} {route : Route}
  {pair : TokenPairConfig} {gasPrice amountIn intermediate finalAmountOut : Int}
  {best : Option ArbitrageOpportunity} {events : List ScannerEvent}

/-! ## A turn does not look at the best so far -/

/-- The best of what was kept and what a turn found. -/
def keepBest (best found : Option ArbitrageOpportunity) : Option ArbitrageOpportunity :=
  found.toList.foldl better best

theorem bind_keepBest {α : Type} {program : ScannerM α}
    {rest alone : α → ScannerM (Option ArbitrageOpportunity)}
    (later : ∀ value, rest value = (alone value).bind (fun found => .pure (keepBest best found))) :
    program.bind rest = (program.bind alone).bind (fun found => .pure (keepBest best found)) := by
  rw [bind_assoc]
  congr 1
  funext value
  exact later value

theorem checkQuoted_eq :
    checkQuoted config chain route pair gasPrice best amountIn intermediate finalAmountOut =
      (checkQuoted config chain route pair gasPrice none amountIn intermediate
        finalAmountOut).bind (fun found => .pure (keepBest best found)) := by
  apply bind_keepBest
  rintro (_ | gasUsed)
  · rfl
  · apply bind_keepBest
    intro ev
    by_cases profits : ev.isProfitable = true
    · simp only [profits, Bool.not_true, Bool.false_eq_true, if_false]
      apply bind_keepBest
      rintro (_ | _)
      · apply bind_keepBest
        rintro (_ | now)
        · rfl
        · apply bind_keepBest
          intro candidate
          rfl
      · rfl
    · simp only [profits]
      rfl

theorem checkProbe_eq :
    checkProbe config chain route pair gasPrice best amountIn =
      (probe config chain route pair gasPrice amountIn).bind
        (fun found => .pure (keepBest best found)) := by
  apply bind_keepBest
  rintro (error | ⟨intermediate, finalAmountOut⟩)
  · rfl
  · by_cases loses : finalAmountOut ≤ amountIn
    · simp only [loses, if_true]
      rfl
    · simp only [loses, if_false]
      exact checkQuoted_eq

/-! ## What a turn finds -/

theorem quoteRoundTrip_stateless :
    (quoteRoundTrip route pair amountIn).Uses ScannerOp.Stateless := by
  have received_stateless : ∀ answer : Except Thrown Int,
      (received answer).Uses ScannerOp.Stateless := by
    rintro (_ | _)
    · trivial
    · trivial
  refine Uses.bind ⟨trivial, received_stateless⟩ (fun amount => ?_)
  exact Uses.bind ⟨trivial, received_stateless⟩ (fun _ => trivial)

theorem simulateCandidatePath_stateless :
    (simulateCandidatePath config chain route pair amountIn intermediate finalAmountOut
      gasPrice).Uses ScannerOp.Stateless := by
  unfold simulateCandidatePath
  split
  next =>
    refine (uses_orThrow _).bind (fun data => ⟨trivial, ?_⟩)
    rintro (_ | _)
    · trivial
    · simp only
      split
      next => trivial
      next =>
        refine ⟨trivial, ?_⟩
        rintro (_ | _)
        · trivial
        · trivial
  next => trivial

theorem belowExactUsd_stateless (input : ExactUsdEVInput) :
    (belowExactUsd config input).Uses ScannerOp.Stateless := by
  unfold belowExactUsd
  split
  next => trivial
  next =>
    refine (uses_orThrow _).bind (fun _ => Uses.bind ⟨trivial, ?_⟩ (fun prices => ?_))
    · rintro (_ | _)
      · trivial
      · trivial
    · exact (uses_orThrow _).bind (fun _ => trivial)

theorem storedIn_of_stateless (quiet : ∀ event ∈ events, ScannerOp.Stateless event.1) :
    events.filterMap storedIn = [] := by
  rw [List.filterMap_eq_nil_iff]
  rintro ⟨op, answer⟩ member
  cases op with
  | dedupe signature => exact (quiet _ member).elim
  | _ => rfl

/-- The probe gains, both estimates let it pass, and its signature was stored. -/
structure Passed (config : ArbitrageScannerConfig) (chain : SupportedChain) (route : Route)
    (pair : TokenPairConfig) (gasPrice amountIn : Int) (events : List ScannerEvent)
    (finalAmountOut gasEstimate now : Int) : Prop where
  gains : amountIn < finalAmountOut
  precheck : ∃ ev, calculateFlashLoanArbitrageEV (evInput config chain pair amountIn finalAmountOut
    gasEstimate gasPrice).toFlashLoanArbitrageInput = .ok ev ∧ ev.isProfitable = true
  exactCheck : ∃ checks, checks ⊆ events ∧ Runs (belowExactUsd config (evInput config chain pair
    amountIn finalAmountOut gasEstimate gasPrice)) checks (.ok false)
  stored : events.filterMap storedIn = [(signatureOf chain route pair amountIn, now)]

/-- The turn stores nothing and finds nothing. -/
def FindsNothing (events : List ScannerEvent)
    (result : Except ScannerError (Option ArbitrageOpportunity)) : Prop :=
  events.filterMap storedIn = [] ∧ ∀ opportunity, result ≠ .ok (some opportunity)

/-- The turn passes the checks, and its outcome is the opportunity that it builds. -/
def Finds (config : ArbitrageScannerConfig) (chain : SupportedChain) (route : Route)
    (pair : TokenPairConfig) (gasPrice amountIn : Int) (events : List ScannerEvent)
    (result : Except ScannerError (Option ArbitrageOpportunity)) : Prop :=
  ∃ intermediate finalAmountOut gasEstimate now,
    Passed config chain route pair gasPrice amountIn events finalAmountOut gasEstimate now ∧
      result = (buildOpportunity config chain route pair amountIn intermediate finalAmountOut
        gasEstimate (config.identifier (signatureOf chain route pair amountIn) now)).map some

variable {result : Except ScannerError (Option ArbitrageOpportunity)}

theorem Finds.append {earlier later : List ScannerEvent} (quiet : earlier.filterMap storedIn = [])
    (finds : Finds config chain route pair gasPrice amountIn later result) :
    Finds config chain route pair gasPrice amountIn (earlier ++ later) result := by
  obtain ⟨intermediate, finalAmountOut, gasEstimate, now, passed, built⟩ := finds
  obtain ⟨checks, among, run⟩ := passed.exactCheck
  refine ⟨intermediate, finalAmountOut, gasEstimate, now, ⟨passed.gains, passed.precheck,
    ⟨checks, fun event member => List.mem_append_right earlier (among member), run⟩, ?_⟩, built⟩
  rw [List.filterMap_append, quiet, List.nil_append]
  exact passed.stored

/-- A part of a turn that leaves the signatures alone comes before what the turn finds. -/
theorem finds_bind {α : Type} {program : ScannerM α}
    {rest : α → ScannerM (Option ArbitrageOpportunity)}
    (stateless : program.Uses ScannerOp.Stateless) (run : Runs (program.bind rest) events result)
    (found : ∀ value later, Runs (rest value) later result → FindsNothing later result ∨
      Finds config chain route pair gasPrice amountIn later result) :
    FindsNothing events result ∨ Finds config chain route pair gasPrice amountIn events result := by
  rcases runs_bind.mp run with ⟨error, thrown, rfl⟩ | ⟨value, earlier, later, rfl, first, after⟩
  · left
    exact ⟨storedIn_of_stateless (stateless.of_run thrown), fun _ impossible => by cases impossible⟩
  · have quiet := storedIn_of_stateless (stateless.of_run first)
    rcases found value later after with ⟨silent, nothing⟩ | finds
    · left
      refine ⟨?_, nothing⟩
      rw [List.filterMap_append, quiet, silent, List.append_nil]
    · exact Or.inr (finds.append quiet)

theorem findsNothing_pure {found : Option ArbitrageOpportunity} (nothing : found = none)
    (run : Runs (.pure found : ScannerM (Option ArbitrageOpportunity)) events result) :
    FindsNothing events result := by
  obtain ⟨rfl, rfl⟩ := runs_pure.mp run
  subst nothing
  exact ⟨rfl, fun _ impossible => by cases impossible⟩

/-- The signature is stored, and the turn ends with the opportunity that it builds. -/
theorem runs_store {identifier : Int → OpportunityId} {gasEstimate : Int}
    {rest : Option Int → ScannerM (Option ArbitrageOpportunity)} (seen : rest none = .pure none)
    (unseen : ∀ now, rest (some now) = (orThrow (buildOpportunity config chain route pair amountIn
      intermediate finalAmountOut gasEstimate (identifier now))).bind
        (fun candidate => .pure (better none candidate)))
    (run : Runs ((perform (ScannerOp.dedupe (signatureOf chain route pair amountIn)) :
      ScannerM (Option Int)).bind rest) events result) :
    FindsNothing events result ∨
      ∃ now, events.filterMap storedIn = [(signatureOf chain route pair amountIn, now)] ∧
        result = (buildOpportunity config chain route pair amountIn intermediate finalAmountOut
          gasEstimate (identifier now)).map some := by
  obtain ⟨stored, after, rfl, resumed⟩ := runs_call.mp run
  rw [pure_bind] at resumed
  cases stored with
  | none =>
    rw [seen] at resumed
    obtain ⟨rfl, rfl⟩ := runs_pure.mp resumed
    exact Or.inl ⟨rfl, fun _ impossible => by cases impossible⟩
  | some now =>
    right
    refine ⟨now, ?_⟩
    rw [unseen] at resumed
    rcases runs_bind.mp resumed with ⟨error, thrown, rfl⟩ | ⟨candidate, _, _, rfl, first, last⟩
    · obtain ⟨rfl, failed⟩ := runs_orThrow.mp thrown
      exact ⟨rfl, by rw [← failed]; rfl⟩
    · obtain ⟨rfl, built⟩ := runs_orThrow.mp first
      obtain ⟨rfl, rfl⟩ := runs_pure.mp last
      exact ⟨rfl, by rw [← built]; rfl⟩

theorem checkQuoted_cases (gains : amountIn < finalAmountOut)
    (run : Runs (checkQuoted config chain route pair gasPrice none amountIn intermediate
      finalAmountOut) events result) :
    FindsNothing events result ∨ Finds config chain route pair gasPrice amountIn events result := by
  apply finds_bind simulateCandidatePath_stateless run
  intro simulation events run
  cases simulation with
  | none => exact Or.inl (findsNothing_pure rfl run)
  | some gasUsed =>
    rcases runs_bind.mp run with ⟨error, thrown, rfl⟩ | ⟨ev, _, following, rfl, precheck, judged⟩
    · obtain ⟨rfl, _⟩ := runs_orThrow.mp thrown
      exact Or.inl ⟨rfl, fun _ impossible => by cases impossible⟩
    · obtain ⟨rfl, answered⟩ := runs_orThrow.mp precheck
      rw [List.nil_append]
      by_cases profits : ev.isProfitable = true
      · simp only [profits, Bool.not_true, Bool.false_eq_true, if_false] at judged
        have stateless : (belowExactUsd config (evInput config chain pair amountIn finalAmountOut
            (if 0 < gasUsed then gasUsed else config.flashLoanGasEstimate) gasPrice)).Uses
              ScannerOp.Stateless := belowExactUsd_stateless _
        rcases runs_bind.mp judged with ⟨error, thrown, rfl⟩ | ⟨below, checks, later, rfl, exact, last⟩
        · exact Or.inl ⟨storedIn_of_stateless (stateless.of_run thrown),
            fun _ impossible => by cases impossible⟩
        · have quiet := storedIn_of_stateless (stateless.of_run exact)
          cases below with
          | true =>
            obtain ⟨rfl, rfl⟩ := runs_pure.mp last
            rw [List.append_nil]
            exact Or.inl ⟨quiet, fun _ impossible => by cases impossible⟩
          | false =>
            simp only [Bool.false_eq_true, if_false] at last
            rcases runs_store rfl (fun now => rfl) last with ⟨silent, nothing⟩ | ⟨now, stored, built⟩
            · left
              refine ⟨?_, nothing⟩
              rw [List.filterMap_append, quiet, silent, List.append_nil]
            · right
              refine ⟨intermediate, finalAmountOut, _, now, ⟨gains, ⟨ev, answered.symm, profits⟩,
                ⟨checks, fun event member => List.mem_append_left later member, exact⟩, ?_⟩, built⟩
              rw [List.filterMap_append, quiet, List.nil_append]
              exact stored
      · simp only [profits] at judged
        exact Or.inl (findsNothing_pure rfl judged)

/-- A turn finds and stores nothing, or it passes the checks and stores its signature. -/
theorem probe_cases (run : Runs (probe config chain route pair gasPrice amountIn) events result) :
    FindsNothing events result ∨ Finds config chain route pair gasPrice amountIn events result := by
  have stateless : (quoteRoundTrip route pair amountIn).attempt.Uses ScannerOp.Stateless :=
    quoteRoundTrip_stateless.attempt
  apply finds_bind stateless run
  rintro (error | ⟨intermediate, finalAmountOut⟩) events run
  · exact Or.inl (findsNothing_pure rfl run)
  · by_cases loses : finalAmountOut ≤ amountIn
    · simp only [loses, if_true] at run
      exact Or.inl (findsNothing_pure rfl run)
    · simp only [loses, if_false] at run
      exact checkQuoted_cases (not_le.mp loses) run

end Turns

/-! ## The scan of a direction, turn by turn -/

/-- The turns of a scan that came to an end, and the calls of the one that threw. -/
structure DirectionScan where
  turns : List (Turn ScannerOp ScannerOp.Answer Int (Option ArbitrageOpportunity))
  thrown : Option (List ScannerEvent)

namespace DirectionScan

variable (scan : DirectionScan)

def events : List ScannerEvent := scan.turns.flatMap Turn.events ++ scan.thrown.getD []

/-- The opportunities of the probes that passed the checks and were not suppressed. -/
def candidates : List ArbitrageOpportunity := scan.turns.filterMap Turn.outcome

/-- A scan in which a turn throws comes to nothing. -/
def best : Option ArbitrageOpportunity :=
  match scan.thrown with
  | none => scan.candidates.foldl better none
  | some _ => none

/-- Every probe had its turn, up to one that threw. -/
structure Scans (config : ArbitrageScannerConfig) (chain : SupportedChain) (route : Route)
    (pair : TokenPairConfig) (gasPrice : Int) (scan : DirectionScan) : Prop where
  ran : ∀ turn ∈ scan.turns, turn.Ran (probe config chain route pair gasPrice)
  covers : match scan.thrown with
    | none => scan.turns.map Turn.item = probeAmountsIn config chain pair true
    | some thrown => ∃ amountIn rest error,
        probeAmountsIn config chain pair true = scan.turns.map Turn.item ++ amountIn :: rest ∧
          Runs (probe config chain route pair gasPrice amountIn) thrown (.error error)

end DirectionScan

section Scan

variable {config : ArbitrageScannerConfig} {chain : SupportedChain} {route : Route}
  {pair : TokenPairConfig} {gasPrice : Int} {events : List ScannerEvent}

theorem foldl_better (candidates : List ArbitrageOpportunity) (best : Option ArbitrageOpportunity) :
    candidates.foldl better best = candidates.foldl (keepGreater revenueOf) best := by
  congr 1
  funext kept candidate
  exact better_eq kept candidate

theorem foldlM_checkProbe_eq (probes : List Int) :
    probes.foldlM (checkProbe config chain route pair gasPrice) none =
      (collect (probe config chain route pair gasPrice) (fun _ found => found.toList) [] probes).bind
        (fun candidates => .pure (candidates.foldl better none)) := by
  have steps : ∀ best amountIn, checkProbe config chain route pair gasPrice best amountIn =
      (probe config chain route pair gasPrice amountIn).bind
        (fun found => .pure (found.toList.foldl better best)) := fun _ _ => checkProbe_eq
  exact foldlM_eq_collect steps none []

theorem flatMap_outcome
    (turns : List (Turn ScannerOp ScannerOp.Answer Int (Option ArbitrageOpportunity))) :
    turns.flatMap (fun made => made.outcome.toList) = turns.filterMap Turn.outcome := by
  induction turns with
  | nil => rfl
  | cons made turns inductionHypothesis =>
    rw [List.flatMap_cons, List.filterMap_cons, inductionHypothesis]
    cases made.outcome <;> rfl

/-- The scan of a direction is its turns, and its result the best of their candidates. -/
theorem runs_checkSingleDirection {result : Except ScannerError (Option ArbitrageOpportunity)} :
    Runs (checkSingleDirection config chain route pair gasPrice) events result ↔
      ∃ scan : DirectionScan, scan.Scans config chain route pair gasPrice ∧ events = scan.events ∧
        result = .ok scan.best := by
  rw [checkSingleDirection, foldlM_checkProbe_eq, runs_handle]
  constructor
  · rintro (⟨value, run, rfl⟩ | ⟨error, earlier, later, rfl, run, after⟩)
    · obtain ⟨candidates, earlier, later, rfl, collected, kept⟩ := runs_bind_ok.mp run
      obtain ⟨turns, covers, ran, rfl, rfl⟩ := runs_collect.mp collected
      obtain ⟨rfl, same⟩ := runs_pure.mp kept
      refine ⟨⟨turns, none⟩, ⟨ran, covers⟩, rfl, ?_⟩
      rw [same, List.nil_append, flatMap_outcome]
      rfl
    · obtain ⟨rfl, rfl⟩ := runs_pure.mp after
      rcases runs_bind.mp run with ⟨same, collected, thrown⟩ | ⟨_, _, _, _, _, kept⟩
      · cases thrown
        obtain ⟨turns, amountIn, rest, thrown, covers, ran, ended, rfl⟩ :=
          runs_collect_error.mp collected
        exact ⟨⟨turns, some thrown⟩, ⟨ran, amountIn, rest, error, covers, ended⟩, by
          rw [List.append_nil]; rfl, rfl⟩
      · cases (runs_pure.mp kept).2
  · rintro ⟨⟨turns, thrown⟩, scans, rfl, rfl⟩
    cases thrown with
    | none =>
      refine Or.inl ⟨_, runs_bind_ok.mpr ⟨turns.filterMap Turn.outcome, _, [], rfl, ?_, .pure _⟩, rfl⟩
      refine runs_collect.mpr ⟨turns, scans.covers, scans.ran, rfl, ?_⟩
      rw [List.nil_append, flatMap_outcome]
    | some thrown =>
      obtain ⟨amountIn, rest, error, covers, ended⟩ := scans.covers
      refine Or.inr ⟨error, _, [], (List.append_nil _).symm, ?_, .pure none⟩
      exact runs_bind.mpr (Or.inl ⟨error, runs_collect_error.mpr
        ⟨turns, amountIn, rest, thrown, covers, scans.ran, ended, rfl⟩, rfl⟩)

/-- What a scan returns is one of its candidates, with the greatest revenue. -/
theorem DirectionScan.best_eq_some_iff (scan : DirectionScan) (opportunity : ArbitrageOpportunity) :
    scan.best = some opportunity ↔
      scan.thrown = none ∧ IsFirst revenueOf scan.candidates opportunity := by
  unfold best
  cases scan.thrown with
  | none =>
    rw [foldl_better, foldl_keepGreater_eq_some_iff]
    simp
  | some thrown => simp

/-- A candidate passed the checks of its turn, which built it. -/
theorem DirectionScan.Scans.found {scan : DirectionScan}
    (scans : scan.Scans config chain route pair gasPrice) {opportunity : ArbitrageOpportunity}
    (candidate : opportunity ∈ scan.candidates) :
    ∃ turn ∈ scan.turns, turn.outcome = some opportunity ∧
      ∃ intermediate finalAmountOut gasEstimate now,
        Passed config chain route pair gasPrice turn.item turn.events finalAmountOut gasEstimate now ∧
          buildOpportunity config chain route pair turn.item intermediate finalAmountOut gasEstimate
            (config.identifier (signatureOf chain route pair turn.item) now) = .ok opportunity := by
  obtain ⟨turn, member, found⟩ := List.mem_filterMap.mp candidate
  have run := scans.ran turn member
  rw [Turn.Ran, found] at run
  rcases probe_cases run with ⟨_, nothing⟩ | ⟨intermediate, finalAmountOut, gasEstimate, now, passed,
    result⟩
  · exact absurd rfl (nothing opportunity)
  · refine ⟨turn, member, found, intermediate, finalAmountOut, gasEstimate, now, passed, ?_⟩
    cases built : buildOpportunity config chain route pair turn.item intermediate finalAmountOut
      gasEstimate (config.identifier (signatureOf chain route pair turn.item) now) with
    | error error =>
      rw [built] at result
      cases result
    | ok same =>
      rw [built] at result
      cases result
      rfl

end Scan

end ArbitrageScanner

end LiquidationBot
