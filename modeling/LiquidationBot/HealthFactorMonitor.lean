import LiquidationBot.Library.AsyncPool
import LiquidationBot.HealthPolicy
import LiquidationBot.LiquidationEconomics

/-!
# The health-factor monitor

A scan asks the subgraph for one page of position rows, reads the account of
every row's borrower, and keeps what is liquidatable, worth it and not cooling
down. A borrower has a row for each asset it owes, so a page may name it several
times. When a candidate was last returned is noted for all candidates of a scan
together, at the scan's end.
-/

namespace LiquidationBot

/-- `AaveReservePair`. The repay value is a float in the source and exact here. -/
structure AaveReservePair where
  collateralAsset : Address
  debtAsset : Address
  defaultDebtToCoverWei : Nat
  repayValueUsd : ℚ
  liquidationBonusBps : Int
deriving DecidableEq

/-- `BorrowerPage`: the ids of its rows, if it has the field. -/
structure BorrowerPage where
  positions : Option (List String)
deriving DecidableEq

/-- `ViemAaveV3Protocol`, by what a scan reads of it. -/
structure AaveScanner where
  reservePairs : List AaveReservePair
  hasGraphClient : Bool
  borrowerPageSize : Nat
deriving DecidableEq

/-- `HealthFactorMonitorConfig`. A resolver is there or not; what it resolves to is
an answer from outside. -/
structure HealthFactorMonitorConfig where
  protocol : AaveScanner
  candidateCooldownMs : ℚ
  minProfitUsd : ℚ
  gasCostUsd : ℚ
  resolvesGasCost : Bool
  slippageBps : ℚ
  resolvesSlippage : Bool
  minLiquidationDebtUsd : Option ℚ
  resolvesDebt : Bool
deriving DecidableEq

/-- Why a scan throws. -/
inductive ScanError where
  | noGraphClient
  | noReservePair
  | outside
  | notANumber (field : EvField)
deriving DecidableEq

/-- The reasons of `evaluateDustFilter`. -/
inductive DustFilterReason where
  | non_positive_debt
  | below_min_debt
  | below_gas_multiple
deriving DecidableEq

/-- `evaluateDustFilter`, with no debt for one that is not a finite number. The
reason is none for a debt that is not dust. -/
def evaluateDustFilter (debtUsd : Option ℚ) (minDebtUsd gasCostUsd : ℚ) :
    Option DustFilterReason :=
  match debtUsd with
  | none => some .non_positive_debt
  | some debt =>
      if debt ≤ 0 then some .non_positive_debt
      else if debt < minDebtUsd then some .below_min_debt
      else if 0 < gasCostUsd ∧ debt < gasCostUsd * 2 then some .below_gas_multiple
      else none

/-! ## Borrower pages -/

namespace AaveScanner

/-- `ZERO_CURSOR_ID`. -/
def ZERO_CURSOR_ID : String := "0x0000000000000000000000000000000000000000"

def extractAddressFromPositionId (positionId : String) : List Char :=
  positionId.toList.takeWhile (fun char => char ≠ '-')

def hexDigit (char : Char) : Option Nat :=
  if '0' ≤ char ∧ char ≤ '9' then some (char.toNat - '0'.toNat)
  else if 'a' ≤ char ∧ char ≤ 'f' then some (char.toNat - 'a'.toNat + 10)
  else none

/-- The lower-case address of forty hex digits. -/
def asAddress : List Char → Option Address
  | '0' :: 'x' :: digits =>
      if digits.length = 40 then
        (digits.mapM hexDigit).map (fun values =>
          ⟨BitVec.ofNat 160 (values.foldl (fun value digit => 16 * value + digit) 0), 0⟩)
      else none
  | _ => none

/-- The borrower of each row. No letter beyond ASCII has a hex digit or an x as its
lower case. -/
def extractBorrowerAddresses (page : BorrowerPage) : List Address :=
  (page.positions.getD []).filterMap (fun row =>
    asAddress ((extractAddressFromPositionId row).map Char.toLower))

def borrowerPageRowCount (page : BorrowerPage) : Nat := (page.positions.getD []).length

def lastBorrowerPageCursorId (page : BorrowerPage) : Option String :=
  (page.positions.getD []).getLast?

end AaveScanner

/-! ## Calls of a scan -/

/-- `candidateKey`. -/
structure CandidateKey where
  account : Address
  collateralAsset : Address
  debtAsset : Address
deriving DecidableEq

def candidateKey (candidate : LiquidationCandidate) : CandidateKey :=
  ⟨candidate.account, candidate.collateralAsset, candidate.debtAsset⟩

/-- Reads from outside, and the steps of a scan on the objects that scans share.
`fetchBorrowerPage` reads the cursor, `settle` resumes the loop with a verdict. -/
inductive ScanOp where
  | resolveDynamicGasCostUsd
  | resolveDynamicSlippageBps
  | fetchBorrowerPage (first : Nat)
  | getUserAccount (account : Address)
  | setBorrowerCursor (cursorId : String)
  | resolveDebtUsd (candidate : LiquidationCandidate)
  | isCoolingDown (key : CandidateKey) (now : ℚ)
  | settle (key : CandidateKey) (executable : Bool)
  | noteCandidates (keys : List CandidateKey) (now : ℚ)
deriving DecidableEq

/-- A resolver answers no number for one that is not finite. -/
@[reducible] def ScanOp.Answer : ScanOp → Type
  | .resolveDynamicGasCostUsd => Except ScanError (Option ℚ)
  | .resolveDynamicSlippageBps => Except ScanError (Option ℚ)
  | .fetchBorrowerPage _ => Except ScanError BorrowerPage
  | .getUserAccount _ => Except ScanError UserAccountData
  | .setBorrowerCursor _ => Unit
  | .resolveDebtUsd _ => Except ScanError (Option ℚ)
  | .isCoolingDown _ _ => Bool
  | .settle _ _ => Unit
  | .noteCandidates _ _ => Unit

abbrev ScanM := Async ScanOp ScanOp.Answer ScanError

/-- What a scan returns, with the time that it was given. -/
structure ScanResult where
  now : ℚ
  candidates : List LiquidationCandidate
deriving DecidableEq

namespace HealthFactorMonitor

/-! ## The program -/

def getUserAccount (account : Address) : ScanM UserAccountData :=
  .call (.getUserAccount account) Async.orThrow

def firstReservePair (protocol : AaveScanner) : Except ScanError AaveReservePair :=
  match protocol.reservePairs with
  | [] => .error .noReservePair
  | pair :: _ => .ok pair

def toLiquidationCandidate (account : Address) (data : UserAccountData) (pair : AaveReservePair) :
    LiquidationCandidate where
  account := account
  collateralAsset := pair.collateralAsset
  debtAsset := pair.debtAsset
  debtToCover := pair.defaultDebtToCoverWei
  repayValueUsd := pair.repayValueUsd
  liquidationBonusBps := pair.liquidationBonusBps
  healthFactor := data.healthFactor

/-- The loop of `getLiquidatablePositions` over the borrowers. -/
def readPositions (protocol : AaveScanner) : List Address → ScanM (List LiquidationCandidate)
  | [] => return []
  | account :: rest => do
      let data ← getUserAccount account
      if data.healthFactor < WAD then
        let pair ← Async.orThrow (firstReservePair protocol)
        let later ← readPositions protocol rest
        return toLiquidationCandidate account data pair :: later
      readPositions protocol rest

def getLiquidatablePositions (protocol : AaveScanner) : ScanM (List LiquidationCandidate) := do
  if !protocol.hasGraphClient then
    Async.throw .noGraphClient
  let page ← (.call (.fetchBorrowerPage protocol.borrowerPageSize) Async.orThrow : ScanM _)
  let positions ← readPositions protocol (AaveScanner.extractBorrowerAddresses page)
  Async.perform (ScanOp.setBorrowerCursor
    (if AaveScanner.borrowerPageRowCount page < protocol.borrowerPageSize then
      AaveScanner.ZERO_CURSOR_ID
    else (AaveScanner.lastBorrowerPageCursorId page).getD AaveScanner.ZERO_CURSOR_ID))
  return positions

/-- A resolved number, or the configured one if it fails or is no amount. -/
def resolvedOr (configured : ℚ) : Except ScanError (Option ℚ) → ℚ
  | .ok (some resolved) => if 0 ≤ resolved then resolved else configured
  | _ => configured

def resolveGasCostUsd (config : HealthFactorMonitorConfig) : ScanM ℚ :=
  if config.resolvesGasCost then
    .call .resolveDynamicGasCostUsd (fun answer => .pure (resolvedOr config.gasCostUsd answer))
  else .pure config.gasCostUsd

def resolveSlippageBps (config : HealthFactorMonitorConfig) : ScanM ℚ :=
  if config.resolvesSlippage then
    .call .resolveDynamicSlippageBps (fun answer => .pure (resolvedOr config.slippageBps answer))
  else .pure config.slippageBps

/-- The debt that the dust filter looks at. -/
def debtUsd (config : HealthFactorMonitorConfig) (candidate : LiquidationCandidate) :
    ScanM (Option ℚ) :=
  if config.resolvesDebt then .call (.resolveDebtUsd candidate) Async.orThrow
  else .pure (some candidate.repayValueUsd)

def passesDustFilter (config : HealthFactorMonitorConfig) (candidate : LiquidationCandidate)
    (gasCostUsd : ℚ) : ScanM Bool :=
  match config.minLiquidationDebtUsd with
  | none => .pure true
  | some minDebtUsd => do
      let debt ← debtUsd config candidate
      return (evaluateDustFilter debt minDebtUsd gasCostUsd).isNone

/-- `calculateLiquidationEv` of a candidate. -/
def liquidationEv (config : HealthFactorMonitorConfig) (candidate : LiquidationCandidate)
    (gasCostUsd slippageBps : ℚ) : Except ScanError LiquidationEv :=
  (calculateLiquidationEv ⟨candidate.repayValueUsd, candidate.liquidationBonusBps, gasCostUsd,
    slippageBps, config.minProfitUsd⟩).mapError ScanError.notANumber

/-- `isExecutableCandidate`, from the check of the cooldown on. -/
def judged (config : HealthFactorMonitorConfig) (candidate : LiquidationCandidate)
    (gasCostUsd slippageBps : ℚ) : ScanM Bool := do
  let passes ← passesDustFilter config candidate gasCostUsd
  if !passes then return false
  let ev ← Async.orThrow (liquidationEv config candidate gasCostUsd slippageBps)
  return ev.isProfitable

def isExecutableCandidate (config : HealthFactorMonitorConfig) (candidate : LiquidationCandidate)
    (now gasCostUsd slippageBps : ℚ) : ScanM Bool := do
  if WAD ≤ candidate.healthFactor then return false
  let cooling ← Async.perform (ScanOp.isCoolingDown (candidateKey candidate) now)
  if cooling then return false
  judged config candidate gasCostUsd slippageBps

/-- The loop of `scanOnce` over the positions. -/
def executableCandidates (config : HealthFactorMonitorConfig) (now gasCostUsd slippageBps : ℚ) :
    List LiquidationCandidate → List LiquidationCandidate → ScanM (List LiquidationCandidate)
  | candidates, [] => return candidates
  | candidates, position :: rest => do
      let executable ← isExecutableCandidate config position now gasCostUsd slippageBps
      Async.perform (ScanOp.settle (candidateKey position) executable)
      executableCandidates config now gasCostUsd slippageBps
        (if executable then candidates ++ [position] else candidates) rest

def scanOnce (config : HealthFactorMonitorConfig) (now : ℚ) : ScanM ScanResult := do
  let gasCostUsd ← resolveGasCostUsd config
  let slippageBps ← resolveSlippageBps config
  let positions ← getLiquidatablePositions config.protocol
  let candidates ← executableCandidates config now gasCostUsd slippageBps [] positions
  Async.perform (ScanOp.noteCandidates (candidates.map candidateKey) now)
  return ⟨now, candidates⟩

end HealthFactorMonitor

/-! ## The objects that scans share -/

/-- `lastCandidateAt` of the monitor and `lastBorrowerCursorId` of its protocol. -/
structure MonitorWorld where
  lastCandidateAt : InsertionMap CandidateKey ℚ
  lastBorrowerCursorId : String

/-- What the outside answers. The subgraph is asked for rows after a cursor. -/
structure MonitorOracle where
  number : Except ScanError (Option ℚ)
  subgraph : Nat → String → Except ScanError BorrowerPage
  account : Address → Except ScanError UserAccountData

namespace HealthFactorMonitor

def isCoolingDown (config : HealthFactorMonitorConfig) (world : MonitorWorld) (key : CandidateKey)
    (now : ℚ) : Bool :=
  match world.lastCandidateAt.get? key with
  | none => false
  | some lastSeen => decide (now - lastSeen < config.candidateCooldownMs)

/-- Note every key, one after the other. -/
def noteCandidates (lastCandidateAt : InsertionMap CandidateKey ℚ) (keys : List CandidateKey)
    (now : ℚ) : InsertionMap CandidateKey ℚ :=
  keys.foldl (fun noted key => noted.set key now) lastCandidateAt

/-- No call has to wait for another scan. -/
def serve (config : HealthFactorMonitorConfig) :
    Server MonitorOracle MonitorWorld ScanOp ScanOp.Answer :=
  fun oracle world op => match op with
    | .resolveDynamicGasCostUsd => some (world, oracle.number)
    | .resolveDynamicSlippageBps => some (world, oracle.number)
    | .fetchBorrowerPage first =>
        some (world, oracle.subgraph first world.lastBorrowerCursorId)
    | .getUserAccount account => some (world, oracle.account account)
    | .setBorrowerCursor cursorId => some ({ world with lastBorrowerCursorId := cursorId }, ())
    | .resolveDebtUsd _ => some (world, oracle.number)
    | .isCoolingDown key now => some (world, isCoolingDown config world key now)
    | .settle _ _ => some (world, ())
    | .noteCandidates keys now =>
        some ({ world with lastCandidateAt := noteCandidates world.lastCandidateAt keys now }, ())

/-- A new monitor with its protocol. -/
def initialWorld : MonitorWorld := ⟨.empty, AaveScanner.ZERO_CURSOR_ID⟩

theorem isCoolingDown_eq_false_iff {config : HealthFactorMonitorConfig} {world : MonitorWorld}
    {key : CandidateKey} {now : ℚ} :
    isCoolingDown config world key now = false ↔ ∀ last,
      world.lastCandidateAt.get? key = some last → config.candidateCooldownMs ≤ now - last := by
  simp only [isCoolingDown]
  split
  next absent => simp [absent]
  next last found => simp [found]

theorem get?_noteCandidates (lastCandidateAt : InsertionMap CandidateKey ℚ)
    (keys : List CandidateKey) (now : ℚ) (key : CandidateKey) :
    (noteCandidates lastCandidateAt keys now).get? key =
      if key ∈ keys then some now else lastCandidateAt.get? key := by
  induction keys generalizing lastCandidateAt with
  | nil => simp [noteCandidates]
  | cons first rest inductionHypothesis =>
    have remaining := inductionHypothesis (lastCandidateAt.set first now)
    simp only [noteCandidates] at remaining
    rw [InsertionMap.get?_set] at remaining
    simp only [noteCandidates, List.foldl_cons, remaining]
    by_cases later : key ∈ rest
    · simp [later]
    · by_cases here : key = first
      · simp [here]
      · simp [later, here]

end HealthFactorMonitor

end LiquidationBot
