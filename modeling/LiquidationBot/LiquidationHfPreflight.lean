import LiquidationBot.HealthPolicy
import LiquidationBot.LiquidationExecutionAdapter

/-!
# The health factor before a broadcast

The last check before a broadcast reads the head of the chain and the account
data of the request's account, and refuses when the account is not liquidatable.
The request's account is the wallet. The check therefore judges the borrower only
on chain states where wallet and borrower stand on the same side of one.
-/

namespace LiquidationBot

/-- Reads of the check. -/
inductive PreflightRead where
  | getBlockNumber
  | getUserAccountData (account : Address)

@[reducible] def PreflightRead.Answer : PreflightRead → Type
  | .getBlockNumber => Except Thrown Nat
  | .getUserAccountData _ => Except Thrown UserAccountData

abbrev PreflightM := Async PreflightRead PreflightRead.Answer Thrown

/-- `LiquidationHfPreflightResult`. -/
inductive LiquidationHfPreflightResult where
  | ok (healthFactor head : Nat)
  | refused (reason : BroadcastRejectReason) (healthFactor : Option Nat) (head : Nat)
deriving DecidableEq

namespace LiquidationHfPreflight

def getBlockNumber : PreflightM Nat := .call .getBlockNumber Async.orThrow

def getUserAccountData (account : Address) : PreflightM UserAccountData :=
  .call (.getUserAccountData account) Async.orThrow

/-- `validateLiquidatableHealthFactor`. -/
def validateLiquidatableHealthFactor (account : Address) (detectionBlock : Option Nat) :
    PreflightM LiquidationHfPreflightResult := do
  let head ← getBlockNumber
  if detectionBlock.any (fun block : Nat => (block : Int) < (head : Int) - 1) then
    return .refused .detection_block_stale none head
  let data ← getUserAccountData account
  if WAD ≤ data.healthFactor then
    return .refused .hf_not_liquidatable (some data.healthFactor) head
  return .ok data.healthFactor head

/-- The hook `rejectBeforeBroadcast` of `buildPipelineBot`. -/
def rejectBeforeBroadcast (latestKnownBlock : Nat) (request : SafeExecutionRequest) :
    PreflightM (Option BroadcastRejectReason) := do
  let hfCheck ← validateLiquidatableHealthFactor request.account
    (if 0 < latestKnownBlock then some latestKnownBlock else none)
  match hfCheck with
  | .ok _ _ => return none
  | .refused reason _ _ => return some reason

/-- A chain state: the head, and the account data of every account. -/
structure ChainState where
  head : Nat
  accountData : BitVec 160 → UserAccountData

namespace ChainState

def healthFactor (state : ChainState) (account : Address) : Nat :=
  (state.accountData account.value).healthFactor

/-- The node's answers on one chain state. -/
def answer (state : ChainState) : (op : PreflightRead) → op.Answer
  | .getBlockNumber => .ok state.head
  | .getUserAccountData account => .ok (state.accountData account.value)

end ChainState

/-- The check on one chain state. -/
def validated (state : ChainState) (account : Address) (detectionBlock : Option Nat) :
    LiquidationHfPreflightResult :=
  if detectionBlock.any (fun block : Nat => (block : Int) < (state.head : Int) - 1) then
    .refused .detection_block_stale none state.head
  else if WAD ≤ state.healthFactor account then
    .refused .hf_not_liquidatable (some (state.healthFactor account)) state.head
  else .ok (state.healthFactor account) state.head

/-- The program of the check computes the check. -/
theorem evaluate_validate (state : ChainState) (account : Address) (detectionBlock : Option Nat) :
    (validateLiquidatableHealthFactor account detectionBlock).evaluate state.answer =
      .ok (validated state account detectionBlock) := by
  have head : getBlockNumber.evaluate state.answer = .ok state.head := rfl
  have data : (getUserAccountData account).evaluate state.answer =
      .ok (state.accountData account.value) := rfl
  unfold validateLiquidatableHealthFactor validated
  rw [Async.bind_eq, Async.evaluate_bind, head]
  dsimp only
  split
  · rfl
  · rw [Async.bind_eq, Async.evaluate_bind, data]
    by_cases healthy : WAD ≤ state.healthFactor account
    · rw [if_pos healthy]
      exact congrArg _ (if_pos healthy)
    · rw [if_neg healthy]
      exact congrArg _ (if_neg healthy)

/-- With a head at most one block past the last known one, the hook judges the
health factor of the request's account. -/
theorem evaluate_rejectBeforeBroadcast (state : ChainState) (latestKnownBlock : Nat)
    (request : SafeExecutionRequest) (near : state.head ≤ latestKnownBlock + 1) :
    (rejectBeforeBroadcast latestKnownBlock request).evaluate state.answer =
      .ok (if WAD ≤ state.healthFactor request.account then some .hf_not_liquidatable else none) := by
  have fresh : (if 0 < latestKnownBlock then some latestKnownBlock else none).any
      (fun block : Nat => (block : Int) < (state.head : Int) - 1) = false := by
    split
    · simp only [Option.any_some, decide_eq_false_iff_not]
      omega
    · rfl
  rw [rejectBeforeBroadcast, Async.bind_eq, Async.evaluate_bind, evaluate_validate, validated, fresh]
  by_cases healthy : WAD ≤ state.healthFactor request.account
  · rw [if_pos healthy, if_pos healthy]
    rfl
  · rw [if_neg healthy, if_neg healthy]
    rfl

/-- The hook judges the borrower's health factor exactly on the chain states
where the wallet's lies on the same side of one. -/
theorem hook_judges_borrower_iff (chain : SupportedChain) (candidate : LiquidationCandidate)
    (config : LiquidationExecutionAdapterConfig) (request : SafeExecutionRequest)
    (built : buildLiquidationExecutionRequest chain candidate config = .ok request)
    (state : ChainState) (latestKnownBlock : Nat) (near : state.head ≤ latestKnownBlock + 1) :
    ((rejectBeforeBroadcast latestKnownBlock request).evaluate state.answer = .ok none ↔
        state.healthFactor candidate.account < WAD) ↔
      (state.healthFactor config.account < WAD ↔ state.healthFactor candidate.account < WAD) := by
  obtain ⟨_, wallet, _⟩ := buildLiquidationExecutionRequest_eq_ok built
  have passes : (rejectBeforeBroadcast latestKnownBlock request).evaluate state.answer = .ok none ↔
      state.healthFactor config.account < WAD := by
    rw [evaluate_rejectBeforeBroadcast state latestKnownBlock request near, wallet]
    split
    next healthy => simp [healthy]
    next unhealthy => simp [not_le.mp unhealthy]
  rw [passes]

/-- A borrower at 0.9, collateral worth 900 at a threshold of one, debt 1000. -/
def borrowerAtRisk : UserAccountData :=
  ⟨90000000000, 100000000000, 0, 10000, 7500, 900000000000000000⟩

/-- An account without debt, with the pool's maximal health factor. -/
def withoutDebt : UserAccountData := ⟨0, 0, 0, 0, 0, 2 ^ 256 - 1⟩

/-- Block one hundred, with one borrower at risk and nobody else in debt. -/
def stateAtRisk : ChainState where
  head := 100
  accountData := fun account => if account = 1 then borrowerAtRisk else withoutDebt

def candidateAtRisk : LiquidationCandidate where
  account := ⟨1, 0⟩
  collateralAsset := ⟨2, 0⟩
  debtAsset := ⟨3, 0⟩
  debtToCover := 1000
  repayValueUsd := 1000
  liquidationBonusBps := 500
  healthFactor := 900000000000000000

/-- Wallet nine, with a flash-loan receiver. -/
def walletNine : LiquidationExecutionAdapterConfig := ⟨⟨9, 0⟩, some ⟨4, 0⟩, true⟩

def requestAtRisk : SafeExecutionRequest where
  chain := .base
  account := ⟨9, 0⟩
  opportunityId := .liquidation .base ⟨1, 0⟩ ⟨3, 0⟩
  gasProfileKey := .liq ⟨2, 0⟩ ⟨3, 0⟩
  routeInputChain := .base
  gasLimitHint := some ⟨⟨2, 0⟩, ⟨3, 0⟩, true⟩
  buildsFlashLoanPreview := true

/-- The equivalence for wallet nine and the borrower at risk. -/
theorem hook_judges_borrower_at_risk :
    ((rejectBeforeBroadcast 100 requestAtRisk).evaluate stateAtRisk.answer = .ok none ↔
        stateAtRisk.healthFactor candidateAtRisk.account < WAD) ↔
      (stateAtRisk.healthFactor walletNine.account < WAD ↔
        stateAtRisk.healthFactor candidateAtRisk.account < WAD) :=
  hook_judges_borrower_iff .base candidateAtRisk walletNine requestAtRisk rfl stateAtRisk 100
    (by decide)

/-- The borrower is liquidatable, and the hook refuses. -/
theorem liquidatable_borrower_refused :
    buildLiquidationExecutionRequest .base candidateAtRisk walletNine = .ok requestAtRisk ∧
      walletNine.account.value ≠ candidateAtRisk.account.value ∧
      stateAtRisk.head ≤ 100 + 1 ∧
      stateAtRisk.healthFactor candidateAtRisk.account < WAD ∧
      (rejectBeforeBroadcast 100 requestAtRisk).evaluate stateAtRisk.answer =
        .ok (some .hf_not_liquidatable) := by
  refine ⟨rfl, ?_, ?_, ?_, ?_⟩
  · decide
  · decide
  · decide
  · rw [evaluate_rejectBeforeBroadcast stateAtRisk 100 requestAtRisk (by decide)]
    decide

end LiquidationHfPreflight

end LiquidationBot
