import LiquidationBot.FeedRegistryText

/-!
# The deployment safety gate

Live mode needs a receipt of a dry run: successful, made lately, with the hash of
the configuration that starts now and for its chains. The gate collects everything
that speaks against a start; it allows one only if nothing does.
-/

namespace LiquidationBot

namespace RuntimeEnv

/-- `DryRunValidationReceipt`. A time that is no finite number is none. -/
structure DryRunValidationReceipt where
  success : Bool
  validatedAtMs : Option ℚ
  configHash : String
  expectedConfigHash : String
  chains : List SupportedChain
  expectedChains : List SupportedChain
deriving DecidableEq

inductive DeploymentGateResult where
  | allowed
  | blocked (reasons : List String)
deriving DecidableEq

structure DeploymentSafetyInput where
  simulationMode : Bool
  hasMetricsEndpoint : Bool
  registeredChains : List SupportedChain
  minProfitMarginBps : ℚ
  dryRunValidation : Option DryRunValidationReceipt

/-- A reason if it applies. -/
def reasonIf (applies : Prop) [Decidable applies] (reason : String) : List String :=
  if applies then [reason] else []

theorem reasonIf_eq_nil_iff (applies : Prop) [Decidable applies] (reason : String) :
    reasonIf applies reason = [] ↔ ¬ applies := by
  unfold reasonIf
  split
  case isTrue holds => simp [holds]
  case isFalse fails => simp [fails]

def joined (chains : List SupportedChain) : String :=
  String.intercalate "," (chains.map chainName)

/-- `validateDryRunReceipt`; the clock is read for each of the two comparisons. -/
def validateDryRunReceipt (receipt : Option DryRunValidationReceipt) (ttlMs : ℚ)
    (nowMs laterMs : ℚ) : List String :=
  match receipt with
  | none => ["Successful dry-run validation is required before live mode"]
  | some receipt =>
      let unsuccessful := reasonIf (receipt.success = false) "Dry-run validation must be successful"
      match receipt.validatedAtMs with
      | none => unsuccessful ++ ["Dry-run validation timestamp is invalid"]
      | some validatedAtMs =>
          unsuccessful ++
          reasonIf (60000 < validatedAtMs - nowMs)
            "Dry-run validation timestamp is in the future" ++
          reasonIf (ttlMs < laterMs - validatedAtMs) "Dry-run validation is stale" ++
          reasonIf (receipt.configHash ≠ receipt.expectedConfigHash)
            "Dry-run validation config hash does not match current config" ++
          reasonIf (joined receipt.chains ≠ joined receipt.expectedChains)
            "Dry-run validation chains do not match current chains"

namespace DeploymentSafetyGate

/-- `dryRunValidationTtlMs`, where the gate is built without one. -/
def dryRunValidationTtlMs : ℚ := 15 * 60 * 1000

def evaluate (ttlMs nowMs laterMs : ℚ) (input : DeploymentSafetyInput) : DeploymentGateResult :=
  let reasons :=
    reasonIf (input.registeredChains = []) "At least one chain must be registered" ++
    reasonIf (input.hasMetricsEndpoint = false) "Metrics endpoint is required" ++
    reasonIf (input.simulationMode = false ∧ input.minProfitMarginBps < 75)
      "MIN_PROFIT_MARGIN_BPS must be at least 75 in live mode" ++
    reasonIf (input.simulationMode = true ∧ input.minProfitMarginBps < 40)
      "MIN_PROFIT_MARGIN_BPS must be at least 40 in simulation mode" ++
    if input.simulationMode then []
    else validateDryRunReceipt input.dryRunValidation ttlMs nowMs laterMs
  if reasons = [] then .allowed else .blocked reasons

/-- What the gate has checked where it allows live mode. -/
structure Vouched (ttlMs nowMs laterMs : ℚ) (receipt : DryRunValidationReceipt) : Prop where
  successful : receipt.success = true
  lately : ∃ validatedAtMs, receipt.validatedAtMs = some validatedAtMs ∧
    validatedAtMs ≤ nowMs + 60000 ∧ laterMs ≤ validatedAtMs + ttlMs
  sameHash : receipt.configHash = receipt.expectedConfigHash
  sameChains : joined receipt.chains = joined receipt.expectedChains

theorem vouched_iff (ttlMs nowMs laterMs : ℚ) (receipt : DryRunValidationReceipt) :
    validateDryRunReceipt (some receipt) ttlMs nowMs laterMs = [] ↔
      Vouched ttlMs nowMs laterMs receipt := by
  cases validated : receipt.validatedAtMs with
  | none =>
    constructor
    · intro accepted
      simp [validateDryRunReceipt, validated] at accepted
    · intro vouched
      obtain ⟨validatedAtMs, found, -⟩ := vouched.lately
      rw [validated] at found
      cases found
  | some validatedAtMs =>
    simp only [validateDryRunReceipt, validated, List.append_eq_nil_iff, reasonIf_eq_nil_iff,
      not_lt, ne_eq, not_not, Bool.not_eq_false]
    constructor
    · rintro ⟨⟨⟨⟨successful, early⟩, fresh⟩, sameHash⟩, sameChains⟩
      exact ⟨successful, ⟨validatedAtMs, validated, by linarith, by linarith⟩, sameHash, sameChains⟩
    · rintro ⟨successful, ⟨found, read, early, fresh⟩, sameHash, sameChains⟩
      rw [validated, Option.some.injEq] at read
      subst read
      exact ⟨⟨⟨⟨successful, by linarith⟩, by linarith⟩, sameHash⟩, sameChains⟩

/-- A successful run is vouched for in its time, with its own hash and chains. -/
theorem vouched_of_success {ttlMs nowMs laterMs sentMs : ℚ} {time : Option ℚ}
    (sent : time = some sentMs) (notEarly : sentMs ≤ nowMs + 60000)
    (fresh : laterMs ≤ sentMs + ttlMs) (configHash : String) (chains : List SupportedChain) :
    Vouched ttlMs nowMs laterMs ⟨true, time, configHash, configHash, chains, chains⟩ where
  successful := rfl
  lately := ⟨sentMs, sent, notEarly, fresh⟩
  sameHash := rfl
  sameChains := rfl

/-- Live mode is allowed exactly with a vouched receipt, beside the standing checks. -/
theorem evaluate_live_iff (ttlMs nowMs laterMs : ℚ) (input : DeploymentSafetyInput)
    (live : input.simulationMode = false) :
    evaluate ttlMs nowMs laterMs input = .allowed ↔
      input.registeredChains ≠ [] ∧ input.hasMetricsEndpoint = true ∧
        75 ≤ input.minProfitMarginBps ∧
        ∃ receipt, input.dryRunValidation = some receipt ∧
          Vouched ttlMs nowMs laterMs receipt := by
  have allowed_iff (reasons : List String) :
      (if reasons = [] then DeploymentGateResult.allowed else .blocked reasons) = .allowed ↔
        reasons = [] := by
    split
    case isTrue empty => simp [empty]
    case isFalse found => simp [found]
  have validated : validateDryRunReceipt input.dryRunValidation ttlMs nowMs laterMs = [] ↔
      ∃ receipt, input.dryRunValidation = some receipt ∧ Vouched ttlMs nowMs laterMs receipt := by
    cases input.dryRunValidation with
    | none => simp [validateDryRunReceipt]
    | some receipt => simp [vouched_iff]
  rw [evaluate, allowed_iff]
  simp only [live, List.append_eq_nil_iff, reasonIf_eq_nil_iff, validated, true_and, not_lt,
    Bool.not_eq_false, Bool.false_eq_true, false_and, not_false_iff, and_true, if_false, ne_eq,
    and_assoc]

end DeploymentSafetyGate

end RuntimeEnv

end LiquidationBot
