import LiquidationBot.SafeTransactionExecutor
import Mathlib.Data.Rat.Floor
import Mathlib.Tactic.NormNum

/-!
# The gas quote of an execution

The quote caps the fee by a share of the expected profit: the share in wei,
divided by the gas limit. Where that quotient does not exceed the priority fee,
the quote falls back to the whole base fee on top of the priority fee, which no
budget bounds. So the budget holds exactly when the quotient leaves room for the
priority fee and, unless the base fee is zero, for one wei more.
-/

namespace LiquidationBot

/-- `BaseGasQuoteInput`, without the client. Dollars and percentages are floats
in the source and exact here. -/
structure BaseGasQuoteInput where
  expectedProfitUsd : ℚ
  gasLimit : Nat
  maxGasPctOfProfit : Option ℚ
  priorityFeeGwei : Option Nat

/-- `BaseGasQuote`. -/
structure BaseGasQuote where
  maxFeePerGas : Nat
  maxPriorityFeePerGas : Nat
  gasCostUsd : ℚ
deriving DecidableEq

namespace BaseGasModel

def defaultMaxGasPct : ℚ := 25

/-- `usdProfitToWeiBudget`. -/
def usdProfitToWeiBudget (profitUsd maxPct : ℚ) : Int :=
  if profitUsd ≤ 0 then 0
  else
    let eth := (profitUsd * (maxPct / 100)) / 3000
    ⌊eth * 10 ^ 18⌋

/-- `priority` of a quote, in wei as it is used. -/
def priorityOf (input : BaseGasQuoteInput) : Nat := input.priorityFeeGwei.getD 1000000

/-- `profitWeiBudget` of a quote. -/
def profitWeiBudget (input : BaseGasQuoteInput) : Int :=
  usdProfitToWeiBudget input.expectedProfitUsd (input.maxGasPctOfProfit.getD defaultMaxGasPct)

/-- `maxFeePerGas` of a quote, in wei; `cappedMax` is the estimate or the
budget's share of one unit of gas. -/
def maxFeePerGas (baseFee priority gasLimit : Nat) (budget : Int) : Nat :=
  let uncappedMax := baseFee * 2 + priority
  let cappedMax := if budget > 0 then min uncappedMax (budget.toNat / gasLimit) else uncappedMax
  if cappedMax > priority then cappedMax else priority + baseFee

/-- `quoteBaseExecutionGas`, with the latest block's base fee. A division by a gas
limit of zero throws. -/
def quoteBaseExecutionGas (block : Except Thrown (Option Nat)) (input : BaseGasQuoteInput) :
    Except Thrown BaseGasQuote := do
  let baseFeePerGas ← block
  let baseFee := baseFeePerGas.getD 0
  if profitWeiBudget input > 0 && input.gasLimit == 0 then .error ⟨false⟩
  else
    let fee := maxFeePerGas baseFee (priorityOf input) input.gasLimit (profitWeiBudget input)
    .ok ⟨fee, priorityOf input, (input.gasLimit * fee : Nat) / 10 ^ 18 * 3000⟩

/-- The budget covers the gas at the priority fee and, unless the base fee is
zero, at one wei more. -/
def FeeFits (baseFee priority gasLimit : Nat) (budget : Int) : Prop :=
  (((if baseFee = 0 then priority else priority + 1) * gasLimit : Nat) : Int) ≤ budget

instance (baseFee priority gasLimit : Nat) (budget : Int) :
    Decidable (FeeFits baseFee priority gasLimit budget) :=
  inferInstanceAs (Decidable ((((if baseFee = 0 then priority else priority + 1) * gasLimit : Nat) :
    Int) ≤ budget))

theorem le_quotient_iff {fee gasLimit : Nat} {budget : Int} (limited : 0 < gasLimit)
    (budgeted : 0 < budget) :
    ((fee * gasLimit : Nat) : Int) ≤ budget ↔ fee ≤ budget.toNat / gasLimit := by
  rw [Nat.le_div_iff_mul_le limited]
  omega

/-- The fee stays within the budget exactly when the budget leaves room for the
priority fee. -/
theorem maxFeePerGas_within_iff {baseFee priority gasLimit : Nat} {budget : Int}
    (limited : 0 < gasLimit) (budgeted : 0 < budget) :
    ((maxFeePerGas baseFee priority gasLimit budget * gasLimit : Nat) : Int) ≤ budget ↔
      FeeFits baseFee priority gasLimit budget := by
  rw [FeeFits, le_quotient_iff limited budgeted, le_quotient_iff limited budgeted, maxFeePerGas,
    if_pos budgeted]
  generalize budget.toNat / gasLimit = quotient
  by_cases free : baseFee = 0
  · subst free
    split
    · simp only [Nat.zero_mul, Nat.zero_add] at *
      omega
    · simp
  · rw [if_neg free]
    split <;> omega

/-- What the execution of a route pays for at most: the overrides of its
transaction, once the quote has answered. -/
def cappedOverrides (config : SafeTransactionExecutorConfig) (route : SelectedRoute)
    (gas gasPrice nonce : Nat) (answer : (op : ExecutorOp) → op.Answer) :
    Except Thrown TransactionOverrides :=
  (SafeTransactionExecutor.quoteOverrides config route gas gasPrice nonce).evaluate answer

/-- A quoting executor pays the lower of the node's price and the quoted fee. -/
theorem cappedOverrides_eq {config : SafeTransactionExecutorConfig}
    (quoting : config.quoteExecutionGasCap = true) {route : SelectedRoute}
    {gas gasPrice nonce fee : Nat} {answer : (op : ExecutorOp) → op.Answer}
    (answered : answer (.ask (.quoteExecutionGasCap route.netProfitRaw gas)) = .ok fee) :
    cappedOverrides config route gas gasPrice nonce answer = .ok ⟨gas, min gasPrice fee, nonce⟩ := by
  simp only [cappedOverrides, SafeTransactionExecutor.quoteOverrides, quoting, Bool.not_true,
    Bool.false_eq_true, if_false, SafeTransactionExecutor.ask, Async.bind_eq, Async.call_bind,
    Async.evaluate, answered, Async.orThrow, Async.pure_bind, Async.pure_eq]
  congr 2
  split <;> omega

/-- A quote with a gas limit succeeds. -/
theorem quoteBaseExecutionGas_eq (input : BaseGasQuoteInput) (baseFeePerGas : Option Nat)
    (limited : 0 < input.gasLimit) :
    let fee := maxFeePerGas (baseFeePerGas.getD 0) (priorityOf input) input.gasLimit
      (profitWeiBudget input)
    quoteBaseExecutionGas (.ok baseFeePerGas) input =
      .ok ⟨fee, priorityOf input, (input.gasLimit * fee : Nat) / 10 ^ 18 * 3000⟩ := by
  simp [quoteBaseExecutionGas, limited.ne', Except.bind, bind]

/-- One cent of profit, of which thirty percent may go to a million units of gas. -/
def centInput : BaseGasQuoteInput := ⟨1 / 100, 1000000, some 30, none⟩

theorem profitWeiBudget_centInput : profitWeiBudget centInput = 1000000000000 := by decide +kernel

/-- A dollar of profit leaves room. -/
def dollarInput : BaseGasQuoteInput := ⟨1, 1000000, some 30, none⟩

theorem profitWeiBudget_dollarInput : profitWeiBudget dollarInput = 100000000000000 := by
  decide +kernel

end BaseGasModel

end LiquidationBot
