import LiquidationBot.SafeTransactionExecutor
import Mathlib.Data.Rat.Defs

/-!
# Execution requests for liquidations

A candidate names the borrower; the configuration names the wallet. The request
built from them carries the wallet as its account, and the borrower only inside
its opportunity id and its calldata. The economic fields of the request, which go
to the route selection only, are left out as they are in the request.
-/

namespace LiquidationBot

/-- `LiquidationCandidate`, with the fields that the borrower cache fills in. The
repay value is a float in the source and exact here. -/
structure LiquidationCandidate where
  account : Address
  collateralAsset : Address
  debtAsset : Address
  debtToCover : Nat
  repayValueUsd : ℚ
  liquidationBonusBps : Int
  healthFactor : Nat
deriving DecidableEq

/-- `LiquidationExecutionAdapterConfig`: the wallet, and the flash-loan receiver. -/
structure LiquidationExecutionAdapterConfig where
  account : Address
  flashLoanReceiverAddress : Option Address
  requireFlashLoanWrapper : Bool
deriving DecidableEq

/-- `buildLiquidationExecutionRequest`. It throws if a flash-loan wrapper is
required and there is no receiver. -/
def buildLiquidationExecutionRequest (chain : SupportedChain) (candidate : LiquidationCandidate)
    (config : LiquidationExecutionAdapterConfig) : Except Thrown SafeExecutionRequest :=
  if config.requireFlashLoanWrapper && config.flashLoanReceiverAddress.isNone then .error ⟨false⟩
  else
    .ok {
      chain := chain
      account := config.account
      opportunityId := .liquidation chain candidate.account candidate.debtAsset
      gasProfileKey :=
        .liq candidate.collateralAsset.toLowerCase candidate.debtAsset.toLowerCase
      routeInputChain := chain
      gasLimitHint := some {
        collateralAsset := candidate.collateralAsset
        debtAsset := candidate.debtAsset
        usesFlashWrapper := config.flashLoanReceiverAddress.isSome }
      buildsFlashLoanPreview := config.flashLoanReceiverAddress.isSome }

/-- A built request is for the wallet, and names the borrower in its id. -/
theorem buildLiquidationExecutionRequest_eq_ok {chain : SupportedChain}
    {candidate : LiquidationCandidate} {config : LiquidationExecutionAdapterConfig}
    {request : SafeExecutionRequest}
    (built : buildLiquidationExecutionRequest chain candidate config = .ok request) :
    request.chain = chain ∧ request.account = config.account ∧
      request.opportunityId = .liquidation chain candidate.account candidate.debtAsset := by
  unfold buildLiquidationExecutionRequest at built
  split at built
  · cases built
  · cases built
    exact ⟨rfl, rfl, rfl⟩

end LiquidationBot
