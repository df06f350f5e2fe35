import LiquidationBot.BorrowerCache
import LiquidationBot.TypedAssetMath

/-!
# Candidates as snapshots

Two components receive candidates and store them as snapshots of borrowers: the
detection adapter from a scan, the snapshot provider from a poll or from a fresh
look at an account. Both build the same snapshot. A candidate does not say what
its assets are, so the snapshot takes the collateral for ether and the debt for
dollars of six decimals, each at a fixed price.
-/

namespace LiquidationBot

namespace CandidateSnapshot

/-- `createAssetAmount` with the decimals of an asset. -/
def createAmount (decimals : Nat) (raw : Int) : Except AssetError AssetAmount :=
  if raw < 0 then .error .negativeAmount else .ok ⟨decimals, raw.toNat⟩

/-- `usd`, by its decimals. -/
def usdDecimals : Nat := 8

/-- `weth`, by its decimals. -/
def wethDecimals : Nat := 18

/-- `usdc`, by its decimals. -/
def usdcDecimals : Nat := 6

/-- The debt with the bonus on top. -/
def collateralRaw (candidate : LiquidationCandidate) : Int :=
  candidate.debtToCover + (candidate.debtToCover * candidate.liquidationBonusBps).tdiv 10000

/-- `toSnapshot` of both components, at the time of its call. -/
def toSnapshot (chain : SupportedChain) (candidate : LiquidationCandidate) (nowMs : Int) :
    Except AssetError BorrowerSnapshot := do
  let collateralBalance ← createAmount wethDecimals (collateralRaw candidate)
  return {
    chain := chain
    account := candidate.account
    healthFactor := candidate.healthFactor
    updatedAtMs := nowMs
    reserves := [
      { assetAddress := candidate.collateralAsset
        decimals := wethDecimals
        collateralBalance := collateralBalance
        variableDebt := ⟨wethDecimals, 0⟩
        stableDebt := ⟨wethDecimals, 0⟩
        priceInQuote := ⟨usdDecimals, 300000000000⟩
        usageAsCollateralEnabled := true
        liquidationBonusBps := candidate.liquidationBonusBps },
      { assetAddress := candidate.debtAsset
        decimals := usdcDecimals
        collateralBalance := ⟨usdcDecimals, 0⟩
        variableDebt := ⟨usdcDecimals, candidate.debtToCover⟩
        stableDebt := ⟨usdcDecimals, 0⟩
        priceInQuote := ⟨usdDecimals, 100000000⟩
        usageAsCollateralEnabled := false
        liquidationBonusBps := 0 }] }

end CandidateSnapshot

namespace PipelineDetectionAdapter

/-- `toSnapshot` of the detection adapter. -/
def toSnapshot (chain : SupportedChain) (candidate : LiquidationCandidate) (nowMs : Int) :
    Except AssetError BorrowerSnapshot :=
  CandidateSnapshot.toSnapshot chain candidate nowMs

/-- The loop of `refreshCandidates` over a scan's candidates, each with the times
at which its snapshot is built and stored. -/
def refreshCandidates (chain : SupportedChain) (cache : ReserveAwareBorrowerCache)
    (candidates : List (LiquidationCandidate × Int × Int)) :
    Except AssetError ReserveAwareBorrowerCache :=
  candidates.foldlM (fun cache entry => do
    let snapshot ← toSnapshot chain entry.1 entry.2.1
    return cache.upsert entry.2.2 snapshot) cache

end PipelineDetectionAdapter

namespace AaveSnapshotProvider

/-- `toSnapshot` of the snapshot provider. -/
def toSnapshot (chain : SupportedChain) (candidate : LiquidationCandidate) (nowMs : Int) :
    Except AssetError BorrowerSnapshot :=
  CandidateSnapshot.toSnapshot chain candidate nowMs

/-- `AaveUserAccount`, by what a refresh reads of it. -/
structure AaveUserAccount where
  healthFactor : Nat
  totalDebtBase : Int

/-- What `getBestLiquidationPair` answers. -/
structure LiquidationPair where
  collateralAsset : Address
  debtAsset : Address
  debtToCover : Nat
  repayValueUsd : ℚ
  liquidationBonusBps : Int

/-- The candidate of an account and its best pair. -/
def candidateOf (account : Address) (userAccount : AaveUserAccount) (pair : LiquidationPair) :
    LiquidationCandidate where
  account := account
  collateralAsset := pair.collateralAsset
  debtAsset := pair.debtAsset
  debtToCover := pair.debtToCover
  repayValueUsd := pair.repayValueUsd
  liquidationBonusBps := pair.liquidationBonusBps
  healthFactor := userAccount.healthFactor

/-- `refreshBorrower`, with the answers of its two reads. -/
def refreshBorrower (chain : SupportedChain) (account : Address) (hfThreshold : Nat)
    (userAccount : AaveUserAccount) (pair : LiquidationPair) (nowMs : Int) :
    Except AssetError (Option BorrowerSnapshot) :=
  if hfThreshold ≤ userAccount.healthFactor ∨ userAccount.totalDebtBase ≤ 0 then .ok none
  else (toSnapshot chain (candidateOf account userAccount pair) nowMs).map some

/-- `pollBorrowers`, with the candidates of the protocol and a clock. -/
def pollBorrowers (chain : SupportedChain) (candidates : List (LiquidationCandidate × Int)) :
    Except AssetError (List BorrowerSnapshot) :=
  candidates.mapM (fun entry => toSnapshot chain entry.1 entry.2)

end AaveSnapshotProvider

/-- The two builders of snapshots. -/
inductive SnapshotBuilder where
  | detectionAdapter
  | aaveSnapshotProvider
deriving DecidableEq

def SnapshotBuilder.toSnapshot :
    SnapshotBuilder → SupportedChain → LiquidationCandidate → Int →
      Except AssetError BorrowerSnapshot
  | .detectionAdapter => PipelineDetectionAdapter.toSnapshot
  | .aaveSnapshotProvider => AaveSnapshotProvider.toSnapshot

namespace CandidateSnapshot

theorem builder_toSnapshot (builder : SnapshotBuilder) :
    builder.toSnapshot = CandidateSnapshot.toSnapshot := by
  cases builder with
  | detectionAdapter => rfl
  | aaveSnapshotProvider => rfl

/-- The candidate that a snapshot yields again: the same, with the dollars that
its debt would be in units of six decimals. -/
def readBack (candidate : LiquidationCandidate) : LiquidationCandidate :=
  { candidate with repayValueUsd := candidate.debtToCover / 10 ^ 6 }

theorem collateralRaw_pos {candidate : LiquidationCandidate} (owes : 0 < candidate.debtToCover)
    (bonus : 0 ≤ candidate.liquidationBonusBps) : 0 < collateralRaw candidate := by
  have extra : 0 ≤ (candidate.debtToCover * candidate.liquidationBonusBps).tdiv 10000 :=
    Int.tdiv_nonneg (mul_nonneg (Int.natCast_nonneg _) bonus) (by decide)
  unfold collateralRaw
  omega

/-- Units of six decimals at one dollar each. -/
theorem quotedDebt (debt : Nat) :
    mkRat ((debt : Int) * 100000000 / 1000000) 100000000 = (debt : ℚ) / 10 ^ 6 := by
  have exact : (debt : Int) * 100000000 / 1000000 = debt * 100 := by omega
  rw [exact, Rat.mkRat_eq_div]
  push_cast
  ring

/-- A snapshot of a candidate yields that candidate and no other. -/
theorem toCandidates_toSnapshot {candidate : LiquidationCandidate} (chain : SupportedChain)
    (nowMs : Int) (unhealthy : candidate.healthFactor < WAD) (owes : 0 < candidate.debtToCover)
    (bonus : 0 ≤ candidate.liquidationBonusBps) :
    ∃ snapshot, toSnapshot chain candidate nowMs = .ok snapshot ∧ snapshot.chain = chain ∧
      snapshot.account = candidate.account ∧ snapshot.updatedAtMs = nowMs ∧
      snapshot.toCandidates = [readBack candidate] := by
  have positive := collateralRaw_pos owes bonus
  have held : createAmount wethDecimals (collateralRaw candidate) =
      .ok ⟨wethDecimals, (collateralRaw candidate).toNat⟩ := by
    simp [createAmount, not_lt.mpr positive.le]
  have counted : 0 < (collateralRaw candidate).toNat := by omega
  simp only [toSnapshot, held, bind, Except.bind, pure, Except.pure]
  refine ⟨_, rfl, rfl, rfl, rfl, ?_⟩
  simp [BorrowerSnapshot.toCandidates, BorrowerSnapshot.collaterals, BorrowerSnapshot.debts,
    BorrowerSnapshot.totalDebt, not_le.mpr unhealthy, counted, owes, convertToQuote,
    toDecimalNumber, usdcDecimals, usdDecimals, quotedDebt, readBack]

end CandidateSnapshot

end LiquidationBot
