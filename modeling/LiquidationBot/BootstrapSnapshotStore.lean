import LiquidationBot.Library.NumberText
import LiquidationBot.NonceManager
import LiquidationBot.SnapshotSeeding

/-!
# The bootstrap snapshot

After a bootstrap the seeded positions with debt are saved to a file, and a restart
within the file's time to live seeds its model from the file instead of from the
chain. Big integers are saved as decimal texts. JSON gives texts, whole numbers and
lists back as they were, so the file that is read is the one that was saved.

A row holds the amounts of a position as they are stored, and no index.
-/

namespace LiquidationBot

/-- `BOOTSTRAP_SNAPSHOT_VERSION`. -/
def BOOTSTRAP_SNAPSHOT_VERSION : Nat := 2

/-- `BootstrapDiscoverySource`. -/
inductive BootstrapDiscoverySource where
  | logs
  | subgraph
  | cache
deriving DecidableEq

/-- A reserve of an exported position. -/
structure ExportedReserve where
  asset : Address
  scaledCollateral : List Char
  scaledDebt : List Char
deriving DecidableEq

/-- `ExportedBootstrapPosition`. -/
structure ExportedBootstrapPosition where
  account : Address
  eModeCategoryId : Nat
  healthFactorWad : List Char
  totalCollateralBase : List Char
  totalDebtBase : List Char
  liquidationThreshold : List Char
  reserves : List ExportedReserve
deriving DecidableEq

/-- `BootstrapSnapshotFile`. -/
structure BootstrapSnapshotFile where
  version : Nat
  chain : SupportedChain
  discoverySource : BootstrapDiscoverySource
  savedAtMs : Int
  blockNumber : List Char
  usersSeeded : Nat
  positions : List ExportedBootstrapPosition
deriving DecidableEq

/-- `BootstrapSnapshotStoreConfig`, as far as it decides what is loaded. -/
structure BootstrapSnapshotStoreConfig where
  chain : SupportedChain
  ttlHours : ℚ

/-- The decimal text of a big integer. -/
def bigIntText (value : Nat) : List Char := Nat.toDigits 10 value

/-- `BigInt(text)` of an unsigned decimal, which is what a saved file holds. -/
def BigInt (text : List Char) : Option Nat := NumberText.numeral 10 text

/-- A big integer is read back from its text. -/
theorem BigInt_bigIntText (value : Nat) : BigInt (bigIntText value) = some value := by
  have digits : ∀ char ∈ Nat.toDigits 10 value, char.isDigit = true :=
    fun _ => Nat.isDigit_of_mem_toDigits (by omega) (by omega)
  rw [BigInt, bigIntText, NumberText.numeral, if_neg Nat.toDigits_ne_nil,
    NumberText.readDigits_of_isDigit digits, Nat.ofDigitChars_ten_toDigits]

namespace LocalPositionModel

/-! ## Saving -/

/-- A stored amount, zero where there is none. -/
def storedAmount (amounts : AssetMap) (key : Address) : Nat := (amounts.get? key).getD 0

/-- The reserves of a position in a snapshot: those with an amount, collateral first. -/
def exportReserves (position : UserPosition) : List ExportedReserve :=
  (heldKeys position).map (fun key =>
    { asset := key
      scaledCollateral := bigIntText (storedAmount position.collateral key)
      scaledDebt := bigIntText (storedAmount position.debt key) })

def exportPosition (position : UserPosition) : ExportedBootstrapPosition where
  account := position.account
  eModeCategoryId := position.eModeCategoryId
  healthFactorWad := bigIntText position.cachedHfWad
  totalCollateralBase := bigIntText (position.lastTotalCollateralBase.getD 0)
  totalDebtBase := bigIntText (position.lastTotalDebtBase.getD 1)
  liquidationThreshold := bigIntText (position.lastLiquidationThreshold.getD 0)
  reserves := exportReserves position

/-- The position is exported: it is fully seeded and has a debt entry. -/
def isExported (position : UserPosition) : Bool :=
  position.isFullySeeded && decide (position.debt.size ≠ 0)

def exportBootstrapSnapshots (model : LocalPositionModel) : List ExportedBootstrapPosition :=
  (model.positions.values.filter isExported).map exportPosition

/-- `buildSnapshotFromModel` at a time of the clock. -/
def buildSnapshotFromModel (model : LocalPositionModel) (chain : SupportedChain)
    (discoverySource : BootstrapDiscoverySource) (blockNumber : Nat) (nowMs : Int) :
    BootstrapSnapshotFile where
  version := BOOTSTRAP_SNAPSHOT_VERSION
  chain := chain
  discoverySource := discoverySource
  savedAtMs := nowMs
  blockNumber := bigIntText blockNumber
  usersSeeded := (exportBootstrapSnapshots model).length
  positions := exportBootstrapSnapshots model

/-! ## Loading -/

/-- `loadIfFresh`, from the file that could be read and parsed. -/
def loadIfFresh (config : BootstrapSnapshotStoreConfig) (parsed : Option BootstrapSnapshotFile)
    (nowMs : Int) : Option BootstrapSnapshotFile :=
  match parsed with
  | none => none
  | some file =>
      if file.version ≠ BOOTSTRAP_SNAPSHOT_VERSION ∨ file.chain ≠ config.chain then none
      else
        let ageMs := nowMs - file.savedAtMs
        let ttlMs := config.ttlHours * 3600000
        if (ageMs : ℚ) > ttlMs then none else some file

def readReserve (row : ExportedReserve) : Option SnapshotReserve := do
  let scaledCollateral ← BigInt row.scaledCollateral
  let scaledDebt ← BigInt row.scaledDebt
  some ⟨row.asset, scaledCollateral, scaledDebt⟩

/-- What a row seeds; a text that is no number throws. -/
def readRow (blockNumber : Nat) (row : ExportedBootstrapPosition) : Option AccountSnapshot := do
  let healthFactorWad ← BigInt row.healthFactorWad
  let totalCollateralBase ← BigInt row.totalCollateralBase
  let totalDebtBase ← BigInt row.totalDebtBase
  let liquidationThreshold ← BigInt row.liquidationThreshold
  let reserves ← row.reserves.mapM readReserve
  some
    { account := row.account
      blockNumber := blockNumber
      eModeCategoryId := row.eModeCategoryId
      healthFactorWad := healthFactorWad
      totalCollateralBase := totalCollateralBase
      totalDebtBase := totalDebtBase
      liquidationThreshold := liquidationThreshold
      reserves := reserves }

/-- The loop of `applyToModel`; what was seeded before an exception stays. -/
def applyRows (config : LocalPositionModelConfig) (blockNumber : Nat) :
    LocalPositionModel → Nat → List ExportedBootstrapPosition → LocalPositionModel × Option Nat
  | model, seeded, [] => (model, some seeded)
  | model, seeded, row :: rest =>
      match readRow blockNumber row with
      | none => (model, none)
      | some input =>
          applyRows config blockNumber (seedFromOnChainSnapshot config model input) (seeded + 1) rest

/-- `applyToModel`, with the number of rows unless it throws. -/
def applyToModel (config : LocalPositionModelConfig) (model : LocalPositionModel)
    (snapshot : BootstrapSnapshotFile) : LocalPositionModel × Option Nat :=
  match BigInt snapshot.blockNumber with
  | none => (model, none)
  | some blockNumber => applyRows config blockNumber model 0 snapshot.positions

/-! ## Reading what was saved -/

/-- What the row of a position seeds. -/
def savedSnapshot (blockNumber : Nat) (position : UserPosition) : AccountSnapshot where
  account := position.account
  blockNumber := blockNumber
  eModeCategoryId := position.eModeCategoryId
  healthFactorWad := position.cachedHfWad
  totalCollateralBase := position.lastTotalCollateralBase.getD 0
  totalDebtBase := position.lastTotalDebtBase.getD 1
  liquidationThreshold := position.lastLiquidationThreshold.getD 0
  reserves := (heldKeys position).map (fun key =>
    ⟨key, storedAmount position.collateral key, storedAmount position.debt key⟩)

theorem readRow_exportPosition (blockNumber : Nat) (position : UserPosition) :
    readRow blockNumber (exportPosition position) = some (savedSnapshot blockNumber position) := by
  have rows : (exportReserves position).mapM readReserve =
      some (savedSnapshot blockNumber position).reserves := by
    rw [exportReserves, savedSnapshot]
    dsimp only
    induction heldKeys position with
    | nil => rfl
    | cons key rest inductionHypothesis =>
      simp only [List.map_cons, List.mapM_cons, inductionHypothesis, readReserve, BigInt_bigIntText]
      rfl
  simp only [readRow, exportPosition, BigInt_bigIntText, rows]
  rfl

/-- The rows of positions are seeded one after the other. -/
theorem applyRows_export (config : LocalPositionModelConfig) (blockNumber : Nat)
    (positions : List UserPosition) (model : LocalPositionModel) (seeded : Nat) :
    applyRows config blockNumber model seeded (positions.map exportPosition) =
      (positions.foldl (fun model position =>
        seedFromOnChainSnapshot config model (savedSnapshot blockNumber position)) model,
        some (seeded + positions.length)) := by
  induction positions generalizing model seeded with
  | nil => rfl
  | cons position rest inductionHypothesis =>
    rw [List.map_cons, applyRows, readRow_exportPosition]
    dsimp only
    rw [inductionHypothesis, List.foldl_cons, List.length_cons]
    have counted : seeded + 1 + rest.length = seeded + (rest.length + 1) := by omega
    rw [counted]

/-- A saved file is applied without an exception, and seeds each exported position. -/
theorem applyToModel_build (config : LocalPositionModelConfig) (model target : LocalPositionModel)
    (chain : SupportedChain) (discoverySource : BootstrapDiscoverySource) (blockNumber : Nat)
    (nowMs : Int) :
    applyToModel config target
        (buildSnapshotFromModel model chain discoverySource blockNumber nowMs) =
      ((model.positions.values.filter isExported).foldl (fun model position =>
        seedFromOnChainSnapshot config model (savedSnapshot blockNumber position)) target,
        some (exportBootstrapSnapshots model).length) := by
  rw [applyToModel, buildSnapshotFromModel]
  dsimp only
  rw [BigInt_bigIntText]
  dsimp only
  rw [exportBootstrapSnapshots, applyRows_export, List.length_map, Nat.zero_add]

/-- A store of the same chain loads a saved file again within the time to live. -/
theorem loadIfFresh_build (config : BootstrapSnapshotStoreConfig) (model : LocalPositionModel)
    (discoverySource : BootstrapDiscoverySource) (blockNumber : Nat) (savedAtMs nowMs : Int) :
    loadIfFresh config
        (some (buildSnapshotFromModel model config.chain discoverySource blockNumber savedAtMs))
        nowMs =
      if ((nowMs - savedAtMs : Int) : ℚ) > config.ttlHours * 3600000 then none
      else
        some (buildSnapshotFromModel model config.chain discoverySource blockNumber savedAtMs) := by
  have current : ¬ (BOOTSTRAP_SNAPSHOT_VERSION ≠ BOOTSTRAP_SNAPSHOT_VERSION ∨
      config.chain ≠ config.chain) := by simp
  rw [loadIfFresh]
  exact if_neg current

end LocalPositionModel

end LiquidationBot
