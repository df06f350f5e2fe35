import LiquidationBot.SnapshotSeeding
import LiquidationBot.Library.Prefixes

/-!
# The bound of the position cache

Three operations store positions: an account's event, a seeding and a
confirmation. The first two end in `enforceHardCap` unless they removed the
account again; a confirmation never evicts. So the cache stays within its cap
along a run exactly when every confirmation of the run finds its account stored
or room for it.

The eviction counter is exact along every run. An eviction routine changes the
store by deletions only and counts each; what other deletions remove, and what
is stored anew, it does not count.
-/

namespace LiquidationBot.LocalPositionModel

open Prefixes

/-- A store changed by counted deletions only. -/
structure Evicts (before after : LocalPositionModel) : Prop where
  kept : ∀ key position, after.positions.get? key = some position →
    before.positions.get? key = some position
  counted : after.evictionTotal + after.positions.size =
    before.evictionTotal + before.positions.size
  reserves : after.reserveConfig = before.reserveConfig

/-- The accounts of one model that another has lost. -/
def lost (before after : LocalPositionModel) : List Address :=
  before.positions.keys.filter (fun key => !after.positions.has key)

namespace Evicts

theorem refl (model : LocalPositionModel) : Evicts model model :=
  ⟨fun _ _ stored => stored, rfl, rfl⟩

theorem trans {before middle after : LocalPositionModel} (first : Evicts before middle)
    (second : Evicts middle after) : Evicts before after where
  kept := fun key position stored => first.kept key position (second.kept key position stored)
  counted := second.counted.trans first.counted
  reserves := second.reserves.trans first.reserves

theorem length_lost {before after : LocalPositionModel} (evicts : Evicts before after) :
    (lost before after).length + after.positions.size = before.positions.size := by
  apply InsertionMap.length_missing before.positions.byAccount after.positions.byAccount
  intro key stored
  obtain ⟨position, found⟩ := Option.isSome_iff_exists.mp stored
  exact Option.isSome_iff_exists.mpr ⟨position, evicts.kept key position found⟩

theorem size_le {before after : LocalPositionModel} (evicts : Evicts before after) :
    after.positions.size ≤ before.positions.size := by
  have missing := evicts.length_lost
  omega

/-- The counter grows by the number of accounts lost. -/
theorem evictionTotal_eq {before after : LocalPositionModel} (evicts : Evicts before after) :
    after.evictionTotal = before.evictionTotal + (lost before after).length := by
  have missing := evicts.length_lost
  have counted := evicts.counted
  omega

/-- An eviction that is not counted has not happened. -/
theorem get?_eq {before after : LocalPositionModel} (evicts : Evicts before after)
    (uncounted : after.evictionTotal = before.evictionTotal) (key : Address) :
    after.positions.get? key = before.positions.get? key := by
  have counted := evicts.evictionTotal_eq
  have none : lost before after = [] := List.eq_nil_of_length_eq_zero (by omega)
  cases stored : after.positions.get? key with
  | some position => exact (evicts.kept key position stored).symm
  | none =>
    cases found : before.positions.get? key with
    | none => rfl
    | some position =>
      have missing : key ∈ lost before after := by
        refine List.mem_filter.mpr ⟨(InsertionMap.mem_keys_iff before.positions.byAccount _).mpr ?_, ?_⟩
        · exact Option.isSome_iff_exists.mpr ⟨position, found⟩
        · rw [Positions.has_eq_isSome, stored]
          rfl
      rw [none] at missing
      cases missing

end Evicts

/-! ## The eviction routines -/

theorem evictInactiveHealthy_evicts (config : LocalPositionModelConfig)
    (model : LocalPositionModel) (blockNumber : Nat) :
    Evicts model (evictInactiveHealthy config model blockNumber) := by
  have smaller : (evictInactiveHealthy config model blockNumber).positions.size ≤
      model.positions.size := Positions.size_keepIf_le _ _
  refine ⟨?_, ?_, rfl⟩
  · intro key position stored
    rw [evictInactiveHealthy, Positions.get?_keepIf] at stored
    exact (Option.filter_eq_some_iff.mp stored).1
  · have counted : (evictInactiveHealthy config model blockNumber).evictionTotal =
        model.evictionTotal + (model.positions.size -
          (evictInactiveHealthy config model blockNumber).positions.size) := rfl
    omega

/-- Deleting a stored account and counting it. -/
theorem evicts_delete (model : LocalPositionModel) (key : Address)
    (stored : model.positions.has key = true) :
    Evicts model { model with
      positions := model.positions.delete key
      evictionTotal := model.evictionTotal + 1 } := by
  refine ⟨?_, ?_, rfl⟩
  · intro tested position found
    exact (InsertionMap.of_get?_delete found).2
  · have size := Positions.size_delete model.positions key
    rw [if_pos stored] at size
    dsimp only
    omega

/-- Distinct stored victims are each deleted and counted once. -/
theorem evictOver_evicts (cap : ℚ) (victims : List UserPosition) (model : LocalPositionModel)
    (distinct : (victims.map (fun victim => victim.account.toLowerCase)).Nodup)
    (stored : ∀ victim ∈ victims, model.positions.has victim.account.toLowerCase = true) :
    Evicts model (evictOver cap model victims) := by
  induction victims generalizing model with
  | nil => exact Evicts.refl model
  | cons victim rest inductionHypothesis =>
    rw [List.map_cons, List.nodup_cons] at distinct
    rw [evictOver]
    split
    · refine (evicts_delete model _ (stored victim List.mem_cons_self)).trans ?_
      apply inductionHypothesis _ distinct.2
      intro other later
      have different : other.account.toLowerCase ≠ victim.account.toLowerCase := by
        intro same
        exact distinct.1 (List.mem_map.mpr ⟨other, later, same⟩)
      rw [Positions.has_eq_isSome, Positions.get?_delete, if_neg different]
      exact stored other (List.mem_cons_of_mem _ later)
    · exact Evicts.refl model

/-- The stored positions belong to the stored keys, in order. -/
theorem map_values_account (positions : Positions) :
    positions.values.map (fun position => position.account.toLowerCase) = positions.keys := by
  unfold Positions.values Positions.keys InsertionMap.values InsertionMap.keys
  rw [List.map_map]
  apply List.map_congr_left
  intro entry member
  exact positions.keyed entry.1 entry.2
    ((InsertionMap.mem_entries_iff positions.byAccount entry.1 entry.2).mp member)

theorem byActivity_distinct (positions : Positions) :
    ((byActivity positions).map (fun position => position.account.toLowerCase)).Nodup := by
  have sorted : (byActivity positions).Perm positions.values := List.perm_insertionSort _ _
  rw [(sorted.map _).nodup_iff, map_values_account]
  exact positions.byAccount.distinct

theorem byActivity_stored (positions : Positions) :
    ∀ victim ∈ byActivity positions, positions.has victim.account.toLowerCase = true := by
  intro victim member
  have value : victim ∈ positions.values := (List.mem_insertionSort _).mp member
  have key : victim.account.toLowerCase ∈ positions.keys := by
    rw [← map_values_account]
    exact List.mem_map_of_mem value
  exact (InsertionMap.mem_keys_iff positions.byAccount _).mp key

theorem enforceHardCap_evicts (config : LocalPositionModelConfig) (model : LocalPositionModel)
    (blockNumber : Nat) : Evicts model (enforceHardCap config model blockNumber) := by
  rw [enforceHardCap]
  split
  · exact evictInactiveHealthy_evicts config model blockNumber
  · exact (evictOver_evicts _ _ model (byActivity_distinct _) (byActivity_stored _)).trans
      (evictInactiveHealthy_evicts config _ blockNumber)

theorem evictUnderMemoryPressure_evicts (config : LocalPositionModelConfig)
    (model : LocalPositionModel) (blockNumber : Nat) :
    Evicts model (evictUnderMemoryPressure config model blockNumber) := by
  refine (evictOver_evicts _ _ model ?_ ?_).trans (evictInactiveHealthy_evicts config _ blockNumber)
  · exact (byActivity_distinct model.positions).sublist (List.filter_sublist.map _)
  · intro victim member
    exact byActivity_stored model.positions victim (List.mem_of_mem_filter member)

/-! ## Operations and their evictions -/

/-- An operation of the model, with its arguments. -/
inductive ModelOp where
  | applyAaveEvent (event : ParsedAavePoolEvent) (nowSec : Int)
  | seedFromOnChainSnapshot (input : AccountSnapshot)
  | confirmOnChain (account : Address) (totalCollateralBase totalDebtBase liquidationThreshold
      healthFactor blockNumber eModeCategoryId : Nat)
  | applyFeedPriceUpdate (asset feed : Address) (answer : Int) (decimals : Nat)
      (updatedAtSec : Int)
  | evictUnderMemoryPressure (blockNumber : Nat)
  | removePosition (account : Address)

/-- The model after an operation. -/
def ModelOp.run (config : LocalPositionModelConfig) (model : LocalPositionModel) :
    ModelOp → LocalPositionModel
  | .applyAaveEvent event nowSec => (LocalPositionModel.applyAaveEvent config model event nowSec).1
  | .seedFromOnChainSnapshot input =>
      LocalPositionModel.seedFromOnChainSnapshot config model input
  | .confirmOnChain account totalCollateralBase totalDebtBase liquidationThreshold healthFactor
      blockNumber eModeCategoryId =>
      LocalPositionModel.confirmOnChain model account totalCollateralBase totalDebtBase
        liquidationThreshold healthFactor blockNumber eModeCategoryId
  | .applyFeedPriceUpdate asset feed answer decimals updatedAtSec =>
      (LocalPositionModel.applyFeedPriceUpdate config model asset feed answer decimals
        updatedAtSec).1
  | .evictUnderMemoryPressure blockNumber =>
      LocalPositionModel.evictUnderMemoryPressure config model blockNumber
  | .removePosition account => LocalPositionModel.removePosition model account

/-- A new model after operations in order. -/
def runOps (config : LocalPositionModelConfig) (run : List ModelOp) : LocalPositionModel :=
  run.foldl (ModelOp.run config) initial

/-- The model an account's event stores, before anything is removed. -/
def storedByEvent (model : LocalPositionModel) (event : ParsedAavePoolEvent) (account : Address) :
    LocalPositionModel × UserPosition :=
  let registered := model.registerReserve event.reserve BASE_LT_BPS
  let touched := { registered.getOrCreate account event.origin.blockNumber with
    lastActivityBlock := event.origin.blockNumber }
  let position := applyBalances registered.reserveConfig touched event
  ({ registered with positions := registered.positions.put position }, position)

/-- The model with which an account's event enters `enforceHardCap`, if it does. -/
def accountEvictionStart (config : LocalPositionModelConfig) (model : LocalPositionModel)
    (event : ParsedAavePoolEvent) (account : Address) (nowSec : Int) :
    Option LocalPositionModel :=
  let stored := storedByEvent model event account
  if decide (event.name = .LiquidationCall) && debtFree stored.2 then none
  else if !stored.2.isFullySeeded then some stored.1
  else
    let isNew := !model.positions.has account.toLowerCase
    some (applyHfResult config stored.1 stored.2 isNew nowSec).1

/-- The model with which an operation enters its eviction routine, if it has one
and gets there. -/
def evictionStart (config : LocalPositionModelConfig) (model : LocalPositionModel) :
    ModelOp → Option LocalPositionModel
  | .applyAaveEvent event nowSec =>
      if event.name = .ReserveDataUpdated then none
      else
        (resolveUserAddress event).bind (fun account =>
          if !model.positions.has account.toLowerCase && !isReserveInAllowlist config event.reserve
          then none
          else accountEvictionStart config model event account nowSec)
  | .seedFromOnChainSnapshot input => some (storedBySeed model input)
  | .evictUnderMemoryPressure _ => some model
  | .confirmOnChain .. | .applyFeedPriceUpdate .. | .removePosition .. => none

/-- The number of positions an operation's eviction routine removes. -/
def evictedBy (config : LocalPositionModelConfig) (model : LocalPositionModel) (op : ModelOp) :
    Nat :=
  ((evictionStart config model op).map (fun start =>
    (lost start (op.run config model)).length)).getD 0

/-- The number of positions the eviction routines remove along a run. -/
def evictionsFrom (config : LocalPositionModelConfig) : LocalPositionModel → List ModelOp → Nat
  | _, [] => 0
  | model, op :: rest => evictedBy config model op + evictionsFrom config (op.run config model) rest

/-- The number of positions the eviction routines remove from a new model. -/
def evictions (config : LocalPositionModelConfig) (run : List ModelOp) : Nat :=
  evictionsFrom config initial run

/-- A confirmation finds its account stored or room for it. -/
def HasRoom (config : LocalPositionModelConfig) (model : LocalPositionModel) : ModelOp → Prop
  | .confirmOnChain account .. => RoomFor config model account.toLowerCase
  | _ => True

theorem runOps_snoc (config : LocalPositionModelConfig) (run : List ModelOp) (op : ModelOp) :
    runOps config (run ++ [op]) = op.run config (runOps config run) := by
  rw [runOps, List.foldl_append]
  rfl

theorem evictionsFrom_snoc (config : LocalPositionModelConfig) (run : List ModelOp) (op : ModelOp)
    (model : LocalPositionModel) :
    evictionsFrom config model (run ++ [op]) = evictionsFrom config model run +
      evictedBy config (run.foldl (ModelOp.run config) model) op := by
  induction run generalizing model with
  | nil => exact Nat.add_comm _ _
  | cons earlier rest inductionHypothesis =>
    rw [List.cons_append, evictionsFrom, inductionHypothesis, evictionsFrom, List.foldl_cons]
    omega

theorem evictions_snoc (config : LocalPositionModelConfig) (run : List ModelOp) (op : ModelOp) :
    evictions config (run ++ [op]) =
      evictions config run + evictedBy config (runOps config run) op :=
  evictionsFrom_snoc config run op initial

/-! ## One operation -/

/-- An account's event through its eviction, or its removal of the account. -/
theorem applyAccountEvent_eq (config : LocalPositionModelConfig) (model : LocalPositionModel)
    (event : ParsedAavePoolEvent) (account : Address) (nowSec : Int) :
    (applyAccountEvent config model event account nowSec).1 =
      (accountEvictionStart config model event account nowSec).elim
        ((storedByEvent model event account).1.removePosition
          (storedByEvent model event account).2.account)
        (fun start => enforceHardCap config start event.origin.blockNumber) := by
  unfold applyAccountEvent accountEvictionStart
  dsimp only [storedByEvent]
  split
  · rfl
  · split <;> rfl

theorem evictionTotal_storedByEvent (model : LocalPositionModel) (event : ParsedAavePoolEvent)
    (account : Address) :
    (storedByEvent model event account).1.evictionTotal = model.evictionTotal :=
  evictionTotal_registerReserve model event.reserve BASE_LT_BPS

/-- An account that its own liquidation removes again leaves no room taken. -/
theorem size_removed_le (model : LocalPositionModel) (event : ParsedAavePoolEvent)
    (account : Address) :
    ((storedByEvent model event account).1.removePosition
      (storedByEvent model event account).2.account).positions.size ≤ model.positions.size := by
  set position := (storedByEvent model event account).2 with positionIs
  set key := position.account.toLowerCase with keyIs
  set positions := (storedByEvent model event account).1.positions with positionsIs
  have put : positions = (model.registerReserve event.reserve BASE_LT_BPS).positions.put position :=
    rfl
  have grown := Positions.size_put
    (model.registerReserve event.reserve BASE_LT_BPS).positions position
  have stored : positions.has key = true := by
    rw [put, Positions.has_eq_isSome, Positions.get?_put, if_pos rfl]
    rfl
  have shrunk := Positions.size_delete positions key
  rw [if_pos stored, put] at shrunk
  rw [positions_registerReserve] at grown shrunk
  change ((storedByEvent model event account).1.positions.delete key).size ≤ _
  rw [← positionsIs, put, positions_registerReserve]
  split at grown <;> omega

/-- What an account's event does to the eviction counter and the size. -/
theorem applyAccountEvent_counts (config : LocalPositionModelConfig) (model : LocalPositionModel)
    (event : ParsedAavePoolEvent) (account : Address) (nowSec : Int) :
    (accountEvictionStart config model event account nowSec = none ∧
      (applyAccountEvent config model event account nowSec).1.evictionTotal =
        model.evictionTotal ∧
      (applyAccountEvent config model event account nowSec).1.positions.size ≤
        model.positions.size) ∨
    ∃ start, accountEvictionStart config model event account nowSec = some start ∧
      start.evictionTotal = model.evictionTotal ∧
      (applyAccountEvent config model event account nowSec).1 =
        enforceHardCap config start event.origin.blockNumber := by
  have outcome := applyAccountEvent_eq config model event account nowSec
  have counted := evictionTotal_storedByEvent model event account
  have start : accountEvictionStart config model event account nowSec = none ∨
      ∃ start, accountEvictionStart config model event account nowSec = some start ∧
        SameLedger (storedByEvent model event account).1 start := by
    rw [accountEvictionStart]
    dsimp only
    split
    · exact Or.inl rfl
    · right
      split
      · exact ⟨_, rfl, SameLedger.refl _⟩
      · exact ⟨_, rfl, sameLedger_applyHfResult config _ _ _ nowSec⟩
  rcases start with removed | ⟨start, entered, same⟩
  · rw [removed] at outcome
    refine Or.inl ⟨removed, ?_, ?_⟩
    · rw [outcome]
      exact counted
    · rw [outcome]
      exact size_removed_le model event account
  · rw [entered] at outcome
    exact Or.inr ⟨start, entered, same.evictions.trans counted, outcome⟩

/-- An event's eviction, or none with nothing stored. -/
theorem applyAaveEvent_counts (config : LocalPositionModelConfig) (model : LocalPositionModel)
    (event : ParsedAavePoolEvent) (nowSec : Int) :
    (evictionStart config model (.applyAaveEvent event nowSec) = none ∧
      (applyAaveEvent config model event nowSec).1.evictionTotal = model.evictionTotal ∧
      (applyAaveEvent config model event nowSec).1.positions.size ≤ model.positions.size) ∨
    ∃ start, evictionStart config model (.applyAaveEvent event nowSec) = some start ∧
      start.evictionTotal = model.evictionTotal ∧
      (applyAaveEvent config model event nowSec).1 =
        enforceHardCap config start event.origin.blockNumber := by
  rw [applyAaveEvent, evictionStart]
  by_cases indices : event.name = .ReserveDataUpdated
  · rw [if_pos indices, if_pos indices]
    left
    have registered := positions_registerReserve model event.reserve BASE_LT_BPS
    refine ⟨rfl, ?_, ?_⟩
    · rw [applyReserveIndexUpdate]
      split <;> exact evictionTotal_registerReserve model event.reserve BASE_LT_BPS
    · rw [applyReserveIndexUpdate]
      split <;> exact (congrArg Positions.size registered).le
  · rw [if_neg indices, if_neg indices]
    cases resolveUserAddress event with
    | none => exact Or.inl ⟨rfl, rfl, le_rfl⟩
    | some account =>
      dsimp only [Option.bind_some]
      by_cases ignored : (!model.positions.has account.toLowerCase &&
          !isReserveInAllowlist config event.reserve) = true
      · rw [if_pos ignored, if_pos ignored]
        exact Or.inl ⟨rfl, rfl, le_rfl⟩
      · rw [if_neg ignored, if_neg ignored]
        exact applyAccountEvent_counts config model event account nowSec

/-- Every operation raises the eviction counter by what its eviction routine
removes. -/
theorem evictionTotal_run (config : LocalPositionModelConfig) (model : LocalPositionModel)
    (op : ModelOp) :
    (op.run config model).evictionTotal = model.evictionTotal + evictedBy config model op := by
  cases op with
  | applyAaveEvent event nowSec =>
    rcases applyAaveEvent_counts config model event nowSec with
      ⟨skipped, counted, -⟩ | ⟨start, entered, counted, outcome⟩
    · rw [evictedBy, skipped]
      exact counted
    · rw [evictedBy, entered, ModelOp.run, outcome, ← counted]
      exact (enforceHardCap_evicts config start event.origin.blockNumber).evictionTotal_eq
  | seedFromOnChainSnapshot input =>
    have evicts := enforceHardCap_evicts config (storedBySeed model input) input.blockNumber
    have counted := evicts.evictionTotal_eq
    rw [evictionTotal_storedBySeed, ← seedFromOnChainSnapshot_eq] at counted
    exact counted
  | evictUnderMemoryPressure blockNumber =>
    exact (evictUnderMemoryPressure_evicts config model blockNumber).evictionTotal_eq
  | applyFeedPriceUpdate asset feed answer decimals updatedAtSec =>
    exact (sameLedger_applyFeedPriceUpdate config model asset feed answer decimals
      updatedAtSec).evictions
  | confirmOnChain => rfl
  | removePosition => rfl

/-- A cache within its cap stays so unless a confirmation finds no room. -/
theorem size_run_iff (config : LocalPositionModelConfig) (model : LocalPositionModel)
    (op : ModelOp) (within : (model.positions.size : ℚ) ≤ config.positionCacheHardCap) :
    ((op.run config model).positions.size : ℚ) ≤ config.positionCacheHardCap ↔
      HasRoom config model op := by
  have smaller : ∀ after : LocalPositionModel, after.positions.size ≤ model.positions.size →
      (after.positions.size : ℚ) ≤ config.positionCacheHardCap := by
    intro after shrunk
    exact le_trans (by exact_mod_cast shrunk) within
  cases op with
  | applyAaveEvent event nowSec =>
    refine iff_of_true ?_ trivial
    rcases applyAaveEvent_counts config model event nowSec with
      ⟨-, -, shrunk⟩ | ⟨start, -, -, outcome⟩
    · exact smaller _ shrunk
    · rw [ModelOp.run, outcome]
      exact enforceHardCap_fits config start event.origin.blockNumber
  | seedFromOnChainSnapshot input =>
    refine iff_of_true ?_ trivial
    rw [ModelOp.run, seedFromOnChainSnapshot_eq]
    exact enforceHardCap_fits config _ input.blockNumber
  | evictUnderMemoryPressure blockNumber =>
    exact iff_of_true
      (smaller _ (evictUnderMemoryPressure_evicts config model blockNumber).size_le) trivial
  | applyFeedPriceUpdate asset feed answer decimals updatedAtSec =>
    exact iff_of_true (smaller _ (sameLedger_applyFeedPriceUpdate config model asset feed answer
      decimals updatedAtSec).size.le) trivial
  | removePosition account =>
    have shrunk := Positions.size_delete model.positions account.toLowerCase
    exact iff_of_true (smaller _ (Nat.le.intro shrunk)) trivial
  | confirmOnChain account totalCollateralBase totalDebtBase liquidationThreshold healthFactor
      blockNumber eModeCategoryId =>
    have key := getOrCreate_account model account blockNumber
    have size : (ModelOp.run config model (.confirmOnChain account totalCollateralBase
        totalDebtBase liquidationThreshold healthFactor blockNumber eModeCategoryId)).positions.size
        = model.positions.size + (if model.positions.has account.toLowerCase then 0 else 1) := by
      refine (Positions.size_put model.positions _).trans ?_
      dsimp only
      rw [key]
      split <;> rfl
    rw [size]
    exact Iff.rfl

/-- The cache holds at most its cap, and the counter counts the evictions, after
every operation of a run exactly when each confirmation of the run finds its
account stored or room for it. -/
theorem cache_bounded_iff (config : LocalPositionModelConfig) (run : List ModelOp) :
    Always (fun past =>
      ((runOps config past).positions.size : ℚ) ≤ config.positionCacheHardCap ∧
        (runOps config past).evictionTotal = evictions config past) run ↔
      EachStep (fun past op => HasRoom config (runOps config past) op) run := by
  apply always_iff_eachStep
  · have empty : (runOps config []).positions.size = 0 := rfl
    rw [empty, Nat.cast_zero]
    exact ⟨config.hardCapPositive.le, rfl⟩
  · rintro past op - ⟨within, counted⟩
    have counts : (runOps config (past ++ [op])).evictionTotal = evictions config (past ++ [op]) := by
      rw [runOps_snoc, evictions_snoc, evictionTotal_run, counted]
    rw [and_iff_left counts, runOps_snoc]
    exact size_run_iff config _ op within

/-- A cache of one position. -/
def smallConfig : LocalPositionModelConfig :=
  { defaultConfig with positionCacheHardCap := 1, hardCapPositive := by norm_num }

/-- Two confirmations fill a cache of one position with two. -/
theorem cache_overfilled :
    ¬ ∀ (config : LocalPositionModelConfig), 1 ≤ config.positionCacheHardCap →
      ∀ run : List ModelOp, Always (fun past =>
        ((runOps config past).positions.size : ℚ) ≤ config.positionCacheHardCap ∧
          (runOps config past).evictionTotal = evictions config past) run := by
  intro bounded
  have both := (bounded smallConfig le_rfl
    [.confirmOnChain ⟨1, 0⟩ 0 0 0 0 5 0, .confirmOnChain ⟨2, 0⟩ 0 0 0 0 6 0] _
    List.prefix_rfl).1
  have size : (runOps smallConfig [.confirmOnChain ⟨1, 0⟩ 0 0 0 0 5 0,
      .confirmOnChain ⟨2, 0⟩ 0 0 0 0 6 0]).positions.size = 2 := by decide +kernel
  rw [size] at both
  norm_num [smallConfig] at both

end LiquidationBot.LocalPositionModel
