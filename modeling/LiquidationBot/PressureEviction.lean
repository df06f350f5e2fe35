import LiquidationBot.CacheBounds

/-!
# Eviction under memory pressure

Two passes run in one call. The first deletes positions of the healthy tier with
a health factor of at least 1.5, the oldest activity first, until three quarters
of the cap are left. The second knows neither tiers nor the constant: it deletes
what is inactive and at or above the configured threshold. So a position at risk
goes only where that threshold is below its health factor.
-/

namespace LiquidationBot.LocalPositionModel

/-- A position at risk: a health factor below 1.5, or a tier other than healthy. -/
def AtRisk (config : LocalPositionModelConfig) (position : UserPosition) : Prop :=
  position.cachedHfWad < (3 * WAD) / 2 ∨
    classifyTier config position.cachedHfWad = .urgent ∨
    classifyTier config position.cachedHfWad = .watch ∨
    classifyTier config position.cachedHfWad = .liquidatable

/-- `evictInactiveHealthy` deletes a position. -/
def InactiveHealthy (config : LocalPositionModelConfig) (blockNumber : Nat)
    (position : UserPosition) : Prop :=
  position.cachedHfWad ≥ config.positionEvictionHfThresholdWad ∧
    ((blockNumber : Int) - position.lastActivityBlock ≥ config.positionEvictionInactiveBlocks)

/-- The size the first pass evicts down to. -/
def pressureCap (config : LocalPositionModelConfig) : ℤ :=
  ⌊config.positionCacheHardCap * (3 / 4)⌋

/-- The positions the first pass may delete, oldest activity first. -/
def pressureVictims (config : LocalPositionModelConfig) (positions : Positions) :
    List UserPosition :=
  (byActivity positions).filter (fun position =>
    decide (classifyTier config position.cachedHfWad = .healthy) &&
      decide (position.cachedHfWad ≥ (3 * WAD) / 2))

/-- What a call of `evictUnderMemoryPressure` returns. -/
def evictedUnderMemoryPressure (config : LocalPositionModelConfig) (model : LocalPositionModel)
    (blockNumber : Nat) : Int :=
  let startSize : Int := model.positions.size
  startSize - (evictUnderMemoryPressure config model blockNumber).positions.size

/-- What the first pass deletes: stored positions not at risk, the oldest
activity first, and no more of them than bring the size down to the cap. -/
structure FirstPass (config : LocalPositionModelConfig) (positions : Positions)
    (deleted : List UserPosition) : Prop where
  distinct : deleted.Nodup
  stored : ∀ position ∈ deleted, position ∈ positions.values
  safe : ∀ position ∈ deleted, ¬ AtRisk config position
  oldest : ∀ position ∈ deleted, ∀ other ∈ positions.values, ¬ AtRisk config other →
    other ∉ deleted → position.lastActivityBlock ≤ other.lastActivityBlock
  enough : (positions.size : ℤ) - deleted.length ≤ pressureCap config ∨
    ∀ other ∈ positions.values, ¬ AtRisk config other → other ∈ deleted
  needed : deleted = [] ∨ pressureCap config ≤ (positions.size : ℤ) - deleted.length

theorem not_atRisk_iff (config : LocalPositionModelConfig) (position : UserPosition) :
    ¬ AtRisk config position ↔
      classifyTier config position.cachedHfWad = .healthy ∧
        position.cachedHfWad ≥ (3 * WAD) / 2 := by
  unfold AtRisk
  cases classifyTier config position.cachedHfWad <;> simp

theorem mem_pressureVictims (config : LocalPositionModelConfig) (positions : Positions)
    (position : UserPosition) :
    position ∈ pressureVictims config positions ↔
      position ∈ positions.values ∧ ¬ AtRisk config position := by
  rw [pressureVictims, List.mem_filter, not_atRisk_iff, byActivity, List.mem_insertionSort]
  simp

theorem byActivity_sorted (positions : Positions) :
    (byActivity positions).Pairwise
      (fun earlier later => earlier.lastActivityBlock ≤ later.lastActivityBlock) := by
  have total : ∀ a b : UserPosition, a.lastActivityBlock ≤ b.lastActivityBlock ∨
      b.lastActivityBlock ≤ a.lastActivityBlock := fun a b => Nat.le_total _ _
  have : Std.Total (fun a b : UserPosition => a.lastActivityBlock ≤ b.lastActivityBlock) := ⟨total⟩
  have : IsTrans UserPosition (fun a b => a.lastActivityBlock ≤ b.lastActivityBlock) :=
    ⟨fun a b c => Nat.le_trans⟩
  exact List.pairwise_insertionSort _ _

/-- Deleting victims in order deletes a prefix of them: none too few while the
store is over the cap, and none once it is not. -/
theorem evictOver_prefix (cap : ℤ) (victims : List UserPosition) (model : LocalPositionModel)
    (distinct : (victims.map (fun victim => victim.account.toLowerCase)).Nodup)
    (stored : ∀ victim ∈ victims, model.positions.has victim.account.toLowerCase = true) :
    ∃ deleted, deleted <+: victims ∧
      ((model.positions.size : ℤ) - deleted.length ≤ cap ∨ deleted = victims) ∧
      (deleted = [] ∨ cap ≤ (model.positions.size : ℤ) - deleted.length) ∧
      ∀ key, (evictOver cap model victims).positions.get? key =
        if key ∈ deleted.map (fun victim => victim.account.toLowerCase) then none
        else model.positions.get? key := by
  induction victims generalizing model with
  | nil => exact ⟨[], List.prefix_rfl, .inr rfl, .inl rfl, fun key => rfl⟩
  | cons victim rest inductionHypothesis =>
    rw [List.map_cons, List.nodup_cons] at distinct
    rw [evictOver]
    by_cases above : (model.positions.size : ℚ) > (cap : ℚ)
    · rw [if_pos above]
      have shrunk := Positions.size_delete model.positions victim.account.toLowerCase
      rw [if_pos (stored victim List.mem_cons_self)] at shrunk
      obtain ⟨deleted, within, enough, needed, lookups⟩ := inductionHypothesis
        { model with
          positions := model.positions.delete victim.account.toLowerCase
          evictionTotal := model.evictionTotal + 1 } distinct.2 (by
          intro other later
          have different : other.account.toLowerCase ≠ victim.account.toLowerCase := by
            intro same
            exact distinct.1 (List.mem_map.mpr ⟨other, later, same⟩)
          rw [Positions.has_eq_isSome, Positions.get?_delete, if_neg different]
          exact stored other (List.mem_cons_of_mem _ later))
      have aboveInt : cap < (model.positions.size : ℤ) := by exact_mod_cast above
      dsimp only at enough needed
      refine ⟨victim :: deleted, (List.cons_prefix_cons).mpr ⟨rfl, within⟩, ?_, .inr ?_, ?_⟩
      · refine enough.imp (fun small => ?_) (fun all => by rw [all])
        rw [List.length_cons]
        omega
      · rw [List.length_cons]
        rcases needed with none | room
        · rw [none, List.length_nil]
          omega
        · omega
      · intro key
        rw [lookups key, List.map_cons, Positions.get?_delete]
        by_cases here : key = victim.account.toLowerCase
        · simp [here]
        · simp [here]
    · rw [if_neg above]
      have underInt : (model.positions.size : ℤ) ≤ cap := by
        have := not_lt.mp above
        exact_mod_cast this
      exact ⟨[], List.nil_prefix, .inl (by simpa using underInt), .inl rfl, fun key => rfl⟩

/-- A stored position is found under its own account. -/
theorem mem_values_keyed (positions : Positions) (position : UserPosition) :
    position ∈ positions.values ↔
      positions.get? position.account.toLowerCase = some position := by
  refine (InsertionMap.mem_values_iff positions.byAccount position).trans
    ⟨fun ⟨key, found⟩ => ?_, fun found => ⟨_, found⟩⟩
  have same := positions.keyed key position found
  rw [same]
  exact found

/-- A prefix of the victims is what a first pass deletes. -/
theorem firstPass_of_prefix (config : LocalPositionModelConfig) (positions : Positions)
    (deleted : List UserPosition) (within : deleted <+: pressureVictims config positions)
    (enough : (positions.size : ℤ) - deleted.length ≤ pressureCap config ∨
      deleted = pressureVictims config positions)
    (needed : deleted = [] ∨ pressureCap config ≤ (positions.size : ℤ) - deleted.length) :
    FirstPass config positions deleted := by
  have victim : ∀ position ∈ deleted, position ∈ positions.values ∧ ¬ AtRisk config position :=
    fun position member => (mem_pressureVictims config positions position).mp (within.subset member)
  have distinct : (pressureVictims config positions).Nodup :=
    (List.Nodup.of_map _ (byActivity_distinct positions)).filter _
  refine ⟨distinct.sublist within.sublist, fun position member => (victim position member).1,
    fun position member => (victim position member).2, ?_, ?_, needed⟩
  · -- what is left of the victims comes after the deleted ones in the sorted list
    intro position member other stored safe spared
    obtain ⟨left, split⟩ := within
    have sorted : (deleted ++ left).Pairwise (fun earlier later =>
        earlier.lastActivityBlock ≤ later.lastActivityBlock) := by
      rw [split]
      exact (byActivity_sorted positions).filter _
    have later : other ∈ deleted ++ left := by
      rw [split]
      exact (mem_pressureVictims config positions other).mpr ⟨stored, safe⟩
    exact (List.pairwise_append.mp sorted).2.2 position member other
      ((List.mem_append.mp later).resolve_left spared)
  · refine enough.imp id (fun all other stored safe => ?_)
    rw [all]
    exact (mem_pressureVictims config positions other).mpr ⟨stored, safe⟩

/-- Among stored positions a key tells whether the position was deleted. -/
theorem FirstPass.key_mem_iff {config : LocalPositionModelConfig} {positions : Positions}
    {deleted : List UserPosition} (first : FirstPass config positions deleted)
    {position : UserPosition} (stored : position ∈ positions.values) :
    position.account.toLowerCase ∈ deleted.map (fun victim => victim.account.toLowerCase) ↔
      position ∈ deleted := by
  constructor
  · intro member
    obtain ⟨other, later, same⟩ := List.mem_map.mp member
    have found := (mem_values_keyed positions position).mp stored
    have otherFound := (mem_values_keyed positions other).mp (first.stored other later)
    rw [same, found, Option.some.injEq] at otherFound
    rwa [otherFound]
  · exact fun member => List.mem_map_of_mem member

/-- The positions a second pass deletes are the inactive healthy ones. -/
theorem mem_values_evictInactiveHealthy (config : LocalPositionModelConfig)
    (model : LocalPositionModel) (blockNumber : Nat) (position : UserPosition) :
    position ∈ (evictInactiveHealthy config model blockNumber).positions.values ↔
      position ∈ model.positions.values ∧ ¬ InactiveHealthy config blockNumber position := by
  rw [mem_values_keyed, mem_values_keyed, evictInactiveHealthy, Positions.get?_keepIf,
    Option.filter_eq_some_iff, InactiveHealthy]
  simp only [Bool.not_eq_true', Bool.and_eq_false_iff, decide_eq_false_iff_not, not_and_or]

/-- One call deletes what its first pass does and every inactive healthy
position. A position at risk goes only as an inactive healthy one. The result is
the number deleted, by which the eviction counter grows. -/
theorem memory_pressure_deletes (config : LocalPositionModelConfig) (model : LocalPositionModel)
    (blockNumber : Nat) :
    let after := evictUnderMemoryPressure config model blockNumber
    (∃ deleted, FirstPass config model.positions deleted ∧
      ∀ position ∈ model.positions.values, (position ∉ after.positions.values ↔
        position ∈ deleted ∨ InactiveHealthy config blockNumber position)) ∧
      (∀ position ∈ model.positions.values, AtRisk config position →
        position ∉ after.positions.values → InactiveHealthy config blockNumber position) ∧
      after.positions.values ⊆ model.positions.values ∧
      evictedUnderMemoryPressure config model blockNumber = (lost model after).length ∧
      (after.evictionTotal : Int) =
        model.evictionTotal + evictedUnderMemoryPressure config model blockNumber := by
  intro after
  have evicts : Evicts model after := evictUnderMemoryPressure_evicts config model blockNumber
  have counted : evictedUnderMemoryPressure config model blockNumber =
      (lost model after).length := by
    have missing := evicts.length_lost
    change (model.positions.size : Int) - after.positions.size = _
    omega
  obtain ⟨deleted, within, enough, needed, lookups⟩ := evictOver_prefix (pressureCap config)
    (pressureVictims config model.positions) model
    ((byActivity_distinct model.positions).sublist (List.filter_sublist.map _))
    (fun victim member => byActivity_stored model.positions victim (List.mem_of_mem_filter member))
  have first : FirstPass config model.positions deleted :=
    firstPass_of_prefix config model.positions deleted within enough needed
  have gone : ∀ position ∈ model.positions.values, (position ∉ after.positions.values ↔
      position ∈ deleted ∨ InactiveHealthy config blockNumber position) := by
    intro position stored
    have found := (mem_values_keyed model.positions position).mp stored
    change position ∉ (evictInactiveHealthy config (evictOver (pressureCap config) model
      (pressureVictims config model.positions)) blockNumber).positions.values ↔ _
    rw [mem_values_evictInactiveHealthy, mem_values_keyed, lookups, found]
    simp only [first.key_mem_iff stored]
    by_cases member : position ∈ deleted <;> simp [member]
  refine ⟨⟨deleted, first, gone⟩, ?_, ?_, counted, ?_⟩
  · intro position stored risky missing
    exact ((gone position stored).mp missing).resolve_left
      (fun member => first.safe position member risky)
  · intro position stored
    exact (mem_values_keyed model.positions position).mpr
      (evicts.kept _ position ((mem_values_keyed after.positions position).mp stored))
  · rw [counted]
    have total := evicts.evictionTotal_eq
    omega

/-- Eviction from a health factor of 1 on. -/
def eagerConfig : LocalPositionModelConfig :=
  { defaultConfig with positionEvictionHfThresholdWad := WAD }

/-- With such a threshold a position at 1.04, urgent, goes once it is inactive. -/
theorem memory_pressure_evicts_urgent :
    ¬ ∀ (config : LocalPositionModelConfig), 0 < config.positionEvictionHfThresholdWad →
      ∀ (model : LocalPositionModel) (blockNumber : Nat), ∀ position ∈ model.positions.values,
        AtRisk config position →
          position ∈ (evictUnderMemoryPressure config model blockNumber).positions.values := by
  intro spared
  let model := runOps eagerConfig [.confirmOnChain ⟨1, 0⟩ 0 0 0 1040000000000000000 5 0]
  have health : 1040000000000000000 ∈
      model.positions.values.map (fun position => position.cachedHfWad) := by decide +kernel
  have gone : (evictUnderMemoryPressure eagerConfig model 200000).positions.values.length = 0 := by
    decide +kernel
  obtain ⟨position, stored, cached⟩ := List.mem_map.mp health
  have risky : AtRisk eagerConfig position := by
    left
    rw [cached]
    decide
  have kept := spared eagerConfig (by decide) model 200000 position stored risky
  rw [List.eq_nil_of_length_eq_zero gone] at kept
  cases kept

end LiquidationBot.LocalPositionModel
