import LiquidationBot.BootstrapSnapshotStore
import LiquidationBot.HealthFactorUnits
import LiquidationBot.ReachableModels

/-!
# A position seeded from its own export

A seeding stores the rows in their order, each amount at its reserve's current
index. So the position of an exported row has the amounts of the exported position
without the zeros, and they count from the present: what they have accrued since
they were recorded is gone. Its assets with collateral come first.

A recomputation looks at the market only: prices, feeds, reserves, and whether the
prices are bootstrapped. The other positions do not matter to it.
-/

namespace LiquidationBot

namespace LocalPositionModel

/-! ## The market -/

/-- What a recomputation looks at besides the position. -/
structure SameMarket (left right : LocalPositionModel) : Prop where
  reserves : left.reserveConfig = right.reserveConfig
  prices : left.prices = right.prices
  feedStates : left.feedStates = right.feedStates
  bootstrapped : left.pricesBootstrapped = right.pricesBootstrapped

namespace SameMarket

variable {left middle right : LocalPositionModel}

theorem refl (model : LocalPositionModel) : SameMarket model model := ⟨rfl, rfl, rfl, rfl⟩

theorem trans (first : SameMarket left middle) (second : SameMarket middle right) :
    SameMarket left right where
  reserves := first.reserves.trans second.reserves
  prices := first.prices.trans second.prices
  feedStates := first.feedStates.trans second.feedStates
  bootstrapped := first.bootstrapped.trans second.bootstrapped

theorem symm (same : SameMarket left right) : SameMarket right left :=
  ⟨same.reserves.symm, same.prices.symm, same.feedStates.symm, same.bootstrapped.symm⟩

end SameMarket

section Refresh

variable {config other : LocalPositionModelConfig} {left right : LocalPositionModel} (nowSec : Int)

theorem sameMarket_materialize (same : SameMarket left right)
    (multiplier : config.freshnessMultiplier = other.freshnessMultiplier) :
    SameMarket (materializeHealthyPegPrices config left nowSec)
      (materializeHealthyPegPrices other right nowSec) := by
  have input : pegHealthInput config left nowSec = pegHealthInput other right nowSec := by
    rw [pegHealthInput, pegHealthInput, same.prices, same.feedStates, multiplier]
  rw [materializeHealthyPegPrices, materializeHealthyPegPrices, input, same.prices,
    same.feedStates]
  split
  · exact same
  · split
    · exact same
    · exact ⟨same.reserves, by simp only [registerBootstrapPrice, same.prices],
        by simp only [registerBootstrapPrice, same.feedStates], same.bootstrapped⟩

/-- A refresh of the pegged price changes the market by the market only. -/
theorem sameMarket_refreshPegs (same : SameMarket left right)
    (multiplier : config.freshnessMultiplier = other.freshnessMultiplier) :
    SameMarket (refreshPegs config left nowSec) (refreshPegs other right nowSec) := by
  by_cases inSync : InSync left.prices
  · have alike : InSync right.prices := same.prices ▸ inSync
    have here : refreshPegs config left nowSec = left := idle_inSync inSync left.positions
    have there : refreshPegs other right nowSec = right := idle_inSync alike right.positions
    rw [here, there]
    exact same
  · obtain ⟨price, priced, differs⟩ := not_inSync_iff.mp inSync
    have assets : pegAssetsToSync right none = pegAssetsToSync left none := by
      rw [pegAssetsToSync, pegAssetsToSync, same.prices]
    rw [refreshPegs, refreshPegs]
    refine sameMarket_materialize nowSec ?_ multiplier
    cases listed : pegAssetsToSync left none with
    | nil =>
      simp only [syncDerivedPegPrices, syncDerivedPegPricesWith, assets, listed, List.foldl_nil]
      exact same
    | cons pegAsset rest =>
      -- The first pegged asset is registered, and the holders are settled.
      have pegged : isUsdbcAsset pegAsset = true :=
        isUsdbcAsset_of_mem_pegAssetsToSync (listed ▸ List.mem_cons_self)
      have synced : ∀ (config : LocalPositionModelConfig) (model : LocalPositionModel),
          model.prices = left.prices → pegAssetsToSync model none = pegAsset :: rest →
          SameMarket (syncDerivedPegPrices config model nowSec none).1
            (registerPeg model pegAsset price nowSec) := by
        intro config model prices listed
        have modelPriced : pegPrice model.prices = some price := prices ▸ priced
        have modelDiffers : model.prices.get? BASE_USDBC.toLowerCase ≠ some price :=
          prices ▸ differs
        have registered := inSync_registerPeg nowSec pegged modelPriced
        obtain ⟨plain, _⟩ := steady_inSync config nowSec registered
        have kept := inSync_recomputed config pegAsset registered plain
        obtain ⟨positions, looped, _⟩ := recomputeTierChangesWith_steady config pegAsset plain
        rw [syncDerivedPegPrices, sync_outOfSync listed modelPriced modelDiffers kept, looped]
        exact ⟨rfl, rfl, rfl, rfl⟩
      have pegs : SameMarket (registerPeg left pegAsset price nowSec)
          (registerPeg right pegAsset price nowSec) :=
        ⟨same.reserves, by simp only [registerPeg, registerBootstrapPrice, same.prices],
          by simp only [registerPeg, registerBootstrapPrice, same.feedStates], same.bootstrapped⟩
      exact ((synced config left rfl listed).trans pegs).trans
        (synced other right same.prices.symm (assets.trans listed)).symm

end Refresh

/-! ## The assets of a position -/

section Assets

variable (position : UserPosition)

theorem positionKeys_nodup : (positionKeys position).Nodup := by
  rw [positionKeys, List.nodup_append]
  refine ⟨position.collateral.distinct, position.debt.distinct.filter _, ?_⟩
  rintro key first _ second rfl
  have absent := (List.mem_filter.mp second).2
  have present := (InsertionMap.mem_keys_iff position.collateral key).mp first
  simp [present] at absent

theorem heldKeys_nodup : (heldKeys position).Nodup := (positionKeys_nodup position).filter _

theorem mem_heldKeys_iff (key : Address) :
    key ∈ heldKeys position ↔
      0 < storedAmount position.collateral key ∨ 0 < storedAmount position.debt key := by
  have entry : ∀ amounts : AssetMap, 0 < storedAmount amounts key →
      (key, storedAmount amounts key) ∈ amounts.entries := by
    intro amounts positive
    rw [InsertionMap.mem_entries_iff]
    cases found : amounts.get? key with
    | none => simp [storedAmount, found] at positive
    | some value => simp [storedAmount, found]
  constructor
  · intro held
    have filled := (List.mem_filter.mp held).2
    simp only [Bool.not_eq_true', Bool.and_eq_false_iff, decide_eq_false_iff_not] at filled
    exact filled.imp Nat.pos_of_ne_zero Nat.pos_of_ne_zero
  · rintro (positive | positive)
    · exact mem_heldKeys_of_collateral (entry position.collateral positive) positive.ne'
    · exact mem_heldKeys_of_debt (entry position.debt positive) positive.ne'

/-- The assets among these that have an amount. -/
def filledKeys (amounts : AssetMap) (keys : List Address) : List Address :=
  keys.filter (fun key => decide (0 < storedAmount amounts key))

/-- The assets of a position, those with collateral first. -/
def collateralFirst : List Address :=
  filledKeys position.collateral (heldKeys position) ++
    (heldKeys position).filter (fun key => decide (storedAmount position.collateral key = 0))

theorem collateralFirst_perm : (collateralFirst position).Perm (heldKeys position) := by
  have split := List.filter_append_perm (fun key => decide (0 < storedAmount position.collateral key))
    (heldKeys position)
  have rest : (heldKeys position).filter
      (fun key => decide (storedAmount position.collateral key = 0)) =
      (heldKeys position).filter
        (fun key => !decide (0 < storedAmount position.collateral key)) := by
    apply List.filter_congr
    intro key _
    by_cases empty : storedAmount position.collateral key = 0
    · simp [empty]
    · simp [empty, Nat.pos_of_ne_zero empty]
  rw [collateralFirst, rest]
  exact split

/-- What the entries of a map are worth depends on its amounts only. -/
theorem sum_filledKeys (amounts : AssetMap) {keys : List Address} (distinct : keys.Nodup)
    (covered : ∀ key, 0 < storedAmount amounts key → key ∈ keys) (worth : SideEntry → Nat)
    (nothing : ∀ key, worth (key, 0) = 0) :
    (((filledKeys amounts keys).map (fun key => (key, storedAmount amounts key))).map worth).sum =
      (amounts.entries.map worth).sum := by
  have kept : ∀ entries : List SideEntry,
      ((entries.filter (fun entry => decide (0 < entry.2))).map worth).sum =
        (entries.map worth).sum := by
    intro entries
    induction entries with
    | nil => rfl
    | cons entry rest inductionHypothesis =>
      by_cases positive : 0 < entry.2
      · simp [positive, inductionHypothesis]
      · have zero : worth entry = 0 := by
          have empty : entry = (entry.1, 0) := by
            rw [← Nat.eq_zero_of_not_pos positive]
          rw [empty]
          exact nothing entry.1
        simp [positive, inductionHypothesis, zero]
  have same : ((filledKeys amounts keys).map (fun key => (key, storedAmount amounts key))).Perm
      (amounts.entries.filter (fun entry => decide (0 < entry.2))) := by
    refine (List.perm_ext_iff_of_nodup ?_ (amounts.distinct.of_map.filter _)).mpr ?_
    · refine List.Nodup.of_map Prod.fst ?_
      rw [List.map_map]
      exact (List.map_id _).symm ▸ distinct.filter _
    · rintro ⟨key, value⟩
      rw [List.mem_map, List.mem_filter, InsertionMap.mem_entries_iff]
      constructor
      · rintro ⟨listed, member, same⟩
        have positive := of_decide_eq_true (List.mem_filter.mp member).2
        obtain ⟨rfl, rfl⟩ := Prod.mk.inj same
        cases found : amounts.get? listed with
        | none => simp [storedAmount, found] at positive
        | some stored => simpa [storedAmount, found] using positive
      · rintro ⟨found, positive⟩
        have amount : storedAmount amounts key = value := by rw [storedAmount, found]; rfl
        have filled : 0 < storedAmount amounts key := amount ▸ of_decide_eq_true positive
        exact ⟨key, List.mem_filter.mpr ⟨covered key filled, decide_eq_true filled⟩,
          by rw [amount]⟩
  rw [← kept amounts.entries]
  exact (same.map worth).sum_eq

end Assets

/-! ## What a saved row restores -/

/-- Rows of distinct new assets are appended, each side's without its zeros. -/
theorem entries_foldl_seedReserve (side : Side) (rows : List SnapshotReserve)
    (state : LocalPositionModel × UserPosition)
    (lowerCased : ∀ row ∈ rows, row.asset.toLowerCase = row.asset)
    (distinct : (rows.map SnapshotReserve.asset).Nodup)
    (fresh : ∀ row ∈ rows, (side.amounts state.2).amounts.get? row.asset = none) :
    (side.amounts (rows.foldl seedReserve state).2).amounts.entries =
      (side.amounts state.2).amounts.entries ++
        (rows.filter (fun row => decide (0 < side.scaled row))).map
          (fun row => (row.asset, side.scaled row)) := by
  induction rows generalizing state with
  | nil => simp
  | cons row rest inductionHypothesis =>
    obtain ⟨apart, distinct⟩ := List.nodup_cons.mp distinct
    have own : row.asset.toLowerCase = row.asset := lowerCased row List.mem_cons_self
    have absent := fresh row List.mem_cons_self
    have turn := seedReserve_side state row side
    rw [own] at turn
    have later : ∀ other ∈ rest,
        (side.amounts (seedReserve state row).2).amounts.get? other.asset = none := by
      intro other member
      have free := fresh other (List.mem_cons_of_mem _ member)
      rw [turn]
      split
      · refine (InsertionMap.get?_set_other _ _ ?_).trans free
        intro same
        exact apart (same ▸ List.mem_map_of_mem member)
      · exact free
    rw [List.foldl_cons, inductionHypothesis (seedReserve state row)
      (fun other member => lowerCased other (List.mem_cons_of_mem _ member)) distinct later, turn]
    by_cases positive : 0 < side.scaled row
    · rw [if_pos positive, List.filter_cons_of_pos (by simpa using positive), List.map_cons]
      have appended : ((side.amounts state.2).amounts.set row.asset (side.scaled row)).entries =
          (side.amounts state.2).amounts.entries ++ [(row.asset, side.scaled row)] :=
        InsertionMap.insert_of_absent _ absent
      rw [appended, List.append_assoc, List.singleton_append]
    · rw [if_neg positive, List.filter_cons_of_neg (by simpa using positive)]

section Restored

variable (model : LocalPositionModel) (blockNumber : Nat) {position : UserPosition}

/-- The position that a saved row seeds. -/
def restoredPosition (position : UserPosition) : UserPosition :=
  seededPosition model (savedSnapshot blockNumber position)

/-- The assets of a position are lower-cased. -/
def LowerCased (position : UserPosition) : Prop :=
  ∀ key ∈ heldKeys position, key.toLowerCase = key

theorem entries_restored (lowerCased : LowerCased position) (side : Side) :
    (side.amounts (restoredPosition model blockNumber position)).amounts.entries =
      (filledKeys (side.amounts position).amounts (heldKeys position)).map
        (fun key => (key, storedAmount (side.amounts position).amounts key)) := by
  have scaled : ∀ key, side.scaled ⟨key, storedAmount position.collateral key,
      storedAmount position.debt key⟩ = storedAmount (side.amounts position).amounts key := by
    cases side <;> exact fun _ => rfl
  have assets : (savedSnapshot blockNumber position).reserves.map SnapshotReserve.asset =
      heldKeys position := by
    rw [savedSnapshot, List.map_map]
    exact List.map_id _
  have rows := entries_foldl_seedReserve side (savedSnapshot blockNumber position).reserves
    (model, clearedForSeed model (savedSnapshot blockNumber position)) ?_ ?_ ?_
  · have sides : side.amounts (restoredPosition model blockNumber position) =
        side.amounts ((savedSnapshot blockNumber position).reserves.foldl seedReserve
          (model, clearedForSeed model (savedSnapshot blockNumber position))).2 := by
      cases side <;> rfl
    have cleared : (side.amounts
        (clearedForSeed model (savedSnapshot blockNumber position))).amounts.entries = [] := by
      cases side <;> rfl
    rw [sides, rows, cleared, List.nil_append, savedSnapshot, filledKeys, List.filter_map,
      List.map_map]
    simp only [Function.comp_def, scaled]
  · intro row member
    have held : row.asset ∈ heldKeys position := assets ▸ List.mem_map_of_mem member
    exact lowerCased row.asset held
  · rw [assets]
    exact heldKeys_nodup position
  · intro row _
    cases side <;> rfl

theorem mem_filledKeys_iff {amounts : AssetMap} {keys : List Address} {key : Address} :
    key ∈ filledKeys amounts keys ↔ key ∈ keys ∧ 0 < storedAmount amounts key := by
  rw [filledKeys, List.mem_filter, decide_eq_true_eq]

/-- A restored side answers with the amounts of the exported one that are not zero. -/
theorem get?_restored (lowerCased : LowerCased position) (side : Side) (key : Address) :
    (side.amounts (restoredPosition model blockNumber position)).amounts.get? key =
      if 0 < storedAmount (side.amounts position).amounts key then
        some (storedAmount (side.amounts position).amounts key)
      else none := by
  by_cases positive : 0 < storedAmount (side.amounts position).amounts key
  · have held : key ∈ heldKeys position := by
      rw [mem_heldKeys_iff]
      cases side with
      | collateral => exact Or.inl positive
      | debt => exact Or.inr positive
    rw [if_pos positive, ← InsertionMap.mem_entries_iff, entries_restored model blockNumber lowerCased]
    exact List.mem_map_of_mem (mem_filledKeys_iff.mpr ⟨held, positive⟩)
  · rw [if_neg positive]
    refine Option.eq_none_iff_forall_not_mem.mpr (fun value found => positive ?_)
    have member := (InsertionMap.mem_entries_iff _ key value).mpr found
    rw [entries_restored model blockNumber lowerCased] at member
    obtain ⟨listed, filled, same⟩ := List.mem_map.mp member
    obtain ⟨rfl, _⟩ := Prod.mk.inj same
    exact (mem_filledKeys_iff.mp filled).2

theorem storedAmount_restored (lowerCased : LowerCased position) (side : Side) (key : Address) :
    storedAmount (side.amounts (restoredPosition model blockNumber position)).amounts key =
      storedAmount (side.amounts position).amounts key := by
  rw [storedAmount, get?_restored model blockNumber lowerCased]
  split
  · rfl
  next empty => exact (Nat.eq_zero_of_not_pos empty).symm

/-- Restored amounts count from the current index. -/
theorem index_restored (lowerCased : LowerCased position) (side : Side) {key : Address}
    (positive : 0 < storedAmount (side.amounts position).amounts key) :
    (side.amounts (restoredPosition model blockNumber position)).indexAtUpdate.get? key =
      some (currentIndex model side key) := by
  have seeded := seededPosition_side model (savedSnapshot blockNumber position) side key
  have stored : (side.amounts (restoredPosition model blockNumber position)).amounts.get? key =
      some (storedAmount (side.amounts position).amounts key) := by
    rw [get?_restored model blockNumber lowerCased, if_pos positive]
  rw [restoredPosition, seeded.2, ← seeded.1, ← restoredPosition, stored]
  rfl

theorem keys_restored (lowerCased : LowerCased position) (side : Side) :
    (side.amounts (restoredPosition model blockNumber position)).amounts.keys =
      filledKeys (side.amounts position).amounts (heldKeys position) := by
  rw [InsertionMap.keys, entries_restored model blockNumber lowerCased, List.map_map]
  exact List.map_id _

/-- Assets with collateral come before those with debt only. -/
theorem heldKeys_restored (lowerCased : LowerCased position) :
    heldKeys (restoredPosition model blockNumber position) = collateralFirst position := by
  have collateral := keys_restored model blockNumber lowerCased .collateral
  have debt := keys_restored model blockNumber lowerCased .debt
  have has : ∀ key, (restoredPosition model blockNumber position).collateral.has key =
      decide (0 < storedAmount position.collateral key) := by
    intro key
    have found := get?_restored model blockNumber lowerCased .collateral key
    change (restoredPosition model blockNumber position).collateral.get? key = _ at found
    rw [InsertionMap.has, found]
    by_cases positive : 0 < storedAmount position.collateral key
    · simp [Side.amounts, collateralSide, positive]
    · simp [Side.amounts, collateralSide, positive]
  have debtOnly : (filledKeys position.debt (heldKeys position)).filter
      (fun key => !decide (0 < storedAmount position.collateral key)) =
      (heldKeys position).filter (fun key => decide (storedAmount position.collateral key = 0)) := by
    rw [filledKeys, List.filter_filter]
    apply List.filter_congr
    intro key held
    have filled := (mem_heldKeys_iff position key).mp held
    by_cases empty : storedAmount position.collateral key = 0
    · have owed : 0 < storedAmount position.debt key := by
        rcases filled with positive | positive
        · omega
        · exact positive
      simp [empty, owed]
    · simp [empty, Nat.pos_of_ne_zero empty]
  have all : positionKeys (restoredPosition model blockNumber position) =
      collateralFirst position := by
    rw [positionKeys, collateralFirst]
    refine congrArg₂ (· ++ ·) collateral ?_
    simp only [has]
    rw [← debtOnly]
    exact congrArg (List.filter _) debt
  rw [heldKeys, all, List.filter_eq_self]
  intro key member
  have held := (collateralFirst_perm position).mem_iff.mp member
  have filled := (mem_heldKeys_iff position key).mp held
  have stored := storedAmount_restored model blockNumber lowerCased .collateral key
  have owed := storedAmount_restored model blockNumber lowerCased .debt key
  simp only [storedAmount, Side.amounts, collateralSide, debtSide] at stored owed filled
  rw [stored, owed]
  simp only [Bool.not_eq_true', Bool.and_eq_false_iff, decide_eq_false_iff_not]
  exact filled.imp Nat.ne_of_gt Nat.ne_of_gt

/-- The assets that are listed while the prices are not bootstrapped. -/
theorem collectPositionAssets_restored (lowerCased : LowerCased position) :
    collectPositionAssets (restoredPosition model blockNumber position) =
      filledKeys position.collateral (heldKeys position) ++
        filledKeys position.debt (heldKeys position) := by
  have all : ∀ side : Side,
      ((side.amounts (restoredPosition model blockNumber position)).amounts.entries.filter
        (fun entry => decide (entry.2 > 0))).map Prod.fst =
        filledKeys (side.amounts position).amounts (heldKeys position) := by
    intro side
    have keys := keys_restored model blockNumber lowerCased side
    rw [List.filter_eq_self.mpr, ← keys]
    · rfl
    · rintro ⟨key, value⟩ member
      rw [entries_restored model blockNumber lowerCased] at member
      obtain ⟨listed, filled, same⟩ := List.mem_map.mp member
      obtain ⟨_, rfl⟩ := Prod.mk.inj same
      exact decide_eq_true (mem_filledKeys_iff.mp filled).2
  exact congrArg₂ (· ++ ·) (all .collateral) (all .debt)

end Restored

end LocalPositionModel

end LiquidationBot
