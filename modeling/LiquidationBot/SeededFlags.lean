import LiquidationBot.CacheBounds
import LiquidationBot.EventPurityStack

/-!
# Seeded positions and their balances

A position marked seeded is valued from its own balances and never reconciled
again, so the mark has to mean that the balances were read. A seeding reads them
and sets the mark. A confirmation sets the mark and reads no balances: it is
harmless where the position it finds is marked already.

The confirmed rows answer reads that were started earlier. While a read is in
flight its account may be evicted, liquidated away or removed, and the row then
creates an empty position with the mark set.
-/

namespace LiquidationBot

namespace LocalPositionModel

/-- The seeded mark stored for an account. -/
def flagOf (model : LocalPositionModel) (key : Address) : Option Bool :=
  (model.positions.get? key).map UserPosition.isFullySeeded

/-- Each mark of the later model is the earlier one's. -/
def FlagsFrom (before after : LocalPositionModel) : Prop :=
  ∀ key flag, after.flagOf key = some flag → before.flagOf key = some flag

/-- Each mark of the later model is the earlier one's, or unset and new. -/
def FlagsOrNew (before after : LocalPositionModel) : Prop :=
  ∀ key flag, after.flagOf key = some flag →
    before.flagOf key = some flag ∨ (before.flagOf key = none ∧ flag = false)

theorem flagOf_eq_some_iff {model : LocalPositionModel} {key : Address} {flag : Bool} :
    model.flagOf key = some flag ↔
      ∃ position, model.positions.get? key = some position ∧ position.isFullySeeded = flag := by
  rw [flagOf, Option.map_eq_some_iff]

theorem flagOf_of_ledger (model : LocalPositionModel) (key : Address) :
    model.flagOf key = (model.ledgerOf key).map UserPosition.isFullySeeded := by
  rw [flagOf, ledgerOf, Option.map_map]
  rfl

namespace FlagsFrom

theorem refl (model : LocalPositionModel) : FlagsFrom model model := fun _ _ stored => stored

theorem of_positions {before after : LocalPositionModel}
    (same : after.positions = before.positions) : FlagsFrom before after := by
  intro key flag stored
  rw [flagOf, same] at stored
  exact stored

theorem of_sameLedger {before after : LocalPositionModel} (same : SameLedger before after) :
    FlagsFrom before after := by
  intro key flag stored
  rw [flagOf_of_ledger, same.ledgers, ← flagOf_of_ledger] at stored
  exact stored

theorem of_evicts {before after : LocalPositionModel} (evicts : Evicts before after) :
    FlagsFrom before after := by
  intro key flag stored
  obtain ⟨position, found, seeded⟩ := flagOf_eq_some_iff.mp stored
  exact flagOf_eq_some_iff.mpr ⟨position, evicts.kept key position found, seeded⟩

theorem removePosition (model : LocalPositionModel) (account : Address) :
    FlagsFrom model (model.removePosition account) := by
  intro key flag stored
  rw [flagOf, LocalPositionModel.removePosition, Positions.get?_delete] at stored
  by_cases here : key = account.toLowerCase
  · rw [if_pos here] at stored
    cases stored
  · rw [if_neg here] at stored
    exact stored

theorem orNew {before after : LocalPositionModel} (flags : FlagsFrom before after) :
    FlagsOrNew before after := fun key flag stored => Or.inl (flags key flag stored)

end FlagsFrom

theorem FlagsOrNew.trans {before middle after : LocalPositionModel}
    (first : FlagsOrNew before middle) (second : FlagsFrom middle after) :
    FlagsOrNew before after :=
  fun key flag stored => first key flag (second key flag stored)

/-! ## An account's event -/

/-- The position an account's event stores has the mark it finds; a new one has
none. -/
theorem storedByEvent_flag (model : LocalPositionModel) (event : ParsedAavePoolEvent)
    (account : Address) :
    (storedByEvent model event account).2.isFullySeeded =
      (model.flagOf account.toLowerCase).getD false := by
  have registered := positions_registerReserve model event.reserve BASE_LT_BPS
  rw [storedByEvent]
  dsimp only
  rw [isFullySeeded_applyBalances]
  dsimp only
  rw [getOrCreate, registered, flagOf]
  cases model.positions.get? account.toLowerCase <;> rfl

theorem storedByEvent_account (model : LocalPositionModel) (event : ParsedAavePoolEvent)
    (account : Address) :
    (storedByEvent model event account).2.account.toLowerCase = account.toLowerCase := by
  rw [storedByEvent]
  dsimp only
  obtain ⟨collateral, debt, changed⟩ := applyBalances_eq
    (model.registerReserve event.reserve BASE_LT_BPS).reserveConfig
    { (model.registerReserve event.reserve BASE_LT_BPS).getOrCreate account
        event.origin.blockNumber with lastActivityBlock := event.origin.blockNumber } event
  rw [changed]
  exact getOrCreate_account _ account event.origin.blockNumber

theorem storedByEvent_flags (model : LocalPositionModel) (event : ParsedAavePoolEvent)
    (account : Address) : FlagsOrNew model (storedByEvent model event account).1 := by
  intro key flag stored
  have registered := positions_registerReserve model event.reserve BASE_LT_BPS
  have found : (storedByEvent model event account).1.positions.get? key =
      if key = account.toLowerCase then some (storedByEvent model event account).2
      else model.positions.get? key := by
    rw [← storedByEvent_account model event account, ← registered]
    exact Positions.get?_put _ _ _
  rw [flagOf, found] at stored
  by_cases here : key = account.toLowerCase
  · rw [if_pos here, Option.map_some, Option.some.injEq, storedByEvent_flag] at stored
    rw [here]
    cases known : model.flagOf account.toLowerCase with
    | none =>
      rw [known] at stored
      exact Or.inr ⟨rfl, stored.symm⟩
    | some earlier =>
      rw [known] at stored
      exact Or.inl (congrArg some stored)
  · rw [if_neg here] at stored
    exact Or.inl stored

theorem applyAccountEvent_flags (config : LocalPositionModelConfig) (model : LocalPositionModel)
    (event : ParsedAavePoolEvent) (account : Address) (nowSec : Int) :
    FlagsOrNew model (applyAccountEvent config model event account nowSec).1 := by
  have stored := storedByEvent_flags model event account
  rw [applyAccountEvent_eq, accountEvictionStart]
  dsimp only
  split
  · exact stored.trans (FlagsFrom.removePosition _ _)
  · split
    · exact stored.trans (FlagsFrom.of_evicts (enforceHardCap_evicts config _ _))
    · exact (stored.trans (FlagsFrom.of_sameLedger (sameLedger_applyHfResult config _ _ _ _))).trans
        (FlagsFrom.of_evicts (enforceHardCap_evicts config _ _))

theorem applyAaveEvent_flags (config : LocalPositionModelConfig) (model : LocalPositionModel)
    (event : ParsedAavePoolEvent) (nowSec : Int) :
    FlagsOrNew model (applyAaveEvent config model event nowSec).1 := by
  have unchanged : FlagsOrNew model model := (FlagsFrom.refl model).orNew
  rw [applyAaveEvent]
  split
  · refine (FlagsFrom.of_positions ?_).orNew
    have registered := positions_registerReserve model event.reserve BASE_LT_BPS
    rw [applyReserveIndexUpdate]
    split <;> exact registered
  · split
    · exact unchanged
    · split
      · exact unchanged
      · exact applyAccountEvent_flags config model event _ nowSec

/-! ## Seedings and confirmations -/

/-- A seeding marks its own account and leaves the other marks. -/
theorem seedFromOnChainSnapshot_flags (config : LocalPositionModelConfig)
    (model : LocalPositionModel) (input : AccountSnapshot) (key : Address) (flag : Bool)
    (stored : (seedFromOnChainSnapshot config model input).flagOf key = some flag) :
    if key = input.account.toLowerCase then flag = true else model.flagOf key = some flag := by
  rw [seedFromOnChainSnapshot_eq] at stored
  have before := FlagsFrom.of_evicts (enforceHardCap_evicts config _ _) key flag stored
  rw [flagOf, get?_storedBySeed] at before
  split
  · next here =>
    rw [if_pos here] at before
    exact (Option.some.inj before).symm
  · next elsewhere =>
    rw [if_neg elsewhere] at before
    exact before

/-- A confirmation marks its own account and leaves the other marks. -/
theorem confirmOnChain_flags (model : LocalPositionModel) (account : Address)
    (totalCollateralBase totalDebtBase liquidationThreshold healthFactor blockNumber
      eModeCategoryId : Nat) (key : Address) :
    (confirmOnChain model account totalCollateralBase totalDebtBase liquidationThreshold
        healthFactor blockNumber eModeCategoryId).flagOf key =
      if key = account.toLowerCase then some true else model.flagOf key := by
  have own := getOrCreate_account model account blockNumber
  rw [flagOf, confirmOnChain, Positions.get?_put]
  dsimp only
  rw [own]
  split <;> rfl

end LocalPositionModel

namespace EventPurityStack

open LocalPositionModel Prefixes

/-! ## Segments -/

theorem sameLedger_pollLocalFeedFreshness (config : EventPurityStackConfig)
    (model : LocalPositionModel) (answers : List (Option FeedAnswer)) (nowSec : Int) :
    SameLedger model (pollLocalFeedFreshness config model answers nowSec).1 := by
  refine kept_sameLedger.foldl ?_ _ (model, [])
  intro state entry
  rw [pollFeed]
  split
  · exact SameLedger.refl state.1
  · split
    · exact SameLedger.refl state.1
    · split
      · exact SameLedger.refl state.1
      · exact sameLedger_applyFeedPriceUpdate config.model state.1 _ _ _ _ _

/-- Routing tier changes recomputes positions and stores no mark. -/
theorem sameLedger_handleTierChanges (config : LocalPositionModelConfig)
    (stack : EventPurityStack) (changes : List TierChange) (nowSec : Int) :
    SameLedger stack.model (handleTierChanges config stack changes nowSec).1.model := by
  have routed : ∀ (changes : List TierChange) (stack : EventPurityStack),
      SameLedger stack.model (changes.foldl (handleTierChange config nowSec) stack).model := by
    intro changes
    induction changes with
    | nil => exact fun stack => SameLedger.refl stack.model
    | cons change rest inductionHypothesis =>
      intro stack
      refine SameLedger.trans ?_ (inductionHypothesis (handleTierChange config nowSec stack change))
      rw [handleTierChange]
      split
      · exact SameLedger.refl stack.model
      · dsimp only
        rw [maybeSample]
        split
        · exact SameLedger.refl stack.model
        · exact sameLedger_recomputeHf config stack.model _ nowSec
  rw [handleTierChanges]
  split
  · exact SameLedger.refl stack.model
  · exact routed changes stack

/-- What a segment does to the model, it does before its changes are routed. -/
theorem sameLedger_step (config : EventPurityStackConfig) (stack : EventPurityStack)
    (segment : Segment × Int) :
    SameLedger (produce config stack segment.2 segment.1).1.model
      (step config stack segment).1.model := by
  rw [step]
  split
  · next after produced =>
    rw [produced]
    exact SameLedger.refl after.model
  · next after changes produced =>
    rw [produced]
    exact sameLedger_handleTierChanges config.model after changes segment.2

/-- The account a segment seeds from a snapshot. A reconciliation seeds unless
the snapshot misses the allowlist. -/
def seededAccount (config : EventPurityStackConfig) : Segment → Option Address
  | .seed snapshot => some snapshot.account
  | .reconcile account _ (.snapshot found) =>
      if reservesTouchAllowlist found.reserves (config.model.reserveAllowlist.getD []) then
        some account
      else none
  | _ => none

/-- The account a segment confirms. -/
def confirmedAccount : Segment → Option Address
  | .confirm row _ => some row.address
  | _ => none

/-- The segment seeds the account. -/
def Seeds (config : EventPurityStackConfig) (segment : Segment × Int) (key : Address) : Prop :=
  (seededAccount config segment.1).map Address.toLowerCase = some key

/-- The segment confirms the account. -/
def Confirms (segment : Segment × Int) (key : Address) : Prop :=
  (confirmedAccount segment.1).map Address.toLowerCase = some key

/-- A reconciliation with a snapshot marks its account if it seeds, and removes it
otherwise. -/
theorem reconcile_flags (config : EventPurityStackConfig) (stack : EventPurityStack)
    (account : Address) (blockNumber : Nat) (found : AccountSnapshot) (nowSec : Int)
    (key : Address) (flag : Bool)
    (stored : (produce config stack nowSec (.reconcile account blockNumber
      (.snapshot found))).1.model.flagOf key = some flag) :
    (Seeds config (.reconcile account blockNumber (.snapshot found), nowSec) key ∧ flag = true) ∨
      stack.model.flagOf key = some flag ∨ (stack.model.flagOf key = none ∧ flag = false) := by
  rw [produce] at stored
  dsimp only [withModel, reconcileAndSeedPosition] at stored
  by_cases touches : reservesTouchAllowlist found.reserves
      (config.model.reserveAllowlist.getD []) = true
  · rw [if_neg (by rw [touches]; decide)] at stored
    have seeded := seedFromOnChainSnapshot_flags config.model _ _ key flag stored
    by_cases here : key = account.toLowerCase
    · rw [if_pos here] at seeded
      refine Or.inl ⟨?_, seeded⟩
      rw [Seeds, seededAccount, if_pos touches, here]
      rfl
    · rw [if_neg here, flagOf] at seeded
      right
      left
      rw [flagOf, ← positions_registerRows stack.model found.reserves]
      exact seeded
  · have misses : (!reservesTouchAllowlist found.reserves
        (config.model.reserveAllowlist.getD [])) = true := by simpa using touches
    rw [if_pos misses] at stored
    exact Or.inr ((FlagsFrom.removePosition stack.model account).orNew key flag stored)

/-- A segment marks the accounts it seeds and confirms; every other mark was
there before, or is unset and new. -/
theorem produce_flags (config : EventPurityStackConfig) (stack : EventPurityStack)
    (segment : Segment × Int) (key : Address) (flag : Bool)
    (stored : (produce config stack segment.2 segment.1).1.model.flagOf key = some flag) :
    ((Seeds config segment key ∨ Confirms segment key) ∧ flag = true) ∨
      stack.model.flagOf key = some flag ∨ (stack.model.flagOf key = none ∧ flag = false) := by
  obtain ⟨segment, nowSec⟩ := segment
  -- A segment that marks nothing.
  have kept : FlagsOrNew stack.model (produce config stack nowSec segment).1.model →
      ((Seeds config (segment, nowSec) key ∨ Confirms (segment, nowSec) key) ∧ flag = true) ∨
      stack.model.flagOf key = some flag ∨ (stack.model.flagOf key = none ∧ flag = false) :=
    fun flags => Or.inr (flags key flag stored)
  have unchanged : ∀ after : LocalPositionModel, after.positions = stack.model.positions →
      FlagsOrNew stack.model after := fun _ same => (FlagsFrom.of_positions same).orNew
  cases segment with
  | chainlinkPrice event =>
    exact kept (FlagsFrom.of_sameLedger (sameLedger_applyFeedPriceUpdate _ _ _ _ _ _ _)).orNew
  | aavePool event =>
    apply kept
    rw [produce]
    split <;> exact applyAaveEvent_flags config.model stack.model event nowSec
  | reconcile account blockNumber answer =>
    cases answer with
    | failed => exact kept (unchanged _ rfl)
    | debtFree => exact kept (FlagsFrom.removePosition stack.model account).orNew
    | snapshot found =>
      rcases reconcile_flags config stack account blockNumber found nowSec key flag stored with
        ⟨seeds, marked⟩ | earlier
      · exact Or.inl ⟨Or.inl seeds, marked⟩
      · exact Or.inr earlier
  | firstTouch account =>
    apply kept
    rw [produce]
    split <;> exact unchanged _ rfl
  | pollFeeds answers =>
    exact kept (FlagsFrom.of_sameLedger
      (sameLedger_pollLocalFeedFreshness config stack.model answers nowSec)).orNew
  | confirm row blockNumber =>
    rw [produce, withModel] at stored
    dsimp only at stored
    rw [confirmOnChain_flags] at stored
    by_cases here : key = row.address.toLowerCase
    · rw [if_pos here] at stored
      refine Or.inl ⟨Or.inr ?_, (Option.some.inj stored).symm⟩
      rw [Confirms, confirmedAccount, here]
      rfl
    · rw [if_neg here] at stored
      exact Or.inr (Or.inl stored)
  | registerReserve asset =>
    exact kept (unchanged _ (positions_registerReserve stack.model asset BASE_LT_BPS))
  | setReserveLiquidationBonus asset bonus =>
    apply kept
    apply unchanged
    rw [produce, withModel]
    dsimp only
    rw [setReserveLiquidationBonus]
    split <;> rfl
  | seed snapshot =>
    have seeded := seedFromOnChainSnapshot_flags config.model _ _ key flag stored
    by_cases here : key = snapshot.account.toLowerCase
    · rw [if_pos here] at seeded
      refine Or.inl ⟨Or.inl ?_, seeded⟩
      rw [Seeds, seededAccount, here]
      rfl
    · rw [if_neg here] at seeded
      exact Or.inr (Or.inl seeded)
  | evictUnderMemoryPressure blockNumber =>
    exact kept (FlagsFrom.of_evicts
      (evictUnderMemoryPressure_evicts config.model stack.model blockNumber)).orNew
  | resume index => exact kept (unchanged _ rfl)
  | flashblockTick => exact kept (unchanged _ rfl)
  | refreshReserveIndex reserve liquidityIndex variableBorrowIndex => exact kept (unchanged _ rfl)
  | registerBootstrapPrice asset price feedState => exact kept (unchanged _ rfl)
  | markPricesBootstrapped => exact kept (unchanged _ rfl)

/-- A segment that seeds or confirms an account leaves it marked, if stored. -/
theorem produce_marks (config : EventPurityStackConfig) (stack : EventPurityStack)
    (segment : Segment × Int) (key : Address) (flag : Bool)
    (marks : Seeds config segment key ∨ Confirms segment key)
    (stored : (produce config stack segment.2 segment.1).1.model.flagOf key = some flag) :
    flag = true := by
  obtain ⟨segment, nowSec⟩ := segment
  cases segment with
  | seed snapshot =>
    have here : key = snapshot.account.toLowerCase := by
      rcases marks with seeds | confirms
      · exact (Option.some.inj seeds).symm
      · cases confirms
    have seeded := seedFromOnChainSnapshot_flags config.model _ _ key flag stored
    rwa [if_pos here] at seeded
  | reconcile account blockNumber answer =>
    cases answer with
    | snapshot found =>
      rcases marks with seeds | confirms
      · rw [Seeds, seededAccount] at seeds
        by_cases touches : reservesTouchAllowlist found.reserves
            (config.model.reserveAllowlist.getD []) = true
        · rw [if_pos touches] at seeds
          have here : key = account.toLowerCase := (Option.some.inj seeds).symm
          rw [produce] at stored
          dsimp only [withModel, reconcileAndSeedPosition] at stored
          rw [if_neg (by rw [touches]; decide)] at stored
          have seeded := seedFromOnChainSnapshot_flags config.model _ _ key flag stored
          rwa [if_pos here] at seeded
        · rw [if_neg touches] at seeds
          cases seeds
      · cases confirms
    | _ => rcases marks with seeds | confirms <;> contradiction
  | confirm row blockNumber =>
    have here : key = row.address.toLowerCase := by
      rcases marks with seeds | confirms
      · cases seeds
      · exact (Option.some.inj confirms).symm
    rw [produce, withModel] at stored
    dsimp only at stored
    rw [confirmOnChain_flags, if_pos here] at stored
    exact (Option.some.inj stored).symm
  | _ => rcases marks with seeds | confirms <;> contradiction

/-! ## Runs -/

/-- The mark stored for an account after a run. -/
def markAfter (config : EventPurityStackConfig) (past : List (Segment × Int)) (key : Address) :
    Option Bool :=
  (runAll config past).model.flagOf key

/-- The account is stored, and was seeded since it was last created. -/
def Populated (config : EventPurityStackConfig) (past : List (Segment × Int)) (key : Address) :
    Prop :=
  ∃ earlier segment later, past = earlier ++ segment :: later ∧ Seeds config segment key ∧
    ∀ since, since <+: later → (markAfter config (earlier ++ segment :: since) key).isSome

theorem populated_snoc (config : EventPurityStackConfig) (past : List (Segment × Int))
    (segment : Segment × Int) (key : Address) :
    Populated config (past ++ [segment]) key ↔
      (markAfter config (past ++ [segment]) key).isSome ∧
        (Seeds config segment key ∨ Populated config past key) := by
  constructor
  · rintro ⟨earlier, seeding, later, split, seeds, stored⟩
    induction later using List.reverseRecOn with
    | nil =>
      obtain ⟨rfl, same⟩ := List.append_inj' split rfl
      cases same
      exact ⟨stored [] List.prefix_rfl, Or.inl seeds⟩
    | append_singleton later last =>
      rw [← List.cons_append, ← List.append_assoc] at split
      obtain ⟨rfl, same⟩ := List.append_inj' split rfl
      cases same
      refine ⟨?_, Or.inr ⟨earlier, seeding, later, rfl, seeds, ?_⟩⟩
      · rw [List.append_assoc, List.cons_append]
        exact stored (later ++ [segment]) List.prefix_rfl
      · exact fun since initial => stored since (initial.trans (List.prefix_append later [segment]))
  · rintro ⟨present, seeds | ⟨earlier, seeding, later, rfl, seeds, stored⟩⟩
    · refine ⟨past, segment, [], rfl, seeds, fun since initial => ?_⟩
      rw [List.prefix_nil.mp initial]
      exact present
    · refine ⟨earlier, seeding, later ++ [segment], by simp, seeds, fun since initial => ?_⟩
      rcases List.prefix_concat_iff.mp initial with rfl | shorter
      · rw [← List.cons_append, ← List.append_assoc]
        exact present
      · exact stored since shorter

/-- One segment's marks, from those before it. -/
theorem markAfter_snoc (config : EventPurityStackConfig) (past : List (Segment × Int))
    (segment : Segment × Int) (key : Address) (flag : Bool)
    (stored : markAfter config (past ++ [segment]) key = some flag) :
    ((Seeds config segment key ∨ Confirms segment key) ∧ flag = true) ∨
      markAfter config past key = some flag ∨
      (markAfter config past key = none ∧ flag = false) := by
  rw [markAfter, runAll_snoc] at stored
  exact produce_flags config (runAll config past) segment key flag
    (FlagsFrom.of_sameLedger (sameLedger_step config _ segment) key flag stored)

theorem markAfter_marks (config : EventPurityStackConfig) (past : List (Segment × Int))
    (segment : Segment × Int) (key : Address) (flag : Bool)
    (marks : Seeds config segment key ∨ Confirms segment key)
    (stored : markAfter config (past ++ [segment]) key = some flag) : flag = true := by
  rw [markAfter, runAll_snoc] at stored
  exact produce_marks config (runAll config past) segment key flag marks
    (FlagsFrom.of_sameLedger (sameLedger_step config _ segment) key flag stored)

/-- A populated account is marked. Nothing unsets a mark while its account stays
stored. -/
theorem markAfter_of_populated (config : EventPurityStackConfig) (past : List (Segment × Int))
    (key : Address) (populated : Populated config past key) :
    markAfter config past key = some true := by
  induction past using List.reverseRecOn with
  | nil =>
    obtain ⟨earlier, segment, later, split, -⟩ := populated
    simp at split
  | append_singleton past segment inductionHypothesis =>
    obtain ⟨present, origin⟩ := (populated_snoc config past segment key).mp populated
    obtain ⟨flag, stored⟩ := Option.isSome_iff_exists.mp present
    have marked : flag = true := by
      rcases origin with seeds | earlier
      · exact markAfter_marks config past segment key flag (Or.inl seeds) stored
      · have before := inductionHypothesis earlier
        rcases markAfter_snoc config past segment key flag stored with
          ⟨-, marked⟩ | same | ⟨absent, -⟩
        · exact marked
        · rw [before] at same
          exact (Option.some.inj same).symm
        · rw [before] at absent
          cases absent
    rw [stored, marked]

/-- Every marked position was populated since it was created. -/
def MarksPopulated (config : EventPurityStackConfig) (past : List (Segment × Int)) : Prop :=
  ∀ key position, (runAll config past).model.positions.get? key = some position →
    position.isFullySeeded = true → Populated config past key

/-- Whichever event comes next, if it leaves its account stored and the account
is not populated, the account is to be reconciled. -/
def ReconcilesUnread (config : EventPurityStackConfig) (past : List (Segment × Int)) : Prop :=
  ∀ event account nowSec, event.name ≠ .ReserveDataUpdated →
    resolveUserAddress event = some account →
    accountStep config.model (runAll config past).model event account ≠ none →
    ¬ Populated config past account.toLowerCase →
    (applyAaveEvent config.model (runAll config past).model event nowSec).2.firstTouchReconcile =
      some account

/-- A confirmed row finds its account marked. -/
def FindsMarked (config : EventPurityStackConfig) (past : List (Segment × Int))
    (segment : Segment × Int) : Prop :=
  ∀ row blockNumber, segment.1 = .confirm row blockNumber →
    (runAll config past).model.isFullySeeded row.address = true

theorem isFullySeeded_iff (model : LocalPositionModel) (account : Address) :
    model.isFullySeeded account = true ↔ model.flagOf account.toLowerCase = some true := by
  rw [LocalPositionModel.isFullySeeded, ← flagOf]
  cases model.flagOf account.toLowerCase <;> simp

theorem marksPopulated_iff (config : EventPurityStackConfig) (past : List (Segment × Int)) :
    MarksPopulated config past ↔
      ∀ key, markAfter config past key = some true → Populated config past key := by
  constructor
  · intro sound key marked
    obtain ⟨position, found, seeded⟩ := flagOf_eq_some_iff.mp marked
    exact sound key position found seeded
  · intro sound key position found seeded
    exact sound key (flagOf_eq_some_iff.mpr ⟨position, found, seeded⟩)

/-- An event asks for a reconciliation of an account that is not marked. -/
theorem firstTouchReconcile_of_unmarked (config : LocalPositionModelConfig)
    (model : LocalPositionModel) (event : ParsedAavePoolEvent) (account : Address) (nowSec : Int)
    (balances : event.name ≠ .ReserveDataUpdated) (user : resolveUserAddress event = some account)
    (stays : accountStep config model event account ≠ none)
    (unmarked : model.flagOf account.toLowerCase ≠ some true) :
    (applyAaveEvent config model event nowSec).2.firstTouchReconcile = some account := by
  have unseeded : (storedByEvent model event account).2.isFullySeeded = false := by
    rw [storedByEvent_flag]
    cases known : model.flagOf account.toLowerCase with
    | none => rfl
    | some flag =>
      cases flag with
      | false => rfl
      | true => exact absurd known unmarked
  rw [applyAaveEvent, if_neg balances, user]
  dsimp only
  by_cases ignored : (!model.positions.has account.toLowerCase &&
      !isReserveInAllowlist config event.reserve) = true
  · rw [accountStep, if_pos ignored] at stays
    exact absurd rfl stays
  · rw [accountStep, if_neg ignored] at stays
    rw [if_neg ignored, applyAccountEvent]
    dsimp only at stays ⊢
    by_cases removed : (decide (event.name = .LiquidationCall) &&
        debtFree (storedByEvent model event account).2) = true
    · rw [storedByEvent] at removed
      rw [if_pos removed] at stays
      exact absurd rfl stays
    · rw [storedByEvent] at removed unseeded
      rw [if_neg removed, if_pos (by rw [unseeded]; rfl)]

theorem marksPopulated_snoc_iff (config : EventPurityStackConfig) (past : List (Segment × Int))
    (segment : Segment × Int) (sound : MarksPopulated config past) :
    MarksPopulated config (past ++ [segment]) ↔ FindsMarked config past segment := by
  rw [marksPopulated_iff] at sound ⊢
  constructor
  · intro after row blockNumber confirm
    have confirms : Confirms segment row.address.toLowerCase := by
      rw [Confirms, confirm]
      rfl
    have unseeding : ¬ Seeds config segment row.address.toLowerCase := by
      rw [Seeds, confirm]
      exact nofun
    have marked : markAfter config (past ++ [segment]) row.address.toLowerCase = some true := by
      have stored : ((produce config (runAll config past) segment.2 segment.1).1.model.flagOf
          row.address.toLowerCase) = some true := by
        rw [confirm, produce, withModel]
        dsimp only
        rw [confirmOnChain_flags, if_pos rfl]
      have same := (sameLedger_step config (runAll config past) segment).ledgers
        row.address.toLowerCase
      rw [flagOf_of_ledger, ← same, ← flagOf_of_ledger] at stored
      rw [markAfter, runAll_snoc]
      exact stored
    have populated := ((populated_snoc config past segment _).mp (after _ marked)).2
    exact (isFullySeeded_iff _ _).mpr
      (markAfter_of_populated config past _ (populated.resolve_left unseeding))
  · intro finds key marked
    refine (populated_snoc config past segment key).mpr ⟨by rw [marked]; rfl, ?_⟩
    rcases markAfter_snoc config past segment key true marked with
      ⟨seeds | confirms, -⟩ | same | ⟨-, unset⟩
    · exact Or.inl seeds
    · right
      obtain ⟨segment, nowSec⟩ := segment
      cases segment with
      | confirm row blockNumber =>
        have here : row.address.toLowerCase = key := Option.some.inj confirms
        have found := (isFullySeeded_iff _ _).mp (finds row blockNumber rfl)
        rw [here] at found
        exact sound key found
      | _ => cases confirms
    · exact Or.inr (sound key same)
    · cases unset

theorem reconcilesUnread_of_marksPopulated (config : EventPurityStackConfig)
    (past : List (Segment × Int)) (sound : MarksPopulated config past) :
    ReconcilesUnread config past := by
  intro event account nowSec balances user stays unread
  apply firstTouchReconcile_of_unmarked config.model _ event account nowSec balances user stays
  exact fun marked => unread ((marksPopulated_iff config past).mp sound _ marked)

/-- A new stack has stored nothing. -/
theorem positions_initial (config : EventPurityStackConfig) :
    (initial config).model.positions = .empty := by
  refine List.foldlRecOn (motive := fun model : LocalPositionModel => model.positions = .empty)
    config.feeds _ rfl ?_
  intro model stored entry _
  split <;> exact stored

/-- Marks mean populated balances, and no account whose balances were never read
escapes its reconciliation, at every point of a run exactly when each confirmed
row of the run finds its account marked already. -/
theorem marks_sound_iff (config : EventPurityStackConfig) (run : List (Segment × Int)) :
    Always (fun past => MarksPopulated config past ∧ ReconcilesUnread config past) run ↔
      EachStep (FindsMarked config) run := by
  apply always_iff_eachStep
  · have none : MarksPopulated config [] := by
      intro key position found
      rw [runAll, List.foldl_nil, positions_initial] at found
      cases found
    exact ⟨none, reconcilesUnread_of_marksPopulated config [] none⟩
  · rintro past segment - ⟨sound, -⟩
    rw [← marksPopulated_snoc_iff config past segment sound]
    exact and_iff_left_of_imp (reconcilesUnread_of_marksPopulated config _)

/-! ## A read in flight -/

/-- `collectUrgentWatchAccounts`: the accounts an aggregate refresh reads. -/
def collectUrgentWatchAccounts (config : LocalPositionModelConfig) (model : LocalPositionModel) :
    List Address :=
  (model.positions.values.filter (fun position =>
    position.isFullySeeded && decide (classifyTier config position.cachedHfWad ≠ .healthy))).map
      UserPosition.account

/-- Each confirmed row answers a read of a flush or of an aggregate refresh that
was started earlier. -/
def ReadsStarted (config : EventPurityStackConfig) (run : List (Segment × Int)) : Prop :=
  ∀ past row blockNumber nowSec, past ++ [(.confirm row blockNumber, nowSec)] <+: run →
    (∃ earlier segment, earlier ++ [segment] <+: past ∧
      row.address ∈ (step config (runAll config earlier) segment).2) ∨
    ∃ earlier, earlier <+: past ∧
      row.address ∈ collectUrgentWatchAccounts config.model (runAll config earlier).model

/-- No feeds, default settings. -/
def feedlessStack : EventPurityStackConfig := ⟨defaultConfig, true, []⟩

/-- A borrower of a hundred, at 0.9. -/
def riskyBorrower : AccountSnapshot where
  account := ⟨1, 0⟩
  blockNumber := 700000
  eModeCategoryId := 0
  healthFactorWad := 900000000000000000
  totalCollateralBase := 100
  totalDebtBase := 100
  liquidationThreshold := 9000
  reserves := [⟨BASE_USDC, 0, 100⟩]

/-- A pool event of that borrower in USDC. -/
def borrowerEvent (name : AavePoolEventName) (blockNumber : Nat) : ParsedAavePoolEvent where
  name := name
  origin := ⟨blockNumber, none, some 1, 0, .gapFill⟩
  reserve := BASE_USDC
  collateralAsset := none
  debtAsset := none
  user := some ⟨1, 0⟩
  onBehalfOf := none
  amount := some 100
  debtToCover := some 100
  liquidatedCollateralAmount := none
  liquidityIndex := none
  variableBorrowIndex := none

/-- The borrower is seeded, an aggregate refresh reads it, a liquidation takes
all its debt, and the answer of the read comes in. -/
def liquidatedInFlight : List (Segment × Int) :=
  [(.seed riskyBorrower, 0), (.aavePool (borrowerEvent .LiquidationCall 700001), 0),
    (.confirm ⟨⟨1, 0⟩, 900000000000000000, 100, 100, 9000, 0⟩ 700000, 0)]

/-- The row marks an empty position, and the borrower's next deposit is not
reconciled. -/
theorem unread_marked :
    ReadsStarted feedlessStack liquidatedInFlight ∧ ¬ MarksPopulated feedlessStack liquidatedInFlight ∧
      ¬ ReconcilesUnread feedlessStack liquidatedInFlight := by
  have unpopulated : ¬ Populated feedlessStack liquidatedInFlight ⟨1, 0⟩ := by
    intro populated
    rcases ((populated_snoc feedlessStack (liquidatedInFlight.take 2) _ _).mp populated).2 with
      seeds | earlier
    · cases seeds
    · have gone : markAfter feedlessStack (liquidatedInFlight.take 2) ⟨1, 0⟩ = none := by decide +kernel
      rw [markAfter_of_populated _ _ _ earlier] at gone
      cases gone
  refine ⟨?_, ?_, ?_⟩
  · intro past row blockNumber nowSec initial
    right
    rcases List.prefix_concat_iff.mp (show _ <+: liquidatedInFlight.take 2 ++ _ from initial) with
      whole | initial
    · obtain ⟨rfl, same⟩ := List.append_inj' whole rfl
      have answered : row.address = ⟨1, 0⟩ := by
        cases same
        rfl
      refine ⟨liquidatedInFlight.take 1, List.take_prefix_take_left (by decide), ?_⟩
      rw [answered]
      decide +kernel
    · rcases List.prefix_concat_iff.mp (show _ <+: liquidatedInFlight.take 1 ++ _ from initial) with
        whole | initial
      · obtain ⟨-, same⟩ := List.append_inj' whole rfl
        cases same
      · rcases List.prefix_concat_iff.mp (show _ <+: [] ++ _ from initial) with whole | initial
        · obtain ⟨-, same⟩ := List.append_inj' whole rfl
          cases same
        · simp at initial
  · intro sound
    exact unpopulated ((marksPopulated_iff _ _).mp sound ⟨1, 0⟩ (by decide +kernel))
  · intro reconciles
    have asked := reconciles (borrowerEvent .Supply 700002) ⟨1, 0⟩ 0 (by decide) (by decide)
      (by decide +kernel) unpopulated
    have silent : (applyAaveEvent feedlessStack.model (runAll feedlessStack liquidatedInFlight).model
        (borrowerEvent .Supply 700002) 0).2.firstTouchReconcile = none := by decide +kernel
    rw [silent] at asked
    cases asked

end EventPurityStack

end LiquidationBot
