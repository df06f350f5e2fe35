import LiquidationBot.ConfirmReads
import LiquidationBot.EventPurityStack
import LiquidationBot.IndexBaselines

/-!
# What a bootstrap does with a debtor

A sweep reads every discovered account twice in batches: first its totals, to keep those
with debt, and then its totals and reserves, to seed the model. Rows fail one by one. A row
that fails in the first stage drops its account; a failed row of totals in the second is
counted; and a failed row of reserves reads as no reserves, which seeds an empty position
where every reserve is allowed and drops the account where not.
-/

namespace LiquidationBot

open LocalPositionModel

/-- A row of `getUserReservesData`, as far as it is read. -/
structure UserReserveData where
  underlyingAsset : Address
  scaledATokenBalance : Nat
  usageAsCollateralEnabledOnUser : Bool
  scaledVariableDebt : Nat
deriving DecidableEq

/-- The state of the pool that the sweep reads, by lower-cased account. An account lists a
reserve once, and has totals of debt only for a debt in some reserve. -/
structure PoolAccounts where
  accountData : Address → UserAccountData
  userReserves : Address → List UserReserveData
  eModeCategory : Address → Nat
  distinct : ∀ key, ((userReserves key).map (fun row => row.underlyingAsset.toLowerCase)).Nodup
  owed : ∀ key, 0 < (accountData key).totalDebtBase →
    ∃ row ∈ userReserves key, 0 < row.scaledVariableDebt

/-- Which rows of the three reads succeed, by the account's place among the discovered. -/
structure RowSuccess where
  filterRow : Nat → Bool
  accountRow : Nat → Bool
  reserveRow : Nat → Bool

/-- What a sweep reads of its configuration. -/
structure PartialBootstrapConfig where
  model : LocalPositionModelConfig
  accountBatchSize : BatchSize
  reserveDataBatchSize : BatchSize
  reserveAllowlist : Option (List Address)

/-- An account with its place among the discovered ones. -/
abbrev NumberedAccount := Address × Nat

/-- The state of the loop of `seedModelFromOnChain`. `counted` lists the accounts that
`errors` counts; `leftOut`, which the code does not keep, those whose reserves were read and
touch no allowed one. -/
structure SeedState where
  model : LocalPositionModel
  seeded : Nat
  counted : List Address
  allowlistMatched : Nat
  leftOut : List Address

/-- `seedErrors` of the coverage. -/
def SeedState.errors (state : SeedState) : Nat := state.counted.length

namespace BootstrapSweep

variable (config : PartialBootstrapConfig) (pool : PoolAccounts) (succeeds : RowSuccess)

/-- The account's totals, when the row succeeds. -/
def getUserAccountData (row : Nat → Bool) (entry : NumberedAccount) : Option UserAccountData :=
  if row entry.2 then some (pool.accountData entry.1.toLowerCase) else none

/-- The account's reserves and category, when the row succeeds. -/
def getUserReservesData (entry : NumberedAccount) : Option (List UserReserveData × Nat) :=
  if succeeds.reserveRow entry.2 then
    some (pool.userReserves entry.1.toLowerCase, pool.eModeCategory entry.1.toLowerCase)
  else none

/-- One turn of the inner loop of `filterAccountsWithDebt`. -/
def filterRow (withDebt : List NumberedAccount) (entry : NumberedAccount)
    (row : Option (Option UserAccountData)) : List NumberedAccount :=
  match row with
  | some (some data) => if data.totalDebtBase > 0 then withDebt ++ [entry] else withDebt
  | _ => withDebt

/-- `filterAccountsWithDebt`. -/
def filterAccountsWithDebt (discovered : List Address) : List NumberedAccount :=
  (Batches.batches config.accountBatchSize.val discovered.zipIdx).foldl (fun withDebt batch =>
    let results := batch.map (getUserAccountData pool succeeds.filterRow)
    batch.zipIdx.foldl (fun withDebt entry => filterRow withDebt entry.1 results[entry.2]?)
      withDebt) []

/-- The rows of a read that a snapshot takes over. A balance that is not enabled as
collateral counts as none. -/
def snapshotReserves (rows : List UserReserveData) : List SnapshotReserve :=
  (rows.filter (fun row => !(decide (row.scaledATokenBalance = 0) &&
      decide (row.scaledVariableDebt = 0)))).map (fun row =>
    { asset := row.underlyingAsset
      scaledCollateral := if row.usageAsCollateralEnabledOnUser then row.scaledATokenBalance else 0
      scaledDebt := row.scaledVariableDebt })

/-- One turn of the inner loop of `seedModelFromOnChain`. -/
def seedRow (blockNumber : Nat) (state : SeedState) (entry : NumberedAccount)
    (accountRow : Option (Option UserAccountData))
    (reserveRow : Option (Option (List UserReserveData × Nat))) : SeedState :=
  match accountRow with
  | some (some data) =>
      if data.totalDebtBase = 0 then state
      else
        let reserves := (reserveRow.join.map (fun row => snapshotReserves row.1)).getD []
        let registered := registerRows state.model reserves
        if !EventPurityStack.reservesTouchAllowlist reserves (config.reserveAllowlist.getD []) then
          { state with
            model := registered
            leftOut := if reserveRow.join.isSome then state.leftOut ++ [entry.1]
              else state.leftOut }
        else
          { state with
            model := EventPurityStack.seedModelFromAccountSnapshot config.model registered
              { account := entry.1
                blockNumber := blockNumber
                eModeCategoryId := (reserveRow.join.map Prod.snd).getD 0
                healthFactorWad := data.healthFactor
                totalCollateralBase := data.totalCollateralBase
                totalDebtBase := data.totalDebtBase
                liquidationThreshold := data.currentLiquidationThreshold
                reserves := reserves }
            seeded := state.seeded + 1
            allowlistMatched := state.allowlistMatched + 1 }
  | _ => { state with counted := state.counted ++ [entry.1] }

/-- `seedModelFromOnChain`: two multicalls a batch, and then its rows. -/
def seedModelFromOnChain (blockNumber : Nat) (model : LocalPositionModel)
    (accounts : List NumberedAccount) : SeedState :=
  (Batches.batches config.reserveDataBatchSize.val accounts).foldl (fun state batch =>
    let accountResults := batch.map (getUserAccountData pool succeeds.accountRow)
    let reserveResults := batch.map (getUserReservesData pool succeeds)
    batch.zipIdx.foldl (fun state entry => seedRow config blockNumber state entry.1
      accountResults[entry.2]? reserveResults[entry.2]?) state) ⟨model, 0, [], 0, []⟩

/-- `runPartialBootstrapSweep` without caches, from the discovered accounts on. -/
def runPartialBootstrapSweep (head : Nat) (model : LocalPositionModel)
    (discovered : List Address) : SeedState :=
  seedModelFromOnChain config pool succeeds head model
    (filterAccountsWithDebt config pool succeeds discovered)

/-! ## What the sweep owes a debtor -/

/-- The account has debt. -/
def Owes (account : Address) : Prop := 0 < (pool.accountData account.toLowerCase).totalDebtBase

/-- The maps of a position are the non-zero rows of the account's reserves. -/
def HoldsRows (account : Address) (position : UserPosition) : Prop :=
  (∀ key amount, position.collateral.get? key = some amount ↔
    0 < amount ∧ ∃ row ∈ pool.userReserves account.toLowerCase,
      row.underlyingAsset.toLowerCase = key ∧ row.usageAsCollateralEnabledOnUser = true ∧
        row.scaledATokenBalance = amount) ∧
  ∀ key amount, position.debt.get? key = some amount ↔
    0 < amount ∧ ∃ row ∈ pool.userReserves account.toLowerCase,
      row.underlyingAsset.toLowerCase = key ∧ row.scaledVariableDebt = amount

/-- Fully seeded with the rows of its reserves. -/
def Seeded (result : SeedState) (account : Address) : Prop :=
  ∃ position, result.model.positions.get? account.toLowerCase = some position ∧
    position.isFullySeeded = true ∧ HoldsRows pool account position

/-- Left out after a successful read of its reserves. -/
def LeftOut (result : SeedState) (account : Address) : Prop :=
  ∃ address ∈ result.leftOut, address.toLowerCase = account.toLowerCase

/-- Counted in the errors. -/
def Counted (result : SeedState) (account : Address) : Prop :=
  ∃ address ∈ result.counted, address.toLowerCase = account.toLowerCase

/-- Fully seeded with two empty maps. -/
def SeededEmpty (result : SeedState) (account : Address) : Prop :=
  ∃ position, result.model.positions.get? account.toLowerCase = some position ∧
    position.isFullySeeded = true ∧ (∀ key, position.collateral.get? key = none) ∧
      ∀ key, position.debt.get? key = none

/-- Exactly one of the three, and not seeded empty. -/
def Accounted (result : SeedState) (account : Address) : Prop :=
  (Seeded pool result account ∧ ¬ LeftOut result account ∧ ¬ Counted result account ∨
    ¬ Seeded pool result account ∧ LeftOut result account ∧ ¬ Counted result account ∨
    ¬ Seeded pool result account ∧ ¬ LeftOut result account ∧ Counted result account) ∧
  ¬ SeededEmpty result account

/-! ## When the sweep does so -/

/-- The account is the discovered one at a place. -/
def ListedAt (discovered : List Address) (account : Address) (place : Nat) : Prop :=
  discovered[place]?.map Address.toLowerCase = some account.toLowerCase

/-- The first read of the totals succeeds and the second fails. -/
def Fails (place : Nat) : Prop :=
  succeeds.filterRow place = true ∧ succeeds.accountRow place = false

/-- Both reads of the totals succeed, and that of the reserves, if there is an allowlist. -/
def Decides (place : Nat) : Prop :=
  succeeds.filterRow place = true ∧ succeeds.accountRow place = true ∧
    (config.reserveAllowlist.getD [] = [] ∨ succeeds.reserveRow place = true)

/-- Some place fails or some decides but not both, and the last that decides has its reserves
read. -/
def RowsDecide (discovered : List Address) (account : Address) : Prop :=
  ((∃ place, ListedAt discovered account place ∧ Fails succeeds place) ∧
      ¬ (∃ place, ListedAt discovered account place ∧ Decides config succeeds place) ∨
    ¬ (∃ place, ListedAt discovered account place ∧ Fails succeeds place) ∧
      ∃ place, ListedAt discovered account place ∧ Decides config succeeds place) ∧
  ∀ place, ListedAt discovered account place → Decides config succeeds place →
    (∀ later, ListedAt discovered account later → Decides config succeeds later →
      later ≤ place) → succeeds.reserveRow place = true

/-! ## The loops without their batches -/

/-- The discovered accounts that the first read keeps. -/
def kept (entry : NumberedAccount) : Bool :=
  succeeds.filterRow entry.2 && decide (0 < (pool.accountData entry.1.toLowerCase).totalDebtBase)

theorem filterAccountsWithDebt_eq (discovered : List Address) :
    filterAccountsWithDebt config pool succeeds discovered =
      discovered.zipIdx.filter (kept pool succeeds) := by
  have pushed : ∀ (entries withDebt : List NumberedAccount),
      entries.foldl (fun withDebt entry => filterRow withDebt entry
        (some (getUserAccountData pool succeeds.filterRow entry))) withDebt =
      withDebt ++ entries.filter (kept pool succeeds) := by
    intro entries
    induction entries with
    | nil => simp
    | cons entry rest inductionHypothesis =>
      intro withDebt
      rw [List.foldl_cons, inductionHypothesis, List.filter_cons]
      by_cases read : succeeds.filterRow entry.2 = true
      · by_cases owes : 0 < (pool.accountData entry.1.toLowerCase).totalDebtBase
        · simp [filterRow, getUserAccountData, kept, read, owes]
        · simp [filterRow, getUserAccountData, kept, read, owes]
      · simp [filterRow, getUserAccountData, kept, read]
  unfold filterAccountsWithDebt
  simp only [Batches.foldl_aligned (getUserAccountData pool succeeds.filterRow) filterRow]
  rw [Batches.foldl_batches config.accountBatchSize.property, pushed, List.nil_append]

/-- One turn of the second loop, with the rows of its account. -/
def seedTurn (head : Nat) (state : SeedState) (entry : NumberedAccount) : SeedState :=
  seedRow config head state entry (some (getUserAccountData pool succeeds.accountRow entry))
    (some (getUserReservesData pool succeeds entry))

theorem seedModelFromOnChain_eq (head : Nat) (model : LocalPositionModel)
    (accounts : List NumberedAccount) :
    seedModelFromOnChain config pool succeeds head model accounts =
      accounts.foldl (seedTurn config pool succeeds head) ⟨model, 0, [], 0, []⟩ := by
  have batched : ∀ (batch : List NumberedAccount) (state : SeedState),
      batch.zipIdx.foldl (fun state entry => seedRow config head state entry.1
          (batch.map (getUserAccountData pool succeeds.accountRow))[entry.2]?
          (batch.map (getUserReservesData pool succeeds))[entry.2]?) state =
        batch.foldl (seedTurn config pool succeeds head) state := by
    intro batch state
    have both := Batches.foldl_aligned
      (fun entry => (getUserAccountData pool succeeds.accountRow entry,
        getUserReservesData pool succeeds entry))
      (fun state entry rows => seedRow config head state entry (rows.map Prod.fst)
        (rows.map Prod.snd)) state batch
    simp only [List.getElem?_map, Option.map_map, Function.comp_def] at both ⊢
    exact both
  unfold seedModelFromOnChain
  simp only [batched]
  exact Batches.foldl_batches config.reserveDataBatchSize.property _ _ _

/-! ## One turn -/

/-- The rows that a turn takes the account to have. -/
def readReserves (entry : NumberedAccount) : List SnapshotReserve :=
  if succeeds.reserveRow entry.2 then snapshotReserves (pool.userReserves entry.1.toLowerCase)
  else []

/-- An allowed reserve is among the rows. -/
def touches (reserves : List SnapshotReserve) : Bool :=
  EventPurityStack.reservesTouchAllowlist reserves (config.reserveAllowlist.getD [])

/-- The turn seeds. -/
def seeds (entry : NumberedAccount) : Bool :=
  succeeds.accountRow entry.2 && touches config (readReserves pool succeeds entry)

/-- The turn leaves the account out for what it read. -/
def leavesOut (entry : NumberedAccount) : Bool :=
  succeeds.accountRow entry.2 && succeeds.reserveRow entry.2 &&
    !touches config (readReserves pool succeeds entry)

/-- The snapshot that a turn seeds. -/
def snapshotOf (head : Nat) (entry : NumberedAccount) : AccountSnapshot where
  account := entry.1
  blockNumber := head
  eModeCategoryId := if succeeds.reserveRow entry.2 then pool.eModeCategory entry.1.toLowerCase
    else 0
  healthFactorWad := (pool.accountData entry.1.toLowerCase).healthFactor
  totalCollateralBase := (pool.accountData entry.1.toLowerCase).totalCollateralBase
  totalDebtBase := (pool.accountData entry.1.toLowerCase).totalDebtBase
  liquidationThreshold := (pool.accountData entry.1.toLowerCase).currentLiquidationThreshold
  reserves := readReserves pool succeeds entry

variable {config pool succeeds}

/-- The turn of an account with debt, by what its rows are. -/
theorem seedTurn_eq (head : Nat) (state : SeedState) {entry : NumberedAccount}
    (owes : 0 < (pool.accountData entry.1.toLowerCase).totalDebtBase) :
    seedTurn config pool succeeds head state entry =
      if succeeds.accountRow entry.2 = false then
        { state with counted := state.counted ++ [entry.1] }
      else if seeds config pool succeeds entry then
        { state with
          model := EventPurityStack.seedModelFromAccountSnapshot config.model
            (registerRows state.model (readReserves pool succeeds entry))
            (snapshotOf pool succeeds head entry)
          seeded := state.seeded + 1
          allowlistMatched := state.allowlistMatched + 1 }
      else
        { state with
          model := registerRows state.model (readReserves pool succeeds entry)
          leftOut := if leavesOut config pool succeeds entry then state.leftOut ++ [entry.1]
            else state.leftOut } := by
  unfold seedTurn seedRow getUserAccountData getUserReservesData seeds leavesOut touches snapshotOf
    readReserves
  cases read : succeeds.accountRow entry.2 with
  | false => rfl
  | true =>
    simp only [if_true, Bool.true_eq_false, if_false, owes.ne', Bool.true_and]
    cases rows : succeeds.reserveRow entry.2 with
    | false =>
      simp only [Bool.false_eq_true, if_false, Option.join_some, Option.map_none,
        Option.getD_none, Option.isSome_none, Bool.false_and]
      cases EventPurityStack.reservesTouchAllowlist [] (config.reserveAllowlist.getD []) <;> rfl
    | true =>
      simp only [if_true, Option.join_some, Option.map_some, Option.getD_some,
        Option.isSome_some, Bool.true_and]
      cases EventPurityStack.reservesTouchAllowlist
        (snapshotReserves (pool.userReserves entry.1.toLowerCase))
        (config.reserveAllowlist.getD []) <;> rfl

theorem registerRows_seed (model : LocalPositionModel) (head : Nat) (entry : NumberedAccount) :
    EventPurityStack.seedModelFromAccountSnapshot config.model model
        (snapshotOf pool succeeds head entry) =
      enforceHardCap config.model
        (storedBySeed (registerRows model (readReserves pool succeeds entry))
          (snapshotOf pool succeeds head entry)) head :=
  seedFromOnChainSnapshot_eq config.model _ _

/-- Evictions are counted up. -/
theorem evictionTotal_seedTurn (head : Nat) (state : SeedState) {entry : NumberedAccount}
    (owes : 0 < (pool.accountData entry.1.toLowerCase).totalDebtBase) :
    state.model.evictionTotal ≤
      (seedTurn config pool succeeds head state entry).model.evictionTotal := by
  rw [seedTurn_eq head state owes]
  split
  · exact le_refl _
  · split
    · rw [registerRows_seed, (enforceHardCap_evicts config.model _ head).evictionTotal_eq,
        evictionTotal_storedBySeed, evictionTotal_registerRows, evictionTotal_registerRows]
      exact Nat.le_add_right _ _
    · exact (evictionTotal_registerRows state.model _).ge

/-- A turn that evicts nothing stores its account's position, or none. -/
theorem get?_seedTurn (head : Nat) (state : SeedState) {entry : NumberedAccount}
    (owes : 0 < (pool.accountData entry.1.toLowerCase).totalDebtBase)
    (uncounted : (seedTurn config pool succeeds head state entry).model.evictionTotal =
      state.model.evictionTotal) (key : Address) :
    (seedTurn config pool succeeds head state entry).model.positions.get? key =
      if seeds config pool succeeds entry = true ∧ key = entry.1.toLowerCase then
        some (seededPosition (registerRows (registerRows state.model
          (readReserves pool succeeds entry)) (readReserves pool succeeds entry))
          (snapshotOf pool succeeds head entry))
      else state.model.positions.get? key := by
  rw [seedTurn_eq head state owes] at uncounted ⊢
  by_cases failed : succeeds.accountRow entry.2 = false
  · have idle : seeds config pool succeeds entry = false := by rw [seeds, failed]; rfl
    rw [if_pos failed, idle]
    simp
  · rw [if_neg failed] at uncounted ⊢
    by_cases seeding : seeds config pool succeeds entry = true
    · rw [if_pos seeding] at uncounted ⊢
      simp only [seeding, true_and]
      rw [registerRows_seed] at uncounted ⊢
      have stored := (enforceHardCap_evicts config.model (storedBySeed (registerRows
        (registerRows state.model (readReserves pool succeeds entry))
        (readReserves pool succeeds entry)) (snapshotOf pool succeeds head entry)) head).get?_eq
          (by rw [uncounted, evictionTotal_storedBySeed, evictionTotal_registerRows,
            evictionTotal_registerRows]) key
      rw [stored, get?_storedBySeed, positions_registerRows, positions_registerRows]
      rfl
    · have idle : seeds config pool succeeds entry = false := Bool.eq_false_iff.mpr seeding
      simp only [idle, Bool.false_eq_true, if_false, false_and]
      exact congrArg (fun positions => Positions.get? positions key)
        (positions_registerRows state.model _)

/-! ## The whole loop -/

/-- What the model holds for an account that has been seeded last in a turn. -/
def HeldFrom (pool : PoolAccounts) (succeeds : RowSuccess) (model : LocalPositionModel)
    (entry : NumberedAccount) : Prop :=
  ∃ position, model.positions.get? entry.1.toLowerCase = some position ∧
    position.isFullySeeded = true ∧ ∀ side key,
      ((Side.amounts side) position).amounts.get? key =
        seededAmount side key (readReserves pool succeeds entry)

/-- The loop's state after some turns: the accounts whose totals failed are counted, those
that were read and touch nothing are left out, and each key holds what was seeded for it last,
or what it held before. -/
structure Swept (config : PartialBootstrapConfig) (pool : PoolAccounts) (succeeds : RowSuccess)
    (start : LocalPositionModel) (turns : List NumberedAccount) (state : SeedState) : Prop where
  counted : state.counted =
    (turns.filter (fun entry => !succeeds.accountRow entry.2)).map Prod.fst
  leftOut : state.leftOut = (turns.filter (leavesOut config pool succeeds)).map Prod.fst
  held : ∀ key, match (turns.filter (fun entry => seeds config pool succeeds entry &&
      decide (key = entry.1.toLowerCase))).getLast? with
    | none => state.model.positions.get? key = start.positions.get? key
    | some entry => HeldFrom pool succeeds state.model entry

theorem getLast?_filter_snoc (turns : List NumberedAccount) (entry : NumberedAccount)
    (chosen : NumberedAccount → Bool) :
    ((turns ++ [entry]).filter chosen).getLast? =
      if chosen entry then some entry else (turns.filter chosen).getLast? := by
  rw [List.filter_append]
  by_cases here : chosen entry = true
  · simp [here]
  · simp [here]

variable {start : LocalPositionModel} {turns : List NumberedAccount} {state : SeedState}

/-- One more turn. -/
theorem Swept.snoc (swept : Swept config pool succeeds start turns state) (head : Nat)
    {entry : NumberedAccount} (owes : 0 < (pool.accountData entry.1.toLowerCase).totalDebtBase)
    (uncounted : (seedTurn config pool succeeds head state entry).model.evictionTotal =
      state.model.evictionTotal) :
    Swept config pool succeeds start (turns ++ [entry])
      (seedTurn config pool succeeds head state entry) where
  counted := by
    rw [seedTurn_eq head state owes, List.filter_append, List.map_append, ← swept.counted]
    by_cases failed : succeeds.accountRow entry.2 = false
    · rw [if_pos failed]
      simp [failed]
    · have read : succeeds.accountRow entry.2 = true := by simpa using failed
      rw [if_neg failed]
      split
      · simp [read]
      · simp [read]
  leftOut := by
    rw [seedTurn_eq head state owes, List.filter_append, List.map_append, ← swept.leftOut]
    by_cases failed : succeeds.accountRow entry.2 = false
    · have kept : leavesOut config pool succeeds entry = false := by simp [leavesOut, failed]
      rw [if_pos failed]
      simp [kept]
    · rw [if_neg failed]
      by_cases seeding : seeds config pool succeeds entry = true
      · have kept : leavesOut config pool succeeds entry = false := by
          have touching := (Bool.and_eq_true_iff.mp seeding).2
          simp [leavesOut, touching]
        rw [if_pos seeding]
        simp [kept]
      · rw [if_neg seeding]
        by_cases left : leavesOut config pool succeeds entry = true
        · simp [left]
        · simp [left]
  held := by
    intro key
    have stored := get?_seedTurn head state owes uncounted
    rw [getLast?_filter_snoc]
    by_cases here : seeds config pool succeeds entry = true ∧ key = entry.1.toLowerCase
    · rw [if_pos (by simp [here])]
      refine ⟨_, (stored entry.1.toLowerCase).trans (if_pos ⟨here.1, rfl⟩), rfl, ?_⟩
      intro side asset
      exact (seededPosition_side _ (snapshotOf pool succeeds head entry) side asset).1
    · have before := swept.held key
      rw [if_neg (by simpa using here)]
      cases last : (turns.filter (fun entry => seeds config pool succeeds entry &&
          decide (key = entry.1.toLowerCase))).getLast? with
      | none =>
        rw [last] at before
        dsimp only at before ⊢
        rw [stored, if_neg here, before]
      | some earlier =>
        rw [last] at before
        dsimp only at before ⊢
        have chosen := (List.mem_filter.mp (List.mem_of_getLast? last)).2
        have same : key = earlier.1.toLowerCase := by simpa using (Bool.and_eq_true_iff.mp chosen).2
        obtain ⟨position, found, seeded, sides⟩ := before
        rw [← same] at found
        refine ⟨position, ?_, seeded, sides⟩
        rw [← same, stored, if_neg here, found]

/-- A loop over accounts with debt that evicts nothing. -/
theorem swept_foldl (head : Nat) (start : LocalPositionModel) (turns : List NumberedAccount)
    (owing : ∀ entry ∈ turns, 0 < (pool.accountData entry.1.toLowerCase).totalDebtBase) :
    start.evictionTotal ≤
        (turns.foldl (seedTurn config pool succeeds head) ⟨start, 0, [], 0, []⟩).model.evictionTotal ∧
      ((turns.foldl (seedTurn config pool succeeds head) ⟨start, 0, [], 0, []⟩).model.evictionTotal =
          start.evictionTotal →
        Swept config pool succeeds start turns
          (turns.foldl (seedTurn config pool succeeds head) ⟨start, 0, [], 0, []⟩)) := by
  induction turns using List.reverseRecOn with
  | nil => exact ⟨le_refl _, fun _ => ⟨rfl, rfl, fun _ => rfl⟩⟩
  | append_singleton turns entry inductionHypothesis =>
    obtain ⟨below, swept⟩ :=
      inductionHypothesis (fun earlier member => owing earlier (List.mem_append_left _ member))
    have owes := owing entry (List.mem_append_right _ (List.mem_singleton_self _))
    rw [List.foldl_append, List.foldl_cons, List.foldl_nil]
    have more := @evictionTotal_seedTurn config pool succeeds head
      (turns.foldl (seedTurn config pool succeeds head) ⟨start, 0, [], 0, []⟩) entry owes
    refine ⟨below.trans more, fun uncounted => ?_⟩
    exact (swept (by omega)).snoc head owes (by omega)

/-! ## What the rows come to -/

/-- Where no asset has two rows, an asset's amount is that of its row. -/
theorem seededAmount_iff {side : Side} {key : Address} {amount : Nat} {rows : List SnapshotReserve}
    (distinct : (rows.map (fun row => row.asset.toLowerCase)).Nodup) :
    seededAmount side key rows = some amount ↔
      0 < amount ∧ ∃ row ∈ rows, row.asset.toLowerCase = key ∧ side.scaled row = amount := by
  constructor
  · intro seeded
    obtain ⟨row, member, same, scaled, positive⟩ := exists_row_of_seededAmount seeded
    exact ⟨positive, row, member, same, scaled⟩
  · rintro ⟨positive, found, member, same, scaled⟩
    induction rows with
    | nil => cases member
    | cons row rest inductionHypothesis =>
      rw [List.map_cons, List.nodup_cons] at distinct
      rw [seededAmount, Option.or_eq_some_iff]
      rcases List.mem_cons.mp member with rfl | later
      · refine Or.inr ⟨?_, by rw [if_pos ⟨same, scaled ▸ positive⟩, scaled]⟩
        by_contra other
        obtain ⟨amount, seeded⟩ := Option.ne_none_iff_exists'.mp other
        obtain ⟨second, there, sameKey, _⟩ := exists_row_of_seededAmount seeded
        exact distinct.1 (List.mem_map.mpr ⟨second, there, sameKey.trans same.symm⟩)
      · exact Or.inl (inductionHypothesis distinct.2 later)

theorem distinct_snapshotReserves {rows : List UserReserveData}
    (distinct : (rows.map (fun row => row.underlyingAsset.toLowerCase)).Nodup) :
    ((snapshotReserves rows).map (fun row => row.asset.toLowerCase)).Nodup := by
  rw [snapshotReserves, List.map_map]
  exact distinct.sublist (List.filter_sublist.map _)

theorem mem_snapshotReserves {rows : List UserReserveData} {taken : SnapshotReserve} :
    taken ∈ snapshotReserves rows ↔ ∃ row ∈ rows,
      ¬ (row.scaledATokenBalance = 0 ∧ row.scaledVariableDebt = 0) ∧
        { asset := row.underlyingAsset
          scaledCollateral := if row.usageAsCollateralEnabledOnUser then row.scaledATokenBalance
            else 0
          scaledDebt := row.scaledVariableDebt } = taken := by
  simp only [snapshotReserves, List.mem_map, List.mem_filter, Bool.not_eq_true',
    Bool.and_eq_false_iff, decide_eq_false_iff_not, not_and_or, and_assoc]

/-- A position seeded with the rows of a successful read holds them. -/
theorem holdsRows_of_seeded {account : Address} {position : UserPosition}
    (sides : ∀ side key, ((Side.amounts side) position).amounts.get? key =
      seededAmount side key (snapshotReserves (pool.userReserves account.toLowerCase))) :
    HoldsRows pool account position := by
  have distinct := distinct_snapshotReserves (pool.distinct account.toLowerCase)
  constructor
  · intro key amount
    rw [show position.collateral.get? key = _ from sides .collateral key, seededAmount_iff distinct]
    refine and_congr_right (fun positive => ?_)
    constructor
    · rintro ⟨taken, member, same, scaled⟩
      obtain ⟨row, there, _, rfl⟩ := mem_snapshotReserves.mp member
      have balance : (if row.usageAsCollateralEnabledOnUser = true then row.scaledATokenBalance
        else 0) = amount := scaled
      split at balance
      next enabled => exact ⟨row, there, same, enabled, balance⟩
      next => omega
    · rintro ⟨row, there, same, enabled, balance⟩
      refine ⟨_, mem_snapshotReserves.mpr ⟨row, there, fun both => by omega, rfl⟩, same, ?_⟩
      exact (if_pos enabled).trans balance
  · intro key amount
    rw [show position.debt.get? key = _ from sides .debt key, seededAmount_iff distinct]
    refine and_congr_right (fun positive => ?_)
    constructor
    · rintro ⟨taken, member, same, scaled⟩
      obtain ⟨row, there, _, rfl⟩ := mem_snapshotReserves.mp member
      exact ⟨row, there, same, scaled⟩
    · rintro ⟨row, there, same, balance⟩
      exact ⟨_, mem_snapshotReserves.mpr ⟨row, there, fun both => by omega, rfl⟩, same, balance⟩

/-- A debtor's rows are not empty maps. -/
theorem not_empty_of_holdsRows {account : Address} {position : UserPosition}
    (owes : Owes pool account) (holds : HoldsRows pool account position) :
    ¬ ∀ key, position.debt.get? key = none := by
  intro empty
  obtain ⟨row, member, positive⟩ := pool.owed account.toLowerCase owes
  have there := (holds.2 row.underlyingAsset.toLowerCase row.scaledVariableDebt).mpr
    ⟨positive, row, member, rfl, rfl⟩
  rw [empty] at there
  cases there

/-! ## Every debtor -/

/-- The last chosen of numbered accounts has the greatest place. -/
theorem le_of_last {discovered : List Address} {chosen : NumberedAccount → Bool}
    {entry : NumberedAccount}
    (last : (discovered.zipIdx.filter chosen).getLast? = some entry) :
    ∀ other ∈ discovered.zipIdx, chosen other = true → other.2 ≤ entry.2 := by
  induction discovered using List.reverseRecOn with
  | nil =>
    intro other member
    cases member
  | append_singleton discovered account inductionHypothesis =>
    intro other member picked
    rw [List.zipIdx_append, List.zipIdx_singleton, Nat.zero_add] at last member
    rw [getLast?_filter_snoc] at last
    rcases List.mem_append.mp member with earlier | here
    · split at last
      · rw [← Option.some.inj last]
        have bounded := List.mem_zipIdx earlier
        omega
      · exact inductionHypothesis last other earlier picked
    · rw [List.mem_singleton.mp here] at picked ⊢
      rw [if_pos picked] at last
      rw [← Option.some.inj last]

section Sweep

variable {discovered : List Address} {account : Address} {result : SeedState}

theorem kept_of_listed {entry : NumberedAccount} (owes : Owes pool account)
    (same : entry.1.toLowerCase = account.toLowerCase) :
    kept pool succeeds entry = succeeds.filterRow entry.2 := by
  have positive : 0 < (pool.accountData entry.1.toLowerCase).totalDebtBase := same ▸ owes
  simp [kept, positive]

theorem listedAt_iff {place : Nat} :
    ListedAt discovered account place ↔
      ∃ entry ∈ discovered.zipIdx, entry.2 = place ∧
        entry.1.toLowerCase = account.toLowerCase := by
  unfold ListedAt
  rw [Option.map_eq_some_iff]
  constructor
  · rintro ⟨address, there, same⟩
    exact ⟨(address, place), List.mem_zipIdx_iff_getElem?.mpr there, rfl, same⟩
  · rintro ⟨entry, member, rfl, same⟩
    exact ⟨entry.1, List.mem_zipIdx_iff_getElem?.mp member, same⟩

/-- The accounts of chosen turns, by place. -/
theorem mem_turns_iff (owes : Owes pool account) (chosen : NumberedAccount → Bool)
    (placed : Nat → Prop) (agree : ∀ entry : NumberedAccount,
      entry.1.toLowerCase = account.toLowerCase → (chosen entry = true ↔ placed entry.2)) :
    (∃ address ∈ ((discovered.zipIdx.filter (kept pool succeeds)).filter chosen).map Prod.fst,
        address.toLowerCase = account.toLowerCase) ↔
      ∃ place, ListedAt discovered account place ∧ succeeds.filterRow place = true ∧
        placed place := by
  constructor
  · rintro ⟨address, member, same⟩
    obtain ⟨entry, picked, rfl⟩ := List.mem_map.mp member
    obtain ⟨turn, chosenHere⟩ := List.mem_filter.mp picked
    obtain ⟨listed, keptHere⟩ := List.mem_filter.mp turn
    rw [kept_of_listed owes same] at keptHere
    exact ⟨entry.2, listedAt_iff.mpr ⟨entry, listed, rfl, same⟩, keptHere,
      (agree entry same).mp chosenHere⟩
  · rintro ⟨place, listed, read, holds⟩
    obtain ⟨entry, member, rfl, same⟩ := listedAt_iff.mp listed
    refine ⟨entry.1, List.mem_map.mpr ⟨entry, ?_, rfl⟩, same⟩
    refine List.mem_filter.mpr ⟨List.mem_filter.mpr ⟨member, ?_⟩, (agree entry same).mpr holds⟩
    rwa [kept_of_listed owes same]

theorem counted_iff (owes : Owes pool account)
    (swept : Swept config pool succeeds start (discovered.zipIdx.filter (kept pool succeeds))
      result) :
    Counted result account ↔ ∃ place, ListedAt discovered account place ∧ Fails succeeds place := by
  unfold Counted Fails
  rw [swept.counted]
  exact mem_turns_iff owes _ (fun place => succeeds.accountRow place = false)
    (fun entry _ => by simp)

/-- The account's own reserves touch an allowed one. -/
def Allowed (config : PartialBootstrapConfig) (pool : PoolAccounts) (account : Address) : Prop :=
  touches config (snapshotReserves (pool.userReserves account.toLowerCase)) = true

theorem touches_nil : touches config [] = true ↔ config.reserveAllowlist.getD [] = [] := by
  simp [touches, EventPurityStack.reservesTouchAllowlist]

theorem allowed_of_empty (none : config.reserveAllowlist.getD [] = []) :
    Allowed config pool account := by
  simp [Allowed, touches, EventPurityStack.reservesTouchAllowlist, none]

theorem touches_readReserves {entry : NumberedAccount}
    (same : entry.1.toLowerCase = account.toLowerCase) :
    touches config (readReserves pool succeeds entry) = true ↔
      if succeeds.reserveRow entry.2 = true then Allowed config pool account
      else config.reserveAllowlist.getD [] = [] := by
  unfold readReserves Allowed
  rw [same]
  split
  · exact Iff.rfl
  · exact touches_nil

/-- Where an allowed reserve is touched, the deciding places are those that seed. -/
theorem seeds_iff (allowed : Allowed config pool account) {entry : NumberedAccount}
    (same : entry.1.toLowerCase = account.toLowerCase) :
    seeds config pool succeeds entry = true ↔
      succeeds.accountRow entry.2 = true ∧
        (config.reserveAllowlist.getD [] = [] ∨ succeeds.reserveRow entry.2 = true) := by
  unfold seeds
  rw [Bool.and_eq_true, touches_readReserves same]
  split
  next read => simp [read, allowed]
  next unread => simp [unread]

theorem seeds_eq_false (outside : ¬ Allowed config pool account) {entry : NumberedAccount}
    (same : entry.1.toLowerCase = account.toLowerCase) :
    seeds config pool succeeds entry = false := by
  rw [Bool.eq_false_iff]
  intro seeding
  have touching := (touches_readReserves same).mp (Bool.and_eq_true_iff.mp seeding).2
  split at touching
  · exact outside touching
  · exact outside (allowed_of_empty touching)

theorem leftOut_iff (owes : Owes pool account)
    (swept : Swept config pool succeeds start (discovered.zipIdx.filter (kept pool succeeds))
      result) :
    LeftOut result account ↔ ¬ Allowed config pool account ∧
      ∃ place, ListedAt discovered account place ∧ Decides config succeeds place := by
  have agree : ∀ entry : NumberedAccount, entry.1.toLowerCase = account.toLowerCase →
      (leavesOut config pool succeeds entry = true ↔ ¬ Allowed config pool account ∧
        succeeds.accountRow entry.2 = true ∧
          (config.reserveAllowlist.getD [] = [] ∨ succeeds.reserveRow entry.2 = true)) := by
    intro entry same
    have touching := @touches_readReserves config pool succeeds account entry same
    unfold leavesOut
    by_cases read : succeeds.reserveRow entry.2 = true
    · rw [if_pos read] at touching
      simp only [read, Bool.and_true, Bool.and_eq_true, Bool.not_eq_true', or_true, and_true,
        ← Bool.not_eq_true, touching]
      exact and_comm
    · simp only [read, Bool.and_false, Bool.false_and, Bool.false_eq_true, or_false, false_iff]
      rintro ⟨outside, _, none⟩
      exact outside (allowed_of_empty none)
  unfold LeftOut
  rw [swept.leftOut, mem_turns_iff owes _ (fun place => ¬ Allowed config pool account ∧
    succeeds.accountRow place = true ∧
      (config.reserveAllowlist.getD [] = [] ∨ succeeds.reserveRow place = true)) agree]
  constructor
  · rintro ⟨place, listed, read, outside, decides⟩
    exact ⟨outside, place, listed, read, decides⟩
  · rintro ⟨outside, place, listed, read, decides⟩
    exact ⟨place, listed, read, outside, decides⟩

/-- A key without a seeding turn is held as before the sweep. -/
theorem unseeded_of_none (fresh : start.isFullySeeded account = false)
    (same : result.model.positions.get? account.toLowerCase =
      start.positions.get? account.toLowerCase) :
    ¬ Seeded pool result account ∧ ¬ SeededEmpty result account := by
  have unseeded : ∀ position, result.model.positions.get? account.toLowerCase = some position →
      position.isFullySeeded ≠ true := by
    intro position found seeded
    rw [same] at found
    unfold LocalPositionModel.isFullySeeded at fresh
    rw [found] at fresh
    exact absurd (fresh.symm.trans seeded) (by decide)
  constructor
  · rintro ⟨position, found, seeded, _⟩
    exact unseeded position found seeded
  · rintro ⟨position, found, seeded, _⟩
    exact unseeded position found seeded

/-- What a seeding turn of the account leaves: its rows, or two empty maps. -/
theorem held_of_turn (owes : Owes pool account) {entry : NumberedAccount}
    (same : entry.1.toLowerCase = account.toLowerCase)
    (held : HeldFrom pool succeeds result.model entry) :
    if succeeds.reserveRow entry.2 = true then
      Seeded pool result account ∧ ¬ SeededEmpty result account
    else ¬ Seeded pool result account ∧ SeededEmpty result account := by
  obtain ⟨position, found, seeded, sides⟩ := held
  rw [same] at found
  unfold readReserves at sides
  split
  next read =>
    rw [if_pos read, same] at sides
    have holds := holdsRows_of_seeded sides
    refine ⟨⟨position, found, seeded, holds⟩, ?_⟩
    rintro ⟨other, there, _, _, empty⟩
    rw [found] at there
    cases there
    exact not_empty_of_holdsRows owes holds empty
  next unread =>
    rw [if_neg unread] at sides
    constructor
    · rintro ⟨other, there, _, holds⟩
      rw [found] at there
      cases there
      exact not_empty_of_holdsRows owes holds (sides .debt)
    · exact ⟨position, found, seeded, sides .collateral, sides .debt⟩

/-- Where an allowed reserve is touched, the last deciding place tells what is held. -/
theorem held_cases (owes : Owes pool account) (fresh : start.isFullySeeded account = false)
    (allowed : Allowed config pool account)
    (swept : Swept config pool succeeds start (discovered.zipIdx.filter (kept pool succeeds))
      result) :
    ((¬ ∃ place, ListedAt discovered account place ∧ Decides config succeeds place) ∧
        ¬ Seeded pool result account ∧ ¬ SeededEmpty result account) ∨
      ∃ place, ListedAt discovered account place ∧ Decides config succeeds place ∧
        (∀ later, ListedAt discovered account later → Decides config succeeds later →
          later ≤ place) ∧
        if succeeds.reserveRow place = true then
          Seeded pool result account ∧ ¬ SeededEmpty result account
        else ¬ Seeded pool result account ∧ SeededEmpty result account := by
  have held := swept.held account.toLowerCase
  rw [List.filter_filter] at held
  have chosen_iff : ∀ entry ∈ discovered.zipIdx,
      ((seeds config pool succeeds entry && decide (account.toLowerCase = entry.1.toLowerCase)) &&
          kept pool succeeds entry) = true ↔
        entry.1.toLowerCase = account.toLowerCase ∧ Decides config succeeds entry.2 := by
    intro entry _
    rw [Bool.and_eq_true, Bool.and_eq_true, decide_eq_true_eq]
    constructor
    · rintro ⟨⟨seeding, same⟩, keeping⟩
      rw [kept_of_listed owes same.symm] at keeping
      exact ⟨same.symm, keeping, (seeds_iff allowed same.symm).mp seeding⟩
    · rintro ⟨same, keeping, decides⟩
      refine ⟨⟨(seeds_iff allowed same).mpr decides, same.symm⟩, ?_⟩
      rwa [kept_of_listed owes same]
  cases last : (discovered.zipIdx.filter (fun entry =>
      (seeds config pool succeeds entry && decide (account.toLowerCase = entry.1.toLowerCase)) &&
        kept pool succeeds entry)).getLast? with
  | none =>
    rw [last] at held
    refine Or.inl ⟨?_, unseeded_of_none fresh held⟩
    rintro ⟨place, listed, decides⟩
    obtain ⟨entry, member, rfl, same⟩ := listedAt_iff.mp listed
    have idle := List.filter_eq_nil_iff.mp (List.getLast?_eq_none_iff.mp last) entry member
    exact idle ((chosen_iff entry member).mpr ⟨same, decides⟩)
  | some entry =>
    rw [last] at held
    obtain ⟨member, picked⟩ := List.mem_filter.mp (List.mem_of_getLast? last)
    obtain ⟨same, decides⟩ := (chosen_iff entry member).mp picked
    refine Or.inr ⟨entry.2, listedAt_iff.mpr ⟨entry, member, rfl, same⟩, decides, ?_,
      held_of_turn owes same held⟩
    intro later listed decidesLater
    obtain ⟨other, there, rfl, sameOther⟩ := listedAt_iff.mp listed
    exact le_of_last last other there ((chosen_iff other there).mpr ⟨sameOther, decidesLater⟩)

/-- Where no allowed reserve is touched, nothing is seeded. -/
theorem unheld_of_outside (fresh : start.isFullySeeded account = false)
    (outside : ¬ Allowed config pool account)
    (swept : Swept config pool succeeds start (discovered.zipIdx.filter (kept pool succeeds))
      result) :
    ¬ Seeded pool result account ∧ ¬ SeededEmpty result account := by
  have idle : ((discovered.zipIdx.filter (kept pool succeeds)).filter (fun entry =>
      seeds config pool succeeds entry &&
        decide (account.toLowerCase = entry.1.toLowerCase))) = [] := by
    rw [List.filter_eq_nil_iff]
    intro entry _ both
    obtain ⟨seeding, same⟩ := Bool.and_eq_true_iff.mp both
    rw [seeds_eq_false outside (of_decide_eq_true same).symm] at seeding
    cases seeding
  have held := swept.held account.toLowerCase
  rw [idle] at held
  exact unseeded_of_none fresh held

/-- The case with an allowed reserve: the last deciding place tells. -/
theorem accounted_iff_of_allowed (owes : Owes pool account)
    (fresh : start.isFullySeeded account = false) (allowed : Allowed config pool account)
    (swept : Swept config pool succeeds start (discovered.zipIdx.filter (kept pool succeeds))
      result) :
    Accounted pool result account ↔ RowsDecide config succeeds discovered account := by
  have inside : ¬ LeftOut result account := fun left =>
    ((leftOut_iff owes swept).mp left).1 allowed
  unfold Accounted RowsDecide
  rw [← counted_iff owes swept]
  rcases held_cases owes fresh allowed swept with
    ⟨undecided, unseeded, nonempty⟩ | ⟨place, listed, decides, greatest, held⟩
  · have vacuous : ∀ place, ListedAt discovered account place →
        Decides config succeeds place → ∀ P : Prop, P :=
      fun place listed decides => absurd ⟨place, listed, decides⟩ undecided
    constructor
    · rintro ⟨⟨seeded, _⟩ | ⟨_, left, _⟩ | ⟨_, _, errs⟩, _⟩
      · exact absurd seeded unseeded
      · exact absurd left inside
      · exact ⟨Or.inl ⟨errs, undecided⟩,
          fun place listed decides _ => vacuous place listed decides _⟩
    · rintro ⟨⟨errs, _⟩ | ⟨_, place, listed, decides⟩, _⟩
      · exact ⟨Or.inr (Or.inr ⟨unseeded, inside, errs⟩), nonempty⟩
      · exact vacuous place listed decides _
  · have decided : ∃ place, ListedAt discovered account place ∧ Decides config succeeds place :=
      ⟨place, listed, decides⟩
    by_cases read : succeeds.reserveRow place = true
    · rw [if_pos read] at held
      constructor
      · rintro ⟨⟨_, _, fine⟩ | ⟨unseeded, _⟩ | ⟨unseeded, _⟩, _⟩
        · refine ⟨Or.inr ⟨fine, decided⟩, fun other listedOther decidesOther last => ?_⟩
          have same : other = place :=
            Nat.le_antisymm (greatest other listedOther decidesOther) (last place listed decides)
          rwa [same]
        · exact absurd held.1 unseeded
        · exact absurd held.1 unseeded
      · rintro ⟨⟨_, undecided⟩ | ⟨fine, _⟩, _⟩
        · exact absurd decided undecided
        · exact ⟨Or.inl ⟨held.1, inside, fine⟩, held.2⟩
    · rw [if_neg read] at held
      constructor
      · rintro ⟨_, nonempty⟩
        exact absurd held.2 nonempty
      · rintro ⟨_, lastRead⟩
        exact absurd (lastRead place listed decides greatest) read

/-- The case without one: only reads that succeed decide, and leave the account out. -/
theorem accounted_iff_of_outside (owes : Owes pool account)
    (fresh : start.isFullySeeded account = false) (outside : ¬ Allowed config pool account)
    (swept : Swept config pool succeeds start (discovered.zipIdx.filter (kept pool succeeds))
      result) :
    Accounted pool result account ↔ RowsDecide config succeeds discovered account := by
  have listing : config.reserveAllowlist.getD [] ≠ [] := fun none => outside (allowed_of_empty none)
  have read : ∀ place, Decides config succeeds place → succeeds.reserveRow place = true :=
    fun place decides => decides.2.2.resolve_left listing
  obtain ⟨unseeded, nonempty⟩ := unheld_of_outside fresh outside swept
  unfold Accounted RowsDecide
  simp only [← counted_iff owes swept, unseeded, nonempty, not_false_eq_true, false_and, true_and,
    and_true, false_or, leftOut_iff owes swept, outside]
  constructor
  · rintro (⟨decided, fine⟩ | ⟨undecided, errs⟩)
    · exact ⟨Or.inr ⟨fine, decided⟩, fun place _ decides _ => read place decides⟩
    · exact ⟨Or.inl ⟨errs, undecided⟩, fun place _ decides _ => read place decides⟩
  · rintro ⟨⟨errs, undecided⟩ | ⟨fine, decided⟩, _⟩
    · exact Or.inr ⟨undecided, errs⟩
    · exact Or.inl ⟨decided, fine⟩

/-- A discovered debtor that is not seeded yet is accounted for exactly when its rows decide
it, in a sweep that evicts nothing. -/
theorem accounted_iff (config : PartialBootstrapConfig) (pool : PoolAccounts)
    (succeeds : RowSuccess) (head : Nat) (start : LocalPositionModel) (discovered : List Address)
    (unevicted : (runPartialBootstrapSweep config pool succeeds head start
      discovered).model.evictionTotal = start.evictionTotal)
    (account : Address) (owes : Owes pool account)
    (fresh : start.isFullySeeded account = false) :
    Accounted pool (runPartialBootstrapSweep config pool succeeds head start discovered) account ↔
      RowsDecide config succeeds discovered account := by
  have owing : ∀ entry ∈ discovered.zipIdx.filter (kept pool succeeds),
      0 < (pool.accountData entry.1.toLowerCase).totalDebtBase := by
    intro entry member
    exact of_decide_eq_true (Bool.and_eq_true_iff.mp (List.mem_filter.mp member).2).2
  have swept : Swept config pool succeeds start (discovered.zipIdx.filter (kept pool succeeds))
      (runPartialBootstrapSweep config pool succeeds head start discovered) := by
    unfold runPartialBootstrapSweep at unevicted ⊢
    rw [filterAccountsWithDebt_eq, seedModelFromOnChain_eq] at unevicted ⊢
    exact (swept_foldl head start _ owing).2 unevicted
  by_cases allowed : Allowed config pool account
  · exact accounted_iff_of_allowed owes fresh allowed swept
  · exact accounted_iff_of_outside owes fresh allowed swept

theorem not_accounted_of_nothing
    (absent : result.model.positions.get? account.toLowerCase = none) (inside : result.leftOut = [])
    (fine : result.counted = []) : ¬ Accounted pool result account := by
  have unseeded : ¬ Seeded pool result account := by
    rintro ⟨position, found, _⟩
    rw [absent] at found
    cases found
  have kept : ¬ LeftOut result account := by
    rintro ⟨address, member, _⟩
    rw [inside] at member
    cases member
  have uncounted : ¬ Counted result account := by
    rintro ⟨address, member, _⟩
    rw [fine] at member
    cases member
  rintro ⟨⟨seeded, _⟩ | ⟨_, left, _⟩ | ⟨_, _, counted⟩, _⟩
  · exact unseeded seeded
  · exact kept left
  · exact uncounted counted

end Sweep

/-! ## One debtor -/

/-- A pool in which every account has an ether of collateral and a debt of 1000 USDC. -/
def borrowers : PoolAccounts where
  accountData := fun _ => ⟨200000000000, 100000000000, 0, 8000, 7500, 1600000000000000000⟩
  userReserves := fun _ => [⟨⟨7, 0⟩, WAD, true, 0⟩, ⟨BASE_USDC, 0, false, 1000000000⟩]
  eModeCategory := fun _ => 0
  distinct := fun _ => by decide
  owed := fun _ _ => ⟨⟨BASE_USDC, 0, false, 1000000000⟩, by decide, by decide⟩

/-- The default batch sizes, with an allowlist or none. -/
def bootstrapConfig (reserveAllowlist : Option (List Address)) : PartialBootstrapConfig where
  model := defaultConfig
  accountBatchSize := ⟨250, by decide⟩
  reserveDataBatchSize := ⟨50, by decide⟩
  reserveAllowlist := reserveAllowlist

/-- The theorem where every row succeeds. -/
theorem accounted_iff_borrower :
    Accounted borrowers (runPartialBootstrapSweep (bootstrapConfig none) borrowers
        ⟨fun _ => true, fun _ => true, fun _ => true⟩ 700000 initial [⟨1, 0⟩]) ⟨1, 0⟩ ↔
      RowsDecide (bootstrapConfig none) ⟨fun _ => true, fun _ => true, fun _ => true⟩ [⟨1, 0⟩]
        ⟨1, 0⟩ :=
  accounted_iff (bootstrapConfig none) borrowers ⟨fun _ => true, fun _ => true, fun _ => true⟩
    700000 initial [⟨1, 0⟩] (by decide +kernel) ⟨1, 0⟩ (by decide : 0 < 100000000000) rfl

/-- A debtor whose row of the first read fails is nowhere afterwards. One whose reserves
cannot be read is seeded with empty maps; with an allowlist it is nowhere either. -/
theorem debtor_unaccounted :
    ¬ Accounted borrowers (runPartialBootstrapSweep (bootstrapConfig none) borrowers
        ⟨fun _ => false, fun _ => true, fun _ => true⟩ 700000 initial [⟨1, 0⟩]) ⟨1, 0⟩ ∧
      SeededEmpty (runPartialBootstrapSweep (bootstrapConfig none) borrowers
        ⟨fun _ => true, fun _ => true, fun _ => false⟩ 700000 initial [⟨1, 0⟩]) ⟨1, 0⟩ ∧
      ¬ Accounted borrowers (runPartialBootstrapSweep (bootstrapConfig (some [BASE_USDC])) borrowers
        ⟨fun _ => true, fun _ => true, fun _ => false⟩ 700000 initial [⟨1, 0⟩]) ⟨1, 0⟩ := by
  refine ⟨?_, ?_, ?_⟩
  · exact not_accounted_of_nothing (by decide +kernel) (by decide +kernel) (by decide +kernel)
  · have stored : (runPartialBootstrapSweep (bootstrapConfig none) borrowers
        ⟨fun _ => true, fun _ => true, fun _ => false⟩ 700000 initial
          [⟨1, 0⟩]).model.positions.get? ⟨1, 0⟩ =
        some { newPosition ⟨1, 0⟩ 700000 with
          cachedHfWad := 1600000000000000000
          confidence := .high
          isFullySeeded := true
          lastConfirmedBlock := 700000
          lastTotalCollateralBase := some 200000000000
          lastTotalDebtBase := some 100000000000
          lastLiquidationThreshold := some 8000 } := by decide +kernel
    exact ⟨_, stored, rfl, fun _ => rfl, fun _ => rfl⟩
  · exact not_accounted_of_nothing (by decide +kernel) (by decide +kernel) (by decide +kernel)

end BootstrapSweep

end LiquidationBot
