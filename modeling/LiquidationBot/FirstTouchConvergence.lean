import LiquidationBot.BootstrapSweep
import LiquidationBot.FirstTouch
import LiquidationBot.SeededFlags

/-!
# First touches while the account changes

A first event of an account that was not bootstrapped asks for a reading, and so does every
event until the account is seeded. A reading is two contract calls, which may see the
account after different events; meanwhile more events arrive, some before the read node has
them. The answer empties the maps of the account and fills them again, or removes the
account, and compares nothing.

The last reading in flight decides what is kept. It is right where it saw the balances after
the events delivered so far.
-/

namespace LiquidationBot

open LocalPositionModel Prefixes

/-- Balances after the first events of a list. -/
def Balances.after (before : Balances) (events : List ParsedAavePoolEvent) (seen : Nat) :
    Balances :=
  (events.take seen).foldl Balances.step before

/-- The amounts on a side. -/
def Balances.side (balances : Balances) : Side → Address → Nat
  | .collateral => balances.collateral
  | .debt => balances.debt

theorem Balances.after_succ (before : Balances) {events : List ParsedAavePoolEvent} {seen : Nat}
    {event : ParsedAavePoolEvent} (next : events[seen]? = some event) :
    before.after events (seen + 1) = (before.after events seen).step event := by
  rw [Balances.after, Balances.after, List.take_add_one, next, List.foldl_append]
  rfl

/-- An account that was not bootstrapped: its balances before its events, the events, and
what the contracts answer once so many of them are included. The rows are the balances, and
an account without debt has no total debt. -/
structure TouchedAccount (config : EventPurityStackConfig) where
  account : Address
  before : Balances
  events : List ParsedAavePoolEvent
  accountData : Nat → UserAccountData
  userReserves : Nat → List UserReserveData
  eModeCategory : Nat → Nat
  touched : events ≠ []
  own : ∀ event ∈ events, EventOf account.toLowerCase event
  listed : ∀ event ∈ events, isReserveInAllowlist config.model event.reserve = true
  distinct : ∀ seen, ((userReserves seen).map (fun row => row.underlyingAsset.toLowerCase)).Nodup
  rows : ∀ seen, ∀ row ∈ userReserves seen,
    row.scaledATokenBalance =
        (before.after events seen).collateral row.underlyingAsset.toLowerCase ∧
      row.scaledVariableDebt = (before.after events seen).debt row.underlyingAsset.toLowerCase
  complete : ∀ seen key, (before.after events seen).collateral key ≠ 0 ∨
    (before.after events seen).debt key ≠ 0 →
      ∃ row ∈ userReserves seen, row.underlyingAsset.toLowerCase = key
  debtless : ∀ seen, (before.after events seen).DebtFree → (accountData seen).totalDebtBase = 0

/-- A reading in flight: what `reconcileAndSeedPosition` was called with, and how many of the
account's events were included then. -/
structure TouchRead where
  account : Address
  blockNumber : Nat
  since : Nat
deriving DecidableEq

/-- The stack, how many of the account's events are included and how many delivered, and the
readings in flight. -/
structure TouchWorld where
  stack : EventPurityStack
  included : Nat
  delivered : Nat
  reads : List TouchRead

/-- What happens: the read node includes the next event, the next event is delivered, the two
calls of a reading are answered after so many events each, and handlers go on after a
reading. -/
inductive TouchStep where
  | included
  | delivered (nowSec : Int)
  | answered (index totals rows : Nat) (nowSec : Int)
  | firstTouch (nowSec : Int)
  | resume (index : Nat) (nowSec : Int)

namespace TouchedAccount

variable {config : EventPurityStackConfig} (touched : TouchedAccount config)

def key : Address := touched.account.toLowerCase

def balancesAfter (seen : Nat) : Balances := touched.before.after touched.events seen

/-- `fetchOnChainAccountSnapshot`, with the totals and the reserves after so many events. The
block is that of the call that seeds. -/
def fetchOnChainAccountSnapshot (account : Address) (totals rows : Nat) : ReconcileAnswer :=
  let data := touched.accountData totals
  if data.totalDebtBase = 0 then .debtFree
  else
    .snapshot
      { account := account
        blockNumber := 0
        eModeCategoryId := touched.eModeCategory rows
        healthFactorWad := data.healthFactor
        totalCollateralBase := data.totalCollateralBase
        totalDebtBase := data.totalDebtBase
        liquidationThreshold := data.currentLiquidationThreshold
        reserves := BootstrapSweep.snapshotReserves (touched.userReserves rows) }

/-- One step. A call answers for a moment between its start and now. -/
def step (world : TouchWorld) : TouchStep → Option TouchWorld
  | .included =>
      if world.included < touched.events.length then
        some { world with included := world.included + 1 }
      else none
  | .delivered nowSec =>
      match touched.events[world.delivered]? with
      | none => none
      | some event =>
          let reconciled :=
            (applyAaveEvent config.model world.stack.model event nowSec).2.firstTouchReconcile
          some { world with
            stack := (EventPurityStack.step config world.stack (.aavePool event, nowSec)).1
            delivered := world.delivered + 1
            reads := world.reads ++ (reconciled.map (fun account =>
              ⟨account, event.origin.blockNumber, world.included⟩)).toList }
  | .answered index totals rows nowSec =>
      match world.reads[index]? with
      | none => none
      | some read =>
          if (read.since ≤ totals ∧ totals ≤ world.included) ∧
              read.since ≤ rows ∧ rows ≤ world.included then
            some { world with
              stack := (EventPurityStack.step config world.stack
                (.reconcile read.account read.blockNumber
                  (touched.fetchOnChainAccountSnapshot read.account totals rows), nowSec)).1
              reads := world.reads.eraseIdx index }
          else none
  | .firstTouch nowSec =>
      some { world with
        stack := (EventPurityStack.step config world.stack (.firstTouch touched.account, nowSec)).1 }
  | .resume index nowSec =>
      some { world with
        stack := (EventPurityStack.step config world.stack (.resume index, nowSec)).1 }

/-- The world after a run, if each of its steps can happen. -/
def after (start : EventPurityStack) (run : List TouchStep) : Option TouchWorld :=
  run.foldlM touched.step ⟨start, 0, 0, []⟩

/-- Once all events are delivered and no reading is in flight, the maps are the balances after
them, or the account is absent and no debt is left. -/
def Converged (world : TouchWorld) : Prop :=
  world.delivered = touched.events.length → world.reads = [] →
    match world.stack.model.accountBalances touched.key with
    | some balances => balances = touched.balancesAfter touched.events.length
    | none => (touched.balancesAfter touched.events.length).DebtFree

/-- The answer removes the account. -/
def Removes (totals rows : Nat) : Prop :=
  (touched.accountData totals).totalDebtBase = 0 ∨
    EventPurityStack.reservesTouchAllowlist
      (BootstrapSweep.snapshotReserves (touched.userReserves rows))
      (config.model.reserveAllowlist.getD []) = false

/-- Every balance is enabled as collateral. -/
def AllEnabled (rows : Nat) : Prop :=
  ∀ row ∈ touched.userReserves rows,
    row.scaledATokenBalance ≠ 0 → row.usageAsCollateralEnabledOnUser = true

/-- The step leaves nothing out. An event is delivered with room for the account; and where it
is the last one and a liquidation of an account that is not held, no debt is left. The answer
of the only reading in flight removes the account while events are to come or no debt is
left, or it has the balances after the delivered events. -/
def CatchesUp (world : TouchWorld) : TouchStep → Prop
  | .delivered _ =>
      RoomFor config.model world.stack.model touched.key ∧
        (world.delivered + 1 = touched.events.length → world.reads = [] →
          world.stack.model.positions.get? touched.key = none →
          (∃ event, touched.events[world.delivered]? = some event ∧
            event.name = .LiquidationCall) →
          (touched.balancesAfter touched.events.length).DebtFree)
  | .answered _ totals rows _ =>
      world.reads.length = 1 →
        (touched.Removes totals rows → world.delivered = touched.events.length →
          (touched.balancesAfter touched.events.length).DebtFree) ∧
        (¬ touched.Removes totals rows →
          RoomFor config.model world.stack.model touched.key ∧ touched.AllEnabled rows ∧
            touched.balancesAfter rows = touched.balancesAfter world.delivered)
  | .included | .firstTouch _ | .resume _ _ => True

/-! ## What is kept -/

/-- The readings in flight are the account's, there is one while the account is held and not
seeded, and without one the account's balances are those after the delivered events. -/
structure Sound (world : TouchWorld) : Prop where
  ours : ∀ read ∈ world.reads, read.account.toLowerCase = touched.key
  unread : ∀ position, world.stack.model.ledgerOf touched.key = some position →
    position.isFullySeeded = false → world.reads ≠ []
  settled : world.reads = [] →
    match world.stack.model.accountBalances touched.key with
    | some balances => balances = touched.balancesAfter world.delivered
    | none => world.delivered = touched.events.length →
        (touched.balancesAfter touched.events.length).DebtFree

variable {touched} {world next : TouchWorld}

theorem Sound.converged (sound : touched.Sound world) : touched.Converged world := by
  intro all unread
  have settled := sound.settled unread
  revert settled
  cases world.stack.model.accountBalances touched.key with
  | some balances =>
    intro same
    exact same.trans (congrArg touched.balancesAfter all)
  | none => exact fun free => free all

/-! ## One event -/

end TouchedAccount

namespace LocalPositionModel

/-- An event on an allowlisted reserve, with room for its account: the account is removed by
a liquidation that leaves no debt, or its balances take the step and its flag stays. Unseeded
it asks for a reading. -/
theorem ledgerOf_event {config : LocalPositionModelConfig} {model : LocalPositionModel}
    {event : ParsedAavePoolEvent} {user : Address} (nowSec : Int)
    (balances : event.name ≠ .ReserveDataUpdated) (resolved : resolveUserAddress event = some user)
    (listed : isReserveInAllowlist config event.reserve = true)
    (room : RoomFor config model user.toLowerCase) :
    let applied := applyAaveEvent config model event nowSec
    let stepped := ((model.accountBalances user.toLowerCase).getD .zero).step event
    (event.name = .LiquidationCall ∧ stepped.DebtFree ∧
        applied.1.ledgerOf user.toLowerCase = none) ∨
      ∃ position, applied.1.ledgerOf user.toLowerCase = some position ∧
        balancesOf position = stepped ∧ position.isFullySeeded = model.isFullySeeded user ∧
        (model.isFullySeeded user = false → applied.2.firstTouchReconcile = some user) := by
  intro applied stepped
  obtain ⟨ledger, _, _⟩ :=
    applyAaveEvent_account config model event user nowSec balances resolved room
  have counted : ¬ (!model.positions.has user.toLowerCase &&
      !isReserveInAllowlist config event.reserve) = true := by simp [listed]
  have outcome : applied.1.ledgerOf user.toLowerCase =
      if (decide (event.name = .LiquidationCall) &&
        debtFree (storedByEvent model event user).2) = true then none
      else some (storedByEvent model event user).2.ledger := by
    rw [ledger, accountStep, if_neg counted]
    rfl
  have free : debtFree (storedByEvent model event user).2 = true ↔ stepped.DebtFree := by
    rw [debtFree_iff, balancesOf_storedByEvent]
  by_cases removed : (decide (event.name = .LiquidationCall) &&
      debtFree (storedByEvent model event user).2) = true
  · obtain ⟨liquidation, none⟩ := Bool.and_eq_true_iff.mp removed
    rw [if_pos removed] at outcome
    exact Or.inl ⟨of_decide_eq_true liquidation, free.mp none, outcome⟩
  · rw [if_neg removed] at outcome
    refine Or.inr ⟨_, outcome, balancesOf_storedByEvent model event user,
      isFullySeeded_storedByEvent model event user, fun unseeded => ?_⟩
    rw [show applied = applyAccountEvent config model event user nowSec from
      applyAaveEvent_taken balances resolved (Or.inr listed),
      firstTouchReconcile_applyAccountEvent unseeded, if_neg removed]

/-- A reading is asked for the account of the event only. -/
theorem eq_of_firstTouchReconcile {config : LocalPositionModelConfig} {model : LocalPositionModel}
    {event : ParsedAavePoolEvent} {user account : Address} {nowSec : Int}
    (resolved : resolveUserAddress event = some user)
    (asked : (applyAaveEvent config model event nowSec).2.firstTouchReconcile = some account) :
    account = user := by
  rw [applyAaveEvent] at asked
  split at asked
  · cases asked
  · rw [resolved] at asked
    dsimp only at asked
    split at asked
    · cases asked
    · unfold applyAccountEvent applyHfResult at asked
      dsimp only at asked
      split at asked
      · cases asked
      · split at asked
        · exact (Option.some.inj asked).symm
        · split at asked <;> cases asked

/-- A seeding with room for its account stores the amounts of its rows, and is not evicted. -/
theorem ledgerOf_seed (config : LocalPositionModelConfig) (model : LocalPositionModel)
    (snapshot : AccountSnapshot) (room : RoomFor config model snapshot.account.toLowerCase) :
    ∃ position,
      (EventPurityStack.seedModelFromAccountSnapshot config model snapshot).ledgerOf
          snapshot.account.toLowerCase = some position ∧
        position.isFullySeeded = true ∧
        ∀ side asset, (Side.amounts side position).amounts.get? asset =
          seededAmount side asset snapshot.reserves := by
  have seeds : EventPurityStack.seedModelFromAccountSnapshot config model snapshot =
      enforceHardCap config (storedBySeed (registerRows model snapshot.reserves) snapshot)
        snapshot.blockNumber :=
    seedFromOnChainSnapshot_eq config (registerRows model snapshot.reserves) snapshot
  have stored := get?_storedBySeed (registerRows model snapshot.reserves) snapshot
    snapshot.account.toLowerCase
  rw [if_pos rfl] at stored
  have size : (storedBySeed (registerRows model snapshot.reserves) snapshot).positions.size =
      model.positions.size +
        (if model.positions.has snapshot.account.toLowerCase then 0 else 1) := by
    rw [storedBySeed, Positions.size_put, seededPosition_account, positions_registerRows]
    split <;> rfl
  have fits : ((storedBySeed (registerRows model snapshot.reserves) snapshot).positions.size : ℚ) ≤
      config.positionCacheHardCap := by
    rw [size]
    exact room
  obtain ⟨spared, _, _⟩ := enforceHardCap_spares config _ snapshot.blockNumber
    snapshot.account.toLowerCase stored rfl fits
  refine ⟨(seededPosition (registerRows model snapshot.reserves) snapshot).ledger, ?_, rfl, ?_⟩
  · rw [seeds, ledgerOf, spared]
    rfl
  · intro side asset
    have amounts := (seededPosition_side (registerRows model snapshot.reserves) snapshot side
      asset).1
    cases side with
    | collateral => exact amounts
    | debt => exact amounts

end LocalPositionModel

namespace TouchedAccount

variable {config : EventPurityStackConfig} {touched : TouchedAccount config}
  {world next : TouchWorld}

theorem model_aavePool (config : EventPurityStackConfig) (stack : EventPurityStack)
    (event : ParsedAavePoolEvent) (nowSec : Int) :
    (EventPurityStack.produce config stack nowSec (.aavePool event)).1.model =
      (applyAaveEvent config.model stack.model event nowSec).1 := by
  unfold EventPurityStack.produce
  dsimp only
  split <;> rfl

/-- An event that asks for no reading, while none is in flight, leaves the balances after it,
or the account absent. -/
theorem balances_delivered (sound : touched.Sound world) {nowSec : Int}
    (safe : touched.CatchesUp world (.delivered nowSec)) {event : ParsedAavePoolEvent}
    (there : touched.events[world.delivered]? = some event) (quiet : world.reads = [])
    (unasked : (applyAaveEvent config.model world.stack.model event nowSec).2.firstTouchReconcile =
      none) :
    match (applyAaveEvent config.model world.stack.model event nowSec).1.accountBalances
        touched.key with
    | some balances => balances = touched.balancesAfter (world.delivered + 1)
    | none => world.delivered + 1 = touched.events.length →
        (touched.balancesAfter touched.events.length).DebtFree := by
  obtain ⟨room, last⟩ := safe
  have member : event ∈ touched.events := List.mem_of_getElem? there
  obtain ⟨balances, user, resolved, same⟩ := touched.own event member
  have known := sound.settled quiet
  have following : touched.balancesAfter (world.delivered + 1) =
      (touched.balancesAfter world.delivered).step event := Balances.after_succ _ there
  rw [key, ← same] at room known last ⊢
  rw [accountBalances_eq_ledger]
  rcases ledgerOf_event nowSec balances resolved (touched.listed event member) room with
    ⟨liquidation, free, gone⟩ | ⟨stored, kept, balance, flag, asks⟩
  · rw [gone]
    intro all
    revert known free
    cases found : world.stack.model.accountBalances user.toLowerCase with
    | some balances =>
      intro known free
      rw [← all, following, ← known]
      exact free
    | none =>
      intro _ _
      exact last all quiet (Option.map_eq_none_iff.mp found) ⟨event, there, liquidation⟩
  · rw [kept]
    cases seeded : world.stack.model.isFullySeeded user with
    | false =>
      rw [asks seeded] at unasked
      cases unasked
    | true =>
      revert known balance
      cases found : world.stack.model.accountBalances user.toLowerCase with
      | some balances =>
        intro known balance
        exact (balance.trans (congrArg (fun held => held.step event) known)).trans following.symm
      | none =>
        rw [isFullySeeded, Option.map_eq_none_iff.mp found] at seeded
        cases seeded

/-- The next event is delivered. -/
theorem sound_delivered (sound : touched.Sound world) {nowSec : Int}
    (safe : touched.CatchesUp world (.delivered nowSec))
    (stepped : touched.step world (.delivered nowSec) = some next) : touched.Sound next := by
  cases there : touched.events[world.delivered]? with
  | none => simp [step, there] at stepped
  | some event =>
    simp only [step, there] at stepped
    have member : event ∈ touched.events := List.mem_of_getElem? there
    obtain ⟨balances, user, resolved, same⟩ := touched.own event member
    have ledger : next.stack.model.ledgerOf touched.key =
        (applyAaveEvent config.model world.stack.model event nowSec).1.ledgerOf touched.key := by
      have routed := EventPurityStack.sameLedger_step config world.stack (.aavePool event, nowSec)
      rw [model_aavePool] at routed
      rw [← Option.some.inj stepped]
      exact routed.ledgers touched.key
    have advanced : next.delivered = world.delivered + 1 := by rw [← Option.some.inj stepped]
    have reads : next.reads = world.reads ++
        (((applyAaveEvent config.model world.stack.model event nowSec).2.firstTouchReconcile).map
          (fun account => (⟨account, event.origin.blockNumber, world.included⟩ :
            TouchRead))).toList := by rw [← Option.some.inj stepped]
    refine ⟨?_, ?_, ?_⟩
    · intro read among
      rw [reads] at among
      rcases List.mem_append.mp among with before | asked
      · exact sound.ours read before
      · obtain ⟨account, reconciled, rfl⟩ := Option.map_eq_some_iff.mp (Option.mem_toList.mp asked)
        rw [eq_of_firstTouchReconcile resolved reconciled]
        exact same
    · intro position held unseeded
      have room := safe.1
      rw [ledger] at held
      rw [key, ← same] at held room
      rcases ledgerOf_event nowSec balances resolved (touched.listed event member) room with
        ⟨_, _, gone⟩ | ⟨stored, kept, _, flag, asks⟩
      · rw [gone] at held
        cases held
      · rw [kept] at held
        cases held
        rw [reads, asks (flag.symm.trans unseeded)]
        exact List.append_ne_nil_of_right_ne_nil _ (List.cons_ne_nil _ _)
    · intro quiet
      rw [reads] at quiet
      obtain ⟨before, unasked⟩ := List.append_eq_nil_iff.mp quiet
      rw [accountBalances_eq_ledger, ledger, advanced, ← accountBalances_eq_ledger]
      exact balances_delivered sound safe there before
        (Option.map_eq_none_iff.mp (Option.toList_eq_nil_iff.mp unasked))

/-! ## One answer -/

/-- Where every balance is enabled, a row that a snapshot takes over is the balance. -/
theorem scaled_eq_balance {rows : Nat} (enabled : touched.AllEnabled rows) {side : Side}
    {taken : SnapshotReserve}
    (member : taken ∈ BootstrapSweep.snapshotReserves (touched.userReserves rows)) :
    side.scaled taken = (touched.balancesAfter rows).side side taken.asset.toLowerCase := by
  obtain ⟨row, listed, _, rfl⟩ := BootstrapSweep.mem_snapshotReserves.mp member
  obtain ⟨collateral, debt⟩ := touched.rows rows row listed
  cases side with
  | collateral =>
    refine Eq.trans ?_ collateral
    dsimp only [Side.scaled]
    split
    · rfl
    · next disabled =>
      by_contra balance
      exact disabled (enabled row listed (Ne.symm balance))
  | debt => exact debt

/-- The amounts seeded from the rows are the balances. -/
theorem seededAmount_eq_balance {rows : Nat} (enabled : touched.AllEnabled rows) (side : Side)
    (asset : Address) :
    (seededAmount side asset
        (BootstrapSweep.snapshotReserves (touched.userReserves rows))).getD 0 =
      (touched.balancesAfter rows).side side asset := by
  cases seeded : seededAmount side asset
      (BootstrapSweep.snapshotReserves (touched.userReserves rows)) with
  | some amount =>
    obtain ⟨taken, member, rfl, rfl, _⟩ := exists_row_of_seededAmount seeded
    exact scaled_eq_balance enabled member
  | none =>
    by_contra balance
    have positive : 0 < (touched.balancesAfter rows).side side asset :=
      Nat.pos_of_ne_zero (Ne.symm balance)
    have held : (touched.balancesAfter rows).collateral asset ≠ 0 ∨
        (touched.balancesAfter rows).debt asset ≠ 0 := by
      cases side with
      | collateral => exact Or.inl positive.ne'
      | debt => exact Or.inr positive.ne'
    obtain ⟨row, listed, rfl⟩ := touched.complete rows asset held
    obtain ⟨collateral, debt⟩ := touched.rows rows row listed
    have member := BootstrapSweep.mem_snapshotReserves.mpr ⟨row, listed, ?_, rfl⟩
    · have found := (BootstrapSweep.seededAmount_iff
        (BootstrapSweep.distinct_snapshotReserves (touched.distinct rows))).mpr
          ⟨positive, _, member, rfl, scaled_eq_balance enabled member⟩
      rw [seeded] at found
      cases found
    · rintro ⟨noCollateral, noDebt⟩
      rw [collateral] at noCollateral
      rw [debt] at noDebt
      exact held.elim (fun some => some noCollateral) (fun some => some noDebt)

theorem reconcile_of_removes {account : Address} {blockNumber totals rows : Nat}
    {model : LocalPositionModel} (removes : touched.Removes totals rows) :
    EventPurityStack.reconcileAndSeedPosition config.model model account blockNumber
      (touched.fetchOnChainAccountSnapshot account totals rows) = model.removePosition account := by
  unfold fetchOnChainAccountSnapshot
  dsimp only
  split
  · rfl
  · next owes =>
    have outside := removes.resolve_left owes
    rw [EventPurityStack.reconcileAndSeedPosition, outside]
    rfl

/-- An answer that does not remove the account seeds it with the balances it saw. -/
theorem ledgerOf_answer {account : Address} {blockNumber totals rows : Nat}
    {model : LocalPositionModel} (same : account.toLowerCase = touched.key)
    (seeds : ¬ touched.Removes totals rows) (room : RoomFor config.model model touched.key)
    (enabled : touched.AllEnabled rows) :
    ∃ position, (EventPurityStack.reconcileAndSeedPosition config.model model account blockNumber
        (touched.fetchOnChainAccountSnapshot account totals rows)).ledgerOf touched.key =
          some position ∧
      position.isFullySeeded = true ∧ balancesOf position = touched.balancesAfter rows := by
  obtain ⟨owes, inside⟩ := not_or.mp seeds
  rw [Bool.not_eq_false] at inside
  rw [← same] at room ⊢
  unfold fetchOnChainAccountSnapshot
  dsimp only
  rw [if_neg owes, EventPurityStack.reconcileAndSeedPosition, inside, if_neg (by decide)]
  obtain ⟨position, held, flag, amounts⟩ := ledgerOf_seed config.model model
    { account := account
      blockNumber := blockNumber
      eModeCategoryId := touched.eModeCategory rows
      healthFactorWad := (touched.accountData totals).healthFactor
      totalCollateralBase := (touched.accountData totals).totalCollateralBase
      totalDebtBase := (touched.accountData totals).totalDebtBase
      liquidationThreshold := (touched.accountData totals).currentLiquidationThreshold
      reserves := BootstrapSweep.snapshotReserves (touched.userReserves rows) } room
  refine ⟨position, held, flag, ?_⟩
  have balance : ∀ side asset, (Side.amounts side position).amount asset =
      (touched.balancesAfter rows).side side asset := by
    intro side asset
    rw [AmountsAtIndex.amount, amounts side asset]
    exact seededAmount_eq_balance enabled side asset
  exact Balances.ext (funext (balance .collateral)) (funext (balance .debt))

/-- The two calls of a reading are answered. -/
theorem sound_answered (sound : touched.Sound world) {index totals rows : Nat} {nowSec : Int}
    (safe : touched.CatchesUp world (.answered index totals rows nowSec))
    (stepped : touched.step world (.answered index totals rows nowSec) = some next) :
    touched.Sound next := by
  cases there : world.reads[index]? with
  | none => simp [step, there] at stepped
  | some read =>
    simp only [step, there] at stepped
    split at stepped
    · have ours := sound.ours read (List.mem_of_getElem? there)
      have ledger : next.stack.model.ledgerOf touched.key =
          (EventPurityStack.reconcileAndSeedPosition config.model world.stack.model read.account
            read.blockNumber (touched.fetchOnChainAccountSnapshot read.account totals
              rows)).ledgerOf touched.key := by
        rw [← Option.some.inj stepped]
        exact (EventPurityStack.sameLedger_step config world.stack _).ledgers touched.key
      have reads : next.reads = world.reads.eraseIdx index := by rw [← Option.some.inj stepped]
      have waits : next.delivered = world.delivered := by rw [← Option.some.inj stepped]
      have bound : index < world.reads.length := (List.getElem?_eq_some_iff.mp there).1
      have others : ∀ other ∈ next.reads, other.account.toLowerCase = touched.key := by
        intro other among
        rw [reads] at among
        exact sound.ours other (List.mem_of_mem_eraseIdx among)
      have alone : next.reads = [] → world.reads.length = 1 := by
        intro none
        have length := congrArg List.length (reads.symm.trans none)
        rw [List.length_eraseIdx_of_lt bound, List.length_nil] at length
        omega
      by_cases removes : touched.Removes totals rows
      · have gone : next.stack.model.ledgerOf touched.key = none := by
          rw [ledger, reconcile_of_removes removes, ledgerOf, LocalPositionModel.removePosition,
            Positions.get?_delete, if_pos ours.symm]
          rfl
        refine ⟨others, ?_, ?_⟩
        · intro position held
          rw [gone] at held
          cases held
        · intro none
          rw [accountBalances_eq_ledger, gone, waits]
          exact (safe (alone none)).1 removes
      · refine ⟨others, ?_, ?_⟩
        · intro position held unseeded none
          obtain ⟨room, enabled, _⟩ := (safe (alone none)).2 removes
          obtain ⟨seeded, stored, flag, _⟩ := ledgerOf_answer ours removes room enabled
          rw [ledger, stored] at held
          cases held
          rw [flag] at unseeded
          cases unseeded
        · intro none
          obtain ⟨room, enabled, current⟩ := (safe (alone none)).2 removes
          obtain ⟨seeded, stored, _, balances⟩ := ledgerOf_answer ours removes room enabled
          rw [accountBalances_eq_ledger, ledger, stored, waits]
          exact balances.trans current
    · cases stepped

/-! ## Runs -/

/-- A step that keeps the ledgers, the deliveries and the readings. -/
theorem Sound.frame (sound : touched.Sound world)
    (ledger : next.stack.model.ledgerOf touched.key = world.stack.model.ledgerOf touched.key)
    (delivered : next.delivered = world.delivered) (reads : next.reads = world.reads) :
    touched.Sound next := by
  refine ⟨?_, ?_, ?_⟩
  · rw [reads]
    exact sound.ours
  · rw [ledger, reads]
    exact sound.unread
  · rw [accountBalances_eq_ledger, ledger, delivered, reads, ← accountBalances_eq_ledger]
    exact sound.settled

/-- Each step that leaves nothing out keeps the invariant. -/
theorem sound_step (sound : touched.Sound world) {taken : TouchStep}
    (safe : touched.CatchesUp world taken) (stepped : touched.step world taken = some next) :
    touched.Sound next := by
  cases taken with
  | included =>
    simp only [step] at stepped
    split at stepped
    · cases stepped
      exact sound.frame rfl rfl rfl
    · cases stepped
  | delivered nowSec => exact sound_delivered sound safe stepped
  | answered index totals rows nowSec => exact sound_answered sound safe stepped
  | firstTouch nowSec =>
    cases stepped
    refine sound.frame ?_ rfl rfl
    have same : (EventPurityStack.produce config world.stack nowSec
        (.firstTouch touched.account)).1 = world.stack := by
      rw [EventPurityStack.produce]
      split <;> rfl
    have routed := EventPurityStack.sameLedger_step config world.stack
      (.firstTouch touched.account, nowSec)
    rw [same] at routed
    exact routed.ledgers touched.key
  | resume index nowSec =>
    cases stepped
    refine sound.frame ?_ rfl rfl
    exact (EventPurityStack.sameLedger_step config world.stack (.resume index, nowSec)).ledgers _

theorem sound_start {start : EventPurityStack}
    (absent : start.model.positions.get? touched.key = none) :
    touched.Sound ⟨start, 0, 0, []⟩ := by
  refine ⟨?_, ?_, ?_⟩
  · intro read member
    cases member
  · intro position held
    rw [ledgerOf, absent] at held
    cases held
  · intro _
    rw [accountBalances, absent]
    intro all
    exact absurd (List.eq_nil_of_length_eq_zero all.symm) touched.touched

/-- While no step of a run leaves anything out, the account converges whenever all its events
are delivered and no reading is in flight. -/
theorem first_touch_converges (config : EventPurityStackConfig) (touched : TouchedAccount config)
    (start : EventPurityStack) (absent : start.model.positions.get? touched.key = none)
    (run : List TouchStep)
    (complete : EachStep (fun past taken =>
      ∀ world ∈ touched.after start past, touched.CatchesUp world taken) run) :
    Always (fun past => ∀ world ∈ touched.after start past, touched.Converged world) run := by
  have sound : Always (fun past => ∀ world ∈ touched.after start past, touched.Sound world) run :=
    complete.keeps (sound_start absent)
      (fun _ _ _ sound catchesUp stepped => sound_step sound catchesUp stepped)
  intro past initial world here
  exact (sound past initial world here).converged

/-! ## A loan that is partly repaid -/

/-- A loan of 100 USDC, of which 40 are repaid. -/
def loanEvents : List ParsedAavePoolEvent :=
  [{ earlierDeposit with name := .Borrow, amount := some 100 },
    { earlierDeposit with name := .Repay, amount := some 40 }]

/-- What is owed after so many of them. -/
def loan : Nat → Nat
  | 0 => 0
  | 1 => 100
  | _ => 60

/-- An ether of collateral. -/
def beforeLoan : Balances := ⟨fun asset => if asset = ⟨7, 0⟩ then WAD else 0, fun _ => 0⟩

theorem beforeLoan_after (seen : Nat) :
    beforeLoan.after loanEvents seen =
      ⟨beforeLoan.collateral,
        fun asset => if asset = BASE_USDC.toLowerCase then loan seen else 0⟩ := by
  have borrowed : beforeLoan.after loanEvents 1 = ⟨beforeLoan.collateral,
      fun asset => if asset = BASE_USDC.toLowerCase then 100 else 0⟩ := by
    refine Balances.ext rfl (funext fun asset => ?_)
    change (if asset = BASE_USDC.toLowerCase then 0 + 100 else 0) = _
    rfl
  have repaid : beforeLoan.after loanEvents 2 = ⟨beforeLoan.collateral,
      fun asset => if asset = BASE_USDC.toLowerCase then 60 else 0⟩ := by
    rw [Balances.after_succ beforeLoan (show loanEvents[1]? = some _ from rfl), borrowed]
    refine Balances.ext rfl (funext fun asset => ?_)
    dsimp only [Balances.step, Balances.adjust, earlierDeposit, Option.getD]
    split <;> rfl
  match seen with
  | 0 =>
    refine Balances.ext rfl (funext fun asset => ?_)
    dsimp only [loan]
    split <;> rfl
  | 1 => exact borrowed
  | more + 2 =>
    have all : beforeLoan.after loanEvents (more + 2) = beforeLoan.after loanEvents 2 := by
      rw [Balances.after, Balances.after, List.take_of_length_le (by simp [loanEvents]),
        List.take_of_length_le (by simp [loanEvents])]
    rw [all, repaid]
    rfl

/-- The account with that loan, in a stack without an allowlist. -/
def borrower : TouchedAccount EventPurityStack.feedlessStack where
  account := ⟨1, 0⟩
  before := beforeLoan
  events := loanEvents
  accountData := fun seen => ⟨200000, loan seen * 100, 0, 8000, 7500, 2 * WAD⟩
  userReserves := fun seen => [⟨⟨7, 0⟩, WAD, true, 0⟩, ⟨BASE_USDC, 0, false, loan seen⟩]
  eModeCategory := fun _ => 0
  touched := by simp [loanEvents]
  own := by
    intro event member
    rcases List.mem_pair.mp member with rfl | rfl
    · exact ⟨by decide, ⟨1, 0⟩, rfl, rfl⟩
    · exact ⟨by decide, ⟨1, 0⟩, rfl, rfl⟩
  listed := fun _ _ => rfl
  distinct := by
    intro seen
    exact (by decide : [(⟨7, 0⟩ : Address), BASE_USDC.toLowerCase].Nodup)
  rows := by
    intro seen row member
    rw [beforeLoan_after]
    rcases List.mem_pair.mp member with rfl | rfl
    · exact ⟨rfl, rfl⟩
    · exact ⟨rfl, rfl⟩
  complete := by
    intro seen key held
    rw [beforeLoan_after] at held
    by_cases ether : key = ⟨7, 0⟩
    · exact ⟨_, List.mem_cons_self, ether.symm⟩
    · refine ⟨_, List.mem_cons_of_mem _ List.mem_cons_self, ?_⟩
      by_contra other
      rcases held with collateral | debt
      · exact collateral (if_neg ether)
      · exact debt (if_neg (Ne.symm other))
  debtless := by
    intro seen free
    rw [beforeLoan_after] at free
    have none : loan seen = 0 := free BASE_USDC.toLowerCase
    rw [none]

/-- None of its events is a liquidation. -/
theorem catchesUp_loan {world : TouchWorld} {nowSec : Int}
    (room : RoomFor EventPurityStack.feedlessStack.model world.stack.model borrower.key) :
    borrower.CatchesUp world (.delivered nowSec) := by
  refine ⟨room, fun _ _ _ liquidation => ?_⟩
  obtain ⟨event, there, named⟩ := liquidation
  rcases List.mem_pair.mp (List.mem_of_getElem? there) with rfl | rfl
  · cases named
  · cases named

instance decideRoomFor (config : LocalPositionModelConfig) (model : LocalPositionModel)
    (key : Address) : Decidable (RoomFor config model key) :=
  inferInstanceAs (Decidable (((model.positions.size +
    (if model.positions.has key then 0 else 1) : Nat) : ℚ) ≤ config.positionCacheHardCap))

/-- The theorem where the loan is read before the repayment is delivered. -/
theorem first_touch_converges_loan :
    Always (fun past => ∀ world ∈ borrower.after (.initial EventPurityStack.feedlessStack) past,
      borrower.Converged world)
      ([] ++ [.included] ++ [.delivered 0] ++ [.answered 0 1 1 0] ++ [.firstTouch 0] ++
        [.included] ++ [.delivered 0]) := by
  apply first_touch_converges EventPurityStack.feedlessStack borrower
    (.initial EventPurityStack.feedlessStack) rfl
  simp only [eachStep_snoc]
  refine ⟨⟨⟨⟨⟨⟨?_, ?_⟩, ?_⟩, ?_⟩, ?_⟩, ?_⟩, ?_⟩
  · intro past taken initial
    simp at initial
  · exact fun _ _ => trivial
  · intro world here
    exact catchesUp_loan ((by decide +kernel : ∀ world ∈ borrower.after
      (.initial EventPurityStack.feedlessStack) ([] ++ [.included]),
        RoomFor EventPurityStack.feedlessStack.model world.stack.model borrower.key) world here)
  · intro world here _
    have known := (by decide +kernel : ∀ world ∈ borrower.after
      (.initial EventPurityStack.feedlessStack) ([] ++ [.included] ++ [.delivered 0]),
        RoomFor EventPurityStack.feedlessStack.model world.stack.model borrower.key ∧
          world.delivered = 1) world here
    refine ⟨fun removes => ?_, fun _ => ⟨known.1, ?_, ?_⟩⟩
    · exact absurd removes (by unfold Removes; decide +kernel)
    · intro row member enabled
      rcases List.mem_pair.mp member with rfl | rfl
      · rfl
      · exact absurd rfl enabled
    · rw [known.2]
  · exact fun _ _ => trivial
  · exact fun _ _ => trivial
  · intro world here
    exact catchesUp_loan ((by decide +kernel : ∀ world ∈ borrower.after
      (.initial EventPurityStack.feedlessStack) ([] ++ [.included] ++ [.delivered 0] ++
        [.answered 0 1 1 0] ++ [.firstTouch 0] ++ [.included]),
        RoomFor EventPurityStack.feedlessStack.model world.stack.model borrower.key) world here)

/-- The debt in USDC and the number of events delivered, where no reading is in flight. -/
def debtWhenRead (run : List TouchStep) : Option (Nat × Option Nat) :=
  (borrower.after (.initial EventPurityStack.feedlessStack) run).bind (fun world =>
    if world.reads = [] then
      some (world.delivered, (world.stack.model.accountBalances ⟨1, 0⟩).map
        (fun balances => balances.debt BASE_USDC.toLowerCase))
    else none)

/-- A reading that has seen the repayment before it is delivered has it counted twice; and
readings answered before the pending loan is included remove the account for good. -/
theorem loan_miscounted :
    debtWhenRead [.included, .delivered 0, .included, .answered 0 2 2 0, .firstTouch 0,
        .delivered 0] = some (2, some 20) ∧
      debtWhenRead [.delivered 0, .delivered 0, .answered 0 0 0 0, .answered 0 0 0 0, .included,
        .included] = some (2, none) ∧
      (borrower.balancesAfter 2).debt BASE_USDC.toLowerCase = 60 ∧
      ¬ ∀ run, Always (fun past =>
        ∀ world ∈ borrower.after (.initial EventPurityStack.feedlessStack) past,
          borrower.Converged world) run := by
  have twice : debtWhenRead [.included, .delivered 0, .included, .answered 0 2 2 0,
      .firstTouch 0, .delivered 0] = some (2, some 20) := by decide +kernel
  have owed : (borrower.balancesAfter 2).debt BASE_USDC.toLowerCase = 60 := rfl
  refine ⟨twice, by decide +kernel, owed, fun converges => ?_⟩
  obtain ⟨world, here, found⟩ := Option.bind_eq_some_iff.mp twice
  split at found
  next quiet =>
    obtain ⟨delivered, debt⟩ := Prod.mk.inj (Option.some.inj found)
    obtain ⟨balances, held, counted⟩ := Option.map_eq_some_iff.mp debt
    have converged := converges _ _ List.prefix_rfl world here delivered quiet
    rw [show world.stack.model.accountBalances borrower.key = some balances from held] at converged
    have same : balances = borrower.balancesAfter 2 := converged
    rw [same, owed] at counted
    cases counted
  next => cases found

end TouchedAccount

end LiquidationBot
