import LiquidationBot.IndexBaselines
import LiquidationBot.Library.Prefixes

/-!
# Reserves that are refreshed while they change

A refresh goes through the reserves one read after the other. It takes each reserve out of
the map before its read and puts it back afterwards with the indices of the answer. In
between, events write indices and a bonus may be set; what the reserve held before the read
comes back all the same, and no writer compares the moments of two values.

The indices of the pool never decrease. A stored one therefore does not either as long as
the moments of the written values do not; and a bonus survives as long as none is set that
differs from the one taken out.
-/

namespace LiquidationBot

open LocalPositionModel Prefixes

/-- The indices of the pool's reserves, by lower-cased asset, at every moment. -/
structure ReserveIndices where
  liquidityIndex : Address → Nat → Nat
  variableBorrowIndex : Address → Nat → Nat
  liquidityAccrues : ∀ key earlier later, earlier ≤ later →
    liquidityIndex key earlier ≤ liquidityIndex key later
  debtAccrues : ∀ key earlier later, earlier ≤ later →
    variableBorrowIndex key earlier ≤ variableBorrowIndex key later

/-- A call of `refreshReserveIndices` that waits for a read: its place in the loop and the
reserve as it was then. `since` and `bonusSet` are not read by the code: the pool's moment
when the read was sent, and the bonus set for the reserve after that. -/
structure ReserveRefresh where
  cursor : Nat
  reserve : ReserveConfig
  since : Nat
  bonusSet : Option (Option Nat)

/-- The model, the calls that wait, the pool's moment, and the moments of the last event and
of the last values stored for each reserve. -/
structure ReserveWorld where
  model : LocalPositionModel
  refreshes : List ReserveRefresh
  head : Nat
  delivered : Nat
  lastMoment : Address → Option Nat

/-- What happens: the pool moves on, a refresh is called, a read is answered for a moment or
fails, an event of a moment is delivered, and the two other writers. -/
inductive ReserveStep where
  | mined
  | refreshReserveIndices
  | answered (index moment : Nat)
  | failed (index : Nat)
  | reserveDataUpdated (origin : IngestionEventMeta) (reserve : Address) (moment : Nat)
  | setReserveLiquidationBonus (asset : Address) (bonus : Option Nat)
  | registerReserve (asset : Address) (liquidationThresholdBps : Nat)

namespace ReserveRefresh

/-- The key under which a refreshed reserve is put back. -/
def key (refresh : ReserveRefresh) : Address := refresh.reserve.asset.toLowerCase

/-- The loop at a place: it takes the reserve there, or ends. -/
def takes (model : LocalPositionModel) (head cursor : Nat) : List ReserveRefresh :=
  match model.reserveConfig.values[cursor]? with
  | none => []
  | some reserve => [⟨cursor, reserve, head, none⟩]

/-- A bonus set while the read is under way. -/
def notes (asset : Address) (bonus : Option Nat) (refresh : ReserveRefresh) : ReserveRefresh :=
  if refresh.key = asset.toLowerCase then { refresh with bonusSet := some bonus } else refresh

end ReserveRefresh

namespace ReserveWorld

variable (config : LocalPositionModelConfig) (indices : ReserveIndices) (nowSec : Int)

def initial : ReserveWorld := ⟨LocalPositionModel.initial, [], 0, 0, fun _ => none⟩

/-- The log of a reserve's update at a moment. -/
def reserveLog (origin : IngestionEventMeta) (reserve : Address) (moment : Nat) :
    ParsedAavePoolEvent where
  name := .ReserveDataUpdated
  origin := origin
  reserve := reserve
  collateralAsset := none
  debtAsset := none
  user := none
  onBehalfOf := none
  amount := none
  debtToCover := none
  liquidatedCollateralAmount := none
  liquidityIndex := some (indices.liquidityIndex reserve.toLowerCase moment)
  variableBorrowIndex := some (indices.variableBorrowIndex reserve.toLowerCase moment)

/-- Values of a moment were stored for a reserve. -/
def marked (world : ReserveWorld) (key : Address) (moment : Nat) : Address → Option Nat :=
  fun tested => if tested = key then some moment else world.lastMoment tested

/-- One step. A read is answered for a moment while it was under way, and events come in the
order of their moments. -/
def step (world : ReserveWorld) : ReserveStep → Option ReserveWorld
  | .mined => some { world with head := world.head + 1 }
  | .refreshReserveIndices =>
      some { world with
        refreshes := world.refreshes ++ ReserveRefresh.takes world.model world.head 0 }
  | .answered index moment =>
      match world.refreshes[index]? with
      | none => none
      | some refresh =>
          if refresh.since ≤ moment ∧ moment ≤ world.head then
            let model := world.model.refreshReserveIndex refresh.reserve
              (indices.liquidityIndex refresh.key moment)
              (indices.variableBorrowIndex refresh.key moment)
            some { world with
              model := model
              refreshes := world.refreshes.eraseIdx index ++
                ReserveRefresh.takes model world.head (refresh.cursor + 1)
              lastMoment := world.marked refresh.key moment }
          else none
  | .failed index =>
      match world.refreshes[index]? with
      | none => none
      | some refresh =>
          some { world with
            refreshes := world.refreshes.eraseIdx index ++
              ReserveRefresh.takes world.model world.head (refresh.cursor + 1) }
  | .reserveDataUpdated origin reserve moment =>
      if world.delivered ≤ moment ∧ moment ≤ world.head then
        some { world with
          model := (applyAaveEvent config world.model (reserveLog indices origin reserve moment)
            nowSec).1
          delivered := moment
          lastMoment := world.marked reserve.toLowerCase moment }
      else none
  | .setReserveLiquidationBonus asset bonus =>
      some { world with
        model := world.model.setReserveLiquidationBonus asset bonus
        refreshes := world.refreshes.map (ReserveRefresh.notes asset bonus) }
  | .registerReserve asset liquidationThresholdBps =>
      some { world with model := world.model.registerReserve asset liquidationThresholdBps }

/-- The world after a run, if each of its steps can happen. -/
def after (run : List ReserveStep) : Option ReserveWorld :=
  run.foldlM (step config indices nowSec) initial

/-- The read that a step ends. -/
def endedBy (world : ReserveWorld) : ReserveStep → Option ReserveRefresh
  | .answered index _ => world.refreshes[index]?
  | .failed index => world.refreshes[index]?
  | _ => none

/-- No stored on-chain index decreases, and a bonus that was set while a read was under way is
stored after the read. -/
structure NoLostUpdate (world : ReserveWorld) (taken : ReserveStep) (next : ReserveWorld) :
    Prop where
  indices : ∀ key, world.lastMoment key ≠ none → ∃ old new,
    world.model.reserveConfig.get? key = some old ∧ next.model.reserveConfig.get? key = some new ∧
      old.liquidityIndex ≤ new.liquidityIndex ∧ old.variableBorrowIndex ≤ new.variableBorrowIndex
  bonus : ∀ refresh ∈ world.endedBy taken, ∀ bonus ∈ refresh.bonusSet,
    (next.model.reserveConfig.get? refresh.key).map ReserveConfig.liquidationBonus = some bonus

/-- The step writes nothing older than what is stored: values of a moment not before the one
of the last values of the reserve, and a bonus that was not replaced by another one. -/
def UpToDate (world : ReserveWorld) : ReserveStep → Prop
  | .answered index moment =>
      ∀ refresh ∈ world.refreshes[index]?,
        (∀ last ∈ world.lastMoment refresh.key, last ≤ moment) ∧
          ∀ bonus ∈ refresh.bonusSet, bonus = refresh.reserve.liquidationBonus
  | .reserveDataUpdated _ reserve moment =>
      ∀ last ∈ world.lastMoment reserve.toLowerCase, last ≤ moment
  | _ => True

/-! ## What holds between steps -/

/-- Reserves are stored under their assets, with the indices of the last moment, and a reserve
taken out has the stored bonus but for one that was set since. -/
structure Sound (world : ReserveWorld) : Prop where
  keyed : ∀ key reserve, world.model.reserveConfig.get? key = some reserve →
    reserve.asset.toLowerCase = key
  onChain : ∀ key moment, world.lastMoment key = some moment → ∃ reserve,
    world.model.reserveConfig.get? key = some reserve ∧
      reserve.liquidityIndex = indices.liquidityIndex key moment ∧
      reserve.variableBorrowIndex = indices.variableBorrowIndex key moment
  taken : ∀ refresh ∈ world.refreshes, ∃ reserve,
    world.model.reserveConfig.get? refresh.key = some reserve ∧
      reserve.liquidationBonus = refresh.bonusSet.getD refresh.reserve.liquidationBonus

variable {config indices nowSec} {world next : ReserveWorld}

theorem stored_of_mem_takes (keyed : ∀ key reserve,
      world.model.reserveConfig.get? key = some reserve → reserve.asset.toLowerCase = key)
    {refresh : ReserveRefresh} {head cursor : Nat}
    (member : refresh ∈ ReserveRefresh.takes world.model head cursor) :
    world.model.reserveConfig.get? refresh.key = some refresh.reserve ∧ refresh.bonusSet = none := by
  unfold ReserveRefresh.takes at member
  split at member
  · cases member
  · next reserve there =>
    rw [List.mem_singleton.mp member]
    obtain ⟨key, found⟩ := (InsertionMap.mem_values_iff _ _).mp (List.mem_of_getElem? there)
    have same : reserve.asset.toLowerCase = key := keyed key reserve found
    exact ⟨by rw [ReserveRefresh.key, same, found], rfl⟩

/-- A loop that goes on takes its reserve out as it is stored. -/
theorem Sound.takes (sound : Sound indices world) (cursor : Nat) :
    Sound indices { world with
      refreshes := world.refreshes ++ ReserveRefresh.takes world.model world.head cursor } where
  keyed := sound.keyed
  onChain := sound.onChain
  taken := by
    intro refresh member
    rcases List.mem_append.mp member with before | now
    · exact sound.taken refresh before
    · obtain ⟨found, unset⟩ := stored_of_mem_takes sound.keyed now
      exact ⟨refresh.reserve, found, by rw [unset]; rfl⟩

/-- One reserve is written: with its key, with the indices of its moment if it has one, and
with the bonus that the reads under way expect. -/
theorem Sound.put (sound : Sound indices world) {key : Address} {written : ReserveConfig}
    (stored : ∀ tested, next.model.reserveConfig.get? tested =
      if tested = key then some written else world.model.reserveConfig.get? tested)
    (keyed : written.asset.toLowerCase = key)
    (others : ∀ tested, tested ≠ key → next.lastMoment tested = world.lastMoment tested)
    (onChain : ∀ moment, next.lastMoment key = some moment →
      written.liquidityIndex = indices.liquidityIndex key moment ∧
        written.variableBorrowIndex = indices.variableBorrowIndex key moment)
    (taken : ∀ refresh ∈ next.refreshes, refresh ∈ world.refreshes ∧ refresh.key ≠ key ∨
      refresh.key = key ∧
        written.liquidationBonus = refresh.bonusSet.getD refresh.reserve.liquidationBonus) :
    Sound indices next where
  keyed := by
    intro tested reserve found
    rw [stored] at found
    split at found
    next here =>
      rw [here, ← Option.some.inj found]
      exact keyed
    next => exact sound.keyed tested reserve found
  onChain := by
    intro tested moment last
    by_cases here : tested = key
    · subst here
      exact ⟨written, by rw [stored, if_pos rfl], onChain moment last⟩
    · rw [others tested here] at last
      obtain ⟨reserve, found, values⟩ := sound.onChain tested moment last
      exact ⟨reserve, by rw [stored, if_neg here, found], values⟩
  taken := by
    intro refresh member
    rcases taken refresh member with ⟨before, elsewhere⟩ | ⟨here, bonus⟩
    · obtain ⟨reserve, found, bonus⟩ := sound.taken refresh before
      exact ⟨reserve, by rw [stored, if_neg elsewhere, found], bonus⟩
    · exact ⟨written, by rw [stored, if_pos here], bonus⟩

/-! ## What each writer stores -/

theorem get?_refreshReserveIndex (model : LocalPositionModel) (reserve : ReserveConfig)
    (liquidityIndex variableBorrowIndex : Nat) (tested : Address) :
    (model.refreshReserveIndex reserve liquidityIndex variableBorrowIndex).reserveConfig.get?
        tested =
      if tested = reserve.asset.toLowerCase then
        some { reserve with
          liquidityIndex := liquidityIndex
          variableBorrowIndex := variableBorrowIndex
          indexUpdatedAtBlock := 0 }
      else model.reserveConfig.get? tested :=
  InsertionMap.get?_set _ _ _ _

theorem get?_setReserveLiquidationBonus (model : LocalPositionModel) (asset : Address)
    (bonus : Option Nat) (tested : Address) :
    (model.setReserveLiquidationBonus asset bonus).reserveConfig.get? tested =
      if tested = asset.toLowerCase then
        some { (model.reserveConfig.get? asset.toLowerCase).getD
            (unreadReserve asset BASE_LT_BPS none) with liquidationBonus := bonus }
      else model.reserveConfig.get? tested := by
  unfold setReserveLiquidationBonus
  cases model.reserveConfig.get? asset.toLowerCase with
  | none => exact InsertionMap.get?_set _ _ _ _
  | some reserve => exact InsertionMap.get?_set _ _ _ _

theorem get?_reserveLog (model : LocalPositionModel) (origin : IngestionEventMeta)
    (reserve : Address) (moment : Nat) (tested : Address) :
    (applyAaveEvent config model (reserveLog indices origin reserve moment) nowSec).1.reserveConfig.get?
        tested =
      if tested = reserve.toLowerCase then
        some { (model.reserveConfig.get? reserve.toLowerCase).getD
            (unreadReserve reserve BASE_LT_BPS none) with
          liquidityIndex := indices.liquidityIndex reserve.toLowerCase moment
          variableBorrowIndex := indices.variableBorrowIndex reserve.toLowerCase moment
          indexUpdatedAtBlock := origin.blockNumber }
      else model.reserveConfig.get? tested := by
  have registered := get?_registerReserve model reserve BASE_LT_BPS
  have here := registered reserve.toLowerCase
  rw [if_pos rfl] at here
  have applied : (applyAaveEvent config model (reserveLog indices origin reserve moment) nowSec).1 =
      (model.registerReserve reserve BASE_LT_BPS).applyReserveIndexUpdate
        (reserveLog indices origin reserve moment) := rfl
  rw [applied, applyReserveIndexUpdate]
  have found : (model.registerReserve reserve BASE_LT_BPS).reserveConfig.get?
      (reserveLog indices origin reserve moment).reserve.toLowerCase =
        some ((model.reserveConfig.get? reserve.toLowerCase).getD
          (unreadReserve reserve BASE_LT_BPS none)) := by
    refine here.trans ?_
    cases model.reserveConfig.get? reserve.toLowerCase with
    | none => rfl
    | some known => rfl
  rw [found]
  dsimp only
  rw [InsertionMap.get?_set]
  change (if tested = reserve.toLowerCase then _ else _) = _
  by_cases same : tested = reserve.toLowerCase
  · rw [if_pos same, if_pos same]
    rfl
  · rw [if_neg same, if_neg same, registered, if_neg same]

/-! ## One step -/

/-- A read that was answered in time puts the stored bonus back. -/
theorem sound_answered (sound : Sound indices world) {index moment : Nat}
    (safe : UpToDate world (.answered index moment))
    (stepped : world.step config indices nowSec (.answered index moment) = some next) :
    Sound indices next := by
  cases waiting : world.refreshes[index]? with
  | none => simp [step, waiting] at stepped
  | some refresh =>
    obtain ⟨_, unset⟩ := safe refresh waiting
    have member := List.mem_of_getElem? waiting
    obtain ⟨stored, found, bonus⟩ := sound.taken refresh member
    have captured : stored.liquidationBonus = refresh.reserve.liquidationBonus := by
      rw [bonus]
      cases set : refresh.bonusSet with
      | none => rfl
      | some bonus => exact unset bonus set
    simp only [step, waiting] at stepped
    split at stepped
    · cases stepped
      have written : Sound indices { world with
          model := world.model.refreshReserveIndex refresh.reserve
            (indices.liquidityIndex refresh.key moment)
            (indices.variableBorrowIndex refresh.key moment)
          refreshes := world.refreshes.eraseIdx index
          lastMoment := world.marked refresh.key moment } := by
        refine sound.put (get?_refreshReserveIndex _ _ _ _) rfl ?_ ?_ ?_
        · exact fun tested other => if_neg other
        · intro last marked
          have same : some moment = some last := (if_pos rfl).symm.trans marked
          cases same
          exact ⟨rfl, rfl⟩
        · intro other known
          have before := List.mem_of_mem_eraseIdx known
          by_cases here : other.key = refresh.key
          · refine Or.inr ⟨here, ?_⟩
            obtain ⟨same, there, expected⟩ := sound.taken other before
            rw [here, found] at there
            cases there
            exact captured.symm.trans expected
          · exact Or.inl ⟨before, here⟩
      exact written.takes (refresh.cursor + 1)
    · cases stepped

theorem sound_failed (sound : Sound indices world) {index : Nat}
    (stepped : world.step config indices nowSec (.failed index) = some next) :
    Sound indices next := by
  cases waiting : world.refreshes[index]? with
  | none => simp [step, waiting] at stepped
  | some refresh =>
    simp only [step, waiting] at stepped
    cases stepped
    have fewer : Sound indices { world with refreshes := world.refreshes.eraseIdx index } :=
      ⟨sound.keyed, sound.onChain,
        fun other known => sound.taken other (List.mem_of_mem_eraseIdx known)⟩
    exact fewer.takes (refresh.cursor + 1)

theorem sound_event (sound : Sound indices world) {origin : IngestionEventMeta}
    {reserve : Address} {moment : Nat}
    (stepped : world.step config indices nowSec (.reserveDataUpdated origin reserve moment) =
      some next) : Sound indices next := by
  simp only [step] at stepped
  split at stepped
  · cases stepped
    refine sound.put (@get?_reserveLog config indices nowSec world.model origin reserve moment)
      ?_ ?_ ?_ ?_
    · cases found : world.model.reserveConfig.get? reserve.toLowerCase with
      | none => rfl
      | some known => exact sound.keyed _ known found
    · exact fun tested other => if_neg other
    · intro last marked
      have same : some moment = some last := (if_pos rfl).symm.trans marked
      cases same
      exact ⟨rfl, rfl⟩
    · intro refresh member
      by_cases here : refresh.key = reserve.toLowerCase
      · obtain ⟨stored, found, bonus⟩ := sound.taken refresh member
        rw [here] at found
        exact Or.inr ⟨here, by rw [found]; exact bonus⟩
      · exact Or.inl ⟨member, here⟩
  · cases stepped

theorem sound_bonus (sound : Sound indices world) {asset : Address} {bonus : Option Nat}
    (stepped : world.step config indices nowSec (.setReserveLiquidationBonus asset bonus) =
      some next) : Sound indices next := by
  cases stepped
  refine sound.put (get?_setReserveLiquidationBonus world.model asset bonus) ?_ ?_ ?_ ?_
  · cases found : world.model.reserveConfig.get? asset.toLowerCase with
    | none => rfl
    | some known => exact sound.keyed _ known found
  · exact fun tested other => rfl
  · intro moment last
    obtain ⟨stored, found, values⟩ := sound.onChain _ _ last
    rw [found]
    exact values
  · intro refresh member
    obtain ⟨before, known, noted⟩ := List.mem_map.mp member
    unfold ReserveRefresh.notes at noted
    split at noted
    next here =>
      rw [← noted]
      exact Or.inr ⟨here, rfl⟩
    next elsewhere =>
      rw [← noted]
      exact Or.inl ⟨known, elsewhere⟩

theorem sound_register (sound : Sound indices world) {asset : Address} {threshold : Nat}
    (stepped : world.step config indices nowSec (.registerReserve asset threshold) = some next) :
    Sound indices next := by
  cases stepped
  cases found : world.model.reserveConfig.get? asset.toLowerCase with
  | some known =>
    have same : world.model.registerReserve asset threshold = world.model :=
      if_pos (by rw [InsertionMap.has, found]; rfl)
    rw [same]
    exact sound
  | none =>
    -- nothing was stored for a reserve that was not there
    have written : ∀ tested, (world.model.registerReserve asset threshold).reserveConfig.get? tested =
        if tested = asset.toLowerCase then some (unreadReserve asset threshold none)
        else world.model.reserveConfig.get? tested := by
      intro tested
      rw [get?_registerReserve]
      by_cases here : tested = asset.toLowerCase
      · rw [if_pos here, if_pos here, here, found]
        rfl
      · rw [if_neg here, if_neg here]
    refine sound.put written rfl ?_ ?_ ?_
    · exact fun tested other => rfl
    · intro moment last
      obtain ⟨stored, there, _⟩ := sound.onChain _ _ last
      rw [found] at there
      cases there
    · intro refresh member
      refine Or.inl ⟨member, fun here => ?_⟩
      obtain ⟨stored, there, _⟩ := sound.taken refresh member
      rw [here, found] at there
      cases there

/-- Each step that is up to date keeps the invariant. -/
theorem sound_step (sound : Sound indices world) {taken : ReserveStep}
    (safe : UpToDate world taken) (stepped : world.step config indices nowSec taken = some next) :
    Sound indices next := by
  cases taken with
  | mined =>
    cases stepped
    exact ⟨sound.keyed, sound.onChain, sound.taken⟩
  | refreshReserveIndices =>
    cases stepped
    exact sound.takes 0
  | answered index moment => exact sound_answered sound safe stepped
  | failed index => exact sound_failed sound stepped
  | reserveDataUpdated origin reserve moment => exact sound_event sound stepped
  | setReserveLiquidationBonus asset bonus => exact sound_bonus sound stepped
  | registerReserve asset threshold => exact sound_register sound stepped

/-- Moments of stored values go up. -/
theorem lastMoment_step {taken : ReserveStep} (safe : UpToDate world taken)
    (stepped : world.step config indices nowSec taken = some next) {key : Address} {last : Nat}
    (known : world.lastMoment key = some last) :
    ∃ moment, last ≤ moment ∧ next.lastMoment key = some moment := by
  have marked : ∀ written moment, (∀ earlier ∈ world.lastMoment written, earlier ≤ moment) →
      ∃ later, last ≤ later ∧ world.marked written moment key = some later := by
    intro written moment newer
    unfold ReserveWorld.marked
    by_cases here : key = written
    · rw [if_pos here]
      exact ⟨moment, newer last (here ▸ known), rfl⟩
    · rw [if_neg here]
      exact ⟨last, le_refl last, known⟩
  cases taken with
  | answered index moment =>
    cases waiting : world.refreshes[index]? with
    | none => simp [step, waiting] at stepped
    | some refresh =>
      simp only [step, waiting] at stepped
      split at stepped
      · cases stepped
        exact marked refresh.key moment (safe refresh waiting).1
      · cases stepped
  | reserveDataUpdated origin reserve moment =>
    simp only [step] at stepped
    split at stepped
    · cases stepped
      exact marked reserve.toLowerCase moment safe
    · cases stepped
  | failed index =>
    cases waiting : world.refreshes[index]? with
    | none => simp [step, waiting] at stepped
    | some refresh =>
      simp only [step, waiting] at stepped
      cases stepped
      exact ⟨last, le_refl last, known⟩
  | mined | refreshReserveIndices | setReserveLiquidationBonus | registerReserve =>
    cases stepped
    exact ⟨last, le_refl last, known⟩

/-- The bonus that was set while a read was under way is there after it. -/
theorem bonus_step (sound : Sound indices world) {taken : ReserveStep}
    (safe : UpToDate world taken) (stepped : world.step config indices nowSec taken = some next)
    {refresh : ReserveRefresh} (ended : refresh ∈ world.endedBy taken) {bonus : Option Nat}
    (set : bonus ∈ refresh.bonusSet) :
    (next.model.reserveConfig.get? refresh.key).map ReserveConfig.liquidationBonus =
      some bonus := by
  cases taken with
  | answered index moment =>
    have waiting : world.refreshes[index]? = some refresh := ended
    simp only [step, waiting] at stepped
    split at stepped
    · cases stepped
      rw [get?_refreshReserveIndex, if_pos (show refresh.key = refresh.reserve.asset.toLowerCase from rfl)]
      exact congrArg some ((safe refresh waiting).2 bonus set).symm
    · cases stepped
  | failed index =>
    have waiting : world.refreshes[index]? = some refresh := ended
    simp only [step, waiting] at stepped
    cases stepped
    obtain ⟨stored, found, same⟩ := sound.taken refresh (List.mem_of_getElem? waiting)
    rw [found, Option.map_some, same, Option.mem_def.mp set]
    rfl
  | mined | refreshReserveIndices | reserveDataUpdated | setReserveLiquidationBonus
  | registerReserve => cases ended

theorem noLostUpdate_step (sound : Sound indices world) {taken : ReserveStep}
    (safe : UpToDate world taken) (stepped : world.step config indices nowSec taken = some next) :
    NoLostUpdate world taken next where
  indices := by
    intro key seen
    obtain ⟨last, known⟩ := Option.ne_none_iff_exists'.mp seen
    obtain ⟨moment, later, marked⟩ := lastMoment_step safe stepped known
    obtain ⟨old, found, liquidity, debt⟩ := sound.onChain key last known
    obtain ⟨new, foundNew, liquidityNew, debtNew⟩ :=
      (sound_step sound safe stepped).onChain key moment marked
    refine ⟨old, new, found, foundNew, ?_, ?_⟩
    · calc old.liquidityIndex = indices.liquidityIndex key last := liquidity
        _ ≤ indices.liquidityIndex key moment := indices.liquidityAccrues key last moment later
        _ = new.liquidityIndex := liquidityNew.symm
    · calc old.variableBorrowIndex = indices.variableBorrowIndex key last := debt
        _ ≤ indices.variableBorrowIndex key moment := indices.debtAccrues key last moment later
        _ = new.variableBorrowIndex := debtNew.symm
  bonus := fun _ ended _ set => bonus_step sound safe stepped ended set

/-! ## Runs -/

theorem sound_initial : Sound indices initial where
  keyed := by
    intro key reserve found
    cases found
  onChain := by
    intro key moment last
    cases last
  taken := by
    intro refresh member
    cases member

theorem after_snoc (past : List ReserveStep) (taken : ReserveStep) :
    after config indices nowSec (past ++ [taken]) =
      (after config indices nowSec past).bind
        (fun world => world.step config indices nowSec taken) := by
  unfold after
  rw [List.foldlM_append]
  simp only [List.foldlM_cons, List.foldlM_nil, bind_pure]
  rfl

/-- While every step of a run is up to date, no step loses an update. -/
theorem no_lost_update (config : LocalPositionModelConfig) (indices : ReserveIndices)
    (nowSec : Int) (run : List ReserveStep)
    (upToDate : EachStep (fun past taken =>
      ∀ world ∈ after config indices nowSec past, UpToDate world taken) run) :
    EachStep (fun past taken => ∀ world ∈ after config indices nowSec past,
      ∀ next ∈ after config indices nowSec (past ++ [taken]), NoLostUpdate world taken next)
        run := by
  have sound : Always (fun past => ∀ world ∈ after config indices nowSec past,
      Sound indices world) run :=
    upToDate.keeps sound_initial (fun _ _ _ sound current stepped => sound_step sound current stepped)
  intro past taken initial world here next following
  rw [Option.mem_def, after_snoc, Option.mem_def.mp here, Option.bind_some] at following
  exact noLostUpdate_step
    (sound past ((List.prefix_append past [taken]).trans initial) world here)
    (upToDate past taken initial world here) following

/-! ## A reserve whose indices grow -/

/-- Both indices grow by a ray at every moment. -/
def growing : ReserveIndices where
  liquidityIndex := fun _ moment => RAY * (moment + 1)
  variableBorrowIndex := fun _ moment => RAY * (moment + 1)
  liquidityAccrues := fun _ _ _ order => Nat.mul_le_mul_left RAY (Nat.succ_le_succ order)
  debtAccrues := fun _ _ _ order => Nat.mul_le_mul_left RAY (Nat.succ_le_succ order)

def origin : IngestionEventMeta := ⟨700000, none, none, 0, .confirmed⟩

instance decideUpToDate (world : ReserveWorld) :
    (taken : ReserveStep) → Decidable (UpToDate world taken)
  | .answered index moment =>
      inferInstanceAs (Decidable (∀ refresh ∈ world.refreshes[index]?,
        (∀ last ∈ world.lastMoment refresh.key, last ≤ moment) ∧
          ∀ bonus ∈ refresh.bonusSet, bonus = refresh.reserve.liquidationBonus))
  | .reserveDataUpdated _ reserve moment =>
      inferInstanceAs (Decidable (∀ last ∈ world.lastMoment reserve.toLowerCase, last ≤ moment))
  | .mined | .refreshReserveIndices | .failed _ | .setReserveLiquidationBonus _ _
  | .registerReserve _ _ => .isTrue trivial

/-- The theorem where a read is answered, a later event follows and a bonus is set. -/
theorem no_lost_update_growing :
    EachStep (fun past taken => ∀ world ∈ after defaultConfig growing 0 past,
      ∀ next ∈ after defaultConfig growing 0 (past ++ [taken]), NoLostUpdate world taken next)
        ([] ++ [ReserveStep.registerReserve ⟨5, 0⟩ BASE_LT_BPS] ++
          [ReserveStep.refreshReserveIndices] ++ [ReserveStep.answered 0 0] ++
          [ReserveStep.mined] ++ [ReserveStep.reserveDataUpdated origin ⟨5, 0⟩ 1] ++
          [ReserveStep.setReserveLiquidationBonus ⟨5, 0⟩ (some 10500)]) := by
  apply no_lost_update
  simp only [eachStep_snoc]
  refine ⟨⟨⟨⟨⟨⟨?_, ?_⟩, ?_⟩, ?_⟩, ?_⟩, ?_⟩, ?_⟩
  · intro past taken impossible
    simp at impossible
  all_goals decide +kernel

/-- A read is answered at the first moment, the event of the second is delivered, and the
answer comes in: the index falls. And a bonus set during a read is gone after it. -/
theorem update_lost :
    (¬ EachStep (fun past taken => ∀ world ∈ after defaultConfig growing 0 past,
      ∀ next ∈ after defaultConfig growing 0 (past ++ [taken]), NoLostUpdate world taken next)
        ([.registerReserve ⟨5, 0⟩ BASE_LT_BPS, .refreshReserveIndices, .mined,
          .reserveDataUpdated origin ⟨5, 0⟩ 1] ++ [.answered 0 0])) ∧
      ¬ EachStep (fun past taken => ∀ world ∈ after defaultConfig growing 0 past,
        ∀ next ∈ after defaultConfig growing 0 (past ++ [taken]), NoLostUpdate world taken next)
          ([.registerReserve ⟨5, 0⟩ BASE_LT_BPS, .refreshReserveIndices,
            .setReserveLiquidationBonus ⟨5, 0⟩ (some 10500)] ++ [.answered 0 0]) := by
  constructor
  · intro kept
    have stored : (after defaultConfig growing 0 [.registerReserve ⟨5, 0⟩ BASE_LT_BPS,
        .refreshReserveIndices, .mined, .reserveDataUpdated origin ⟨5, 0⟩ 1]).map (fun world =>
          (world.lastMoment ⟨5, 0⟩, (world.model.reserveConfig.get? ⟨5, 0⟩).map
            ReserveConfig.liquidityIndex)) = some (some 1, some (2 * RAY)) := by decide +kernel
    have written : (after defaultConfig growing 0 ([.registerReserve ⟨5, 0⟩ BASE_LT_BPS,
        .refreshReserveIndices, .mined, .reserveDataUpdated origin ⟨5, 0⟩ 1] ++
          [.answered 0 0])).map (fun world =>
            (world.model.reserveConfig.get? ⟨5, 0⟩).map ReserveConfig.liquidityIndex) =
        some (some RAY) := by decide +kernel
    obtain ⟨world, here, values⟩ := Option.map_eq_some_iff.mp stored
    obtain ⟨next, there, value⟩ := Option.map_eq_some_iff.mp written
    obtain ⟨moment, liquidity⟩ := Prod.mk.inj values
    obtain ⟨old, new, found, foundNew, order, _⟩ :=
      (kept _ _ List.prefix_rfl world here next there).indices ⟨5, 0⟩ (by rw [moment]; simp)
    rw [found, Option.map_some, Option.some.injEq] at liquidity
    rw [foundNew, Option.map_some, Option.some.injEq] at value
    rw [liquidity, value] at order
    exact absurd order (by decide)
  · intro kept
    have under : (after defaultConfig growing 0 [.registerReserve ⟨5, 0⟩ BASE_LT_BPS,
        .refreshReserveIndices, .setReserveLiquidationBonus ⟨5, 0⟩ (some 10500)]).map (fun world =>
          world.refreshes[0]?.map (fun refresh => (refresh.key, refresh.bonusSet))) =
        some (some (⟨5, 0⟩, some (some 10500))) := by decide +kernel
    have written : (after defaultConfig growing 0 ([.registerReserve ⟨5, 0⟩ BASE_LT_BPS,
        .refreshReserveIndices, .setReserveLiquidationBonus ⟨5, 0⟩ (some 10500)] ++
          [.answered 0 0])).map (fun world =>
            (world.model.reserveConfig.get? ⟨5, 0⟩).map ReserveConfig.liquidationBonus) =
        some (some none) := by decide +kernel
    obtain ⟨world, here, waiting⟩ := Option.map_eq_some_iff.mp under
    obtain ⟨next, there, value⟩ := Option.map_eq_some_iff.mp written
    obtain ⟨refresh, ended, noted⟩ := Option.map_eq_some_iff.mp waiting
    obtain ⟨key, set⟩ := Prod.mk.inj noted
    have survived := (kept _ _ List.prefix_rfl world here next there).bonus refresh ended
      (some 10500) set
    rw [key, value] at survived
    exact absurd survived (by decide)

end ReserveWorld

end LiquidationBot
