import LiquidationBot.Addresses
import LiquidationBot.HfLinearRegression
import LiquidationBot.Library.InsertionMap
import LiquidationBot.Library.Latest

/-!
# The poller of accounts near liquidation

A timer starts a poll every few hundred milliseconds, whether or not the polls before it
have ended. A poll asks for the gas cost and then reads its accounts one after the other,
with the other polls in between; the set that it iterates over can be replaced meanwhile.
All polls share one record of samples for each account.

The record is nevertheless that of one reader: the last readings of the account, in the
order of their arrival, since it last left the range that is watched. Accounts are
reported on that record alone. Figures are exact here; the source computes in floats.
-/

namespace LiquidationBot

/-- `NEAR_LIQ_HF_WAD`. -/
def NEAR_LIQ_HF_WAD : Int := 1050000000000000000

/-- `MIN_DEBT_BASE_USD`. -/
def MIN_DEBT_BASE_USD : Int := 1000 * 10 ^ 8

/-- `MAX_SAMPLES`. -/
def MAX_SAMPLES : Nat := 10

/-- `PROJECT_BLOCKS`. -/
def PROJECT_BLOCKS : ℚ := 10

/-- `DUST_HOTPATH_ACCOUNT`. -/
def DUST_HOTPATH_ACCOUNT : Address := ⟨0xc4d36f950cdb76dbc83717087775ff3303c6eeb7, 0⟩

/-- `NearLiqUrgentMeta`. -/
structure NearLiqUrgentMeta where
  account : Address
  healthFactor : ℚ
  slopePerMs : ℚ
  rSquared : ℚ
  projectedHf10Blocks : ℚ
deriving DecidableEq

/-- `AccountTrack`. -/
structure AccountTrack where
  samples : List HfRegressionSample
  lastDebtBase : Int
  deprioritized : Bool
deriving DecidableEq

/-- What one answer of the pool says of an account, with the time of its arrival and the gas
cost that its poll began with. -/
structure AccountReading where
  account : Address
  debtBase : Int
  hfWad : Int
  atMs : ℚ
  gasCostUsd : ℚ

/-- Where a poll waits, with the accounts that its iterator has yet to reach. -/
inductive PollWait where
  | gasCost
  | reading (gasCostUsd : ℚ) (account : Address) (rest : List Address)
  | notifying (gasCostUsd : ℚ) (rest : List Address)
  | ended
deriving DecidableEq

/-- `NearLiquidationAcceleratedPoller`, with the polls it began. -/
structure NearLiquidationAcceleratedPoller where
  timer : Bool
  tracks : InsertionMap Address AccountTrack
  accounts : InsertionMap Address Unit
  polls : List PollWait

/-- What happens next: a call from outside, the timer, or something that a poll waits for.
Answers that are missing stand for rejections. -/
inductive PollerEvent where
  | setAccounts (accounts : List Address)
  | start
  | stop
  | timerFires
  | gasCost (poll : Nat) (gasCostUsd : Option ℚ)
  | answered (poll : Nat) (data : Option (Int × Int)) (nowMs : ℚ)
  | notified (poll : Nat) (accepted : Bool)

/-- What a record can depend on: the readings, and the stops that empty all records. -/
inductive PollerNote where
  | read (reading : AccountReading)
  | stopped

namespace NearLiquidationAcceleratedPoller

def new : NearLiquidationAcceleratedPoller := ⟨false, .empty, .empty, []⟩

variable (bonusBps : ℚ)

/-! ## One reading -/

namespace Reading

/-- The account is out of the range that is watched. -/
def leaves (reading : AccountReading) : Bool :=
  decide (reading.debtBase < MIN_DEBT_BASE_USD) || decide (reading.hfWad ≥ NEAR_LIQ_HF_WAD)

/-- `hf`. -/
def healthFactor (reading : AccountReading) : ℚ := reading.hfWad / 10 ^ 18

def sample (reading : AccountReading) : HfRegressionSample := ⟨reading.atMs, healthFactor reading⟩

end Reading

/-- `isDeprioritizedDust`. -/
def isDeprioritizedDust (account : Address) (debtUsd gasCostUsd : ℚ) : Bool :=
  if account = DUST_HOTPATH_ACCOUNT then
    decide (debtUsd * (bonusBps / 10000) < gasCostUsd * (11 / 10))
  else false

/-- The dust check of a reading. -/
def isDust (reading : AccountReading) : Bool :=
  isDeprioritizedDust bonusBps reading.account (reading.debtBase / 10 ^ 8) reading.gasCostUsd

/-- The end of an iteration: the report on the samples of an account, if they call for one. -/
def urgentMeta (reading : AccountReading) (samples : List HfRegressionSample) :
    Option NearLiqUrgentMeta :=
  match linearRegressionHf samples, samples.getLast? with
  | some regression, some last =>
      let projected := projectHfBlocksAhead regression last PROJECT_BLOCKS
      if regression.slopePerMs < 0 ∧ projected < 1 then
        some
          { account := reading.account
            healthFactor := Reading.healthFactor reading
            slopePerMs := regression.slopePerMs
            rSquared := regression.rSquared
            projectedHf10Blocks := projected }
      else none
  | _, _ => none

/-- The body of the loop from the answer to the next wait: the tracks, and the report. -/
def observe (tracks : InsertionMap Address AccountTrack) (reading : AccountReading) :
    InsertionMap Address AccountTrack × Option NearLiqUrgentMeta :=
  if Reading.leaves reading then (tracks.delete reading.account, none)
  else if isDust bonusBps reading then
    let track := (tracks.get? reading.account).getD ⟨[], reading.debtBase, true⟩
    (tracks.set reading.account
      { track with deprioritized := true, lastDebtBase := reading.debtBase }, none)
  else
    let track := (tracks.get? reading.account).getD ⟨[], reading.debtBase, false⟩
    let samples := (track.samples ++ [Reading.sample reading]).rtake MAX_SAMPLES
    (tracks.set reading.account
      { track with samples := samples, lastDebtBase := reading.debtBase, deprioritized := false },
      urgentMeta reading samples)

/-! ## The polls -/

/-- The next turn of the loop. -/
def nextAccount (gasCostUsd : ℚ) : List Address → PollWait
  | [] => .ended
  | account :: rest => .reading gasCostUsd account rest

/-- The iterator of a set that was cleared and filled again goes on with the new entries. -/
def PollWait.redirect (accounts : List Address) : PollWait → PollWait
  | .reading gasCostUsd account _ => .reading gasCostUsd account accounts
  | .notifying gasCostUsd _ => .notifying gasCostUsd accounts
  | wait => wait

/-- `setAccounts`. -/
def setAccounts (poller : NearLiquidationAcceleratedPoller) (accounts : List Address) :
    NearLiquidationAcceleratedPoller :=
  let held : InsertionMap Address Unit :=
    accounts.foldl (fun held account => held.set account.toLowerCase ()) .empty
  { poller with
    accounts := held
    polls := poller.polls.map (PollWait.redirect held.keys) }

/-- `poll`, up to its first wait. -/
def poll (poller : NearLiquidationAcceleratedPoller) : NearLiquidationAcceleratedPoller :=
  if poller.accounts.size = 0 then poller
  else { poller with polls := poller.polls ++ [.gasCost] }

/-- A poll goes on to another wait. -/
def goesOn (poller : NearLiquidationAcceleratedPoller) (poll : Nat) (wait : PollWait) :
    NearLiquidationAcceleratedPoller :=
  { poller with polls := poller.polls.set poll wait }

/-- The poller with all readings and stops so far, and all reports. -/
structure Trace where
  poller : NearLiquidationAcceleratedPoller
  notes : List PollerNote
  urgent : List NearLiqUrgentMeta

/-- One event; an event that nothing waits for does not happen. -/
def step (trace : Trace) : PollerEvent → Option Trace
  | .setAccounts accounts => some { trace with poller := trace.poller.setAccounts accounts }
  | .start => some { trace with poller := { trace.poller with timer := true } }
  | .stop =>
      some { trace with
        poller := { trace.poller with timer := false, tracks := .empty }
        notes := trace.notes ++ [.stopped] }
  | .timerFires =>
      if trace.poller.timer then some { trace with poller := trace.poller.poll } else none
  | .gasCost poll gasCostUsd =>
      match trace.poller.polls[poll]?, gasCostUsd with
      | some .gasCost, some gasCostUsd =>
          some { trace with
            poller := trace.poller.goesOn poll
              (nextAccount gasCostUsd trace.poller.accounts.keys) }
      | some .gasCost, none => some { trace with poller := trace.poller.goesOn poll .ended }
      | _, _ => none
  | .answered poll data nowMs =>
      match trace.poller.polls[poll]?, data with
      | some (.reading gasCostUsd account rest), some (debtBase, hfWad) =>
          let reading : AccountReading := ⟨account, debtBase, hfWad, nowMs, gasCostUsd⟩
          let observed := observe bonusBps trace.poller.tracks reading
          let wait :=
            if observed.2.isSome then .notifying gasCostUsd rest else nextAccount gasCostUsd rest
          some
            { poller := { trace.poller.goesOn poll wait with tracks := observed.1 }
              notes := trace.notes ++ [.read reading]
              urgent := trace.urgent ++ observed.2.toList }
      | some (.reading gasCostUsd _ rest), none =>
          some { trace with poller := trace.poller.goesOn poll (nextAccount gasCostUsd rest) }
      | _, _ => none
  | .notified poll accepted =>
      match trace.poller.polls[poll]? with
      | some (.notifying gasCostUsd rest) =>
          some { trace with
            poller := trace.poller.goesOn poll
              (if accepted then nextAccount gasCostUsd rest else .ended) }
      | _ => none

/-- The trace of a run, if each of its events can happen. -/
def run (events : List PollerEvent) : Option Trace := events.foldlM (step bonusBps) ⟨new, [], []⟩

/-! ## One reader -/

/-- The samples of an account since it last left the range, without those of dust. -/
def stay (account : Address) : List PollerNote → List HfRegressionSample :=
  List.foldl (fun samples note =>
    match note with
    | .stopped => []
    | .read reading =>
        if reading.account ≠ account then samples
        else if Reading.leaves reading then []
        else if isDust bonusBps reading then samples
        else samples ++ [Reading.sample reading]) []

/-- The report that a note calls for after the others. -/
def reportOf (past : List PollerNote) : PollerNote → Option NearLiqUrgentMeta
  | .stopped => none
  | .read reading =>
      if Reading.leaves reading || isDust bonusBps reading then none
      else urgentMeta reading
        ((stay bonusBps reading.account (past ++ [.read reading])).rtake MAX_SAMPLES)

/-- The reports on a list of notes. -/
def reports (past : List PollerNote) : List PollerNote → List NearLiqUrgentMeta
  | [] => []
  | note :: later =>
      (reportOf bonusBps past note).toList ++ reports (past ++ [note]) later

/-! ## The record of one reader -/

section Runs

variable {bonusBps : ℚ} {trace after : Trace} {tracks : InsertionMap Address AccountTrack}
  {notes : List PollerNote}

/-- The samples of a track, if there is one. -/
def samplesOf (tracks : InsertionMap Address AccountTrack) (account : Address) :
    List HfRegressionSample :=
  ((tracks.get? account).map AccountTrack.samples).getD []

theorem samplesOf_set (account tested : Address) (track : AccountTrack) :
    samplesOf (tracks.set account track) tested =
      if tested = account then track.samples else samplesOf tracks tested := by
  rw [samplesOf, InsertionMap.get?_set]
  split <;> rfl

theorem samplesOf_delete (account tested : Address) :
    samplesOf (tracks.delete account) tested =
      if tested = account then [] else samplesOf tracks tested := by
  rw [samplesOf, InsertionMap.get?_delete]
  split <;> rfl

/-- A track that is looked up with a default has the samples of the account. -/
theorem samples_getD (account : Address) (debtBase : Int) (deprioritized : Bool) :
    ((tracks.get? account).getD ⟨[], debtBase, deprioritized⟩).samples =
      samplesOf tracks account := by
  rw [samplesOf]
  cases tracks.get? account <;> rfl

theorem stay_stopped (account : Address) : stay bonusBps account (notes ++ [.stopped]) = [] := by
  rw [stay, List.foldl_append]
  rfl

theorem stay_read (account : Address) (reading : AccountReading) :
    stay bonusBps account (notes ++ [.read reading]) =
      if reading.account ≠ account then stay bonusBps account notes
      else if Reading.leaves reading then []
      else if isDust bonusBps reading then stay bonusBps account notes
      else stay bonusBps account notes ++ [Reading.sample reading] := by
  rw [stay, List.foldl_append]
  rfl

theorem reports_snoc (past : List PollerNote) (note : PollerNote) :
    reports bonusBps past (notes ++ [note]) =
      reports bonusBps past notes ++ (reportOf bonusBps (past ++ notes) note).toList := by
  induction notes generalizing past with
  | nil => simp [reports]
  | cons first notes inductionHypothesis =>
    rw [List.cons_append, reports, inductionHypothesis, reports, List.append_assoc,
      List.append_assoc, List.singleton_append]

/-- The tracks hold the last samples of every stay. -/
def Recorded (bonusBps : ℚ) (tracks : InsertionMap Address AccountTrack)
    (notes : List PollerNote) : Prop :=
  ∀ account, samplesOf tracks account = (stay bonusBps account notes).rtake MAX_SAMPLES

/-- One reading: the tracks hold its sample, and the report is the one that it calls for. -/
theorem Recorded.observe (recorded : Recorded bonusBps tracks notes) (reading : AccountReading) :
    Recorded bonusBps (observe bonusBps tracks reading).1 (notes ++ [.read reading]) ∧
      (observe bonusBps tracks reading).2 = reportOf bonusBps notes (.read reading) := by
  simp only [NearLiquidationAcceleratedPoller.observe, reportOf]
  cases leaves : Reading.leaves reading with
  | true =>
    refine ⟨fun account => ?_, rfl⟩
    rw [if_pos rfl, samplesOf_delete, stay_read, leaves]
    by_cases same : account = reading.account
    · simp [same]
    · simpa [same, Ne.symm same] using recorded account
  | false =>
    cases dust : isDust bonusBps reading with
    | true =>
      simp only [Bool.false_eq_true, if_false, if_true, Bool.or_true]
      refine ⟨fun account => ?_, trivial⟩
      simp only [samplesOf_set, stay_read, leaves, dust, samples_getD, Bool.false_eq_true, if_false,
        if_true]
      by_cases same : account = reading.account
      · simpa [same] using recorded reading.account
      · simpa [same, Ne.symm same] using recorded account
    | false =>
      have next : (samplesOf tracks reading.account ++ [Reading.sample reading]).rtake MAX_SAMPLES =
          (stay bonusBps reading.account (notes ++ [.read reading])).rtake MAX_SAMPLES := by
        rw [recorded, Latest.rtake_rtake_snoc, stay_read]
        simp [leaves, dust]
      simp only [Bool.false_eq_true, if_false, Bool.or_self, samples_getD, next]
      refine ⟨fun account => ?_, trivial⟩
      rw [samplesOf_set]
      by_cases same : account = reading.account
      · simp [same]
      · rw [if_neg same, stay_read, if_pos (Ne.symm same)]
        exact recorded account

/-- The tracks are recorded, and the reports are those of the notes. -/
structure Kept (bonusBps : ℚ) (trace : Trace) : Prop where
  recorded : Recorded bonusBps trace.poller.tracks trace.notes
  reported : trace.urgent = reports bonusBps [] trace.notes

/-- Polls and accounts do not matter. -/
theorem Kept.frame (kept : Kept bonusBps trace)
    (tracks : after.poller.tracks = trace.poller.tracks) (notes : after.notes = trace.notes)
    (urgent : after.urgent = trace.urgent) : Kept bonusBps after where
  recorded := by
    rw [tracks, notes]
    exact kept.recorded
  reported := by
    rw [urgent, notes]
    exact kept.reported

theorem Kept.step (kept : Kept bonusBps trace) {event : PollerEvent}
    (happened : step bonusBps trace event = some after) : Kept bonusBps after := by
  cases event with
  | setAccounts accounts =>
    cases happened
    exact kept.frame rfl rfl rfl
  | start =>
    cases happened
    exact kept.frame rfl rfl rfl
  | stop =>
    cases happened
    constructor
    · intro account
      rw [stay_stopped]
      rfl
    · rw [reports_snoc, ← kept.reported]
      exact (List.append_nil _).symm
  | timerFires =>
    simp only [NearLiquidationAcceleratedPoller.step] at happened
    split at happened
    next =>
      cases happened
      refine kept.frame ?_ rfl rfl
      simp only [poll]
      split <;> rfl
    next => cases happened
  | gasCost poll gasCostUsd =>
    simp only [NearLiquidationAcceleratedPoller.step] at happened
    split at happened
    next =>
      cases happened
      exact kept.frame rfl rfl rfl
    next =>
      cases happened
      exact kept.frame rfl rfl rfl
    next => cases happened
  | answered poll data nowMs =>
    simp only [NearLiquidationAcceleratedPoller.step] at happened
    split at happened
    next gasCostUsd account _ debtBase hfWad _ =>
      cases happened
      obtain ⟨recorded, reported⟩ :=
        kept.recorded.observe ⟨account, debtBase, hfWad, nowMs, gasCostUsd⟩
      refine ⟨recorded, ?_⟩
      rw [reports_snoc, ← kept.reported, reported]
      rfl
    next =>
      cases happened
      exact kept.frame rfl rfl rfl
    next => cases happened
  | notified poll accepted =>
    simp only [NearLiquidationAcceleratedPoller.step] at happened
    split at happened
    next =>
      cases happened
      exact kept.frame rfl rfl rfl
    next => cases happened

theorem kept_run {events : List PollerEvent} (ran : run bonusBps events = some trace) :
    Kept bonusBps trace := by
  induction events using List.reverseRecOn generalizing trace with
  | nil =>
    cases ran
    exact ⟨fun account => rfl, rfl⟩
  | append_singleton events event inductionHypothesis =>
    simp only [run, List.foldlM_append, List.foldlM_cons, List.foldlM_nil, bind_pure] at ran
    obtain ⟨before, there, happened⟩ := Option.bind_eq_some_iff.mp ran
    exact (inductionHypothesis there).step happened

/-! ## What a report says -/

/-- The trend of a reported account falls, so a later sample of it is lower than an earlier
one. -/
theorem exists_fall_of_urgentMeta {reading : AccountReading} {samples : List HfRegressionSample}
    {report : NearLiqUrgentMeta} (called : urgentMeta reading samples = some report) :
    report.account = reading.account ∧ ∃ earlier ∈ samples, ∃ later ∈ samples,
      earlier.atMs < later.atMs ∧ later.healthFactor < earlier.healthFactor := by
  simp only [urgentMeta] at called
  split at called
  next regression last drawn _ =>
    split at called
    next falling =>
      cases called
      obtain ⟨t0, intercept, apart, fits, _⟩ := of_linearRegressionHf drawn
      obtain ⟨left, leftMember, right, rightMember, before, lower⟩ :=
        fits.exists_fall apart falling.1
      obtain ⟨earlier, earlierMember, rfl⟩ := List.mem_map.mp leftMember
      obtain ⟨later, laterMember, rfl⟩ := List.mem_map.mp rightMember
      refine ⟨rfl, earlier, earlierMember, later, laterMember, ?_, lower⟩
      simpa using before
    next => cases called
  next => cases called

theorem mem_reports {past : List PollerNote} {report : NearLiqUrgentMeta}
    (member : report ∈ reports bonusBps past notes) :
    ∃ earlier note, earlier ++ [note] <+: notes ∧
      reportOf bonusBps (past ++ earlier) note = some report := by
  induction notes generalizing past with
  | nil => cases member
  | cons note notes inductionHypothesis =>
    rw [reports, List.mem_append, Option.mem_toList] at member
    rcases member with here | later
    · exact ⟨[], note, ⟨notes, rfl⟩, by simpa using here⟩
    · obtain ⟨earlier, last, initial, called⟩ := inductionHypothesis later
      refine ⟨note :: earlier, last, List.cons_prefix_cons.mpr ⟨rfl, initial⟩, ?_⟩
      simpa using called

end Runs

/-- Two polls overlap: the second is answered first, and the first finds the account lower. -/
def overlappingPolls : List PollerEvent :=
  [.setAccounts [⟨7, 0⟩], .start, .timerFires, .timerFires, .gasCost 0 (some 1), .gasCost 1 (some 1),
    .answered 1 (some (200000000000, 1040000000000000000)) 0,
    .answered 0 (some (200000000000, 1030000000000000000)) 200, .notified 0 true]

end NearLiquidationAcceleratedPoller

end LiquidationBot
