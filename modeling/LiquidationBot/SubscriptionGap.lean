import LiquidationBot.Library.Prefixes
import LiquidationBot.LogSubscriptions

/-!
# Between a gap-fill and a subscription

Two things can be missing on a connection. The block that its gap-fill loads may have moved
past logs that were never delivered; and logs may be emitted after the gap-fill has read its
head and before the first subscription is active. Where neither happens, a connection whose
gap-fill is done and whose subscriptions are acknowledged has every log, or has it in its
channel.
-/

namespace LiquidationBot.SubscriptionWorld

open Async Ingestion CheckpointPhase Prefixes

variable {Payload : Type} (config : IngestionConfig Payload) (logs : EmittedLogs Payload)

/-! ## What is kept -/

/-- The gap-fill runs as a thread, the channel is in order, and once a subscription is active
every log is handed out, on its way, or not above the head that the gap-fill has read. -/
structure Connected (world : SubscriptionWorld Payload) (connection : LogConnection Payload) :
    Prop where
  started : world.pool.Started connection.gapFill
    (runBootstrapOrGapFill config.bootstrapFromBlock)
  announced : Announced connection.acknowledged connection.channel
  counted : connection.acknowledged + acknowledgements connection.channel = connection.active
  genuine : ∀ place raw, .log place raw ∈ connection.channel →
    (rawLogToViemLog raw).payload = logs.content (rawLogToViemLog raw).logId
  awaited : 0 < connection.active → ∀ id number, Due config logs id number →
    number ≤ world.emitted → Delivered world.pool.shared.calls id ∨ connection.InFlight id ∨
      ∀ head, HasRead world.pool connection.gapFill head → number ≤ head

/-- Remembered keys of pool logs are handed out, whatever is stored. -/
def Remembers (world : IngestionWorld) : Prop :=
  LiquidationBot.Sound (logs.chain config.bootstrapFromBlock) config.layer.decoder
    { world with written := [] }

/-- The logs left to handle are what their identities say. -/
def Genuine (phase : CheckpointPhase Payload) : Prop :=
  ∀ log ∈ phase.todo, log.payload = logs.content log.logId

section Turn

variable {config logs} {turn : IngestionTurn Payload} {world after : IngestionWorld}
  {op : IngestionOp Payload} {phase later : CheckpointPhase Payload}

/-- One turn keeps what is remembered true and the logs left genuine. -/
theorem remembers_turn (turned : Turned config world phase op turn after later)
    (relies : (logs.chain config.bootstrapFromBlock).Relies config.layer.decoder op turn)
    (remembers : Remembers config logs world) (genuine : Genuine logs phase) :
    Remembers config logs after ∧ Genuine logs later := by
  have grown := turned.grown
  cases turned with
  | idle | saved => exact ⟨remembers, genuine⟩
  | loaded => exact ⟨remembers, by simp [Genuine]⟩
  | fetched => exact ⟨remembers, relies.genuine⟩
  | filled head =>
    refine ⟨sound_handled remembers (genuine _ (head ▸ List.mem_cons_self)), ?_⟩
    exact fun other member => genuine other (head ▸ List.mem_cons_of_mem _ member)
  | arrived live => exact ⟨sound_handled remembers (relies live), genuine⟩
  | handedOut | ticked | refreshed | flushed =>
    exact ⟨Sound.grown remembers rfl rfl grown, genuine⟩

/-- A stored block up to which every log is handed out leaves none before the block to
resume at. -/
theorem covered_loaded {calls : List ParsedIngestionEvent} {last : Nat}
    (settled : 0 < last → ∀ id number, Due config logs id number → number ≤ last →
      Delivered calls id) :
    Covered (logs.chain config.bootstrapFromBlock) config.layer.decoder calls
      { phase with below := resumeBlock config.bootstrapFromBlock last, todo := [] } := by
  intro id number due below
  refine Or.inl ?_
  simp only [resumeBlock] at below
  split at below
  next positive => exact settled positive id number due (Nat.lt_succ_iff.mp below)
  next => exact absurd due.1.1 (not_le.mpr below)

/-- One turn of a writer keeps what is below its block covered, if the block that it loads
has every log up to it handed out. -/
theorem covered_turn (turned : Turned config world phase op turn after later)
    (relies : (logs.chain config.bootstrapFromBlock).Relies config.layer.decoder op turn)
    (remembers : Remembers config logs world) (genuine : Genuine logs phase)
    (covered : Covered (logs.chain config.bootstrapFromBlock) config.layer.decoder world.calls
      phase)
    (loads : ∀ choice, turn = .stored choice → ∀ last, world.load choice = some last → 0 < last →
      ∀ id number, Due config logs id number → number ≤ last → Delivered world.calls id) :
    Covered (logs.chain config.bootstrapFromBlock) config.layer.decoder after.calls later := by
  have grown := turned.grown
  cases turned with
  | loaded stored => exact covered_loaded (loads _ rfl _ stored)
  | fetched contiguous empty => exact covered_logs covered contiguous empty relies
  | @filled log rest head =>
    exact @covered_handled _ _ config { world with written := [] } phase log rest .gapFill
      remembers covered head (genuine log (head ▸ List.mem_cons_self))
  | idle | arrived | handedOut | saved | ticked | refreshed | flushed => exact covered.mono grown

end Turn

/-! ## Turns -/

/-- Every writer follows its protocol with genuine logs, the gap-fill of the connection has
covered what is below its block, and the connection is as it says. -/
structure Intact (world : SubscriptionWorld Payload) : Prop where
  tracked : ∃ phases,
    Pool.Tracks (next config.bootstrapFromBlock) (fun _ _ => True) start world.pool phases ∧
      (∀ phase ∈ phases, Genuine logs phase) ∧
      ∀ connection ∈ world.connection, ∀ phase, phases[connection.gapFill]? = some phase →
        Covered (logs.chain config.bootstrapFromBlock) config.layer.decoder
          world.pool.shared.calls phase
  remembers : Remembers config logs world.pool.shared
  connected : ∀ connection ∈ world.connection, Connected config logs world connection

variable {config logs} {world following : SubscriptionWorld Payload}

/-- More pool turns: threads go on, calls grow, and a head that is read is the last block. -/
theorem Connected.grown {pool : IngestionPool Payload} {connection : LogConnection Payload}
    (connected : Connected config logs world connection)
    (started : pool.Started connection.gapFill (runBootstrapOrGapFill config.bootstrapFromBlock))
    (calls : world.pool.shared.calls ⊆ pool.shared.calls)
    (heads : ∀ head, HasRead pool connection.gapFill head →
      HasRead world.pool connection.gapFill head ∨ head = world.emitted) :
    Connected config logs { world with pool := pool } connection where
  started := started
  announced := connected.announced
  counted := connected.counted
  genuine := connected.genuine
  awaited := by
    intro active id number due emitted
    rcases connected.awaited active id number due emitted with delivered | flying | waiting
    · exact Or.inl (delivered.mono calls)
    · exact Or.inr (Or.inl flying)
    · refine Or.inr (Or.inr (fun head read => ?_))
      rcases heads head read with before | rfl
      · exact waiting head before
      · exact emitted

theorem intact_start (intact : Intact config logs world) {program : Ingestion Payload Unit}
    (ingests : Ingests config.bootstrapFromBlock program) :
    Intact config logs { world with
      pool := ⟨world.pool.shared, world.pool.threads ++ [⟨program, []⟩]⟩ } := by
  obtain ⟨phases, tracks, genuine, covered⟩ := intact.tracked
  have taken : world.pool.step (IngestionWorld.serve config) (.start program) =
      some ⟨world.pool.shared, world.pool.threads ++ [⟨program, []⟩]⟩ := rfl
  have length := List.Forall₂.length_eq tracks
  refine ⟨⟨phases ++ [start], tracks.started ingests.conforms, ?_, ?_⟩, intact.remembers, ?_⟩
  · intro phase member
    rcases List.mem_append.mp member with earlier | new
    · exact genuine phase earlier
    · rw [List.mem_singleton.mp new]
      exact fun log left => absurd left List.not_mem_nil
  · intro connection current phase there
    have inside := (intact.connected connection current).started.lt
    rw [List.getElem?_append_left (length ▸ inside)] at there
    exact covered connection current phase there
  · intro connection current
    have connected := intact.connected connection current
    refine connected.grown (connected.started.step taken) (List.Subset.refl _) ?_
    rintro head ⟨thread, found, read⟩
    rw [List.getElem?_append_left connected.started.lt] at found
    exact Or.inl ⟨thread, found, read⟩

/-- One answered call of one thread. -/
theorem intact_turn (intact : Intact config logs world) {pool : IngestionPool Payload}
    {index : Nat} {turn : IngestionTurn Payload}
    (taken : world.pool.step (IngestionWorld.serve config) (.run index turn) = some pool)
    (relies : ∀ op resume log, world.pool.threads[index]? = some ⟨.call op resume, log⟩ →
      (logs.chain config.bootstrapFromBlock).Relies config.layer.decoder op turn)
    (reads : ∀ head, turn = .head head → head = world.emitted)
    (loads : ∀ connection ∈ world.connection, connection.gapFill = index →
      ∀ choice, turn = .stored choice → ∀ last, world.pool.shared.load choice = some last →
        0 < last → ∀ id number, Due config logs id number → number ≤ last →
          Delivered world.pool.shared.calls id) :
    Intact config logs { world with pool := pool } := by
  obtain ⟨phases, tracks, genuine, covered⟩ := intact.tracked
  have steps : ∀ {other program}, world.pool.Started other program → pool.Started other program :=
    fun started => started.step taken
  obtain ⟨op, resume, log, shared, answer, found, served, rfl⟩ := Pool.step_run_eq_some taken
  have relied := relies op resume log found
  obtain ⟨phase, moved, located, stepped, remaining⟩ := tracks.run found shared answer
  have here := genuine phase (List.mem_of_getElem? located)
  have turned := turned_of_served served stepped
  have grown := turned.grown
  obtain ⟨remembers, left⟩ := remembers_turn turned relied intact.remembers here
  refine ⟨⟨phases.set index moved, remaining, ?_, ?_⟩, remembers, ?_⟩
  · intro other member
    rcases List.mem_or_eq_of_mem_set member with earlier | rfl
    · exact genuine other earlier
    · exact left
  · intro connection current other there
    by_cases same : connection.gapFill = index
    · have inside : index < phases.length := (List.getElem?_eq_some_iff.mp located).1
      rw [same, List.getElem?_set_self inside] at there
      cases there
      exact covered_turn turned relied intact.remembers here
        (covered connection current phase (same ▸ located)) (loads connection current same)
    · rw [List.getElem?_set_ne (Ne.symm same)] at there
      exact (covered connection current other there).mono grown
  · intro connection current
    have connected := intact.connected connection current
    refine connected.grown (steps connected.started) grown ?_
    rintro head ⟨thread, there, read⟩
    by_cases same : connection.gapFill = index
    · have inside : index < world.pool.threads.length := (List.getElem?_eq_some_iff.mp found).1
      rw [same, List.getElem?_set_self inside] at there
      cases there
      rcases List.mem_append.mp read with before | now
      · exact Or.inl ⟨_, same ▸ found, before⟩
      · cases List.mem_singleton.mp now
        refine Or.inr (reads head ?_)
        cases turn <;> cases served
        rfl
    · rw [List.getElem?_set_ne (Ne.symm same)] at there
      exact Or.inl ⟨thread, there, read⟩

/-- A handler starts and answers its first call. -/
theorem intact_arrive (intact : Intact config logs world) {program : Ingestion Payload Unit}
    {pool : IngestionPool Payload} (arrived : arrive config world.pool program = some pool)
    (ingests : Ingests config.bootstrapFromBlock program)
    (relies : ∀ op resume, program = .call op resume →
      (logs.chain config.bootstrapFromBlock).Relies config.layer.decoder op .returns) :
    Intact config logs { world with pool := pool } := by
  refine intact_turn (intact_start intact ingests) arrived ?_ ?_ ?_
  · intro op resume log found
    rw [List.getElem?_concat_length] at found
    cases found
    exact relies op resume rfl
  · intro head same
    cases same
  · intro connection _ _ choice same
    cases same

/-- A pool log that is received is handed out, now or earlier. -/
theorem delivered_of_arrive (remembers : Remembers config logs world.pool.shared)
    {raw : RawLog Payload} {source : IngestionEventSource} {pool : IngestionPool Payload}
    (arrived : arrive config world.pool (handleRawLog raw source) = some pool)
    (genuine : (rawLogToViemLog raw).payload = logs.content (rawLogToViemLog raw).logId)
    {number : Nat} (due : Due config logs (rawLogToViemLog raw).logId number) :
    Delivered pool.shared.calls (rawLogToViemLog raw).logId := by
  obtain ⟨op, resume, log, shared, answer, found, served, rfl⟩ := Pool.step_run_eq_some arrived
  rw [List.getElem?_concat_length] at found
  cases found
  cases served
  have pool : WsEventLayer.IsPoolLog config.layer.decoder (rawLogToViemLog raw).payload := by
    rw [genuine]
    exact due.2
  have delivered : Delivered
      (handled config { world.pool.shared with written := [] } (rawLogToViemLog raw) source).calls
      (rawLogToViemLog raw).logId := delivered_of_handled remembers genuine pool
  exact delivered

/-- A block is emitted, and pushed to the active subscriptions. -/
theorem Connected.emits {connection : LogConnection Payload}
    (connected : Connected config logs world connection) :
    Connected config logs { world with emitted := world.emitted + 1 }
      { connection with
        channel := connection.channel ++ logs.pushes connection.active (world.emitted + 1) } := by
  have pushed : Announced connection.active
        (logs.pushes connection.active (world.emitted + 1)) ∧
      acknowledgements (logs.pushes connection.active (world.emitted + 1)) = 0 := by
    refine announced_of_logs (fun message member => ?_)
    obtain ⟨place, below, log, _, rfl⟩ := logs_of_pushes logs member
    exact ⟨place, below, _, rfl⟩
  refine ⟨connected.started, ?_, ?_, ?_, ?_⟩
  · refine (announced_append _ _ _).mpr ⟨connected.announced, ?_⟩
    rw [connected.counted]
    exact pushed.1
  · change connection.acknowledged + acknowledgements (_ ++ _) = connection.active
    rw [acknowledgements_append, pushed.2]
    exact connected.counted
  · intro place raw member
    rcases List.mem_append.mp member with before | now
    · exact connected.genuine place raw before
    · obtain ⟨_, _, log, listed, same⟩ := logs_of_pushes logs now
      cases same
      obtain ⟨sameId, samePayload⟩ := logs.spelled (subscriptionSource place) log
      rw [sameId, samePayload]
      exact logs.genuine _ log listed
  · intro active id number due emitted
    rcases Nat.lt_or_eq_of_le emitted with earlier | rfl
    · rcases connected.awaited active id number due (Nat.lt_succ_iff.mp earlier) with
        delivered | ⟨place, raw, member, same⟩ | waiting
      · exact Or.inl delivered
      · exact Or.inr (Or.inl ⟨place, raw, List.mem_append_left _ member, same⟩)
      · exact Or.inr (Or.inr waiting)
    · obtain ⟨⟨_, log, listed, rfl⟩, _⟩ := due
      refine Or.inr (Or.inl ⟨0, _, List.mem_append_right _ ?_,
        (logs.spelled (subscriptionSource 0) log).1⟩)
      exact List.mem_flatMap.mpr ⟨0, List.mem_range.mpr active, List.mem_map_of_mem listed⟩

/-- The server activates the next subscription. -/
theorem Connected.activates {connection : LogConnection Payload}
    (connected : Connected config logs world connection)
    (uncovered : connection.active = 0 → ∀ head, HasRead world.pool connection.gapFill head →
      ∀ id number, Due config logs id number → head < number → number ≤ world.emitted →
        Delivered world.pool.shared.calls id) :
    Connected config logs world { connection with
      active := connection.active + 1
      channel := connection.channel ++ [.acknowledgement] } := by
  refine ⟨connected.started, ?_, ?_, ?_, ?_⟩
  · exact (announced_append _ _ _).mpr ⟨connected.announced, trivial⟩
  · change connection.acknowledged + acknowledgements (_ ++ _) = connection.active + 1
    rw [acknowledgements_append, ← Nat.add_assoc, connected.counted]
    rfl
  · intro place raw member
    rcases List.mem_append.mp member with before | now
    · exact connected.genuine place raw before
    · cases List.mem_singleton.mp now
  · intro _ id number due emitted
    rcases Nat.eq_zero_or_pos connection.active with first | active
    · by_cases waiting : ∀ head, HasRead world.pool connection.gapFill head → number ≤ head
      · exact Or.inr (Or.inr waiting)
      · obtain ⟨head, beyond⟩ := not_forall.mp waiting
        obtain ⟨read, above⟩ := Classical.not_imp.mp beyond
        exact Or.inl (uncovered first head read id number due (not_le.mp above) emitted)
    · rcases connected.awaited active id number due emitted with
        delivered | ⟨place, raw, member, same⟩ | waiting
      · exact Or.inl delivered
      · exact Or.inr (Or.inl ⟨place, raw, List.mem_append_left _ member, same⟩)
      · exact Or.inr (Or.inr waiting)

/-- A new connection, whose gap-fill has made no call. -/
theorem intact_opened (intact : Intact config logs world) :
    Intact config logs { world with
      pool := ⟨world.pool.shared, world.pool.threads ++
        [⟨runBootstrapOrGapFill config.bootstrapFromBlock, []⟩]⟩
      connection := some ⟨world.pool.threads.length, 0, 0, []⟩ } := by
  obtain ⟨phases, tracks, genuine, _⟩ := (intact_start intact .gapFill).tracked
  refine ⟨⟨phases, tracks, genuine, ?_⟩, intact.remembers, ?_⟩
  · rintro connection ⟨⟩ phase there
    obtain ⟨thread, found, replayed, _⟩ := tracks.phase there
    rw [List.getElem?_concat_length] at found
    cases found
    cases replayed
    exact fun id number _ below => absurd below (Nat.not_lt_zero _)
  · rintro connection ⟨⟩
    refine ⟨⟨_, List.getElem?_concat_length, .refl⟩, trivial, rfl, ?_, ?_⟩
    · exact fun place raw member => absurd member List.not_mem_nil
    · exact fun active => absurd active (Nat.lt_irrefl 0)

/-- The connection moves on, with the same gap-fill. -/
theorem Intact.moves (intact : Intact config logs world) {connection later : LogConnection Payload}
    (current : world.connection = some connection) (same : later.gapFill = connection.gapFill)
    (connected : Connected config logs world later) :
    Intact config logs { world with connection := some later } := by
  obtain ⟨phases, tracks, genuine, covered⟩ := intact.tracked
  refine ⟨⟨phases, tracks, genuine, ?_⟩, intact.remembers, ?_⟩
  · rintro _ ⟨⟩ phase there
    exact covered connection current phase (same ▸ there)
  · rintro _ ⟨⟩
    exact ⟨connected.started, connected.announced, connected.counted, connected.genuine,
      connected.awaited⟩

/-- The next message is taken off the channel, and a log that it carried is handed out. -/
theorem Connected.takes {connection : LogConnection Payload}
    (connected : Connected config logs world connection) {message : ServerMessage Payload}
    {rest : List (ServerMessage Payload)} (queued : connection.channel = message :: rest)
    {acknowledged : Nat} (announced : Announced acknowledged rest)
    (counted : acknowledged + acknowledgements rest = connection.active)
    (handedOut : ∀ place raw, message = .log place raw → ∀ number,
      Due config logs (rawLogToViemLog raw).logId number →
        Delivered world.pool.shared.calls (rawLogToViemLog raw).logId) :
    Connected config logs world
      { connection with acknowledged := acknowledged, channel := rest } := by
  refine ⟨connected.started, announced, counted, ?_, ?_⟩
  · intro place raw member
    exact connected.genuine place raw (queued ▸ List.mem_cons_of_mem message member)
  · intro active id number due emitted
    rcases connected.awaited active id number due emitted with
      delivered | ⟨place, raw, member, rfl⟩ | waiting
    · exact Or.inl delivered
    · rw [queued] at member
      rcases List.mem_cons.mp member with same | later
      · exact Or.inl (handedOut place raw same.symm number due)
      · exact Or.inr (Or.inl ⟨place, raw, later, rfl⟩)
    · exact Or.inr (Or.inr waiting)

/-- A pushed log is handled as the log of its subscription. -/
theorem ingests_pushed (bootstrapFromBlock : Option Nat) (raw : RawLog Payload) (place : Nat) :
    Ingests bootstrapFromBlock (handleRawLog raw (subscriptionSource place)) := by
  unfold subscriptionSource
  split
  · exact .pendingLog raw
  · exact .confirmedLog raw

/-- The next message is received. -/
theorem intact_received (intact : Intact config logs world) {resilient : Bool}
    (stepped : world.step config logs resilient .received = some following) :
    Intact config logs following := by
  cases current : world.connection with
  | none => simp [step, current] at stepped
  | some connection =>
    have connected := intact.connected connection current
    cases queued : connection.channel with
    | nil => simp [step, current, queued] at stepped
    | cons message rest =>
      have announced := connected.announced
      have counted := connected.counted
      rw [queued] at announced counted
      cases message with
      | acknowledgement =>
        simp only [step, current, queued] at stepped
        cases stepped
        refine intact.moves current rfl (connected.takes queued announced ?_ ?_)
        · rw [acknowledgements] at counted
          omega
        · intro place raw same
          cases same
      | log place raw =>
        simp only [step, current, queued] at stepped
        rw [if_pos announced.1] at stepped
        obtain ⟨pool, arrived, rfl⟩ := Option.map_eq_some_iff.mp stepped
        have spelled := connected.genuine place raw (queued ▸ List.mem_cons_self)
        have arrives : Intact config logs { world with pool := pool } := by
          refine intact_arrive intact arrived (ingests_pushed _ raw place) ?_
          intro op resume same
          cases same
          exact fun _ => spelled
        have goesOn := arrives.connected connection current
        refine arrives.moves current rfl (goesOn.takes queued announced.2 counted ?_)
        intro otherPlace other same number due
        cases same
        exact delivered_of_arrive intact.remembers arrived spelled due

/-- Each step that leaves nothing between keeps the invariant. -/
theorem intact_step (intact : Intact config logs world) {resilient : Bool}
    {taken : SubscriptionStep} (safe : LeavesNothing config logs world taken)
    (stepped : world.step config logs resilient taken = some following) :
    Intact config logs following := by
  cases taken with
  | emitted =>
    cases stepped
    obtain ⟨phases, tracks, genuine, covered⟩ := intact.tracked
    refine ⟨⟨phases, tracks, genuine, ?_⟩, intact.remembers, ?_⟩
    · intro later current phase there
      obtain ⟨connection, before, rfl⟩ := Option.map_eq_some_iff.mp current
      exact covered connection before phase there
    · intro later current
      obtain ⟨connection, before, rfl⟩ := Option.map_eq_some_iff.mp current
      have emits := (intact.connected connection before).emits
      exact ⟨emits.started, emits.announced, emits.counted, emits.genuine, emits.awaited⟩
  | started =>
    cases stepped
    exact intact_start intact .gapFill
  | restarted =>
    cases stepped
    refine ⟨⟨[], .nil, by simp, by simp⟩, Sound.restarted intact.remembers, by simp⟩
  | opened =>
    cases current : world.connection with
    | some connection => simp [step, current] at stepped
    | none =>
      simp only [step, current] at stepped
      cases stepped
      exact intact_opened intact
  | activated =>
    cases current : world.connection with
    | none => simp [step, current] at stepped
    | some connection =>
      simp only [step, current] at stepped
      obtain ⟨_, same⟩ := Option.ite_none_right_eq_some.mp stepped
      cases same
      exact intact.moves current rfl
        ((intact.connected connection current).activates (safe connection current))
  | received => exact intact_received intact stepped
  | closed =>
    cases current : world.connection with
    | none => simp [step, current] at stepped
    | some connection =>
      simp only [step, current] at stepped
      cases stepped
      obtain ⟨phases, tracks, genuine, _⟩ := intact.tracked
      exact ⟨⟨phases, tracks, genuine, by simp⟩, intact.remembers, by simp⟩
  | flashblock blockNumber =>
    obtain ⟨pool, arrived, rfl⟩ := Option.map_eq_some_iff.mp stepped
    refine intact_arrive intact arrived (.flashblock blockNumber) ?_
    intro op resume same
    cases same
    trivial
  | shutdown blockNumber =>
    obtain ⟨pool, arrived, rfl⟩ := Option.map_eq_some_iff.mp stepped
    refine intact_arrive intact arrived (.shutdown blockNumber) ?_
    intro op resume same
    cases same
    trivial
  | turn index refused choice =>
    cases found : world.pool.threads[index]? with
    | none => simp [step, found] at stepped
    | some thread =>
      obtain ⟨program, log⟩ := thread
      cases program with
      | pure value => simp [step, found] at stepped
      | throw error => simp [step, found] at stepped
      | call op resume =>
        simp only [step, found] at stepped
        obtain ⟨turn, answered, moved⟩ := Option.bind_eq_some_iff.mp stepped
        obtain ⟨pool, served, rfl⟩ := Option.map_eq_some_iff.mp moved
        refine intact_turn intact served ?_ ?_ ?_
        · intro other later otherLog there
          rw [found] at there
          cases there
          exact relies_turnOf logs answered
        · rintro head rfl
          exact (asked_turnOf logs answered).1 head rfl
        · rintro connection current same taken rfl last loaded
          obtain ⟨rfl, unrefused, rfl⟩ := (asked_turnOf logs answered).2 taken rfl
          exact safe unrefused connection current same ⟨resume, log, found⟩ last loaded

/-! ## Runs -/

theorem poolSubscriptions_pos (resilient : Bool) : 0 < poolSubscriptions resilient := by
  cases resilient <;> decide

theorem gapless_of_intact (intact : Intact config logs world) (resilient : Bool) :
    Gapless config logs resilient world := by
  rintro connection current ⟨log, done⟩ acknowledged id number due emitted
  have connected := intact.connected connection current
  have active : 0 < connection.active := by
    have counted := connected.counted
    have positive := poolSubscriptions_pos resilient
    omega
  rcases connected.awaited active id number due emitted with delivered | flying | waiting
  · exact Or.inl delivered
  · exact Or.inr flying
  · obtain ⟨phases, tracks, _, covered⟩ := intact.tracked
    obtain ⟨phase, located, replayed, _⟩ := tracks.thread done
    obtain ⟨thread, found, reaches⟩ := connected.started
    rw [done] at found
    cases found
    have run := reaches.runs (.pure ())
    rw [List.append_nil] at run
    obtain ⟨head, read, below, empty⟩ := head_of_filled run replayed
    have bound : number ≤ head := waiting head ⟨_, done, read⟩
    exact Or.inl ((covered connection current phase located).delivered empty due (by omega))

theorem intact_initial : Intact config logs initial where
  tracked := ⟨[], .nil, by simp, fun _ current => by cases current⟩
  remembers := sound_fresh config.layer.decoder
  connected := by
    intro connection current
    cases current

/-- While no step of a run leaves anything between, no log falls between the gap-fill of a
connection and its subscriptions. -/
theorem no_log_between (config : IngestionConfig Payload) (logs : EmittedLogs Payload)
    (resilient : Bool) (run : List SubscriptionStep)
    (nothing : EachStep (fun past taken =>
      ∀ world ∈ after config logs resilient past, LeavesNothing config logs world taken) run) :
    Always (fun past => ∀ world ∈ after config logs resilient past,
      Gapless config logs resilient world) run := by
  have intact : Always (fun past => ∀ world ∈ after config logs resilient past,
      Intact config logs world) run :=
    nothing.keeps intact_initial (fun _ _ _ intact leaves stepped => intact_step intact leaves stepped)
  intro past reached world here
  exact gapless_of_intact (intact past reached world here) resilient

/-! ## A supply at a reconnect -/

open WsEventLayer (spelledDecoder suppliedPayload spelledConfig)
open SubscriptionStep (turn started opened activated received)

/-- A supply in the second block, and another one in the third. -/
def twoSupplies : EmittedLogs (AavePoolEventName × PoolEventArgs) where
  block := fun number =>
    if number = 2 ∨ number = 3 then
      [{ address := ZERO_ADDRESS
         blockNumber := some number
         transactionHash := some number
         logIndex := some 0
         payload := suppliedPayload }]
    else []
  raw := fun source log =>
    { address := some log.address
      blockNumber := if source = .pending then .missing else .text (log.blockNumber.getD 0)
      transactionHash := log.transactionHash
      logIndex := .text (log.logIndex.getD 0)
      payload := log.payload }
  content := fun _ => suppliedPayload
  numbered := by
    intro number log member
    split at member
    · rw [List.mem_singleton.mp member]
    · cases member
  genuine := by
    intro number log member
    split at member
    · rw [List.mem_singleton.mp member]
    · cases member
  spelled := fun _ _ => ⟨rfl, rfl⟩

theorem due_twoSupplies {id : LogId} {number : Nat}
    (due : Due suppliesConfig twoSupplies id number) : 1 < number := by
  obtain ⟨⟨_, log, member, _⟩, _⟩ := due
  have blocks : number = 2 ∨ number = 3 := by
    by_contra other
    rw [show twoSupplies.block number = [] from if_neg other] at member
    cases member
  omega

/-- No supply is at stake: the block that the gap-fill of the connection loads is the first
one, and so is the last block when a subscription becomes active. -/
def quiet (world : SubscriptionWorld (AavePoolEventName × PoolEventArgs)) :
    SubscriptionStep → Bool
  | .turn _ _ choice =>
      world.connection.isNone || decide (∀ last ∈ world.pool.shared.load choice, last ≤ 1)
  | .activated => decide (world.emitted ≤ 1)
  | _ => true

theorem leavesNothing_of_quiet
    {world : SubscriptionWorld (AavePoolEventName × PoolEventArgs)} {taken : SubscriptionStep}
    (still : quiet world taken = true) :
    LeavesNothing suppliesConfig twoSupplies world taken := by
  cases taken with
  | turn index refused choice =>
    intro _ connection current _ _ last loaded _ id number due bound
    rcases (Bool.or_eq_true _ _).mp still with none | early
    · rw [Option.mem_def.mp current] at none
      cases none
    · have first := of_decide_eq_true early last loaded
      have later := due_twoSupplies due
      omega
  | activated =>
    intro connection _ _ head _ id number due _ emitted
    have first : world.emitted ≤ 1 := of_decide_eq_true still
    have later := due_twoSupplies due
    omega
  | emitted | started | restarted | opened | received | closed | flashblock | shutdown => trivial

/-- The theorem where the second block comes after the subscriptions are active. -/
theorem no_log_between_quiet :
    Always (fun past => ∀ world ∈ after suppliesConfig twoSupplies false past,
      Gapless suppliesConfig twoSupplies false world)
      ([] ++ [SubscriptionStep.emitted] ++ [started] ++ [turn 0 false none] ++
        [turn 0 false none] ++ [turn 0 false none] ++ [turn 0 false none] ++ [opened] ++
        [turn 1 false (some 0)] ++ [activated] ++ [turn 1 false none] ++ [received] ++
        [SubscriptionStep.emitted] ++ [received]) := by
  have each : ∀ past taken, (∀ world ∈ after suppliesConfig twoSupplies false past,
      quiet world taken = true) → ∀ world ∈ after suppliesConfig twoSupplies false past,
        LeavesNothing suppliesConfig twoSupplies world taken :=
    fun past taken still world here => leavesNothing_of_quiet (still world here)
  apply no_log_between suppliesConfig twoSupplies false
  simp only [eachStep_snoc, and_assoc]
  refine ⟨fun past taken reached => by simp at reached, ?_⟩
  refine ⟨?_, ?_, ?_, ?_, ?_, ?_, ?_, ?_, ?_, ?_, ?_, ?_, ?_⟩
  all_goals exact each _ _ (by decide +kernel)

/-- The layer starts at the first block and fills up to it; the connection opens, and its
gap-fill finds nothing to do; the second block comes, and the subscriptions become active. -/
def emittedBetween : List SubscriptionStep :=
  [.emitted, .started, .turn 0 false none, .turn 0 false none, .turn 0 false none,
    .turn 0 false none, .opened, .turn 1 false (some 0), .turn 1 false none, .emitted,
    .activated, .received, .activated, .received]

/-- Then the third block is pushed, its confirmed log is stored, and the connection closes and
opens again. -/
def reopened : List SubscriptionStep :=
  emittedBetween ++ [.emitted, .received, .received, .turn 3 false none, .turn 3 false none,
    .closed, .opened, .turn 4 false (some 0), .turn 4 false none, .activated, .received,
    .activated, .received]

/-- The connection is filled and acknowledged, and a log is neither handed out nor on its
way. -/
def misses (world : SubscriptionWorld (AavePoolEventName × PoolEventArgs)) (id : LogId) : Bool :=
  match world.connection with
  | none => false
  | some connection =>
      (match world.pool.threads[connection.gapFill]? with
        | some ⟨.pure _, _⟩ => true
        | _ => false) &&
      decide (connection.acknowledged = poolSubscriptions true) &&
      world.pool.shared.calls.all (fun event => decide (event.origin.logId ≠ id)) &&
      connection.channel.isEmpty

theorem not_gapless_of_misses
    {world : SubscriptionWorld (AavePoolEventName × PoolEventArgs)} {id : LogId} {number : Nat}
    (missed : misses world id = true) (due : Due suppliesConfig twoSupplies id number)
    (emitted : number ≤ world.emitted) :
    ¬ Gapless suppliesConfig twoSupplies true world := by
  intro gapless
  unfold misses at missed
  split at missed
  next => cases missed
  next connection current =>
    simp only [Bool.and_eq_true, decide_eq_true_eq, List.all_eq_true, List.isEmpty_iff] at missed
    obtain ⟨⟨⟨done, acknowledged⟩, unheard⟩, empty⟩ := missed
    have filled : world.Filled connection := by
      split at done
      next value log found => exact ⟨log, found⟩
      next => cases done
    rcases gapless connection current filled acknowledged id number due emitted with
      ⟨event, member, same⟩ | ⟨place, raw, member, _⟩
    · exact unheard event member same
    · rw [empty] at member
      cases member

/-- The supply of the second block is missed; and the block of the next one is stored, so that
the next connection misses it too. -/
theorem supply_missed :
    Due suppliesConfig twoSupplies (some 2, 0) 2 ∧
      (∃ world ∈ after suppliesConfig twoSupplies true emittedBetween,
        ¬ Gapless suppliesConfig twoSupplies true world) ∧
      ∃ world ∈ after suppliesConfig twoSupplies true reopened,
        world.pool.shared.written = [3, 1] ∧ ¬ Gapless suppliesConfig twoSupplies true world := by
  have due : Due suppliesConfig twoSupplies (some 2, 0) 2 :=
    ⟨⟨Nat.zero_le _, _, List.mem_singleton_self _, rfl⟩, WsEventLayer.suppliedPayload_pool⟩
  have first : ∃ world ∈ after suppliesConfig twoSupplies true emittedBetween,
      misses world (some 2, 0) = true ∧ 2 ≤ world.emitted := by decide +kernel
  have second : ∃ world ∈ after suppliesConfig twoSupplies true reopened,
      world.pool.shared.written = [3, 1] ∧ misses world (some 2, 0) = true ∧ 2 ≤ world.emitted := by
    decide +kernel
  obtain ⟨world, here, missed, emitted⟩ := first
  obtain ⟨later, there, written, stillMissed, stillEmitted⟩ := second
  exact ⟨due, ⟨world, here, not_gapless_of_misses missed due emitted⟩,
    later, there, written, not_gapless_of_misses stillMissed due stillEmitted⟩

end LiquidationBot.SubscriptionWorld
