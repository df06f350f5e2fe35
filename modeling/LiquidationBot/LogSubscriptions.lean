import LiquidationBot.CheckpointSoundness
import LiquidationBot.Library.AsyncRuns

/-!
# The log subscriptions of a connection

When a connection opens, a gap-fill starts and the subscriptions are asked for, one after
the other. The gap-fill reads the stored block and then the head, and covers the blocks in
between; a subscription pushes the logs that are emitted from its activation on. Neither
waits for the other.

The server's messages arrive in order, so a push comes after the acknowledgement of its
subscription. When the connection closes, what is on its way is lost; threads go on.
-/

namespace LiquidationBot

open Async Ingestion CheckpointPhase

variable {Payload : Type}

/-- The logs of the pool, block by block: as the node answers them, and as a subscription
spells them. -/
structure EmittedLogs (Payload : Type) where
  block : Nat → List (Log Payload)
  raw : IngestionEventSource → Log Payload → RawLog Payload
  content : LogId → Payload
  numbered : ∀ number, ∀ log ∈ block number, log.blockNumber = some number
  genuine : ∀ number, ∀ log ∈ block number, log.payload = content log.logId
  spelled : ∀ source log, (rawLogToViemLog (raw source log)).logId = log.logId ∧
    (rawLogToViemLog (raw source log)).payload = log.payload

/-- What the server sends, in order: that the next subscription is active, or a log of one. -/
inductive ServerMessage (Payload : Type) where
  | acknowledgement
  | log (place : Nat) (raw : RawLog Payload)

/-- The current connection: the thread of its gap-fill, how many of its subscriptions to pool
logs are active at the server and how many acknowledged, and the messages on their way. -/
structure LogConnection (Payload : Type) where
  gapFill : Nat
  active : Nat
  acknowledged : Nat
  channel : List (ServerMessage Payload)

/-- The ingestion's programs with their store, the last emitted block, and the connection. -/
structure SubscriptionWorld (Payload : Type) where
  pool : IngestionPool Payload
  emitted : Nat
  connection : Option (LogConnection Payload)

/-- What happens: a block is emitted; the layer starts, or the process starts again after a
crash; a connection opens and closes; the server activates the next subscription; the next
message is received; a flashblock or a shutdown comes; and a waiting call is answered, or
refused. -/
inductive SubscriptionStep where
  | emitted
  | started
  | restarted
  | opened
  | activated
  | received
  | closed
  | flashblock (blockNumber : Nat)
  | shutdown (blockNumber : Nat)
  | turn (index : Nat) (refused : Bool) (choice : Option Nat)

/-- The subscriptions of `buildWsIngestionSubscriptions` to the logs of the pool: the pending
ones, and with resilient ingestion the confirmed ones after them. -/
def poolSubscriptions (resilient : Bool) : Nat := if resilient then 2 else 1

def subscriptionSource (place : Nat) : IngestionEventSource :=
  if place = 0 then .pending else .confirmed

namespace EmittedLogs

variable (logs : EmittedLogs Payload)

/-- The logs from the block at which the first gap-fill starts. -/
def chain (bootstrapFromBlock : Option Nat) : PoolChain Payload where
  content := logs.content
  mined := fun id number =>
    bootstrapFromBlock.getD 0 ≤ number ∧ ∃ log ∈ logs.block number, log.logId = id

/-- The logs of a range of blocks. -/
def between (fromBlock toBlock : Nat) : List (Log Payload) :=
  (List.range' fromBlock (toBlock + 1 - fromBlock)).flatMap logs.block

/-- The pushes of a block to so many active subscriptions. -/
def pushes (active number : Nat) : List (ServerMessage Payload) :=
  (List.range active).flatMap (fun place =>
    (logs.block number).map (fun log => .log place (logs.raw (subscriptionSource place) log)))

/-- How a waiting call is answered while so many blocks are emitted. The first call of a
message's handler is answered as the message comes, and a range ends at a head that was
read. -/
def turnOf (emitted : Nat) (refused : Bool) (choice : Option Nat) :
    IngestionOp Payload → Option (IngestionTurn Payload)
  | .loadLastProcessedBlock => some (if refused then .refuses else .stored choice)
  | .getBlockNumber => some (if refused then .refuses else .head emitted)
  | .getLogs fromBlock toBlock =>
      if refused then some .refuses
      else if toBlock ≤ emitted then some (.logs (logs.between fromBlock toBlock))
      else none
  | .eventHandled => some (if refused then .refuses else .returns)
  | .saveLastProcessedBlock _ => some (if refused then .refuses else .returns)
  | .handleViemLog _ source => if source = .gapFill then some .returns else none
  | .onEvent _ => some .returns
  | .refreshReserveIndices => some .returns
  | .indicesRefreshed => some .returns
  | .onFlashblockTick _ => none
  | .flushSurvivalState _ => none

end EmittedLogs

namespace LogConnection

/-- A log is on its way to its handler. -/
def InFlight (connection : LogConnection Payload) (id : LogId) : Prop :=
  ∃ place raw, .log place raw ∈ connection.channel ∧ (rawLogToViemLog raw).logId = id

end LogConnection

namespace SubscriptionWorld

variable (config : IngestionConfig Payload) (logs : EmittedLogs Payload) (resilient : Bool)

def initial : SubscriptionWorld Payload := ⟨Pool.initial .fresh, 0, none⟩

/-- A message's handler runs up to its first wait as the message comes. -/
def arrive (pool : IngestionPool Payload) (program : Ingestion Payload Unit) :
    Option (IngestionPool Payload) :=
  (pool.step (IngestionWorld.serve config) (.start program)).bind (fun started =>
    started.step (IngestionWorld.serve config) (.run pool.threads.length .returns))

/-- One step. Logs of a subscription that was not acknowledged are ignored. -/
def step (world : SubscriptionWorld Payload) :
    SubscriptionStep → Option (SubscriptionWorld Payload)
  | .emitted =>
      some { world with
        emitted := world.emitted + 1
        connection := world.connection.map (fun connection => { connection with
          channel := connection.channel ++
            logs.pushes connection.active (world.emitted + 1) }) }
  | .started =>
      (world.pool.step (IngestionWorld.serve config)
        (.start (runBootstrapOrGapFill config.bootstrapFromBlock))).map
          (fun pool => { world with pool := pool })
  | .restarted =>
      some { world with pool := Pool.initial world.pool.shared.restarted, connection := none }
  | .opened =>
      match world.connection with
      | some _ => none
      | none =>
          (world.pool.step (IngestionWorld.serve config)
            (.start (runBootstrapOrGapFill config.bootstrapFromBlock))).map (fun pool =>
              { world with pool := pool, connection := some ⟨world.pool.threads.length, 0, 0, []⟩ })
  | .activated =>
      match world.connection with
      | none => none
      | some connection =>
          if connection.active = connection.acknowledged ∧
              connection.active < poolSubscriptions resilient then
            some { world with
              connection := some { connection with
                active := connection.active + 1
                channel := connection.channel ++ [.acknowledgement] } }
          else none
  | .received =>
      match world.connection with
      | none => none
      | some connection =>
          match connection.channel with
          | [] => none
          | .acknowledgement :: rest =>
              some { world with
                connection := some { connection with
                  acknowledged := connection.acknowledged + 1
                  channel := rest } }
          | .log place raw :: rest =>
              if place < connection.acknowledged then
                (arrive config world.pool (handleRawLog raw (subscriptionSource place))).map
                  (fun pool => { world with
                    pool := pool
                    connection := some { connection with channel := rest } })
              else some { world with connection := some { connection with channel := rest } }
  | .closed =>
      match world.connection with
      | none => none
      | some _ => some { world with connection := none }
  | .flashblock blockNumber =>
      (arrive config world.pool (handleFlashblockTick blockNumber)).map
        (fun pool => { world with pool := pool })
  | .shutdown blockNumber =>
      (arrive config world.pool (flushSurvivalState blockNumber)).map
        (fun pool => { world with pool := pool })
  | .turn index refused choice =>
      match world.pool.threads[index]? with
      | some ⟨.call op _, _⟩ =>
          (logs.turnOf world.emitted refused choice op).bind (fun turn =>
            (world.pool.step (IngestionWorld.serve config) (.run index turn)).map
              (fun pool => { world with pool := pool }))
      | _ => none

/-- The world after a run, if each of its steps can happen. -/
def after (run : List SubscriptionStep) : Option (SubscriptionWorld Payload) :=
  run.foldlM (step config logs resilient) initial

/-- A pool log of a block. -/
def Due (id : LogId) (number : Nat) : Prop :=
  (logs.chain config.bootstrapFromBlock).Due config.layer.decoder id number

/-- The gap-fill of the connection has completed. -/
def Filled (world : SubscriptionWorld Payload) (connection : LogConnection Payload) : Prop :=
  ∃ log, world.pool.threads[connection.gapFill]? = some ⟨.pure (), log⟩

/-- Once the gap-fill of the connection has completed and its subscriptions are acknowledged,
every pool log emitted so far was handed out or is on its way. -/
def Gapless (world : SubscriptionWorld Payload) : Prop :=
  ∀ connection ∈ world.connection, world.Filled connection →
    connection.acknowledged = poolSubscriptions resilient →
      ∀ id number, Due config logs id number → number ≤ world.emitted →
        Delivered world.pool.shared.calls id ∨ connection.InFlight id

/-- A thread has read a head. -/
def HasRead (pool : IngestionPool Payload) (index head : Nat) : Prop :=
  ∃ thread, pool.threads[index]? = some thread ∧
    (⟨.getBlockNumber, .ok head⟩ : Event (IngestionOp Payload) IngestionOp.Answer) ∈ thread.log

/-- The step leaves nothing between. The stored block that the gap-fill of the connection
loads has every pool log up to it handed out; and where the first subscription becomes active
after that gap-fill has read its head, so has every block emitted since. -/
def LeavesNothing (world : SubscriptionWorld Payload) : SubscriptionStep → Prop
  | .turn index refused choice =>
      refused = false → ∀ connection ∈ world.connection, connection.gapFill = index →
        (∃ resume log,
          world.pool.threads[index]? = some ⟨.call .loadLastProcessedBlock resume, log⟩) →
        ∀ last, world.pool.shared.load choice = some last → 0 < last →
          ∀ id number, Due config logs id number → number ≤ last →
            Delivered world.pool.shared.calls id
  | .activated =>
      ∀ connection ∈ world.connection, connection.active = 0 →
        ∀ head, HasRead world.pool connection.gapFill head →
          ∀ id number, Due config logs id number → head < number → number ≤ world.emitted →
            Delivered world.pool.shared.calls id
  | _ => True

/-! ## The node -/

theorem answers_between (bootstrapFromBlock : Option Nat) (decoder : LogDecoder Payload)
    (fromBlock toBlock : Nat) :
    (logs.chain bootstrapFromBlock).Answers decoder fromBlock toBlock
      (logs.between fromBlock toBlock) where
  complete := by
    rintro id number ⟨⟨_, log, member, rfl⟩, _⟩ above bound
    refine ⟨log, List.mem_flatMap.mpr ⟨number, ?_, member⟩, rfl, logs.numbered number log member⟩
    rw [List.mem_range'_1]
    omega
  genuine := by
    intro log member
    obtain ⟨number, _, there⟩ := List.mem_flatMap.mp member
    exact logs.genuine number log there
  inRange := by
    intro log member
    obtain ⟨number, inside, there⟩ := List.mem_flatMap.mp member
    rw [List.mem_range'_1] at inside
    exact ⟨number, logs.numbered number log there, by omega⟩
  ordered := by
    refine List.pairwise_flatMap.mpr ⟨fun number _ => ?_, ?_⟩
    · refine List.pairwise_of_forall_mem_list (fun first here later there => ?_)
      rw [logs.numbered number first here, logs.numbered number later there]
    · refine List.Pairwise.imp ?_ (List.pairwise_lt_range' 1)
      intro earlier later order first here second there
      rw [logs.numbered earlier first here, logs.numbered later second there]
      exact order.le

theorem relies_turnOf {bootstrapFromBlock : Option Nat} {decoder : LogDecoder Payload}
    {emitted : Nat} {refused : Bool} {choice : Option Nat} {op : IngestionOp Payload}
    {turn : IngestionTurn Payload} (answered : logs.turnOf emitted refused choice op = some turn) :
    (logs.chain bootstrapFromBlock).Relies decoder op turn := by
  cases op with
  | getLogs fromBlock toBlock =>
    rw [EmittedLogs.turnOf] at answered
    split at answered
    · cases answered
      trivial
    · obtain ⟨_, same⟩ := Option.ite_none_right_eq_some.mp answered
      cases same
      exact answers_between logs bootstrapFromBlock decoder fromBlock toBlock
  | handleViemLog log source =>
    obtain ⟨gapFill, _⟩ := Option.ite_none_right_eq_some.mp answered
    exact fun live => absurd gapFill live
  | loadLastProcessedBlock | getBlockNumber | eventHandled | onEvent | saveLastProcessedBlock
  | onFlashblockTick | refreshReserveIndices | indicesRefreshed | flushSurvivalState => trivial

/-- A head that is read is the last emitted block, and a stored block is read by the call that
asks for it. -/
theorem asked_turnOf {emitted : Nat} {refused : Bool} {choice : Option Nat}
    {op : IngestionOp Payload} {turn : IngestionTurn Payload}
    (answered : logs.turnOf emitted refused choice op = some turn) :
    (∀ head, turn = .head head → head = emitted) ∧ ∀ taken, turn = .stored taken →
      op = .loadLastProcessedBlock ∧ refused = false ∧ taken = choice := by
  have other : (turn = .refuses ∨ turn = .returns ∨ ∃ given, turn = .logs given) →
      (∀ head, turn = .head head → head = emitted) ∧ ∀ taken, turn = .stored taken →
        op = .loadLastProcessedBlock ∧ refused = false ∧ taken = choice := by
    rintro (rfl | rfl | ⟨given, rfl⟩) <;> exact ⟨nofun, nofun⟩
  cases op with
  | loadLastProcessedBlock =>
    cases refused with
    | true =>
      cases answered
      exact other (Or.inl rfl)
    | false =>
      cases answered
      exact ⟨nofun, fun taken same => ⟨rfl, rfl, (IngestionTurn.stored.inj same).symm⟩⟩
  | getBlockNumber =>
    cases refused with
    | true =>
      cases answered
      exact other (Or.inl rfl)
    | false =>
      cases answered
      exact ⟨fun head same => (IngestionTurn.head.inj same).symm, nofun⟩
  | getLogs fromBlock toBlock =>
    rw [EmittedLogs.turnOf] at answered
    split at answered
    · cases answered
      exact other (Or.inl rfl)
    · obtain ⟨_, same⟩ := Option.ite_none_right_eq_some.mp answered
      exact other (Or.inr (Or.inr ⟨_, (Option.some.inj same).symm⟩))
  | eventHandled | saveLastProcessedBlock =>
    cases refused with
    | true =>
      cases answered
      exact other (Or.inl rfl)
    | false =>
      cases answered
      exact other (Or.inr (Or.inl rfl))
  | handleViemLog log source =>
    obtain ⟨_, same⟩ := Option.ite_none_right_eq_some.mp answered
    exact other (Or.inr (Or.inl (Option.some.inj same).symm))
  | onEvent | refreshReserveIndices | indicesRefreshed =>
    cases answered
    exact other (Or.inr (Or.inl rfl))
  | onFlashblockTick | flushSurvivalState => cases answered

/-! ## The gap-fill of a connection -/

theorem runs_attemptCall {α : Type} {op : IngestionOp Payload}
    {read : op.Answer → Except IngestionError α} {value : α}
    {events : List (Event (IngestionOp Payload) IngestionOp.Answer)} :
    Runs (attemptCall op read) events (.ok value) ↔
      ∃ answer, events = [⟨op, answer⟩] ∧ read answer = .ok value := by
  simp only [attemptCall, perform, call_bind, pure_bind, runs_call, runs_orThrow]
  constructor
  · rintro ⟨answer, rest, rfl, rfl, same⟩
    exact ⟨answer, rfl, same.symm⟩
  · rintro ⟨answer, rfl, same⟩
    exact ⟨answer, [], rfl, rfl, same.symm⟩

/-- A completed gap-fill has read a head, and has nothing left up to it. -/
theorem head_of_filled {bootstrapFromBlock : Option Nat}
    {log : List (Event (IngestionOp Payload) IngestionOp.Answer)}
    {phase : CheckpointPhase Payload}
    (run : Runs (runBootstrapOrGapFill bootstrapFromBlock) log (.ok ()))
    (replayed : replay (next bootstrapFromBlock) start log = some phase) :
    ∃ head, (⟨.getBlockNumber, .ok head⟩ : Event (IngestionOp Payload) IngestionOp.Answer) ∈ log ∧
      head < phase.below ∧ phase.todo = [] := by
  rw [runBootstrapOrGapFill, bind_eq, runs_bind_ok] at run
  obtain ⟨last, earlier, later, rfl, loaded, run⟩ := run
  obtain ⟨answer, rfl, stored⟩ := runs_attemptCall.mp loaded
  rw [bind_eq, runs_bind_ok] at run
  obtain ⟨head, earlier, rest, rfl, asked, run⟩ := run
  obtain ⟨read, rfl, answered⟩ := runs_attemptCall.mp asked
  cases stored
  cases answered
  obtain ⟨final, reached, accepted⟩ :=
    (fillRange_conforms bootstrapFromBlock last head).replay run
  have same : replay (next bootstrapFromBlock) start
      ([⟨.loadLastProcessedBlock, .ok last⟩] ++ ([⟨.getBlockNumber, .ok head⟩] ++ rest)) =
        some final := reached
  rw [replayed] at same
  cases same
  obtain ⟨below, empty⟩ := accepted rfl
  exact ⟨head, by simp, below, empty⟩

/-! ## The channel -/

/-- The subscriptions acknowledged once so many messages more are received. -/
def acknowledgements : List (ServerMessage Payload) → Nat
  | [] => 0
  | .acknowledgement :: rest => acknowledgements rest + 1
  | .log _ _ :: rest => acknowledgements rest

/-- Every log comes after the acknowledgement of its subscription. -/
def Announced : Nat → List (ServerMessage Payload) → Prop
  | _, [] => True
  | acknowledged, .acknowledgement :: rest => Announced (acknowledged + 1) rest
  | acknowledged, .log place _ :: rest => place < acknowledged ∧ Announced acknowledged rest

theorem acknowledgements_append (channel more : List (ServerMessage Payload)) :
    acknowledgements (channel ++ more) = acknowledgements channel + acknowledgements more := by
  induction channel with
  | nil => exact (Nat.zero_add _).symm
  | cons message rest inductionHypothesis =>
    cases message with
    | acknowledgement =>
      rw [List.cons_append, acknowledgements, acknowledgements, inductionHypothesis]
      omega
    | log place raw => exact inductionHypothesis

theorem announced_append (acknowledged : Nat) (channel more : List (ServerMessage Payload)) :
    Announced acknowledged (channel ++ more) ↔ Announced acknowledged channel ∧
      Announced (acknowledged + acknowledgements channel) more := by
  induction channel generalizing acknowledged with
  | nil => exact (and_iff_right trivial).symm
  | cons message rest inductionHypothesis =>
    cases message with
    | acknowledgement =>
      rw [List.cons_append, Announced, Announced, inductionHypothesis, acknowledgements,
        Nat.add_assoc, Nat.add_comm 1]
    | log place raw =>
      rw [List.cons_append, Announced, Announced, inductionHypothesis, and_assoc]
      rfl

/-- Messages that are all logs. -/
theorem logs_of_pushes {active number : Nat} {message : ServerMessage Payload}
    (member : message ∈ logs.pushes active number) :
    ∃ place < active, ∃ log ∈ logs.block number,
      message = .log place (logs.raw (subscriptionSource place) log) := by
  obtain ⟨place, inside, there⟩ := List.mem_flatMap.mp member
  obtain ⟨log, listed, rfl⟩ := List.mem_map.mp there
  exact ⟨place, List.mem_range.mp inside, log, listed, rfl⟩

theorem announced_of_logs {acknowledged : Nat} {channel : List (ServerMessage Payload)}
    (all : ∀ message ∈ channel, ∃ place < acknowledged, ∃ raw, message = .log place raw) :
    Announced acknowledged channel ∧ acknowledgements channel = 0 := by
  induction channel with
  | nil => exact ⟨trivial, rfl⟩
  | cons message rest inductionHypothesis =>
    obtain ⟨place, below, raw, rfl⟩ := all message List.mem_cons_self
    obtain ⟨announced, none⟩ :=
      inductionHypothesis (fun other member => all other (List.mem_cons_of_mem _ member))
    exact ⟨⟨below, announced⟩, none⟩

end SubscriptionWorld

end LiquidationBot
