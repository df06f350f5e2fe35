import LiquidationBot.CheckpointProtocol
import LiquidationBot.IngestionOnce

/-!
# Restarts lose no event

The stored block is sound when every pool log up to it has been handed out, by
this process or by one before it. A restart resumes after the stored block and
then misses nothing. The ends of chunks are sound by themselves: a gap-fill saves
one when every log below it is handled. The other writers save the block that
they are called with, and nothing makes sure that its other logs have come.
-/

namespace LiquidationBot

open Async Ingestion CheckpointPhase
open WsEventLayer (IsPoolLog)

variable {Payload : Type}

/-- What a log on chain says, and which logs each block has. Blocks before the
start of the first gap-fill, which is not meant to replay them, may be left out. -/
structure PoolChain (Payload : Type) where
  content : LogId → Payload
  mined : LogId → Nat → Prop

/-- The identity of a log in the library's shape, as `handleViemLog` reads it. -/
def Log.logId (log : Log Payload) : LogId := (log.transactionHash, log.logIndex.getD 0)

/-- An event of the log was handed to `onEvent`. -/
def Delivered (calls : List ParsedIngestionEvent) (id : LogId) : Prop :=
  ∃ event ∈ calls, event.origin.logId = id

namespace PoolChain

variable (chain : PoolChain Payload) (decoder : LogDecoder Payload)

/-- A pool log of a block. -/
def Due (id : LogId) (block : Nat) : Prop :=
  chain.mined id block ∧ IsPoolLog decoder (chain.content id)

/-- Every pool log of every block up to this one was handed out. -/
def Settled (calls : List ParsedIngestionEvent) (block : Nat) : Prop :=
  ∀ id number, chain.Due decoder id number → number ≤ block → Delivered calls id

/-- The logs of a range as the node answers them: all of its pool logs, as they
are on chain, block by block. -/
structure Answers (fromBlock toBlock : Nat) (logs : List (Log Payload)) : Prop where
  complete : ∀ id number, chain.Due decoder id number → fromBlock ≤ number → number ≤ toBlock →
    ∃ log ∈ logs, log.logId = id ∧ log.blockNumber = some number
  genuine : ∀ log ∈ logs, log.payload = chain.content log.logId
  inRange : ∀ log ∈ logs, ∃ number, log.blockNumber = some number ∧ number ≤ toBlock
  ordered : logs.Pairwise (fun first later =>
    first.blockNumber.getD 0 ≤ later.blockNumber.getD 0)

/-- What the ingestion relies on: the node's answers, and that an arriving log is
what its identity says. -/
def Relies : IngestionOp Payload → IngestionTurn Payload → Prop
  | .getLogs fromBlock toBlock, .logs logs => chain.Answers decoder fromBlock toBlock logs
  | .handleViemLog log source, _ => source ≠ .gapFill → log.payload = chain.content log.logId
  | _, _ => True

/-- No writer is called before its block is complete. A confirmed log that moves
the checkpoint comes after every other pool log up to its block, a log of a
gap-fill after the others of its own block; a flashblock that saves, and a flush,
come after every pool log up to theirs; and a gap-fill without a checkpoint has
nothing outstanding below the block that it starts at. -/
def ComesLast (config : IngestionConfig Payload) (world : IngestionWorld) :
    IngestionOp Payload → IngestionTurn Payload → Prop
  | .loadLastProcessedBlock, .stored choice =>
      world.load choice = some 0 → ∀ id number, chain.Due config.layer.decoder id number →
        number < config.bootstrapFromBlock.getD 0 → Delivered world.calls id
  | .handleViemLog log source, _ =>
      let origin := WsEventLayer.originOf world.layer.lastFlashblockBlock log source
      source ≠ .pending → 0 < origin.blockNumber → IsPoolLog config.layer.decoder log.payload →
        ingestionDedupKey origin ∉ world.layer.known.seenOrder →
        ∀ id number, chain.Due config.layer.decoder id number → id ≠ log.logId →
          (if source = .gapFill then number = origin.blockNumber
            else number ≤ origin.blockNumber) → Delivered world.calls id
  | .onFlashblockTick blockNumber, _ =>
      world.refreshes config.model = true →
        chain.Settled config.layer.decoder world.calls blockNumber
  | .flushSurvivalState blockNumber, _ =>
      blockNumber > 0 → chain.Settled config.layer.decoder world.calls blockNumber
  | _, _ => True

end PoolChain

abbrev IngestionPool (Payload : Type) :=
  Pool IngestionWorld (IngestionOp Payload) IngestionOp.Answer IngestionError Unit

abbrev IngestionAct (Payload : Type) :=
  Act (IngestionTurn Payload) (IngestionOp Payload) IngestionOp.Answer IngestionError Unit

/-- Turns of the ingestion whose answered calls meet a condition. -/
def IngestionTurns (bootstrapFromBlock : Option Nat)
    (condition : IngestionWorld → IngestionOp Payload → IngestionTurn Payload → Prop)
    (pool : IngestionPool Payload) : IngestionAct Payload → Prop
  | .start program => Ingests bootstrapFromBlock program
  | .run index turn => ∀ op resume log,
      pool.threads[index]? = some ⟨.call op resume, log⟩ → condition pool.shared op turn

/-- The pools that processes reach, each started after a crash of the one before
it. A crash may come after any turn. -/
inductive Lives (config : IngestionConfig Payload)
    (condition : IngestionWorld → IngestionOp Payload → IngestionTurn Payload → Prop) :
    IngestionPool Payload → Prop where
  | first (pool : IngestionPool Payload)
      (run : Pool.Run (IngestionWorld.serve config)
        (IngestionTurns config.bootstrapFromBlock condition) (Pool.initial .fresh) pool) :
      Lives config condition pool
  | restart (crashed pool : IngestionPool Payload) (before : Lives config condition crashed)
      (run : Pool.Run (IngestionWorld.serve config)
        (IngestionTurns config.bootstrapFromBlock condition)
        (Pool.initial crashed.shared.restarted) pool) : Lives config condition pool

/-! ## One turn -/

section Turn

variable {chain : PoolChain Payload} {config : IngestionConfig Payload}
  {calls more : List ParsedIngestionEvent}

theorem Delivered.mono {id : LogId} (delivered : Delivered calls id) (grown : calls ⊆ more) :
    Delivered more id := by
  obtain ⟨event, member, same⟩ := delivered
  exact ⟨event, grown member, same⟩

theorem PoolChain.Settled.mono {decoder : LogDecoder Payload} {block : Nat}
    (settled : chain.Settled decoder calls block) (grown : calls ⊆ more) :
    chain.Settled decoder more block :=
  fun id number due bound => (settled id number due bound).mono grown

/-- Below the block of the phase the pool logs are handed out or still to be handled. -/
def Covered (chain : PoolChain Payload) (decoder : LogDecoder Payload)
    (calls : List ParsedIngestionEvent) (phase : CheckpointPhase Payload) : Prop :=
  ∀ id number, chain.Due decoder id number → number < phase.below →
    Delivered calls id ∨ ∃ log ∈ phase.todo, log.logId = id ∧ log.blockNumber = some number

theorem Covered.mono {decoder : LogDecoder Payload} {phase : CheckpointPhase Payload}
    (covered : Covered chain decoder calls phase) (grown : calls ⊆ more) :
    Covered chain decoder more phase := fun id number due below =>
  (covered id number due below).imp (fun delivered => delivered.mono grown) (fun left => left)

/-- Where nothing is left to handle, the logs are handed out. -/
theorem Covered.delivered {decoder : LogDecoder Payload} {phase : CheckpointPhase Payload}
    (covered : Covered chain decoder calls phase) (empty : phase.todo = []) {id : LogId}
    {number : Nat} (due : chain.Due decoder id number) (below : number < phase.below) :
    Delivered calls id := by
  rcases covered id number due below with delivered | ⟨log, member, _⟩
  · exact delivered
  · rw [empty] at member
    cases member

/-- A chunk of logs is what is left of its range. -/
theorem covered_logs {decoder : LogDecoder Payload} {phase : CheckpointPhase Payload}
    {fromBlock toBlock : Nat} {logs : List (Log Payload)}
    (covered : Covered chain decoder calls phase) (contiguous : fromBlock ≤ phase.below)
    (empty : phase.todo = []) (answers : chain.Answers decoder fromBlock toBlock logs) :
    Covered chain decoder calls { phase with below := toBlock + 1, todo := logs } := by
  intro id number due below
  have bound : number ≤ toBlock := Nat.lt_succ_iff.mp below
  by_cases earlier : number < phase.below
  · exact Or.inl (covered.delivered empty due earlier)
  · exact Or.inr (answers.complete id number due (by omega) bound)

/-- What the phase of a writer says about the logs handed out. -/
structure Knows (chain : PoolChain Payload) (decoder : LogDecoder Payload)
    (calls : List ParsedIngestionEvent) (phase : CheckpointPhase Payload) : Prop where
  covered : ∀ id number, chain.Due decoder id number → number < phase.below →
    Delivered calls id ∨ ∃ log ∈ phase.todo, log.logId = id ∧ log.blockNumber = some number
  genuine : ∀ log ∈ phase.todo, log.payload = chain.content log.logId
  inRange : ∀ log ∈ phase.todo, ∃ number, log.blockNumber = some number ∧ number < phase.below
  ordered : phase.todo.Pairwise (fun first later =>
    first.blockNumber.getD 0 ≤ later.blockNumber.getD 0)
  granted : ∀ block, phase.granted = some block → chain.Settled decoder calls block

theorem Knows.mono {decoder : LogDecoder Payload} {phase : CheckpointPhase Payload}
    (knows : Knows chain decoder calls phase) (grown : calls ⊆ more) :
    Knows chain decoder more phase where
  covered := Covered.mono knows.covered grown
  genuine := knows.genuine
  inRange := knows.inRange
  ordered := knows.ordered
  granted := fun block granted => (knows.granted block granted).mono grown

theorem knows_start (decoder : LogDecoder Payload) :
    Knows chain decoder calls (start : CheckpointPhase Payload) where
  covered := fun _ _ _ below => absurd below (Nat.not_lt_zero _)
  genuine := by simp [start]
  inRange := by simp [start]
  ordered := List.Pairwise.nil
  granted := by simp [start]

/-- Stored blocks are settled, and so is every pool log whose key is remembered. -/
structure Sound (chain : PoolChain Payload) (decoder : LogDecoder Payload)
    (world : IngestionWorld) : Prop where
  written : ∀ block ∈ world.written, chain.Settled decoder world.calls block
  remembered : ∀ key ∈ world.layer.known.seenOrder, IsPoolLog decoder (chain.content key.logId) →
    Delivered world.calls key.logId

/-- Further events leave the store sound. -/
theorem Sound.grown {decoder : LogDecoder Payload} {world after : IngestionWorld}
    (sound : Sound chain decoder world) (written : after.written = world.written)
    (known : after.layer.known = world.layer.known) (grown : world.calls ⊆ after.calls) :
    Sound chain decoder after where
  written := fun block member => (sound.written block (written ▸ member)).mono grown
  remembered := fun key member pool => (sound.remembered key (known ▸ member) pool).mono grown

/-- The layer's part of a log, as the server has it. -/
def handled (config : IngestionConfig Payload) (world : IngestionWorld) (log : Log Payload)
    (source : IngestionEventSource) : IngestionWorld :=
  { world with
    layer := (WsEventLayer.handleViemLog config.layer world.layer log source).layer
    calls := world.calls ++
      (WsEventLayer.handleViemLog config.layer world.layer log source).events.take 1 }

theorem mem_accept {key tested : DedupKey} {window : List DedupKey} {capacity : Nat}
    (member : tested ∈ Window.accept capacity window key) : tested ∈ window ∨ tested = key := by
  have appended : tested ∈ window ++ [key] → tested ∈ window ∨ tested = key := by
    rw [List.mem_append, List.mem_singleton]
    exact id
  unfold Window.accept at member
  split at member
  · exact Or.inl member
  · split at member
    · exact appended (List.mem_of_mem_tail member)
    · exact appended member

/-- A pool log that comes is handed out, now or earlier. -/
theorem delivered_of_handled {world : IngestionWorld} {log : Log Payload}
    {source : IngestionEventSource} (sound : Sound chain config.layer.decoder world)
    (genuine : log.payload = chain.content log.logId)
    (pool : IsPoolLog config.layer.decoder log.payload) :
    Delivered (handled config world log source).calls log.logId := by
  obtain ⟨_, _, events⟩ := WsEventLayer.handleViemLog_eq config.layer world.layer log source
  simp only [handled, events]
  split
  next seen =>
    rw [genuine] at pool
    exact (sound.remembered _ seen pool).mono (List.subset_append_left _ _)
  next =>
    let origin := WsEventLayer.originOf world.layer.lastFlashblockBlock log source
    obtain ⟨event, single⟩ : ∃ event, WsEventLayer.eventsOf config.layer log origin = [event] :=
      WsEventLayer.eventsOf_pool pool origin
    have member : event ∈ WsEventLayer.eventsOf config.layer log origin := by
      rw [single]
      exact List.mem_singleton_self event
    refine ⟨event, ?_, ?_⟩
    · rw [single]
      simp
    · rw [WsEventLayer.origin_of_mem_eventsOf member]
      rfl

theorem sound_handled {world : IngestionWorld} {log : Log Payload}
    {source : IngestionEventSource} (sound : Sound chain config.layer.decoder world)
    (genuine : log.payload = chain.content log.logId) :
    Sound chain config.layer.decoder (handled config world log source) where
  written := fun block member =>
    (sound.written block member).mono (List.subset_append_left _ _)
  remembered := by
    intro key member pool
    obtain ⟨order, _, _⟩ := WsEventLayer.handleViemLog_eq config.layer world.layer log source
    simp only [handled, order] at member
    rcases mem_accept member with earlier | rfl
    · exact (sound.remembered key earlier pool).mono (List.subset_append_left _ _)
    · refine delivered_of_handled sound genuine ?_
      rw [genuine]
      exact pool

/-- What a checkpoint of a log says about it. -/
theorem checkpoint_handled {world : IngestionWorld} {log : Log Payload}
    {source : IngestionEventSource} {block : Nat}
    (saved : (WsEventLayer.handleViemLog config.layer world.layer log source).checkpoint =
      some block) :
    let origin := WsEventLayer.originOf world.layer.lastFlashblockBlock log source
    block = origin.blockNumber ∧ source ≠ .pending ∧ 0 < origin.blockNumber ∧
      IsPoolLog config.layer.decoder log.payload ∧
      ingestionDedupKey origin ∉ world.layer.known.seenOrder := by
  intro origin
  unfold WsEventLayer.handleViemLog at saved
  dsimp only at saved
  split at saved
  next fresh =>
    simp only [Option.ite_none_right_eq_some, Bool.and_eq_true, decide_eq_true_eq,
      Option.some.injEq] at saved
    obtain ⟨⟨⟨pool, live⟩, positive⟩, rfl⟩ := saved
    exact ⟨rfl, by simpa using live, positive,
      (parseAavePoolLog_isSome_iff config.layer.decoder log _).mp pool,
      (markSeen_eq world.layer.known _).2.mp fresh⟩
  next => cases saved

/-- After a read of the stored block everything before the block to resume at has
been handed out. -/
theorem knows_loaded {world : IngestionWorld} {phase : CheckpointPhase Payload}
    {choice : Option Nat} {last : Nat} (sound : Sound chain config.layer.decoder world)
    (knows : Knows chain config.layer.decoder world.calls phase)
    (comesLast : chain.ComesLast config world .loadLastProcessedBlock (.stored choice))
    (loaded : world.load choice = some last) :
    Knows chain config.layer.decoder world.calls
      { phase with below := resumeBlock config.bootstrapFromBlock last, todo := [] } where
  covered := by
    intro id number due below
    refine Or.inl ?_
    simp only [resumeBlock] at below
    split at below
    next positive =>
      cases choice with
      | none =>
        cases loaded
        exact absurd positive (Nat.lt_irrefl 0)
      | some index =>
        exact sound.written last (List.mem_of_getElem? loaded) id number due (by omega)
    next zero =>
      have none_stored : last = 0 := by omega
      exact comesLast (none_stored ▸ loaded) id number due below
  genuine := by simp
  inRange := by simp
  ordered := List.Pairwise.nil
  granted := knows.granted

theorem knows_logs {decoder : LogDecoder Payload} {phase : CheckpointPhase Payload}
    {fromBlock toBlock : Nat} {logs : List (Log Payload)}
    (knows : Knows chain decoder calls phase) (contiguous : fromBlock ≤ phase.below)
    (empty : phase.todo = []) (answers : chain.Answers decoder fromBlock toBlock logs) :
    Knows chain decoder calls { phase with below := toBlock + 1, todo := logs } where
  covered := covered_logs knows.covered contiguous empty answers
  genuine := answers.genuine
  inRange := by
    intro log member
    obtain ⟨number, mined, bound⟩ := answers.inRange log member
    exact ⟨number, mined, Nat.lt_succ_of_le bound⟩
  ordered := answers.ordered
  granted := knows.granted

/-- The block that a log asks to save is settled with this log. -/
theorem settled_of_comesLast {world : IngestionWorld} {log : Log Payload}
    {source : IngestionEventSource} {block : Nat}
    (sound : Sound chain config.layer.decoder world)
    (genuine : log.payload = chain.content log.logId)
    (comesLast : chain.ComesLast config world (.handleViemLog log source) .returns)
    (saved : (WsEventLayer.handleViemLog config.layer world.layer log source).checkpoint =
      some block)
    (earlier : source = .gapFill → ∀ id number, chain.Due config.layer.decoder id number →
      number < block → Delivered (handled config world log source).calls id) :
    chain.Settled config.layer.decoder (handled config world log source).calls block := by
  obtain ⟨rfl, live, positive, pool, fresh⟩ := checkpoint_handled saved
  have others := comesLast live positive pool fresh
  intro id number due bound
  by_cases same : id = log.logId
  · rw [same]
    exact delivered_of_handled sound genuine pool
  · by_cases gapFill : source = .gapFill
    · rcases Nat.lt_or_eq_of_le bound with below | here
      · exact earlier gapFill id number due below
      · refine (others id number due same ?_).mono (List.subset_append_left _ _)
        rw [if_pos gapFill]
        exact here
    · refine (others id number due same ?_).mono (List.subset_append_left _ _)
      rw [if_neg gapFill]
      exact bound

/-- The next log of a chunk leaves the others of the chunk. -/
theorem covered_handled {world : IngestionWorld} {phase : CheckpointPhase Payload}
    {log : Log Payload} {rest : List (Log Payload)} {source : IngestionEventSource}
    (sound : Sound chain config.layer.decoder world)
    (covered : Covered chain config.layer.decoder world.calls phase)
    (head : phase.todo = log :: rest) (genuine : log.payload = chain.content log.logId) :
    Covered chain config.layer.decoder (handled config world log source).calls
      { phase with todo := rest } := by
  intro id number due below
  rcases covered id number due below with delivered | ⟨other, member, rfl, place⟩
  · exact Or.inl (delivered.mono (List.subset_append_left _ _))
  · rw [head] at member
    rcases List.mem_cons.mp member with rfl | later
    · refine Or.inl (delivered_of_handled sound genuine ?_)
      rw [genuine]
      exact due.2
    · exact Or.inr ⟨other, later, rfl, place⟩

theorem knows_handled_gapFill {world : IngestionWorld} {phase : CheckpointPhase Payload}
    {log : Log Payload} {rest : List (Log Payload)}
    (sound : Sound chain config.layer.decoder world)
    (knows : Knows chain config.layer.decoder world.calls phase) (head : phase.todo = log :: rest)
    (comesLast : chain.ComesLast config world (.handleViemLog log .gapFill) .returns) :
    Knows chain config.layer.decoder (handled config world log .gapFill).calls
      { phase with
        todo := rest
        granted :=
          (WsEventLayer.handleViemLog config.layer world.layer log .gapFill).checkpoint } := by
  have genuine : log.payload = chain.content log.logId :=
    knows.genuine log (head ▸ List.mem_cons_self)
  obtain ⟨mined, at_mined, mined_below⟩ := knows.inRange log (head ▸ List.mem_cons_self)
  have ordered := knows.ordered
  rw [head, List.pairwise_cons] at ordered
  have covered : Covered chain config.layer.decoder (handled config world log .gapFill).calls
      { phase with todo := rest } := covered_handled sound knows.covered head genuine
  refine
    { covered := covered
      genuine := fun other member => knows.genuine other (head ▸ List.mem_cons_of_mem log member)
      inRange := fun other member => knows.inRange other (head ▸ List.mem_cons_of_mem log member)
      ordered := ordered.2
      granted := ?_ }
  intro block saved
  refine settled_of_comesLast sound genuine comesLast saved (fun _ id number due below => ?_)
  have place : block = mined := by
    rw [(checkpoint_handled saved).1, WsEventLayer.originOf, at_mined]
    rfl
  have under : number < phase.below := by omega
  rcases covered id number due under with delivered | ⟨other, member, _, otherPlace⟩
  · exact delivered
  · -- the chunk is in block order, so nothing below this log's block is left
    have order := ordered.1 other member
    rw [at_mined, otherPlace] at order
    simp only [Option.getD_some] at order
    omega

theorem knows_handled_live {world : IngestionWorld} {phase : CheckpointPhase Payload}
    {log : Log Payload} {source : IngestionEventSource} (live : source ≠ .gapFill)
    (sound : Sound chain config.layer.decoder world)
    (knows : Knows chain config.layer.decoder world.calls phase)
    (genuine : log.payload = chain.content log.logId)
    (comesLast : chain.ComesLast config world (.handleViemLog log source) .returns) :
    Knows chain config.layer.decoder (handled config world log source).calls
      { phase with
        granted :=
          (WsEventLayer.handleViemLog config.layer world.layer log source).checkpoint } :=
  { knows.mono (List.subset_append_left _ _) with
    granted := fun _ saved => settled_of_comesLast sound genuine comesLast saved
      (fun gapFill => absurd gapFill live) }

theorem sound_saved {decoder : LogDecoder Payload} {world : IngestionWorld} {block : Nat}
    (sound : Sound chain decoder world) (settled : chain.Settled decoder world.calls block) :
    Sound chain decoder { world with written := block :: world.written } where
  written := by
    intro saved member
    rcases List.mem_cons.mp member with rfl | earlier
    · exact settled
    · exact sound.written saved earlier
  remembered := sound.remembered

/-- What a phase lets a writer save is settled. -/
theorem settled_of_saves {decoder : LogDecoder Payload} {phase : CheckpointPhase Payload}
    {block : Nat} (knows : Knows chain decoder calls phase)
    (saves : phase.granted = some block ∨ phase.todo = [] ∧ block < phase.below) :
    chain.Settled decoder calls block := by
  rcases saves with granted | ⟨empty, below⟩
  · exact knows.granted block granted
  · exact fun id number due bound => Covered.delivered knows.covered empty due (by omega)

/-- What one answered call of a writer does to the world and to the writer's phase. -/
inductive Turned (config : IngestionConfig Payload) (world : IngestionWorld)
    (phase : CheckpointPhase Payload) : IngestionOp Payload → IngestionTurn Payload →
      IngestionWorld → CheckpointPhase Payload → Prop where
  | idle {op : IngestionOp Payload} {turn : IngestionTurn Payload} :
      Turned config world phase op turn world phase
  | loaded {choice : Option Nat} {last : Nat} (stored : world.load choice = some last) :
      Turned config world phase .loadLastProcessedBlock (.stored choice) world
        { phase with below := resumeBlock config.bootstrapFromBlock last, todo := [] }
  | fetched {fromBlock toBlock : Nat} {logs : List (Log Payload)}
      (contiguous : fromBlock ≤ phase.below) (empty : phase.todo = []) :
      Turned config world phase (.getLogs fromBlock toBlock) (.logs logs) world
        { phase with below := toBlock + 1, todo := logs }
  | filled {log : Log Payload} {rest : List (Log Payload)} (head : phase.todo = log :: rest) :
      Turned config world phase (.handleViemLog log .gapFill) .returns
        (handled config world log .gapFill)
        { phase with
          todo := rest
          granted :=
            (WsEventLayer.handleViemLog config.layer world.layer log .gapFill).checkpoint }
  | arrived {log : Log Payload} {source : IngestionEventSource} (live : source ≠ .gapFill) :
      Turned config world phase (.handleViemLog log source) .returns
        (handled config world log source)
        { phase with
          granted :=
            (WsEventLayer.handleViemLog config.layer world.layer log source).checkpoint }
  | handedOut {event : ParsedIngestionEvent} :
      Turned config world phase (.onEvent event) .returns
        { world with calls := world.calls ++ [event] } phase
  | saved {blockNumber : Nat} {turn : IngestionTurn Payload}
      (saves : phase.granted = some blockNumber ∨ phase.todo = [] ∧ blockNumber < phase.below) :
      Turned config world phase (.saveLastProcessedBlock blockNumber) turn
        { world with written := blockNumber :: world.written } phase
  | ticked {blockNumber : Nat} :
      Turned config world phase (.onFlashblockTick blockNumber) .returns
        { world with
          layer := { world.layer with lastFlashblockBlock := blockNumber }
          flashblockTickCount := world.flashblockTickCount + 1
          indexRefreshInFlight := world.indexRefreshInFlight || world.refreshes config.model }
        { phase with
          granted := if world.refreshes config.model = true then some blockNumber else none }
  | refreshed : Turned config world phase .indicesRefreshed .returns
      { world with indexRefreshInFlight := false } phase
  | flushed {blockNumber : Nat} :
      Turned config world phase (.flushSurvivalState blockNumber) .returns world
        { phase with granted := if blockNumber > 0 then some blockNumber else none }

variable {turn : IngestionTurn Payload} {world after : IngestionWorld}
  {op : IngestionOp Payload} {answer : op.Answer} {phase later : CheckpointPhase Payload}

theorem turned_of_served (served : IngestionWorld.serve config turn world op = some (after, answer))
    (moved : next config.bootstrapFromBlock phase op answer = some later) :
    Turned config world phase op turn after later := by
  cases op with
  | loadLastProcessedBlock =>
    cases turn with
    | refuses =>
      cases served
      cases moved
      exact .idle
    | stored choice =>
      obtain ⟨last, loaded, same⟩ := Option.map_eq_some_iff.mp served
      cases same
      cases moved
      exact .loaded loaded
    | returns | head | logs => cases served
  | getBlockNumber | eventHandled =>
    cases turn <;> cases served <;> cases moved <;> exact .idle
  | getLogs fromBlock toBlock =>
    cases turn with
    | refuses =>
      cases served
      cases moved
      exact .idle
    | logs logs =>
      cases served
      obtain ⟨⟨contiguous, empty⟩, same⟩ := Option.ite_none_right_eq_some.mp moved
      cases same
      exact .fetched contiguous empty
    | returns | head | stored => cases served
  | handleViemLog log source =>
    cases IngestionWorld.returns_of_served rfl served
    cases served
    by_cases gapFill : source = .gapFill
    · subst gapFill
      simp only [CheckpointPhase.next, if_true] at moved
      split at moved
      next => cases moved
      next first rest head =>
        obtain ⟨rfl, same⟩ := Option.ite_none_right_eq_some.mp moved
        cases same
        exact .filled head
    · simp only [CheckpointPhase.next, gapFill, if_false] at moved
      cases moved
      exact .arrived gapFill
  | onEvent event =>
    cases IngestionWorld.returns_of_served rfl served
    cases served
    cases moved
    exact .handedOut
  | saveLastProcessedBlock blockNumber =>
    obtain ⟨saves, same⟩ := Option.ite_none_right_eq_some.mp moved
    cases same
    cases turn <;> cases served <;> exact .saved saves
  | onFlashblockTick blockNumber =>
    cases IngestionWorld.returns_of_served rfl served
    cases served
    cases moved
    exact .ticked
  | refreshReserveIndices =>
    cases IngestionWorld.returns_of_served rfl served
    cases served
    cases moved
    exact .idle
  | indicesRefreshed =>
    cases IngestionWorld.returns_of_served rfl served
    cases served
    cases moved
    exact .refreshed
  | flushSurvivalState blockNumber =>
    cases IngestionWorld.returns_of_served rfl served
    cases served
    cases moved
    exact .flushed

/-- Nothing that was handed out is forgotten. -/
theorem Turned.grown (turned : Turned config world phase op turn after later) :
    world.calls ⊆ after.calls := by
  cases turned with
  | filled | arrived | handedOut => exact List.subset_append_left _ _
  | idle | loaded | fetched | saved | ticked | refreshed | flushed => exact List.Subset.refl _

/-- One turn keeps the store sound and what its writer knows true. -/
theorem turn_sound (turned : Turned config world phase op turn after later)
    (relies : chain.Relies config.layer.decoder op turn)
    (comesLast : chain.ComesLast config world op turn)
    (sound : Sound chain config.layer.decoder world)
    (knows : Knows chain config.layer.decoder world.calls phase) :
    Sound chain config.layer.decoder after ∧ Knows chain config.layer.decoder after.calls later := by
  have grown := turned.grown
  cases turned with
  | idle => exact ⟨sound, knows⟩
  | loaded stored => exact ⟨sound, knows_loaded sound knows comesLast stored⟩
  | fetched contiguous empty => exact ⟨sound, knows_logs knows contiguous empty relies⟩
  | filled head =>
    have genuine := knows.genuine _ (head ▸ List.mem_cons_self)
    exact ⟨sound_handled sound genuine, knows_handled_gapFill sound knows head comesLast⟩
  | arrived live =>
    have genuine := relies live
    exact ⟨sound_handled sound genuine, knows_handled_live live sound knows genuine comesLast⟩
  | handedOut => exact ⟨sound.grown rfl rfl grown, knows.mono grown⟩
  | saved saves => exact ⟨sound_saved sound (settled_of_saves knows saves), knows⟩
  | ticked =>
    refine ⟨sound.grown rfl rfl grown, { knows with granted := ?_ }⟩
    intro block granted
    obtain ⟨refreshes, same⟩ := Option.ite_none_right_eq_some.mp granted
    cases same
    exact comesLast refreshes
  | refreshed => exact ⟨sound.grown rfl rfl grown, knows⟩
  | flushed =>
    refine ⟨sound, { knows with granted := ?_ }⟩
    intro block granted
    obtain ⟨positive, same⟩ := Option.ite_none_right_eq_some.mp granted
    cases same
    exact comesLast positive

end Turn

/-! ## Runs and restarts -/

section Runs

variable {chain : PoolChain Payload} {config : IngestionConfig Payload}

/-- The node and the arriving logs are as relied on, and no writer is called before its
block is complete. -/
def SavesLast (chain : PoolChain Payload) (config : IngestionConfig Payload)
    (world : IngestionWorld) (op : IngestionOp Payload) (turn : IngestionTurn Payload) : Prop :=
  chain.Relies config.layer.decoder op turn ∧ chain.ComesLast config world op turn

/-- The invariant of a run of one process: the store is sound, and every writer's
phase says what is so. -/
theorem tracks_of_run {world : IngestionWorld} {pool : IngestionPool Payload}
    (initially : Sound chain config.layer.decoder world)
    (run : Pool.Run (IngestionWorld.serve config)
      (IngestionTurns config.bootstrapFromBlock (SavesLast chain config)) (Pool.initial world)
      pool) :
    ∃ phases, Pool.Tracks (next config.bootstrapFromBlock) (fun _ _ => True) start pool phases ∧
      Sound chain config.layer.decoder pool.shared ∧
      ∀ phase ∈ phases, Knows chain config.layer.decoder pool.shared.calls phase := by
  refine Pool.Run.keeps (Sound chain config.layer.decoder)
    (fun world => Knows chain config.layer.decoder world.calls) run initially
    (fun world _ => knows_start config.layer.decoder) ?_ ?_
  · exact fun _ _ ingests => Ingests.conforms ingests
  · intro before index turn op resume log after answer phase moved permitted found served allowed
      sound knows
    obtain ⟨relies, comesLast⟩ := permitted op resume log found
    have turned := turned_of_served served allowed
    obtain ⟨stillSound, knowsAfter⟩ := turn_sound turned relies comesLast sound knows
    exact ⟨stillSound, knowsAfter, fun other known => known.mono turned.grown⟩

/-- The store stays sound in a run of one process. -/
theorem sound_of_run {world : IngestionWorld} {pool : IngestionPool Payload}
    (initially : Sound chain config.layer.decoder world)
    (run : Pool.Run (IngestionWorld.serve config)
      (IngestionTurns config.bootstrapFromBlock (SavesLast chain config)) (Pool.initial world)
      pool) : Sound chain config.layer.decoder pool.shared := by
  obtain ⟨_, _, sound, _⟩ := tracks_of_run initially run
  exact sound

theorem sound_fresh (decoder : LogDecoder Payload) : Sound chain decoder .fresh where
  written := by simp [IngestionWorld.fresh]
  remembered := by simp [IngestionWorld.fresh, WsEventLayer.initial, SeenKeys.empty]

/-- A crash loses the remembered keys only. -/
theorem Sound.restarted {decoder : LogDecoder Payload} {world : IngestionWorld}
    (sound : Sound chain decoder world) : Sound chain decoder world.restarted where
  written := sound.written
  remembered := by
    simp [IngestionWorld.restarted, IngestionWorld.fresh, WsEventLayer.initial, SeenKeys.empty]

/-- Whenever a process may crash, every pool log up to a stored block has been
handed out, and a gap-fill that resumes after the block covers the others: in
every life whose writers are called with complete blocks. -/
theorem checkpoint_sound {pool : IngestionPool Payload}
    (lives : Lives config (SavesLast chain config) pool) :
    ∀ stored ∈ pool.shared.written,
      (∀ id number, chain.Due config.layer.decoder id number → number ≤ stored →
        Delivered pool.shared.calls id) ∧
      (0 < stored → ∀ id number, chain.Due config.layer.decoder id number →
        ¬ Delivered pool.shared.calls id →
          resumeBlock config.bootstrapFromBlock stored ≤ number) := by
  have sound : Sound chain config.layer.decoder pool.shared := by
    induction lives with
    | first pool run => exact sound_of_run (sound_fresh config.layer.decoder) run
    | restart crashed pool before run inductionHypothesis =>
      exact sound_of_run inductionHypothesis.restarted run
  intro stored member
  have settled := sound.written stored member
  refine ⟨settled, fun positive id number due undelivered => ?_⟩
  have beyond : ¬ number ≤ stored := fun bound => undelivered (settled id number due bound)
  rw [resumeBlock, if_pos positive]
  omega

end Runs

section Schedules

open WsEventLayer (spelledDecoder suppliedPayload spelledConfig)

/-- A supply in block 5, at a position of its transaction. -/
def supplyAt (logIndex : Nat) : Log (AavePoolEventName × PoolEventArgs) where
  address := ZERO_ADDRESS
  blockNumber := some 5
  transactionHash := some 5
  logIndex := some logIndex
  payload := suppliedPayload

/-- A chain with so many supplies, all of block 5. -/
def supplies (count : Nat) : PoolChain (AavePoolEventName × PoolEventArgs) where
  content := fun _ => suppliedPayload
  mined := fun id number => number = 5 ∧ ∃ logIndex < count, id = (some 5, logIndex)

def supplyLogs (count : Nat) : List (Log (AavePoolEventName × PoolEventArgs)) :=
  (List.range count).map supplyAt

def suppliesConfig : IngestionConfig (AavePoolEventName × PoolEventArgs) :=
  ⟨spelledConfig, none, defaultConfig⟩

theorem answers_supplies (count fromBlock : Nat) {toBlock : Nat} (reaches : 5 ≤ toBlock) :
    (supplies count).Answers spelledDecoder fromBlock toBlock (supplyLogs count) where
  complete := by
    rintro id number ⟨⟨rfl, logIndex, inside, rfl⟩, _⟩ _ _
    exact ⟨supplyAt logIndex, List.mem_map_of_mem (List.mem_range.mpr inside), rfl, rfl⟩
  genuine := by
    intro log member
    obtain ⟨logIndex, _, rfl⟩ := List.mem_map.mp member
    rfl
  inRange := by
    intro log member
    obtain ⟨logIndex, _, rfl⟩ := List.mem_map.mp member
    exact ⟨5, rfl, reaches⟩
  ordered := by
    refine List.pairwise_map.mpr (List.Pairwise.imp ?_ List.pairwise_lt_range)
    intro first later _
    exact le_refl 5

/-- The gap-fill of a first start, up to the save of its first log. -/
def firstSave (count : Nat) : List (IngestionAct (AavePoolEventName × PoolEventArgs)) :=
  [.start (runBootstrapOrGapFill none), .run 0 (.stored none), .run 0 (.head 5),
    .run 0 (.logs (supplyLogs count)), .run 0 .returns, .run 0 .returns, .run 0 .returns]

/-- A test of turns that only lets gap-fills and this log by. -/
def fillsWith (logs : Log (AavePoolEventName × PoolEventArgs) → Bool)
    (pool : IngestionPool (AavePoolEventName × PoolEventArgs)) :
    IngestionAct (AavePoolEventName × PoolEventArgs) → Bool
  | .start _ => true
  | .run index _ => match pool.threads[index]? with
      | some ⟨.call op _, _⟩ => match op with
          | .getLogs _ toBlock => decide (5 ≤ toBlock)
          | .handleViemLog log source => decide (source = .gapFill) && logs log
          | .onFlashblockTick _ => false
          | .flushSurvivalState _ => false
          | _ => true
      | _ => true

theorem relies_of_fillsWith {logs : Log (AavePoolEventName × PoolEventArgs) → Bool} {count : Nat}
    {pool : IngestionPool (AavePoolEventName × PoolEventArgs)} {index : Nat}
    {turn : IngestionTurn (AavePoolEventName × PoolEventArgs)}
    (answered : ∀ given, turn = .logs given → given = supplyLogs count)
    (passed : fillsWith logs pool (.run index turn) = true) :
    IngestionTurns none (fun _ op turn => (supplies count).Relies spelledDecoder op turn) pool
      (.run index turn) := by
  intro op resume log found
  simp only [fillsWith, found] at passed
  cases op with
  | getLogs fromBlock toBlock =>
    cases turn with
    | logs given =>
      rw [answered given rfl]
      exact answers_supplies count fromBlock (of_decide_eq_true passed)
    | _ => trivial
  | handleViemLog log source =>
    intro live
    simp only [Bool.and_eq_true, decide_eq_true_eq] at passed
    exact absurd passed.1 live
  | _ => trivial

/-- With one supply in the block, a gap-fill runs to its end; the process is
restarted, and its gap-fill finds nothing to do. -/
def wholeFill : List (IngestionAct (AavePoolEventName × PoolEventArgs)) :=
  firstSave 1 ++ [.run 0 .returns]

def resumed : List (IngestionAct (AavePoolEventName × PoolEventArgs)) :=
  [.start (runBootstrapOrGapFill none), .run 0 (.stored (some 0)), .run 0 (.head 5)]

theorem savesLast_of_fillsWith {pool : IngestionPool (AavePoolEventName × PoolEventArgs)}
    {act : IngestionAct (AavePoolEventName × PoolEventArgs)}
    (listed : act ∈ wholeFill ++ resumed)
    (passed : fillsWith (fun log => decide (log.logId = (some 5, 0))) pool act = true) :
    IngestionTurns none (SavesLast (supplies 1) suppliesConfig) pool act := by
  cases act with
  | start program =>
    have started : program = runBootstrapOrGapFill none := by
      simp only [wholeFill, firstSave, resumed, List.cons_append, List.nil_append, List.mem_cons,
        Act.start.injEq, reduceCtorEq, List.not_mem_nil, or_false, false_or] at listed
      exact listed.elim id id
    rw [started]
    exact .gapFill
  | run index turn =>
    have answered : ∀ given, turn = .logs given → given = supplyLogs 1 := by
      rintro given rfl
      have logged : index = 0 ∧ given = supplyLogs 1 := by
        simpa [wholeFill, firstSave, resumed] using listed
      exact logged.2
    intro op resume log found
    refine ⟨relies_of_fillsWith answered passed op resume log found, ?_⟩
    simp only [fillsWith, found] at passed
    cases op with
    | handleViemLog log source =>
      simp only [Bool.and_eq_true, decide_eq_true_eq] at passed
      rintro _ _ _ _ id number ⟨⟨_, logIndex, inside, rfl⟩, _⟩ other _
      rw [passed.2, Nat.lt_one_iff.mp inside] at other
      exact absurd rfl other
    | loadLastProcessedBlock =>
      cases turn with
      | stored choice => exact fun _ id number _ below => absurd below (Nat.not_lt_zero _)
      | _ => trivial
    | onFlashblockTick blockNumber => cases passed
    | flushSurvivalState blockNumber => cases passed
    | _ => trivial

def wholeFillPool : IngestionPool (AavePoolEventName × PoolEventArgs) :=
  (Pool.execute (IngestionWorld.serve suppliesConfig)
    (fillsWith (fun log => decide (log.logId = (some 5, 0)))) (Pool.initial .fresh) wholeFill).get
      (by decide +kernel)

def resumedPool : IngestionPool (AavePoolEventName × PoolEventArgs) :=
  (Pool.execute (IngestionWorld.serve suppliesConfig)
    (fillsWith (fun log => decide (log.logId = (some 5, 0))))
    (Pool.initial wholeFillPool.shared.restarted) resumed).get (by decide +kernel)

/-- The theorem at that restart. -/
theorem checkpoint_sound_resumed :
    (∀ stored ∈ resumedPool.shared.written,
      (∀ id number, (supplies 1).Due suppliesConfig.layer.decoder id number → number ≤ stored →
        Delivered resumedPool.shared.calls id) ∧
      (0 < stored → ∀ id number, (supplies 1).Due suppliesConfig.layer.decoder id number →
        ¬ Delivered resumedPool.shared.calls id →
          resumeBlock suppliesConfig.bootstrapFromBlock stored ≤ number)) ∧
      resumedPool.shared.written = [5, 5] := by
  constructor
  · apply checkpoint_sound
    refine .restart wholeFillPool resumedPool (.first wholeFillPool ?_) ?_
    · exact Pool.run_of_execute .refl (fun act member _ passed => savesLast_of_fillsWith
        (List.mem_append_left _ member) passed) (Option.some_get _).symm
    · exact Pool.run_of_execute .refl (fun act member _ passed => savesLast_of_fillsWith
        (List.mem_append_right _ member) passed) (Option.some_get _).symm
  · decide +kernel

def halfFillPool : IngestionPool (AavePoolEventName × PoolEventArgs) :=
  (Pool.execute (IngestionWorld.serve suppliesConfig) (fillsWith (fun _ => true))
    (Pool.initial .fresh) (firstSave 2)).get (by decide +kernel)

/-- With two supplies in the block, the block is stored after the first one. The
restart resumes after it, and the second one is lost. -/
theorem second_log_lost :
    Lives suppliesConfig (fun _ op turn => (supplies 2).Relies suppliesConfig.layer.decoder op turn)
        halfFillPool ∧
      5 ∈ halfFillPool.shared.written ∧
      (supplies 2).Due suppliesConfig.layer.decoder (some 5, 1) 5 ∧
      ¬ Delivered halfFillPool.shared.calls (some 5, 1) ∧
      resumeBlock suppliesConfig.bootstrapFromBlock 5 = 6 := by
  refine ⟨.first halfFillPool ?_, by decide +kernel, ⟨⟨rfl, 1, by decide, rfl⟩,
    WsEventLayer.suppliedPayload_pool⟩, ?_, by decide⟩
  · refine Pool.run_of_execute .refl (fun act member pool passed => ?_) (Option.some_get _).symm
    cases act with
    | start program =>
      have started : program = runBootstrapOrGapFill none := by simpa [firstSave] using member
      rw [started]
      exact .gapFill
    | run index turn =>
      refine relies_of_fillsWith ?_ passed
      rintro given rfl
      have logged : index = 0 ∧ given = supplyLogs 2 := by simpa [firstSave] using member
      exact logged.2
  · rw [Delivered]
    decide +kernel

end Schedules

end LiquidationBot
