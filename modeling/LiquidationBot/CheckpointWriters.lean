import LiquidationBot.Library.AsyncPool
import LiquidationBot.LocalPositionModel
import LiquidationBot.WsEventLayer

/-!
# The writers of the checkpoint

The last processed block is stored by four writers: a gap-fill at the end of
each chunk, the handler of a pool log that is not pending, the flashblock tick
that has refreshed the reserve indices, and the flush at shutdown. They run side
by side and do not look at each other's writes. A process that starts, or
reconnects, resumes after the stored block.

A handler runs without interruption up to its next wait. The first event of a
log is therefore handed out in the same turn in which its key is remembered.
-/

namespace LiquidationBot

/-- `DEFAULT_CHUNK`. -/
def DEFAULT_CHUNK : Nat := 2000

/-- What is thrown at the ingestion: by the store, by the RPC node, or by the
handler of an event. -/
inductive IngestionError where
  | store
  | rpc
  | handler
deriving DecidableEq

/-- The configuration of the event layer, and what the flashblock tick reads of
the stack's. -/
structure IngestionConfig (Payload : Type) where
  layer : WsEventLayerConfig Payload
  bootstrapFromBlock : Option Nat
  model : LocalPositionModelConfig

/-- The calls of the ingestion. `handleViemLog`, `onFlashblockTick` and
`flushSurvivalState` stand for the functions up to their first wait,
`eventHandled` for the wait for the handler of the event handed out last, and
`indicesRefreshed` for the end of a refresh. -/
inductive IngestionOp (Payload : Type) where
  | loadLastProcessedBlock
  | getBlockNumber
  | getLogs (fromBlock toBlock : Nat)
  | handleViemLog (log : Log Payload) (source : IngestionEventSource)
  | eventHandled
  | onEvent (event : ParsedIngestionEvent)
  | saveLastProcessedBlock (blockNumber : Nat)
  | onFlashblockTick (blockNumber : Nat)
  | refreshReserveIndices
  | indicesRefreshed
  | flushSurvivalState (blockNumber : Nat)

/-- A log is answered with the events that are left to hand out and the block to
save, a flashblock with whether the indices are refreshed. -/
@[reducible] def IngestionOp.Answer {Payload : Type} : IngestionOp Payload → Type
  | .loadLastProcessedBlock => Except IngestionError Nat
  | .getBlockNumber => Except IngestionError Nat
  | .getLogs _ _ => Except IngestionError (List (Log Payload))
  | .handleViemLog _ _ => List ParsedIngestionEvent × Option Nat
  | .eventHandled => Except IngestionError Unit
  | .onEvent _ => Unit
  | .saveLastProcessedBlock _ => Except IngestionError Unit
  | .onFlashblockTick _ => Bool
  | .refreshReserveIndices => Unit
  | .indicesRefreshed => Unit
  | .flushSurvivalState _ => Unit

/-- The calls that neither throw nor ask for a value. -/
def IngestionOp.plain {Payload : Type} : IngestionOp Payload → Bool
  | .loadLastProcessedBlock => false
  | .getBlockNumber => false
  | .getLogs _ _ => false
  | .eventHandled => false
  | .saveLastProcessedBlock _ => false
  | _ => true

/-- A program of the ingestion. -/
abbrev Ingestion (Payload : Type) := Async (IngestionOp Payload) IngestionOp.Answer IngestionError

namespace Ingestion

open Async

variable {Payload : Type}

/-- One call, its answer read as a value. -/
def ask {α : Type} (op : IngestionOp Payload) (read : op.Answer → α) : Ingestion Payload α :=
  (perform op).bind (fun answer => .pure (read answer))

/-- One call that may throw. -/
def attemptCall {α : Type} (op : IngestionOp Payload)
    (read : op.Answer → Except IngestionError α) : Ingestion Payload α :=
  (perform op).bind (fun answer => orThrow (read answer))

def saveLastProcessedBlock (blockNumber : Nat) : Ingestion Payload Unit :=
  attemptCall (.saveLastProcessedBlock blockNumber) id

def awaitEvent : Ingestion Payload Unit := attemptCall .eventHandled id

/-- Hand out events one after the other. -/
def handOut : List ParsedIngestionEvent → Ingestion Payload Unit
  | [] => .pure ()
  | event :: rest => do
      ask (.onEvent event) id
      awaitEvent
      handOut rest

/-- What `handleViemLog` does after its first wait: hand out the other events,
and save. -/
def finishLog (later : List ParsedIngestionEvent) (checkpoint : Option Nat) :
    Ingestion Payload Unit := do
  awaitEvent
  handOut later
  match checkpoint with
  | none => .pure ()
  | some blockNumber => saveLastProcessedBlock blockNumber

/-- `handleViemLog`. -/
def handleViemLog (log : Log Payload) (source : IngestionEventSource) : Ingestion Payload Unit := do
  let handled ← ask (.handleViemLog log source) id
  match handled.1 with
  | [] => .pure ()
  | _ :: later => finishLog later handled.2

/-- The logs of a chunk. -/
def handleChunk : List (Log Payload) → Ingestion Payload Unit
  | [] => .pure ()
  | log :: rest => do
      handleViemLog log .gapFill
      handleChunk rest

/-- The last block of a chunk. -/
def chunkEnd (head chunkFrom : Nat) : Nat :=
  if chunkFrom + DEFAULT_CHUNK - 1 < head then chunkFrom + DEFAULT_CHUNK - 1 else head

/-- The loop of `runBootstrapOrGapFill`, for at most so many chunks. -/
def fillChunks (head : Nat) : Nat → Nat → Ingestion Payload Unit
  | 0, _ => .pure ()
  | chunks + 1, chunkFrom =>
      if chunkFrom ≤ head then do
        let logs ← attemptCall (.getLogs chunkFrom (chunkEnd head chunkFrom)) id
        handleChunk logs
        saveLastProcessedBlock (chunkEnd head chunkFrom)
        fillChunks head chunks (chunkFrom + DEFAULT_CHUNK)
      else .pure ()

/-- The block that a gap-fill starts at. -/
def resumeBlock (bootstrapFromBlock : Option Nat) (last : Nat) : Nat :=
  if last > 0 then last + 1 else bootstrapFromBlock.getD 0

/-- The number of chunks from a block up to the head. -/
def chunkCount (start head : Nat) : Nat := (head + DEFAULT_CHUNK - start) / DEFAULT_CHUNK

/-- `runBootstrapOrGapFill`. -/
def runBootstrapOrGapFill (bootstrapFromBlock : Option Nat) : Ingestion Payload Unit := do
  let last ← attemptCall .loadLastProcessedBlock id
  let head ← attemptCall .getBlockNumber id
  let start := resumeBlock bootstrapFromBlock last
  if start > head then .pure () else fillChunks head (chunkCount start head) start

/-- `handleRawLog`. -/
def handleRawLog (raw : RawLog Payload) (source : IngestionEventSource) : Ingestion Payload Unit :=
  handleViemLog (rawLogToViemLog raw) source

/-- `handleFlashblockTick`. The refresh catches what its reads throw. -/
def handleFlashblockTick (blockNumber : Nat) : Ingestion Payload Unit := do
  let refresh : Bool ← ask (.onFlashblockTick blockNumber) id
  if refresh then do
    ask .refreshReserveIndices id
    let saved ← (saveLastProcessedBlock blockNumber).attempt
    ask .indicesRefreshed id
    orThrow saved
  else .pure ()

/-- `flushSurvivalState`. -/
def flushSurvivalState (blockNumber : Nat) : Ingestion Payload Unit := do
  ask (.flushSurvivalState blockNumber) id
  if blockNumber > 0 then saveLastProcessedBlock blockNumber else .pure ()

theorem chunkCount_enough (start head : Nat) :
    head < start + chunkCount start head * DEFAULT_CHUNK := by
  have positive : 0 < DEFAULT_CHUNK := by decide
  have division := Nat.div_add_mod (head + DEFAULT_CHUNK - start) DEFAULT_CHUNK
  have bound := Nat.mod_lt (head + DEFAULT_CHUNK - start) positive
  rw [chunkCount, Nat.mul_comm]
  omega

end Ingestion

/-! ## The store and the layer -/

/-- What the programs share. `calls` are the events handed out, by this process
or an earlier one; `written` are the blocks stored, last one first. -/
structure IngestionWorld where
  layer : WsEventLayer
  calls : List ParsedIngestionEvent
  written : List Nat
  flashblockTickCount : Nat
  indexRefreshInFlight : Bool

/-- What a run chooses at one turn: a refused call, the value that the store
reads back, a block number, or logs. -/
inductive IngestionTurn (Payload : Type) where
  | refuses
  | returns
  | stored (choice : Option Nat)
  | head (blockNumber : Nat)
  | logs (logs : List (Log Payload))

namespace IngestionWorld

variable {Payload : Type}

/-- Before the first start. -/
def fresh : IngestionWorld := ⟨.initial, [], [], 0, false⟩

/-- After a crash: the memory is lost, the store and the past are not. -/
def restarted (world : IngestionWorld) : IngestionWorld :=
  { fresh with calls := world.calls, written := world.written }

/-- `loadLastProcessedBlock`: a block that was written, or zero where the store
has nothing it can read. -/
def load (world : IngestionWorld) : Option Nat → Option Nat
  | none => some 0
  | some index => world.written[index]?

def refreshDue (config : LocalPositionModelConfig) (tickCount : Nat) : Bool :=
  decide (tickCount % config.reserveIndexRefreshBlocks = 0)

/-- Whether the next flashblock refreshes the indices and saves its block. -/
def refreshes (config : LocalPositionModelConfig) (world : IngestionWorld) : Bool :=
  refreshDue config (world.flashblockTickCount + 1) && !world.indexRefreshInFlight

/-- The tick count is the model's. -/
theorem onFlashblockTick_eq (config : LocalPositionModelConfig) (model : LocalPositionModel) :
    LocalPositionModel.onFlashblockTick config model =
      ({ model with flashblockTickCount := model.flashblockTickCount + 1 },
        refreshDue config (model.flashblockTickCount + 1)) := rfl

/-- Effect and answer of a call. A write that throws may have reached the store. -/
def serve (config : IngestionConfig Payload) :
    Server (IngestionTurn Payload) IngestionWorld (IngestionOp Payload) IngestionOp.Answer
  | .refuses, world, .loadLastProcessedBlock => some (world, .error .store)
  | .stored choice, world, .loadLastProcessedBlock =>
      (world.load choice).map (fun last => (world, .ok last))
  | .refuses, world, .getBlockNumber => some (world, .error .rpc)
  | .head blockNumber, world, .getBlockNumber => some (world, .ok blockNumber)
  | .refuses, world, .getLogs _ _ => some (world, .error .rpc)
  | .logs logs, world, .getLogs _ _ => some (world, .ok logs)
  | .returns, world, .handleViemLog log source =>
      let handled := WsEventLayer.handleViemLog config.layer world.layer log source
      some ({ world with layer := handled.layer, calls := world.calls ++ handled.events.take 1 },
        (handled.events, handled.checkpoint))
  | .refuses, world, .eventHandled => some (world, .error .handler)
  | .returns, world, .eventHandled => some (world, .ok ())
  | .returns, world, .onEvent event => some ({ world with calls := world.calls ++ [event] }, ())
  | .refuses, world, .saveLastProcessedBlock blockNumber =>
      some ({ world with written := blockNumber :: world.written }, .error .store)
  | .returns, world, .saveLastProcessedBlock blockNumber =>
      some ({ world with written := blockNumber :: world.written }, .ok ())
  | .returns, world, .onFlashblockTick blockNumber =>
      some ({ world with
        layer := { world.layer with lastFlashblockBlock := blockNumber }
        flashblockTickCount := world.flashblockTickCount + 1
        indexRefreshInFlight := world.indexRefreshInFlight || world.refreshes config.model },
        world.refreshes config.model)
  | .returns, world, .refreshReserveIndices => some (world, ())
  | .returns, world, .indicesRefreshed => some ({ world with indexRefreshInFlight := false }, ())
  | .returns, world, .flushSurvivalState _ => some (world, ())
  | _, _, _ => none

/-- A call that cannot throw, and reads nothing, has one kind of turn. -/
theorem returns_of_served {config : IngestionConfig Payload} {turn : IngestionTurn Payload}
    {world : IngestionWorld} {op : IngestionOp Payload} {served : IngestionWorld × op.Answer}
    (plain : op.plain = true) (answered : serve config turn world op = some served) :
    turn = .returns := by
  cases turn with
  | returns => rfl
  | refuses => cases op <;> cases plain <;> cases answered
  | stored choice => cases op <;> cases plain <;> cases answered
  | head blockNumber => cases op <;> cases plain <;> cases answered
  | logs logs => cases op <;> cases plain <;> cases answered

end IngestionWorld

end LiquidationBot
