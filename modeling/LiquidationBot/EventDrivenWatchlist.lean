import LiquidationBot.Addresses
import LiquidationBot.Library.AsyncPool
import LiquidationBot.Library.InsertionMap

/-!
# The event-driven watchlist

Borrowers seen in pool logs are put on a watchlist, and a cursor keeps the block up
to which logs have been handled. At the start, and after every subscription error,
the logs after the cursor are fetched chunk by chunk up to the head less a reorg
depth; a chunk that fails is tried again, or halved when its answer is too large.
Live logs arrive in batches. Every batch and chunk is handled alike: its borrowers
are added, and its largest block is stored if it is reorg-safe by then.

Delays are left out; a thread may wait for any time before each of its turns.
Live batches and errors may come at any time, also before the start has subscribed.
-/

namespace LiquidationBot

/-- What is thrown, by whether its text asks for a smaller range: it includes
"response too large" or "limit". -/
structure WatchlistError where
  shrink : Bool
deriving DecidableEq

/-- A watched pool log, by the fields and arguments that are read of it. -/
structure WatchedLog where
  blockNumber : Option Nat
  user : Option Address
  onBehalfOf : Option Address
deriving DecidableEq

namespace WatchedLog

def extractBorrowerAddressesFromLog (log : WatchedLog) : List Address :=
  log.onBehalfOf.toList ++ if log.user ≠ log.onBehalfOf then log.user.toList else []

def extractBorrowerFromLog (log : WatchedLog) : Option Address :=
  log.extractBorrowerAddressesFromLog.head?

/-- The block of a log; a pending log counts as of block zero. -/
def block (log : WatchedLog) : Nat := log.blockNumber.getD 0

end WatchedLog

/-- `BoundedWatchlistEntry`. -/
structure BoundedWatchlistEntry where
  lastSeen : Nat
  lastHealthFactor : Option Nat
deriving DecidableEq

/-- `BoundedWatchlist`, with every key that was ever added. -/
structure BoundedWatchlist where
  maxSize : Nat := 50000
  staleBlocks : Nat := 50400
  map : InsertionMap Address BoundedWatchlistEntry
  everAdded : List Address

namespace BoundedWatchlist

def evictStale (watchlist : BoundedWatchlist) (currentBlock : Nat) : BoundedWatchlist :=
  { watchlist with map := watchlist.map.filter (fun _ entry =>
      decide ((currentBlock : Int) - entry.lastSeen ≤ watchlist.staleBlocks)) }

/-- `add` without a health factor, which is how logs are added. -/
def add (watchlist : BoundedWatchlist) (address : Address) (blockNumber : Nat) : BoundedWatchlist :=
  let key := address.toLowerCase
  let kept := if watchlist.map.size ≥ watchlist.maxSize then watchlist.evictStale blockNumber
    else watchlist
  let entry := ⟨blockNumber, (kept.map.get? key).bind BoundedWatchlistEntry.lastHealthFactor⟩
  { kept with map := kept.map.set key entry, everAdded := kept.everAdded ++ [key] }

end BoundedWatchlist

/-- `EventDrivenWatchlistConfig`. A chunk has at least one block. -/
structure EventDrivenWatchlistConfig where
  reorgSafeDepth : Nat := 10
  gapChunkBlocks : Nat := 2000
  chunk_pos : 0 < gapChunkBlocks := by decide

namespace EventDrivenWatchlist

open Async

/-- `MAX_RETRIES`. -/
def MAX_RETRIES : Nat := 5

def safeHead (config : EventDrivenWatchlistConfig) (head : Nat) : Nat :=
  if head > config.reorgSafeDepth then head - config.reorgSafeDepth else 0

/-- The turns of a thread. `begin` takes the flag of a replay under way and says
whether it was free. Adding and storing know whether the batch is live; the code
does not look at that. -/
inductive WatchlistOp where
  | load
  | begin
  | finish
  | getBlockNumber
  | getLogs (fromBlock toBlock : Nat)
  | add (live : Bool) (logs : List WatchedLog)
  | save (live : Bool) (blockNumber : Nat)
  | onActivity (touched : List Address)

@[reducible] def WatchlistOp.Answer : WatchlistOp → Type
  | .load => Except WatchlistError Nat
  | .begin => Bool
  | .finish => Unit
  | .getBlockNumber => Except WatchlistError Nat
  | .getLogs _ _ => Except WatchlistError (List WatchedLog)
  | .add _ _ => Unit
  | .save _ _ => Except WatchlistError Unit
  | .onActivity _ => Except WatchlistError Unit

abbrev WatchlistProgram := Async WatchlistOp WatchlistOp.Answer WatchlistError

/-- A call whose exception goes on. -/
def orFail {α : Type} (op : WatchlistOp) (read : op.Answer → Except WatchlistError α) :
    WatchlistProgram α :=
  (perform op).bind (fun answer => orThrow (read answer))

/-- The largest block of a batch. -/
def maxBlock (logs : List WatchedLog) : Nat :=
  logs.foldl (fun largest log => if log.block > largest then log.block else largest) 0

/-- The borrowers of a batch that were put on the watchlist. -/
def touched (logs : List WatchedLog) : List Address :=
  (logs.filterMap (fun log => if log.block > 0 then log.extractBorrowerFromLog else none)).eraseDups

def handleLogs (config : EventDrivenWatchlistConfig) (live : Bool) (logs : List WatchedLog) :
    WatchlistProgram Unit :=
  if logs.isEmpty then .pure ()
  else do
    let head ← orFail .getBlockNumber id
    let _ ← perform (WatchlistOp.add live logs)
    let largest := maxBlock logs
    if largest > 0 ∧ largest ≤ safeHead config head then
      let _ ← orFail (.save live largest) id
      orFail (.onActivity (touched logs)) id
    else orFail (.onActivity (touched logs)) id

/-- Fetch a range and handle its logs. -/
def fetchRange (config : EventDrivenWatchlistConfig) (fromBlock toBlock : Nat) :
    WatchlistProgram Unit := do
  let logs ← orFail (.getLogs fromBlock toBlock) id
  handleLogs config false logs

/-- The attempts of `fetchChunkWithBackoff` that are left, and what it does with a
range whose answer is too large. -/
def attempts (config : EventDrivenWatchlistConfig) (fromBlock toBlock : Nat)
    (halves : WatchlistProgram Unit) : Nat → WatchlistProgram Unit
  | 0 => .pure ()
  | left + 1 => do
      let fetched ← (fetchRange config fromBlock toBlock).attempt
      match fetched with
      | .ok _ => .pure ()
      | .error error =>
          if error.shrink = true ∧ fromBlock < toBlock then halves
          else if left = 0 then .throw error
          else attempts config fromBlock toBlock halves left

/-- `fetchChunkWithBackoff`. A range is halved at most as often as it has blocks. -/
def fetchChunkWithBackoff (config : EventDrivenWatchlistConfig) :
    Nat → Nat → Nat → WatchlistProgram Unit
  | 0, fromBlock, toBlock => attempts config fromBlock toBlock (.pure ()) MAX_RETRIES
  | depth + 1, fromBlock, toBlock =>
      let mid := fromBlock + (toBlock - fromBlock) / 2
      attempts config fromBlock toBlock (do
        let _ ← fetchChunkWithBackoff config depth fromBlock mid
        fetchChunkWithBackoff config depth (mid + 1) toBlock) MAX_RETRIES

/-- The end of the chunk that begins at a block. -/
def chunkEnd (config : EventDrivenWatchlistConfig) (safeHead fromBlock : Nat) : Nat :=
  if fromBlock + config.gapChunkBlocks - 1 < safeHead then fromBlock + config.gapChunkBlocks - 1
  else safeHead

/-- The loop of `replayGap`, with a bound on its rounds. -/
def replayChunks (config : EventDrivenWatchlistConfig) (safeHead : Nat) :
    Nat → Nat → WatchlistProgram Unit
  | 0, _ => .pure ()
  | rounds + 1, fromBlock =>
      if fromBlock ≤ safeHead then do
        let toBlock := chunkEnd config safeHead fromBlock
        let _ ← fetchChunkWithBackoff config (toBlock - fromBlock) fromBlock toBlock
        replayChunks config safeHead rounds (fromBlock + config.gapChunkBlocks)
      else .pure ()

/-- The guarded part of `replayGap`. -/
def replayBlocks (config : EventDrivenWatchlistConfig) (fromBlock : Nat) :
    WatchlistProgram Unit := do
  let head ← orFail .getBlockNumber id
  let safeHead := safeHead config head
  if fromBlock = 0 ∨ safeHead ≤ fromBlock then .pure ()
  else replayChunks config safeHead (safeHead - fromBlock) (fromBlock + 1)

def replayGap (config : EventDrivenWatchlistConfig) (fromBlock : Nat) : WatchlistProgram Unit := do
  let free ← perform WatchlistOp.begin
  if free = true then
    let replayed ← (replayBlocks config fromBlock).attempt
    let _ ← perform WatchlistOp.finish
    orThrow replayed
  else .pure ()

/-- `start` up to its subscriptions, and `replayGapFromCursor`: both replay from the
cursor. -/
def replayGapFromCursor (config : EventDrivenWatchlistConfig) : WatchlistProgram Unit := do
  let lastBlock ← orFail .load id
  replayGap config lastBlock

/-- What runs: the start and the errors, and the live batches. -/
inductive Watches (config : EventDrivenWatchlistConfig) : WatchlistProgram Unit → Prop where
  | replay : Watches config (replayGapFromCursor config)
  | live (logs : List WatchedLog) : Watches config (handleLogs config true logs)

/-! ## The bounds of the recursions -/

/-- A range of one block is not halved. -/
theorem attempts_single (config : EventDrivenWatchlistConfig) {fromBlock toBlock : Nat}
    (single : toBlock ≤ fromBlock) (halves others : WatchlistProgram Unit) (left : Nat) :
    attempts config fromBlock toBlock halves left =
      attempts config fromBlock toBlock others left := by
  induction left with
  | zero => rfl
  | succ left inductionHypothesis =>
    have never : ∀ error : WatchlistError, ¬ (error.shrink = true ∧ fromBlock < toBlock) :=
      fun _ shrinks => absurd shrinks.2 (Nat.not_lt.mpr single)
    simp only [attempts, never, if_false, inductionHypothesis]

/-- More halvings than blocks change nothing. -/
theorem fetchChunkWithBackoff_deeper (config : EventDrivenWatchlistConfig) {depth : Nat}
    {fromBlock toBlock : Nat} (enough : toBlock - fromBlock ≤ depth) :
    fetchChunkWithBackoff config (depth + 1) fromBlock toBlock =
      fetchChunkWithBackoff config depth fromBlock toBlock := by
  have unfolded : ∀ depth fromBlock toBlock,
      fetchChunkWithBackoff config (depth + 1) fromBlock toBlock =
        attempts config fromBlock toBlock
          ((fetchChunkWithBackoff config depth fromBlock
            (fromBlock + (toBlock - fromBlock) / 2)).bind (fun _ =>
              fetchChunkWithBackoff config depth (fromBlock + (toBlock - fromBlock) / 2 + 1)
                toBlock)) MAX_RETRIES := fun _ _ _ => rfl
  induction depth generalizing fromBlock toBlock with
  | zero => exact attempts_single config (by omega) _ _ MAX_RETRIES
  | succ depth inductionHypothesis =>
    by_cases single : toBlock ≤ fromBlock
    · exact attempts_single config single _ _ MAX_RETRIES
    · rw [unfolded (depth + 1), unfolded depth fromBlock toBlock, inductionHypothesis (by omega),
        inductionHypothesis (by omega)]

/-! ## The world -/

/-- What the outside decides of a turn: the head it reports, whether it fails and
with what, and whether a failed store has stored all the same. -/
structure WatchlistTurn where
  head : Nat := 0
  fails : Option WatchlistError := none
  lands : Bool := true

/-- The turn's store has an effect. -/
def WatchlistTurn.stores (turn : WatchlistTurn) : Bool := turn.fails.isNone || turn.lands

/-- The state that the threads share, with the logs that have been handled. An
absent cursor is read as zero. -/
structure WatchlistWorld where
  watchlist : BoundedWatchlist
  cursor : Nat
  gapReplayInFlight : Bool
  handled : List WatchedLog

def WatchlistWorld.initial (cursor : Nat) : WatchlistWorld where
  watchlist := { map := .empty, everAdded := [] }
  cursor := cursor
  gapReplayInFlight := false
  handled := []

/-- Put the borrower of a log on the watchlist. -/
def addLog (watchlist : BoundedWatchlist) (log : WatchedLog) : BoundedWatchlist :=
  match log.extractBorrowerFromLog with
  | none => watchlist
  | some user => if log.block > 0 then watchlist.add user log.block else watchlist

/-- The watched pool logs of each block, once it is final. -/
structure WatchedChain where
  logs : Nat → List WatchedLog
  numbered : ∀ number, ∀ log ∈ logs number, log.blockNumber = some number

/-- The logs of a range of blocks. -/
def WatchedChain.range (chain : WatchedChain) (fromBlock toBlock : Nat) : List WatchedLog :=
  (List.range' fromBlock (toBlock + 1 - fromBlock)).flatMap chain.logs

def answer {α : Type} (turn : WatchlistTurn) (value : α) : Except WatchlistError α :=
  match turn.fails with
  | none => .ok value
  | some error => .error error

/-- The node answers a range with all of its watched logs, or fails. -/
def serve (chain : WatchedChain) :
    Server WatchlistTurn WatchlistWorld WatchlistOp WatchlistOp.Answer :=
  fun turn world op => match op with
  | .load => some (world, answer turn world.cursor)
  | .begin => some ({ world with gapReplayInFlight := true }, !world.gapReplayInFlight)
  | .finish => some ({ world with gapReplayInFlight := false }, ())
  | .getBlockNumber => some (world, answer turn turn.head)
  | .getLogs fromBlock toBlock => some (world, answer turn (chain.range fromBlock toBlock))
  | .add _ logs =>
      some ({ world with
        watchlist := logs.foldl addLog world.watchlist
        handled := world.handled ++ logs }, ())
  | .save _ blockNumber =>
      some (if turn.stores then { world with cursor := blockNumber } else world, answer turn ())
  | .onActivity _ => some (world, answer turn ())

abbrev WatchlistPool := Pool WatchlistWorld WatchlistOp WatchlistOp.Answer WatchlistError Unit

abbrev WatchlistAct := Act WatchlistTurn WatchlistOp WatchlistOp.Answer WatchlistError Unit

end EventDrivenWatchlist

end LiquidationBot
