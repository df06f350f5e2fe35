import LiquidationBot.EventDrivenWatchlist
import Mathlib.Algebra.Order.Group.Nat

/-!
# The block that the cursor has

The cursor is sound when the borrower of every watched log after the block loaded
at the start, up to the stored one, was added. A replay stores the largest block
of a chunk once every log up to the chunk's end is handled, as it started at the
stored block. So replays keep the cursor sound, whatever fails in them and whatever
runs beside them. A live batch stores its largest block without knowing what came
before it, and is the only thread that can skip logs.
-/

namespace LiquidationBot

namespace EventDrivenWatchlist

open Async

/-- What a thread knows: up to which block logs are handled, a fetched range with
its end that is still to be handled, and the last one that it has handled. -/
structure WatchlistPhase where
  upTo : Nat
  fetched : Option (Nat × List WatchedLog)
  batch : List WatchedLog
deriving DecidableEq

namespace WatchlistPhase

/-- A thread that has made no turn. -/
def start : WatchlistPhase := ⟨0, none, []⟩

/-- The phase after an answered turn. A replay fetches ranges that leave no gap, and
stores the largest block of what it has handled last. -/
def next (phase : WatchlistPhase) : (op : WatchlistOp) → op.Answer → Option WatchlistPhase
  | .load, .ok lastBlock => if phase = start then some { start with upTo := lastBlock } else none
  | .getLogs fromBlock toBlock, .ok logs =>
      if fromBlock ≤ phase.upTo + 1 then
        if logs = [] then some { phase with upTo := max phase.upTo toBlock, fetched := none }
        else some { phase with fetched := some (toBlock, logs) }
      else none
  | .add false logs, _ =>
      match phase.fetched with
      | some (toBlock, held) =>
          if logs = held then some ⟨max phase.upTo toBlock, none, logs⟩ else none
      | none => none
  | .save false blockNumber, _ => if blockNumber = maxBlock phase.batch then some phase else none
  | _, _ => some phase

end WatchlistPhase

open WatchlistPhase

variable {config : EventDrivenWatchlistConfig} {phase : WatchlistPhase}

section Conforms

variable {α β : Type} {accept : WatchlistPhase → Except WatchlistError α → Prop}

theorem conforms_orFail {op : WatchlistOp} {read : op.Answer → Except WatchlistError α} :
    Conforms next accept phase (orFail op read) ↔
      ∀ answer, ∃ after, next phase op answer = some after ∧ accept after (read answer) := by
  have thrown : ∀ (after : WatchlistPhase) (outcome : Except WatchlistError α),
      Conforms next accept after (orThrow outcome) ↔ accept after outcome := by
    rintro after (error | value)
    · exact Iff.rfl
    · exact Iff.rfl
  simp only [orFail, perform, call_bind, pure_bind, conforms_call, thrown]

/-- A turn that leaves the phase, in front of more. -/
theorem conforms_orFail_bind {op : WatchlistOp} {read : op.Answer → Except WatchlistError β}
    {rest : β → WatchlistProgram α} (kept : ∀ answer, next phase op answer = some phase)
    (failed : ∀ error, accept phase (.error error))
    (continues : ∀ value, Conforms next accept phase (rest value)) :
    Conforms next accept phase ((orFail op read).bind rest) := by
  rw [conforms_bind, conforms_orFail]
  refine fun answer => ⟨phase, kept answer, ?_⟩
  cases read answer with
  | error error => exact failed error
  | ok value => exact continues value

end Conforms

/-- A live batch may do as it likes. -/
theorem handleLogs_conforms_live (logs : List WatchedLog) :
    Conforms next (fun _ _ => True) phase (handleLogs config true logs) := by
  unfold handleLogs
  split
  · trivial
  · refine conforms_orFail_bind (fun _ => rfl) (fun _ => trivial) (fun head => ?_)
    refine fun _ => ⟨phase, rfl, ?_⟩
    dsimp only
    split
    · refine conforms_orFail_bind (fun _ => rfl) (fun _ => trivial) (fun _ => ?_)
      exact conforms_orFail.mpr (fun _ => ⟨phase, rfl, trivial⟩)
    · exact conforms_orFail.mpr (fun _ => ⟨phase, rfl, trivial⟩)

/-- The thread knows no less than before, and everything up to a block if it ends
without an exception. -/
def Reaches (before : WatchlistPhase) (toBlock : Nat) (after : WatchlistPhase)
    (result : Except WatchlistError Unit) : Prop :=
  before.upTo ≤ after.upTo ∧ (result = .ok () → toBlock ≤ after.upTo)

/-- A fetched range is handled. -/
theorem handleLogs_conforms {logs : List WatchedLog} {toBlock : Nat} (some_logs : logs ≠ [])
    (held : phase.fetched = some (toBlock, logs)) :
    Conforms next (Reaches phase toBlock) phase (handleLogs config false logs) := by
  have nonempty : logs.isEmpty = false := by
    simpa using some_logs
  have added : next phase (.add false logs) () =
      some ⟨max phase.upTo toBlock, none, logs⟩ := by
    simp [next, held]
  have reaches : ∀ result, Reaches phase toBlock ⟨max phase.upTo toBlock, none, logs⟩ result :=
    fun _ => ⟨le_max_left _ _, fun _ => le_max_right _ _⟩
  rw [handleLogs, nonempty, if_neg (by simp)]
  refine conforms_orFail_bind (fun _ => rfl) (fun _ => ⟨le_refl _, fun failed => by cases failed⟩)
    (fun head => ?_)
  refine fun _ => ⟨_, added, ?_⟩
  dsimp only
  split
  · refine conforms_orFail_bind (fun _ => if_pos rfl) (fun _ => reaches _) (fun _ => ?_)
    exact conforms_orFail.mpr (fun _ => ⟨_, rfl, reaches _⟩)
  · exact conforms_orFail.mpr (fun _ => ⟨_, rfl, reaches _⟩)

theorem fetchRange_conforms {fromBlock toBlock : Nat} (next_block : fromBlock ≤ phase.upTo + 1) :
    Conforms next (Reaches phase toBlock) phase (fetchRange config fromBlock toBlock) := by
  rw [fetchRange, bind_eq, conforms_bind, conforms_orFail]
  rintro (error | logs)
  · exact ⟨phase, rfl, le_refl _, fun failed => by cases failed⟩
  · cases logs with
    | nil =>
      refine ⟨{ phase with upTo := max phase.upTo toBlock, fetched := none },
        by simp [next, next_block], ?_⟩
      exact ⟨le_max_left _ _, fun _ => le_max_right _ _⟩
    | cons log rest =>
      refine ⟨{ phase with fetched := some (toBlock, log :: rest) }, by simp [next, next_block], ?_⟩
      exact handleLogs_conforms (List.cons_ne_nil log rest) rfl

theorem Reaches.after {before middle after : WatchlistPhase} {toBlock : Nat}
    {result : Except WatchlistError Unit} (grows : before.upTo ≤ middle.upTo)
    (reaches : Reaches middle toBlock after result) : Reaches before toBlock after result :=
  ⟨grows.trans reaches.1, reaches.2⟩

/-- One attempt, before those that are left. -/
theorem attempt_conforms {fromBlock toBlock left : Nat} {halves : WatchlistProgram Unit}
    (halved : fromBlock < toBlock → ∀ phase : WatchlistPhase, fromBlock ≤ phase.upTo + 1 →
      Conforms next (Reaches phase toBlock) phase halves)
    (retried : left ≠ 0 → ∀ phase : WatchlistPhase, fromBlock ≤ phase.upTo + 1 →
      Conforms next (Reaches phase toBlock) phase
        (attempts config fromBlock toBlock halves left))
    (next_block : fromBlock ≤ phase.upTo + 1) :
    Conforms next (Reaches phase toBlock) phase
      (attempts config fromBlock toBlock halves (left + 1)) := by
  rw [attempts, bind_eq, conforms_bind, conforms_attempt]
  refine (fetchRange_conforms next_block).mono ?_
  rintro after (error | value) ⟨grows, reached⟩
  · dsimp only
    split
    next shrinks =>
      exact (halved shrinks.2 after (by omega)).mono (fun _ _ reaches => reaches.after grows)
    next =>
      split
      · exact ⟨grows, fun failed => by cases failed⟩
      next more =>
        exact (retried more after (by omega)).mono (fun _ _ reaches => reaches.after grows)
  · exact ⟨grows, reached⟩

/-- Induct on the attempts that are left; a failed one loses nothing. -/
theorem attempts_conforms {fromBlock toBlock : Nat} {halves : WatchlistProgram Unit}
    (halved : fromBlock < toBlock → ∀ phase : WatchlistPhase, fromBlock ≤ phase.upTo + 1 →
      Conforms next (Reaches phase toBlock) phase halves) (left : Nat) {phase : WatchlistPhase}
    (next_block : fromBlock ≤ phase.upTo + 1) :
    Conforms next (Reaches phase toBlock) phase
      (attempts config fromBlock toBlock halves (left + 1)) := by
  induction left generalizing phase with
  | zero => exact attempt_conforms halved (fun none => absurd rfl none) next_block
  | succ left inductionHypothesis =>
    exact attempt_conforms halved (fun _ _ here => inductionHypothesis here) next_block

/-- Induct on the halvings; the right half begins after the left one. -/
theorem fetchChunkWithBackoff_conforms (depth : Nat) {fromBlock toBlock : Nat}
    (enough : toBlock - fromBlock ≤ depth) {phase : WatchlistPhase}
    (next_block : fromBlock ≤ phase.upTo + 1) :
    Conforms next (Reaches phase toBlock) phase
      (fetchChunkWithBackoff config depth fromBlock toBlock) := by
  induction depth generalizing fromBlock toBlock phase with
  | zero => exact attempts_conforms (fun longer => absurd longer (by omega)) 4 next_block
  | succ depth inductionHypothesis =>
    refine attempts_conforms (fun longer before here => ?_) 4 next_block
    rw [bind_eq, conforms_bind]
    refine (inductionHypothesis (by omega) here).mono ?_
    rintro middle (error | value) ⟨grows, reached⟩
    · exact ⟨grows, fun failed => by cases failed⟩
    · have left := reached rfl
      exact (inductionHypothesis (by omega) (by omega)).mono
        (fun _ _ reaches => reaches.after grows)

theorem chunkEnd_cases (config : EventDrivenWatchlistConfig) (safeHead fromBlock : Nat) :
    chunkEnd config safeHead fromBlock + 1 = fromBlock + config.gapChunkBlocks ∨
      chunkEnd config safeHead fromBlock = safeHead ∧
        safeHead < fromBlock + config.gapChunkBlocks := by
  have positive := config.chunk_pos
  unfold chunkEnd
  split <;> omega

/-- Chunk after chunk, without a gap. -/
theorem replayChunks_conforms (safeHead rounds : Nat) {fromBlock : Nat} {phase : WatchlistPhase}
    (next_block : fromBlock ≤ safeHead → fromBlock ≤ phase.upTo + 1) :
    Conforms next (fun _ _ => True) phase (replayChunks config safeHead rounds fromBlock) := by
  induction rounds generalizing fromBlock phase with
  | zero => trivial
  | succ rounds inductionHypothesis =>
    rw [replayChunks]
    split
    next inside =>
      dsimp only
      rw [bind_eq, conforms_bind]
      refine (fetchChunkWithBackoff_conforms _ (le_refl _) (next_block inside)).mono ?_
      rintro after (error | value) ⟨_, reached⟩
      · trivial
      · have handled := reached rfl
        refine inductionHypothesis (fun within => ?_)
        rcases chunkEnd_cases config safeHead fromBlock with full | ⟨_, last⟩ <;> omega
    next => trivial

theorem replayGap_conforms :
    Conforms next (fun _ _ => True) phase (replayGap config phase.upTo) := by
  unfold replayGap
  refine fun free => ⟨phase, rfl, ?_⟩
  simp only [pure_bind]
  split
  · rw [bind_eq, conforms_bind, conforms_attempt]
    have replayed : Conforms next (fun _ _ => True) phase (replayBlocks config phase.upTo) := by
      refine conforms_orFail_bind (fun _ => rfl) (fun _ => trivial) (fun head => ?_)
      dsimp only
      split
      · trivial
      · exact replayChunks_conforms _ _ (fun _ => le_refl _)
    refine replayed.mono (fun after result _ => ?_)
    refine fun _ => ⟨after, rfl, ?_⟩
    cases result with
    | error error => trivial
    | ok value => trivial
  · trivial

/-- Whatever runs follows the protocol. -/
theorem Watches.conforms {program : WatchlistProgram Unit} (watches : Watches config program) :
    Conforms next (fun _ _ => True) start program := by
  cases watches with
  | live logs => exact handleLogs_conforms_live logs
  | replay =>
    rw [replayGapFromCursor, bind_eq, conforms_bind, conforms_orFail]
    rintro (error | lastBlock)
    · exact ⟨start, rfl, trivial⟩
    · exact ⟨{ start with upTo := lastBlock }, rfl, replayGap_conforms⟩

/-! ## Soundness -/

variable {chain : WatchedChain} {cursor : Nat}

/-- Every watched log after the block loaded at the start, up to this one, has been
handled. -/
def Handled (chain : WatchedChain) (cursor : Nat) (world : WatchlistWorld) (upTo : Nat) : Prop :=
  ∀ number, cursor < number → number ≤ upTo → ∀ log ∈ chain.logs number, log ∈ world.handled

/-- The borrower of every such log was added to the watchlist. -/
def Sound (chain : WatchedChain) (cursor : Nat) (world : WatchlistWorld) : Prop :=
  ∀ number, cursor < number → number ≤ world.cursor → ∀ log ∈ chain.logs number,
    ∀ borrower, log.extractBorrowerFromLog = some borrower →
      borrower.toLowerCase ∈ world.watchlist.everAdded

/-- Only replays and live batches are started. A live batch stores a block only when
every watched log between the stored block and this one has been handled. -/
structure CompleteTurn (config : EventDrivenWatchlistConfig) (chain : WatchedChain) (cursor : Nat)
    (before : WatchlistPool) (act : WatchlistAct) : Prop where
  watches : ∀ program, act = .start program → Watches config program
  complete : ∀ index turn, act = .run index turn → turn.stores = true →
    ∀ blockNumber resume log,
      before.threads[index]? = some ⟨.call (.save true blockNumber) resume, log⟩ →
        ∀ number, cursor < number → before.shared.cursor < number → number ≤ blockNumber →
          ∀ watched ∈ chain.logs number, watched ∈ before.shared.handled

/-- The stored block is one up to which logs are handled, and handled logs have had
their borrowers added. -/
structure Kept (chain : WatchedChain) (cursor : Nat) (world : WatchlistWorld) : Prop where
  stored : Handled chain cursor world world.cursor
  added : ∀ log ∈ world.handled, 0 < log.block → ∀ borrower,
    log.extractBorrowerFromLog = some borrower →
      borrower.toLowerCase ∈ world.watchlist.everAdded

/-- What a thread knows is so. -/
structure Knows (chain : WatchedChain) (cursor : Nat) (world : WatchlistWorld)
    (phase : WatchlistPhase) : Prop where
  upTo : Handled chain cursor world phase.upTo
  fetched : ∀ toBlock logs, phase.fetched = some (toBlock, logs) →
    ∃ fromBlock, fromBlock ≤ phase.upTo + 1 ∧ logs = chain.range fromBlock toBlock
  batch : ∀ log ∈ phase.batch, log.block ≤ phase.upTo

theorem Handled.later {before after : WatchlistWorld} {upTo : Nat}
    (handled : Handled chain cursor before upTo)
    (later : ∀ log ∈ before.handled, log ∈ after.handled) : Handled chain cursor after upTo :=
  fun number after_start within log member =>
    later log (handled number after_start within log member)

theorem Knows.later {before after : WatchlistWorld} {phase : WatchlistPhase}
    (knows : Knows chain cursor before phase)
    (later : ∀ log ∈ before.handled, log ∈ after.handled) : Knows chain cursor after phase :=
  ⟨knows.upTo.later later, knows.fetched, knows.batch⟩

theorem handled_zero (world : WatchlistWorld) : Handled chain cursor world 0 := by
  intro number after_start within
  omega

theorem knows_start (world : WatchlistWorld) : Knows chain cursor world .start :=
  ⟨handled_zero world, by simp [start], by simp [start]⟩

theorem kept_initial : Kept chain cursor (.initial cursor) where
  stored := by
    intro number after_start within
    exact absurd within (Nat.not_le.mpr after_start)
  added := by simp [WatchlistWorld.initial]

theorem mem_range (chain : WatchedChain) (fromBlock toBlock : Nat) (log : WatchedLog) :
    log ∈ chain.range fromBlock toBlock ↔
      ∃ number, fromBlock ≤ number ∧ number ≤ toBlock ∧ log ∈ chain.logs number := by
  rw [WatchedChain.range, List.mem_flatMap]
  constructor
  · rintro ⟨number, inside, member⟩
    rw [List.mem_range'_1] at inside
    exact ⟨number, inside.1, by omega, member⟩
  · rintro ⟨number, above, below, member⟩
    exact ⟨number, by rw [List.mem_range'_1]; omega, member⟩

/-- A range that leaves no gap extends what is handled. -/
theorem Handled.extend {world after : WatchlistWorld} {upTo fromBlock toBlock : Nat}
    (handled : Handled chain cursor world upTo) (next_block : fromBlock ≤ upTo + 1)
    (later : ∀ log ∈ world.handled, log ∈ after.handled)
    (range : ∀ log ∈ chain.range fromBlock toBlock, log ∈ after.handled) :
    Handled chain cursor after (max upTo toBlock) := by
  intro number after_start within log member
  by_cases known : number ≤ upTo
  · exact later log (handled number after_start known log member)
  · refine range log ((mem_range chain fromBlock toBlock log).mpr ⟨number, by omega, ?_, member⟩)
    rcases le_max_iff.mp within with less | less
    · exact absurd less known
    · exact less

theorem maxBlock_le {logs : List WatchedLog} {bound : Nat}
    (inside : ∀ log ∈ logs, log.block ≤ bound) : maxBlock logs ≤ bound := by
  have general : ∀ (logs : List WatchedLog) (largest : Nat), largest ≤ bound →
      (∀ log ∈ logs, log.block ≤ bound) →
      logs.foldl (fun largest log => if log.block > largest then log.block else largest) largest ≤
        bound := by
    intro logs
    induction logs with
    | nil => exact fun _ less _ => less
    | cons log rest inductionHypothesis =>
      intro largest less inside
      refine inductionHypothesis _ ?_
        (fun other member => inside other (List.mem_cons_of_mem _ member))
      dsimp only
      split
      · exact inside log List.mem_cons_self
      · exact less
  exact general logs 0 (Nat.zero_le _) inside

/-- Logs of a range are in it. -/
theorem block_le_of_mem_range {fromBlock toBlock : Nat} {log : WatchedLog}
    (member : log ∈ chain.range fromBlock toBlock) : log.block ≤ toBlock := by
  obtain ⟨number, _, below, listed⟩ := (mem_range chain fromBlock toBlock log).mp member
  rw [WatchedLog.block, chain.numbered number log listed]
  exact below

theorem everAdded_add (watchlist : BoundedWatchlist) (address : Address) (blockNumber : Nat) :
    (watchlist.add address blockNumber).everAdded =
      watchlist.everAdded ++ [address.toLowerCase] := by
  unfold BoundedWatchlist.add
  dsimp only
  split <;> rfl

/-- Keys stay, and the borrowers of logs that are not pending are put in. -/
theorem everAdded_addLog (watchlist : BoundedWatchlist) (log : WatchedLog) :
    (∀ key ∈ watchlist.everAdded, key ∈ (addLog watchlist log).everAdded) ∧
      (0 < log.block → ∀ borrower, log.extractBorrowerFromLog = some borrower →
        borrower.toLowerCase ∈ (addLog watchlist log).everAdded) := by
  unfold addLog
  cases extracted : log.extractBorrowerFromLog with
  | none => simp
  | some user =>
    dsimp only
    split
    · rw [everAdded_add]
      refine ⟨fun key member => List.mem_append_left _ member, fun _ borrower same => ?_⟩
      cases same
      exact List.mem_append_right _ (List.mem_singleton_self _)
    next pending => exact ⟨fun _ member => member, fun positive => absurd positive pending⟩

theorem everAdded_foldl (logs : List WatchedLog) (watchlist : BoundedWatchlist) :
    (∀ key ∈ watchlist.everAdded, key ∈ (logs.foldl addLog watchlist).everAdded) ∧
      ∀ log ∈ logs, 0 < log.block → ∀ borrower, log.extractBorrowerFromLog = some borrower →
        borrower.toLowerCase ∈ (logs.foldl addLog watchlist).everAdded := by
  induction logs generalizing watchlist with
  | nil => simp
  | cons log rest inductionHypothesis =>
    obtain ⟨stays, puts⟩ := everAdded_addLog watchlist log
    obtain ⟨later, others⟩ := inductionHypothesis (addLog watchlist log)
    refine ⟨fun key member => later key (stays key member),
      fun other member positive borrower same => ?_⟩
    rcases List.mem_cons.mp member with rfl | tail
    · exact later _ (puts positive borrower same)
    · exact others other tail positive borrower same

/-- The log of what was handled only grows. -/
theorem handled_serve {turn : WatchlistTurn} {world after : WatchlistWorld} {op : WatchlistOp}
    {answer : op.Answer} (served : serve chain turn world op = some (after, answer)) :
    ∀ log ∈ world.handled, log ∈ after.handled := by
  intro log member
  cases op with
  | add live logs =>
    cases served
    exact List.mem_append_left _ member
  | save live blockNumber =>
    cases served
    split <;> exact member
  | _ =>
    cases served
    exact member

/-- The turns on the watchlist and its cursor keep them sound. Only a live store
needs the run's condition. -/
theorem kept_serve {turn : WatchlistTurn} {world after : WatchlistWorld} {op : WatchlistOp}
    {answer : op.Answer} {moved : WatchlistPhase}
    (served : serve chain turn world op = some (after, answer))
    (allowed : next phase op answer = some moved)
    (complete : ∀ blockNumber, op = .save true blockNumber → turn.stores = true →
      ∀ number, cursor < number → world.cursor < number → number ≤ blockNumber →
        ∀ log ∈ chain.logs number, log ∈ world.handled)
    (kept : Kept chain cursor world) (knows : Knows chain cursor world phase) :
    Kept chain cursor after := by
  cases op with
  | add live logs =>
    cases served
    obtain ⟨stays, puts⟩ := everAdded_foldl logs world.watchlist
    refine ⟨kept.stored.later (fun log member => List.mem_append_left _ member), ?_⟩
    intro log member positive borrower extracted
    rcases List.mem_append.mp member with earlier | new
    · exact stays _ (kept.added log earlier positive borrower extracted)
    · exact puts log new positive borrower extracted
  | save live blockNumber =>
    cases served
    cases stores : turn.stores with
    | false => exact kept
    | true =>
      refine ⟨?_, kept.added⟩
      cases live with
      | true =>
        intro number after_start within log member
        by_cases stored : number ≤ world.cursor
        · exact kept.stored number after_start stored log member
        · exact complete blockNumber rfl stores number after_start (Nat.not_le.mp stored) within
            log member
      | false =>
        -- A replay stores the largest block of what it has handled.
        obtain ⟨largest, _⟩ := Option.ite_none_right_eq_some.mp allowed
        intro number after_start within log member
        have known : number ≤ phase.upTo :=
          within.trans (largest ▸ maxBlock_le knows.batch)
        exact knows.upTo number after_start known log member
  | _ =>
    cases served
    exact ⟨kept.stored, kept.added⟩

/-- A thread's own turn tells it no more than is so. -/
theorem knows_serve {turn : WatchlistTurn} {world after : WatchlistWorld} {op : WatchlistOp}
    {answer : op.Answer} {moved : WatchlistPhase}
    (served : serve chain turn world op = some (after, answer))
    (allowed : next phase op answer = some moved)
    (kept : Kept chain cursor world) (knows : Knows chain cursor world phase) :
    Knows chain cursor after moved := by
  have later := handled_serve served
  cases op with
  | load =>
    cases served
    cases fails : turn.fails with
    | none =>
      simp only [EventDrivenWatchlist.answer, fails] at allowed
      obtain ⟨_, same⟩ := Option.ite_none_right_eq_some.mp allowed
      cases same
      exact ⟨kept.stored, by simp [start], by simp [start]⟩
    | some error =>
      simp only [EventDrivenWatchlist.answer, fails] at allowed
      cases allowed
      exact knows
  | getLogs fromBlock toBlock =>
    cases served
    cases fails : turn.fails with
    | none =>
      simp only [EventDrivenWatchlist.answer, fails] at allowed
      obtain ⟨next_block, same⟩ := Option.ite_none_right_eq_some.mp allowed
      split at same
      next empty =>
        -- A range without logs is handled by its fetch.
        cases same
        refine ⟨knows.upTo.extend next_block later ?_, by simp, fun log member => ?_⟩
        · simp [empty]
        · exact (knows.batch log member).trans (le_max_left _ _)
      next =>
        cases same
        refine ⟨knows.upTo, ?_, knows.batch⟩
        rintro _ _ held
        cases held
        exact ⟨fromBlock, next_block, rfl⟩
    | some error =>
      simp only [EventDrivenWatchlist.answer, fails] at allowed
      cases allowed
      exact knows
  | add live logs =>
    cases served
    cases live with
    | true =>
      cases allowed
      exact knows.later later
    | false =>
      simp only [next] at allowed
      split at allowed
      next toBlock held fetched =>
        obtain ⟨same, moves⟩ := Option.ite_none_right_eq_some.mp allowed
        subst same
        cases moves
        obtain ⟨fromBlock, next_block, rfl⟩ := knows.fetched toBlock logs fetched
        refine ⟨knows.upTo.extend next_block later ?_, by simp, fun log member => ?_⟩
        · exact fun log member => List.mem_append_right _ member
        · exact (block_le_of_mem_range member).trans (le_max_right _ _)
      next => cases allowed
  | save live blockNumber =>
    cases live with
    | true =>
      cases allowed
      exact knows.later later
    | false =>
      obtain ⟨_, same⟩ := Option.ite_none_right_eq_some.mp allowed
      cases same
      exact knows.later later
  | _ =>
    cases allowed
    exact knows.later later

/-- Two borrowers' logs, in blocks 95 and 105. -/
def twoBorrowers : WatchedChain where
  logs := fun number =>
    if number = 95 then [⟨some 95, some ⟨1, 0⟩, none⟩]
    else if number = 105 then [⟨some 105, some ⟨2, 0⟩, none⟩]
    else []
  numbered := by
    intro number log member
    split at member
    next first =>
      rw [List.mem_singleton.mp member, first]
    next =>
      split at member
      next second => rw [List.mem_singleton.mp member, second]
      next => cases member

def startReplay : WatchlistAct := .start (replayGapFromCursor {})

/-- The live batch of the second borrower. -/
def secondBatch : WatchlistAct := .start (handleLogs {} true (twoBorrowers.logs 105))

def headAt (head : Nat) : WatchlistTurn := { head := head }

/-- Every watched log between the stored block and the one that a live batch is
about to store has been handled. -/
def completeTest (pool : WatchlistPool) : WatchlistAct → Bool
  | .start _ => true
  | .run index _ =>
      match pool.threads[index]? with
      | some ⟨.call (.save true blockNumber) _, _⟩ =>
          (twoBorrowers.range (pool.shared.cursor + 1) blockNumber).all
            (fun log => decide (log ∈ pool.shared.handled))
      | _ => true

theorem complete_of_test {pool : WatchlistPool} {act : WatchlistAct} {cursor : Nat}
    (watches : ∀ program, act = .start program → Watches {} program)
    (passed : completeTest pool act = true) : CompleteTurn {} twoBorrowers cursor pool act := by
  refine ⟨watches, ?_⟩
  rintro index turn rfl _ blockNumber resume log found number _ unstored within watched member
  simp only [completeTest, found] at passed
  refine of_decide_eq_true (List.all_eq_true.mp passed watched ?_)
  exact (mem_range twoBorrowers _ _ watched).mpr ⟨number, unstored, within, member⟩

theorem watches_of_listed {acts : List WatchlistAct}
    (listed : ∀ act ∈ acts, ∀ program, act = .start program → act = startReplay ∨ act = secondBatch) :
    ∀ act ∈ acts, ∀ program, act = .start program → Watches {} program := by
  intro act member program started
  rcases listed act member program started with same | same
  · rw [same] at started
    cases started
    exact .replay
  · rw [same] at started
    cases started
    exact .live _

/-- A replay up to block 100 stores 95; once block 105 is deep, its batch stores it. -/
def replayThenLive : List WatchlistAct :=
  startReplay :: List.replicate 9 (.run 0 (headAt 110)) ++
    secondBatch :: List.replicate 4 (.run 1 (headAt 120))

def replayedPool : WatchlistPool :=
  (Pool.execute (serve twoBorrowers) completeTest (Pool.initial (.initial 90))
    replayThenLive).get (by decide +kernel)

/-- The start finds block 90 stored and the head at 100, and replays nothing. The
next batch is of block 105. -/
def startThenLive : List WatchlistAct :=
  startReplay :: List.replicate 4 (.run 0 (headAt 100)) ++
    secondBatch :: List.replicate 4 (.run 1 (headAt 120))

def skippedPool : WatchlistPool :=
  (Pool.execute (serve twoBorrowers) (fun _ _ => true) (Pool.initial (.initial 90))
    startThenLive).get (by decide +kernel)

end EventDrivenWatchlist

end LiquidationBot
