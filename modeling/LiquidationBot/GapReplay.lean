import LiquidationBot.Library.AsyncRuns
import LiquidationBot.Library.Tiles
import LiquidationBot.WatchlistCursor
import Mathlib.Tactic.Ring

/-!
# The ranges of a gap replay

A replay cuts the blocks after the cursor into chunks, and a chunk whose answer is
too large into halves, again and again. A range is handled when its logs were
fetched and their handling did not throw; a range that fails is tried again or
halved, and was not handled. So in a replay that returns, the ranges that were
handled tile the blocks from the cursor to the safe head.
-/

namespace LiquidationBot

namespace EventDrivenWatchlist

open Async Tiles

abbrev WatchlistEvent := Event WatchlistOp WatchlistOp.Answer

/-! ## The recursion without a bound -/

/-- `fetchChunkWithBackoff`, with as many halvings as it needs. -/
def fetchChunk (config : EventDrivenWatchlistConfig) (fromBlock toBlock : Nat) :
    WatchlistProgram Unit :=
  fetchChunkWithBackoff config (toBlock - fromBlock) fromBlock toBlock

theorem fetchChunkWithBackoff_enough (config : EventDrivenWatchlistConfig) {depth fromBlock toBlock : Nat}
    (enough : toBlock - fromBlock ≤ depth) :
    fetchChunkWithBackoff config depth fromBlock toBlock = fetchChunk config fromBlock toBlock := by
  obtain ⟨more, rfl⟩ := Nat.exists_eq_add_of_le enough
  induction more with
  | zero => rfl
  | succ more inductionHypothesis =>
    exact (fetchChunkWithBackoff_deeper config (Nat.le_add_right _ more)).trans
      (inductionHypothesis (Nat.le_add_right _ more))

/-- A chunk calls itself on its halves, as the source has it. -/
theorem fetchChunk_eq (config : EventDrivenWatchlistConfig) (fromBlock toBlock : Nat) :
    fetchChunk config fromBlock toBlock =
      attempts config fromBlock toBlock
        ((fetchChunk config fromBlock (fromBlock + (toBlock - fromBlock) / 2)).bind (fun _ =>
          fetchChunk config (fromBlock + (toBlock - fromBlock) / 2 + 1) toBlock)) MAX_RETRIES := by
  have whole := fetchChunkWithBackoff_enough config (Nat.le_succ (toBlock - fromBlock))
  have left : fetchChunkWithBackoff config (toBlock - fromBlock) fromBlock
      (fromBlock + (toBlock - fromBlock) / 2) =
        fetchChunk config fromBlock (fromBlock + (toBlock - fromBlock) / 2) :=
    fetchChunkWithBackoff_enough config (by omega)
  have right : fetchChunkWithBackoff config (toBlock - fromBlock)
      (fromBlock + (toBlock - fromBlock) / 2 + 1) toBlock =
        fetchChunk config (fromBlock + (toBlock - fromBlock) / 2 + 1) toBlock :=
    fetchChunkWithBackoff_enough config (by omega)
  rw [← whole, ← left, ← right]
  rfl

/-! ## The ranges that were handled -/

/-- A range whose logs are fetched and still to be handled, and the ranges handled. -/
structure Handling where
  fetched : Option (Nat × Nat)
  handled : List (Nat × Nat)

/-- An answered call: a range without logs is handled at once, another one when the
handling of its logs has come to its end, and an exception loses it. -/
def Handling.note (handling : Handling) : WatchlistEvent → Handling
  | ⟨.getLogs fromBlock toBlock, .ok []⟩ => ⟨none, handling.handled ++ [(fromBlock, toBlock)]⟩
  | ⟨.getLogs fromBlock toBlock, .ok (_ :: _)⟩ => { handling with fetched := some (fromBlock, toBlock) }
  | ⟨.onActivity _, .ok _⟩ => ⟨none, handling.handled ++ handling.fetched.toList⟩
  | ⟨.getLogs _ _, .error _⟩ => { handling with fetched := none }
  | ⟨.getBlockNumber, .error _⟩ => { handling with fetched := none }
  | ⟨.save _ _, .error _⟩ => { handling with fetched := none }
  | ⟨.onActivity _, .error _⟩ => { handling with fetched := none }
  | _ => handling

/-- The ranges handled in recorded calls, in order. -/
def handledRanges (events : List WatchlistEvent) : List (Nat × Nat) :=
  (events.foldl Handling.note ⟨none, []⟩).handled

/-- The calls handle these ranges, and leave none to be handled. -/
def Handles (events : List WatchlistEvent) (ranges : List (Nat × Nat)) : Prop :=
  ∀ before, events.foldl Handling.note ⟨none, before⟩ = ⟨none, before ++ ranges⟩

theorem Handles.append {earlier later : List WatchlistEvent} {ranges more : List (Nat × Nat)}
    (first : Handles earlier ranges) (second : Handles later more) :
    Handles (earlier ++ later) (ranges ++ more) := by
  intro before
  rw [List.foldl_append, first, second, List.append_assoc]

theorem Handles.handledRanges_eq {events : List WatchlistEvent} {ranges : List (Nat × Nat)}
    (handles : Handles events ranges) : handledRanges events = ranges := by
  rw [handledRanges, handles]
  rfl

theorem handles_nil : Handles [] [] := fun before => by rw [List.append_nil]; rfl

section Runs

variable {config : EventDrivenWatchlistConfig} {events : List WatchlistEvent}
  {result : Except WatchlistError Unit} {fromBlock toBlock : Nat}

theorem runs_orFail_bind {α β : Type} {op : WatchlistOp} {read : op.Answer → Except WatchlistError α}
    {rest : α → WatchlistProgram β} {ended : Except WatchlistError β} :
    Runs ((orFail op read).bind rest) events ended ↔
      ∃ answer, (∃ error, read answer = .error error ∧ events = [⟨op, answer⟩] ∧
          ended = .error error) ∨
        ∃ value later, read answer = .ok value ∧ events = ⟨op, answer⟩ :: later ∧
          Runs (rest value) later ended := by
  have unfolded : (orFail op read).bind rest =
      .call op (fun answer => (orThrow (read answer)).bind rest) := rfl
  rw [unfolded, runs_call]
  refine exists_congr (fun answer => ?_)
  cases read answer with
  | error error =>
    simp only [orThrow, throw_bind, runs_throw]
    constructor
    · rintro ⟨later, rfl, rfl, rfl⟩
      exact Or.inl ⟨error, rfl, rfl, rfl⟩
    · rintro (⟨_, ⟨⟩, rfl, rfl⟩ | ⟨_, _, ⟨⟩, _⟩)
      exact ⟨[], rfl, rfl, rfl⟩
  | ok value =>
    simp only [orThrow, pure_bind]
    constructor
    · rintro ⟨later, rfl, run⟩
      exact Or.inr ⟨value, later, rfl, rfl, run⟩
    · rintro (⟨_, ⟨⟩, _⟩ | ⟨_, later, ⟨⟩, rfl, run⟩)
      exact ⟨later, rfl, run⟩

/-- A last call whose exception goes on. -/
theorem runs_orFail {α : Type} {op : WatchlistOp} {read : op.Answer → Except WatchlistError α}
    {ended : Except WatchlistError α} :
    Runs (orFail op read) events ended ↔ ∃ answer, events = [⟨op, answer⟩] ∧ ended = read answer := by
  have unfolded : orFail op read = .call op (fun answer => orThrow (read answer)) := rfl
  rw [unfolded, runs_call]
  refine exists_congr (fun answer => ?_)
  simp only [runs_orThrow]
  constructor
  · rintro ⟨later, rfl, rfl, rfl⟩
    exact ⟨rfl, rfl⟩
  · rintro ⟨rfl, rfl⟩
    exact ⟨[], rfl, rfl, rfl⟩

/-- The range, if what was done with it did not throw. -/
def unlessThrown (range : Nat × Nat) : Except WatchlistError Unit → List (Nat × Nat)
  | .ok _ => [range]
  | .error _ => []

/-- The end of a batch: its last call decides whether the range was handled. -/
theorem note_onActivity {touched : List Address} {range : Nat × Nat} {before : List (Nat × Nat)}
    (run : Runs (orFail (.onActivity touched) id) events result) :
    events.foldl Handling.note ⟨some range, before⟩ =
      ⟨none, before ++ unlessThrown range result⟩ := by
  obtain ⟨error | value, rfl, rfl⟩ := runs_orFail.mp run
  · exact congrArg _ (List.append_nil before).symm
  · rfl

/-- Fetched logs are handled, unless their handling throws. -/
theorem handleLogs_note {logs : List WatchedLog} (some_logs : logs ≠ []) {range : Nat × Nat}
    {before : List (Nat × Nat)} (run : Runs (handleLogs config false logs) events result) :
    events.foldl Handling.note ⟨some range, before⟩ =
      ⟨none, before ++ unlessThrown range result⟩ := by
  rw [handleLogs, if_neg (by simpa using some_logs), bind_eq] at run
  obtain ⟨answer, ⟨error, failed, rfl, rfl⟩ | ⟨head, later, read, rfl, adding⟩⟩ :=
    runs_orFail_bind.mp run
  · cases failed
    exact congrArg _ (List.append_nil before).symm
  · cases read
    obtain ⟨_, rest, rfl, storing⟩ := runs_call.mp adding
    dsimp only at storing
    split at storing
    next =>
      rw [bind_eq] at storing
      obtain ⟨answer, ⟨error, failed, rfl, rfl⟩ | ⟨stored, last, read, rfl, ending⟩⟩ :=
        runs_orFail_bind.mp storing
      · cases failed
        exact congrArg _ (List.append_nil before).symm
      · cases read
        show last.foldl Handling.note ⟨some range, before⟩ = _
        exact note_onActivity ending
    next =>
      show rest.foldl Handling.note ⟨some range, before⟩ = _
      exact note_onActivity storing

/-- A range is handled exactly by an attempt that does not throw. -/
theorem fetchRange_handles (run : Runs (fetchRange config fromBlock toBlock) events result) :
    Handles events (unlessThrown (fromBlock, toBlock) result) := by
  intro before
  rw [fetchRange, bind_eq] at run
  obtain ⟨answer, ⟨error, failed, rfl, rfl⟩ | ⟨logs, later, read, rfl, handling⟩⟩ :=
    runs_orFail_bind.mp run
  · cases failed
    exact congrArg _ (List.append_nil before).symm
  · cases read
    cases logs with
    | nil =>
      obtain ⟨rfl, rfl⟩ := runs_pure.mp handling
      rfl
    | cons log rest =>
      show later.foldl Handling.note ⟨some (fromBlock, toBlock), before⟩ = _
      exact handleLogs_note (List.cons_ne_nil log rest) handling

/-- The calls handle ranges that tile the blocks from one up to another. -/
def TilesBlocks (events : List WatchlistEvent) (fromBlock toBlock : Nat) : Prop :=
  ∃ ranges, Handles events ranges ∧ Tile fromBlock (toBlock + 1) ranges

theorem TilesBlocks.append {earlier later : List WatchlistEvent} {first middle last : Nat}
    (front : TilesBlocks earlier first middle) (back : TilesBlocks later (middle + 1) last) :
    TilesBlocks (earlier ++ later) first last := by
  obtain ⟨ranges, handles, tile⟩ := front
  obtain ⟨more, handlesMore, tileMore⟩ := back
  exact ⟨ranges ++ more, handles.append handlesMore, tile.append tileMore⟩

/-- One attempt, before those that are left: one that throws handles nothing. -/
theorem attempt_tiles {halves : WatchlistProgram Unit} {left : Nat} (order : fromBlock ≤ toBlock)
    (halved : fromBlock < toBlock → ∀ events, Runs halves events (.ok ()) →
      TilesBlocks events fromBlock toBlock)
    (retried : left ≠ 0 → ∀ events, Runs (attempts config fromBlock toBlock halves left) events
      (.ok ()) → TilesBlocks events fromBlock toBlock)
    (run : Runs (attempts config fromBlock toBlock halves (left + 1)) events (.ok ())) :
    TilesBlocks events fromBlock toBlock := by
  rw [attempts, bind_eq, runs_bind] at run
  rcases run with ⟨error, _, impossible⟩ | ⟨fetched, earlier, later, rfl, attempted, going⟩
  · cases impossible
  · obtain ⟨ended, fetching, same⟩ := runs_attempt.mp attempted
    cases same
    have handles := fetchRange_handles fetching
    cases fetched with
    | ok value =>
      obtain ⟨rfl, _⟩ := runs_pure.mp going
      rw [List.append_nil]
      exact ⟨_, handles, tile_singleton order⟩
    | error error =>
      have remaining : TilesBlocks later fromBlock toBlock := by
        dsimp only at going
        split at going
        next shrinks => exact halved shrinks.2 later going
        next =>
          split at going
          · obtain ⟨_, impossible⟩ := runs_throw.mp going
            cases impossible
          next more => exact retried more later going
      obtain ⟨ranges, handlesLater, tile⟩ := remaining
      exact ⟨[] ++ ranges, handles.append handlesLater, tile⟩

/-- Induct on the attempts that are left. -/
theorem attempts_tiles {halves : WatchlistProgram Unit} (order : fromBlock ≤ toBlock)
    (halved : fromBlock < toBlock → ∀ events, Runs halves events (.ok ()) →
      TilesBlocks events fromBlock toBlock) (left : Nat)
    (run : Runs (attempts config fromBlock toBlock halves (left + 1)) events (.ok ())) :
    TilesBlocks events fromBlock toBlock := by
  induction left generalizing events with
  | zero => exact attempt_tiles order halved (fun none => absurd rfl none) run
  | succ left inductionHypothesis =>
    exact attempt_tiles order halved (fun _ _ later => inductionHypothesis later) run

/-- A chunk that returns was handled whole. Induct on its length; the halves are
shorter and meet at their middle. -/
theorem fetchChunk_tiles (order : fromBlock ≤ toBlock)
    (run : Runs (fetchChunk config fromBlock toBlock) events (.ok ())) :
    TilesBlocks events fromBlock toBlock := by
  induction length : toBlock - fromBlock using Nat.strong_induction_on
    generalizing fromBlock toBlock events with
  | _ size inductionHypothesis =>
    subst length
    rw [fetchChunk_eq] at run
    refine attempts_tiles order (fun longer events halves => ?_) 4 run
    rcases runs_bind.mp halves with
      ⟨error, _, impossible⟩ | ⟨_, earlier, later, rfl, left, right⟩
    · cases impossible
    · exact (inductionHypothesis _ (by omega) (by omega) left rfl).append
        (inductionHypothesis _ (by omega) (by omega) right rfl)

theorem replayChunks_beyond {safeHead rounds : Nat} (beyond : safeHead < fromBlock)
    (run : Runs (replayChunks config safeHead rounds fromBlock) events result) : events = [] := by
  cases rounds with
  | zero => exact (runs_pure.mp run).1
  | succ rounds =>
    rw [replayChunks, if_neg (Nat.not_le.mpr beyond)] at run
    exact (runs_pure.mp run).1

/-- Chunk after chunk, up to the safe head. -/
theorem replayChunks_tiles {safeHead rounds : Nat} (within : fromBlock ≤ safeHead + 1)
    (enough : safeHead < fromBlock + rounds)
    (run : Runs (replayChunks config safeHead rounds fromBlock) events (.ok ())) :
    TilesBlocks events fromBlock safeHead := by
  induction rounds generalizing fromBlock events with
  | zero =>
    obtain ⟨rfl, _⟩ := runs_pure.mp run
    exact ⟨[], handles_nil, by rw [Tile]; omega⟩
  | succ rounds inductionHypothesis =>
    rw [replayChunks] at run
    split at run
    next inside =>
      rcases runs_bind.mp run with
        ⟨error, _, impossible⟩ | ⟨_, earlier, later, rfl, chunk, remaining⟩
      · cases impossible
      · have positive := config.chunk_pos
        by_cases more : fromBlock + config.gapChunkBlocks - 1 < safeHead
        · have full : chunkEnd config safeHead fromBlock =
              fromBlock + config.gapChunkBlocks - 1 := if_pos more
          rw [full] at chunk
          refine (fetchChunk_tiles (by omega) chunk).append ?_
          rw [Nat.sub_add_cancel (by omega)]
          exact inductionHypothesis (by omega) (by omega) remaining
        · -- The chunk is cut at the safe head, and the loop is over.
          have cut : chunkEnd config safeHead fromBlock = safeHead := if_neg more
          rw [cut] at chunk
          rcases Nat.lt_or_ge safeHead (fromBlock + config.gapChunkBlocks) with beyond | last
          · rw [replayChunks_beyond beyond remaining, List.append_nil]
            exact fetchChunk_tiles inside chunk
          · omega
    next beyond =>
      obtain ⟨rfl, _⟩ := runs_pure.mp run
      exact ⟨[], handles_nil, by rw [Tile]; omega⟩

/-- A replay that got the flag reads the head, and handles the blocks behind its
cursor up to the safe head, if there are any. -/
theorem replayGap_tiles (positive : 0 < fromBlock)
    (run : Runs (replayGap config fromBlock) (⟨.begin, true⟩ :: events) (.ok ())) :
    ∃ head rest, events = ⟨.getBlockNumber, .ok head⟩ :: rest ∧
      TilesBlocks events (fromBlock + 1) (max fromBlock (safeHead config head)) := by
  obtain ⟨free, later, same, replaying⟩ := runs_call.mp run
  cases same
  rw [pure_bind, if_pos rfl, bind_eq] at replaying
  rcases runs_bind.mp replaying with
    ⟨error, _, impossible⟩ | ⟨replayed, earlier, after, rfl, attempted, ending⟩
  · cases impossible
  · obtain ⟨ended, replayed, same⟩ := runs_attempt.mp attempted
    cases same
    obtain ⟨_, rest, rfl, thrown⟩ := runs_call.mp ending
    obtain ⟨rfl, rfl⟩ := runs_orThrow.mp thrown
    rw [replayBlocks, bind_eq] at replayed
    obtain ⟨answer, ⟨error, _, _, impossible⟩ | ⟨head, later, read, rfl, chunks⟩⟩ :=
      runs_orFail_bind.mp replayed
    · cases impossible
    · cases read
      refine ⟨head, later ++ [⟨.finish, ()⟩], rfl, ?_⟩
      have asked : Handles [⟨.getBlockNumber, .ok head⟩] [] := fun before => by
        rw [List.append_nil]
        rfl
      have finished : Handles [⟨.finish, ()⟩] [] := fun before => by
        rw [List.append_nil]
        rfl
      have blocks : TilesBlocks later (fromBlock + 1) (max fromBlock (safeHead config head)) := by
        dsimp only at chunks
        split at chunks
        next nothing =>
          obtain ⟨rfl, _⟩ := runs_pure.mp chunks
          exact ⟨[], handles_nil, by rw [Tile]; omega⟩
        next ahead =>
          rw [max_eq_right (by omega)]
          exact replayChunks_tiles (by omega) (by omega) chunks
      obtain ⟨ranges, handles, tile⟩ := blocks
      refine ⟨ranges, ?_, tile⟩
      have framed := (asked.append handles).append finished
      rwa [List.nil_append, List.append_nil] at framed

/-! ## The calls of a chunk -/

def asksLogs : WatchlistOp → Bool
  | .getLogs _ _ => true
  | _ => false

/-- The number of times logs were asked for. -/
def fetches (events : List WatchlistEvent) : Nat := events.countP (fun event => asksLogs event.1)

theorem fetches_append (earlier later : List WatchlistEvent) :
    fetches (earlier ++ later) = fetches earlier + fetches later :=
  List.countP_append

theorem uses_orFail {α : Type} {op : WatchlistOp} {read : op.Answer → Except WatchlistError α}
    (silent : asksLogs op = false) : (orFail op read).Uses (fun op => asksLogs op = false) :=
  ⟨silent, fun _ => uses_orThrow _⟩

/-- Handling logs asks for none. -/
theorem handleLogs_uses (live : Bool) (logs : List WatchedLog) :
    (handleLogs config live logs).Uses (fun op => asksLogs op = false) := by
  unfold handleLogs
  split
  · trivial
  · refine (uses_orFail rfl).bind (fun head => ?_)
    refine ⟨rfl, fun _ => ?_⟩
    dsimp only [pure_bind]
    split
    · exact (uses_orFail rfl).bind (fun _ => uses_orFail rfl)
    · exact uses_orFail rfl

/-- An attempt asks once. -/
theorem fetchRange_fetches (run : Runs (fetchRange config fromBlock toBlock) events result) :
    fetches events ≤ 1 := by
  rw [fetchRange, bind_eq] at run
  obtain ⟨answer, ⟨error, _, rfl, _⟩ | ⟨logs, later, _, rfl, handling⟩⟩ := runs_orFail_bind.mp run
  · exact Nat.le_refl 1
  · have silent : fetches later = 0 := by
      apply List.countP_eq_zero.mpr
      intro event member
      rw [(handleLogs_uses false logs).of_run handling event member]
      exact Bool.false_ne_true
    rw [fetches, List.countP_cons, ← fetches, silent]
    exact Nat.le_refl 1

/-- The attempts of a range ask once each, and the halves once at most. -/
theorem attempts_fetches {halves : WatchlistProgram Unit} {bound : Nat}
    (halved : fromBlock < toBlock → ∀ events result, Runs halves events result →
      fetches events ≤ bound) (left : Nat)
    (run : Runs (attempts config fromBlock toBlock halves left) events result) :
    fetches events ≤ left + if fromBlock < toBlock then bound else 0 := by
  induction left generalizing events with
  | zero =>
    obtain ⟨rfl, _⟩ := runs_pure.mp run
    exact Nat.zero_le _
  | succ left inductionHypothesis =>
    rw [attempts, bind_eq, runs_bind] at run
    rcases run with ⟨error, attempted, _⟩ | ⟨fetched, earlier, later, rfl, attempted, going⟩
    · obtain ⟨ended, _, impossible⟩ := runs_attempt.mp attempted
      cases impossible
    · obtain ⟨ended, fetching, same⟩ := runs_attempt.mp attempted
      cases same
      have once := fetchRange_fetches fetching
      rw [fetches_append]
      cases fetched with
      | ok value =>
        obtain ⟨rfl, _⟩ := runs_pure.mp going
        exact Nat.le_trans (Nat.add_le_add once (Nat.le_refl 0)) (by omega)
      | error error =>
        dsimp only at going
        split at going
        next shrinks =>
          have inner := halved shrinks.2 later result going
          rw [if_pos shrinks.2]
          omega
        next =>
          split at going
          · obtain ⟨rfl, _⟩ := runs_throw.mp going
            exact Nat.le_trans (Nat.add_le_add once (Nat.le_refl 0)) (by omega)
          next =>
            have inner := inductionHypothesis going
            omega

/-- A chunk of so many blocks asks at most for each node of its halvings, as often as
it may try. Induct on its length. -/
theorem fetchChunk_fetches (run : Runs (fetchChunk config fromBlock toBlock) events result) :
    fetches events ≤ MAX_RETRIES * (2 * (toBlock - fromBlock) + 1) := by
  induction length : toBlock - fromBlock using Nat.strong_induction_on
    generalizing fromBlock toBlock events result with
  | _ size inductionHypothesis =>
    subst length
    rw [fetchChunk_eq] at run
    have halved : fromBlock < toBlock → ∀ events result,
        Runs ((fetchChunk config fromBlock (fromBlock + (toBlock - fromBlock) / 2)).bind (fun _ =>
          fetchChunk config (fromBlock + (toBlock - fromBlock) / 2 + 1) toBlock)) events result →
        fetches events ≤ MAX_RETRIES * (2 * (toBlock - fromBlock)) := by
      intro longer events result halves
      rcases runs_bind.mp halves with ⟨error, left, _⟩ | ⟨_, earlier, later, rfl, left, right⟩
      · have first := inductionHypothesis _ (by omega) left rfl
        simp only [MAX_RETRIES] at first ⊢
        omega
      · have first := inductionHypothesis _ (by omega) left rfl
        have second := inductionHypothesis _ (by omega) right rfl
        rw [fetches_append]
        simp only [MAX_RETRIES] at first second ⊢
        omega
    have bound := attempts_fetches halved MAX_RETRIES run
    simp only [MAX_RETRIES] at bound ⊢
    split at bound
    · omega
    · omega

end Runs

/-! ## Gap replays -/

/-- The ranges handled by a replay are disjoint, and together they are the blocks
behind the cursor up to the safe head that it has read. -/
def CoversOnce (config : EventDrivenWatchlistConfig) (fromBlock : Nat)
    (events : List WatchlistEvent) : Prop :=
  ∃ head rest, events = ⟨.getBlockNumber, .ok head⟩ :: rest ∧
    (handledRanges events).Pairwise
      (fun first second => ∀ block, ¬ (Covers first block ∧ Covers second block)) ∧
    ∀ block, (∃ range ∈ handledRanges events, Covers range block) ↔
      fromBlock < block ∧ block ≤ safeHead config head

/-- A replay that no other turns away handles every block once, if it returns. The
halving of a chunk, as the source has it, ends whatever its calls answer. -/
theorem gap_replay_covers_once (config : EventDrivenWatchlistConfig) (fromBlock : Nat)
    (positive : 0 < fromBlock) :
    (∀ events, Runs (replayGap config fromBlock) (⟨.begin, true⟩ :: events) (.ok ()) →
      CoversOnce config fromBlock events) ∧
    (∀ lower upper, fetchChunk config lower upper =
      attempts config lower upper ((fetchChunk config lower (lower + (upper - lower) / 2)).bind
        (fun _ => fetchChunk config (lower + (upper - lower) / 2 + 1) upper)) MAX_RETRIES) ∧
    ∀ lower upper pattern, ∃ events result, Runs (fetchChunk config lower upper) events result ∧
      Follows pattern events ∧ fetches events ≤ MAX_RETRIES * (2 * (upper - lower) + 1) := by
  refine ⟨fun events run => ?_, fetchChunk_eq config, fun lower upper pattern => ?_⟩
  · obtain ⟨head, rest, asked, ranges, handles, tile⟩ := replayGap_tiles positive run
    refine ⟨head, rest, asked, ?_, fun block => ?_⟩
    · rw [handles.handledRanges_eq]
      exact tile.disjoint
    · rw [handles.handledRanges_eq, tile.covers_iff]
      omega
  · obtain ⟨events, result, run, follows⟩ := exists_runs pattern (fetchChunk config lower upper)
    exact ⟨events, result, run, follows, fetchChunk_fetches run⟩

/-- The head is at 17, and only single blocks can be fetched. -/
def narrowNode : (op : WatchlistOp) → op.Answer
  | .load => .ok 5
  | .begin => true
  | .finish => ()
  | .getBlockNumber => .ok 17
  | .getLogs fromBlock toBlock =>
      if fromBlock < toBlock then .error ⟨true⟩ else .ok [⟨some toBlock, some ⟨1, 0⟩, none⟩]
  | .add _ _ => ()
  | .save _ _ => .ok ()
  | .onActivity _ => .ok ()

theorem gap_replay_covers_once_halved :
    CoversOnce {} 5 ((replayGap {} 5).trace narrowNode).tail := by
  refine (gap_replay_covers_once {} 5 (by decide)).1 _ ?_
  exact runs_trace narrowNode (replayGap {} 5)

example : handledRanges ((replayGap {} 5).trace narrowNode) = [(6, 6), (7, 7)] := by decide

end EventDrivenWatchlist

end LiquidationBot
