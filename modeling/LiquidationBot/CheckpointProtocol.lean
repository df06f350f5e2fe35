import LiquidationBot.CheckpointWriters

/-!
# What a writer knows

A gap-fill asks for every block from the stored one on, and takes the logs one
after the other. So it knows, after each of its calls, below which block every
pool log is handed out already or is among the logs it has still to handle. It
saves the end of a chunk when none of these is left. The other saves repeat the
block that the writer was called with.
-/

namespace LiquidationBot

open Async Ingestion

variable {Payload : Type}

/-- Below `below` the logs are handed out or among `todo`; `granted` is the block
that the last log, flashblock or flush asks to save. -/
structure CheckpointPhase (Payload : Type) where
  below : Nat
  todo : List (Log Payload)
  granted : Option Nat

namespace CheckpointPhase

/-- A writer that has made no call. -/
def start : CheckpointPhase Payload := ⟨0, [], none⟩

open Classical in
/-- The phase after an answered call. A log of a gap-fill is the next one of its
chunk, and a save is one of the two kinds. -/
noncomputable def next (bootstrapFromBlock : Option Nat) (phase : CheckpointPhase Payload) :
    (op : IngestionOp Payload) → op.Answer → Option (CheckpointPhase Payload)
  | .loadLastProcessedBlock, .ok last =>
      some { phase with below := resumeBlock bootstrapFromBlock last, todo := [] }
  | .getLogs fromBlock toBlock, .ok logs =>
      if fromBlock ≤ phase.below ∧ phase.todo = [] then
        some { phase with below := toBlock + 1, todo := logs }
      else none
  | .handleViemLog log source, handled =>
      if source = .gapFill then
        match phase.todo with
        | [] => none
        | first :: rest =>
            if log = first then some { phase with todo := rest, granted := handled.2 } else none
      else some { phase with granted := handled.2 }
  | .saveLastProcessedBlock blockNumber, _ =>
      if phase.granted = some blockNumber ∨ phase.todo = [] ∧ blockNumber < phase.below then
        some phase
      else none
  | .onFlashblockTick blockNumber, refreshes =>
      some { phase with granted := if refreshes = true then some blockNumber else none }
  | .flushSurvivalState blockNumber, _ =>
      some { phase with granted := if blockNumber > 0 then some blockNumber else none }
  | _, _ => some phase

end CheckpointPhase

open CheckpointPhase

variable {bootstrapFromBlock : Option Nat} {phase : CheckpointPhase Payload}

theorem conforms_ask {α : Type} {op : IngestionOp Payload} {read : op.Answer → α}
    {accept : CheckpointPhase Payload → Except IngestionError α → Prop} :
    Conforms (next bootstrapFromBlock) accept phase (ask op read) ↔
      ∀ answer, ∃ after, next bootstrapFromBlock phase op answer = some after ∧
        accept after (.ok (read answer)) := Iff.rfl

theorem conforms_attemptCall {α : Type} {op : IngestionOp Payload}
    {read : op.Answer → Except IngestionError α}
    {accept : CheckpointPhase Payload → Except IngestionError α → Prop} :
    Conforms (next bootstrapFromBlock) accept phase (attemptCall op read) ↔
      ∀ answer, ∃ after, next bootstrapFromBlock phase op answer = some after ∧
        accept after (read answer) := by
  have thrown : ∀ (after : CheckpointPhase Payload) (outcome : Except IngestionError α),
      Conforms (next bootstrapFromBlock) accept after (orThrow outcome) ↔ accept after outcome := by
    rintro after (error | value)
    · exact Iff.rfl
    · exact Iff.rfl
  simp only [attemptCall, perform, call_bind, pure_bind, conforms_call, thrown]

/-- A save of a block that may be saved. -/
theorem saveLastProcessedBlock_conforms {blockNumber : Nat}
    (known : phase.granted = some blockNumber ∨ phase.todo = [] ∧ blockNumber < phase.below) :
    Conforms (next bootstrapFromBlock) (fun after _ => after = phase) phase
      (saveLastProcessedBlock blockNumber) := by
  refine conforms_attemptCall.mpr (fun answer => ⟨phase, ?_, rfl⟩)
  simp only [next, known, if_true]

theorem awaitEvent_conforms :
    Conforms (next bootstrapFromBlock) (fun after _ => after = phase) phase
      (awaitEvent : Ingestion Payload Unit) :=
  conforms_attemptCall.mpr (fun _ => ⟨phase, rfl, rfl⟩)

theorem handOut_conforms (events : List ParsedIngestionEvent) :
    Conforms (next bootstrapFromBlock) (fun after _ => after = phase) phase
      (handOut events : Ingestion Payload Unit) := by
  induction events with
  | nil => exact rfl
  | cons event rest inductionHypothesis =>
    rw [handOut, bind_eq, conforms_bind, conforms_ask]
    refine fun _ => ⟨phase, rfl, ?_⟩
    dsimp only
    rw [bind_eq, conforms_bind]
    refine awaitEvent_conforms.mono ?_
    rintro after (error | value) rfl
    · rfl
    · exact inductionHypothesis

theorem finishLog_conforms (later : List ParsedIngestionEvent) :
    Conforms (next bootstrapFromBlock) (fun after _ => after = phase) phase
      (finishLog later phase.granted) := by
  unfold finishLog
  rw [bind_eq, conforms_bind]
  refine awaitEvent_conforms.mono ?_
  rintro after (error | value) rfl
  · rfl
  · dsimp only
    rw [bind_eq, conforms_bind]
    refine (handOut_conforms later).mono ?_
    rintro after (error | value) same
    · exact same
    · subst same
      dsimp only
      cases granted : after.granted with
      | none => exact rfl
      | some blockNumber => exact saveLastProcessedBlock_conforms (Or.inl granted)

/-- The handler of a log that is not the gap-fill's. -/
theorem handleViemLog_conforms_live (log : Log Payload) {source : IngestionEventSource}
    (live : source ≠ .gapFill) :
    Conforms (next bootstrapFromBlock) (fun _ _ => True) phase (handleViemLog log source) := by
  rw [handleViemLog, bind_eq, conforms_bind, conforms_ask]
  rintro ⟨events, checkpoint⟩
  refine ⟨{ phase with granted := checkpoint }, by simp only [next, live, if_false], ?_⟩
  dsimp only [id_eq]
  split
  · trivial
  · exact (finishLog_conforms _).mono (fun _ _ _ => trivial)

/-- The handler of the next log of a chunk. -/
theorem handleViemLog_conforms_gapFill {log : Log Payload} {rest : List (Log Payload)}
    (head : phase.todo = log :: rest) :
    Conforms (next bootstrapFromBlock)
      (fun after _ => after.below = phase.below ∧ after.todo = rest) phase
      (handleViemLog log .gapFill) := by
  rw [handleViemLog, bind_eq, conforms_bind, conforms_ask]
  rintro ⟨events, checkpoint⟩
  refine ⟨{ phase with todo := rest, granted := checkpoint }, by simp [next, head], ?_⟩
  dsimp only [id_eq]
  split
  · exact ⟨rfl, rfl⟩
  · refine (finishLog_conforms _).mono ?_
    rintro after _ rfl
    exact ⟨rfl, rfl⟩

theorem handleChunk_conforms (logs : List (Log Payload)) {phase : CheckpointPhase Payload}
    (chunk : phase.todo = logs) :
    Conforms (next bootstrapFromBlock)
      (fun after result => after.below = phase.below ∧ (result = .ok () → after.todo = [])) phase
      (handleChunk logs) := by
  induction logs generalizing phase with
  | nil => exact ⟨rfl, fun _ => chunk⟩
  | cons log rest inductionHypothesis =>
    rw [handleChunk, bind_eq, conforms_bind]
    refine (handleViemLog_conforms_gapFill chunk).mono ?_
    rintro after (error | value) ⟨below, todo⟩
    · exact ⟨below, fun failed => by cases failed⟩
    · refine (inductionHypothesis todo).mono ?_
      rintro final result ⟨stays, empty⟩
      exact ⟨stays.trans below, empty⟩

theorem chunkEnd_or (head chunkFrom : Nat) :
    chunkEnd head chunkFrom + 1 = chunkFrom + DEFAULT_CHUNK ∨
      chunkEnd head chunkFrom = head ∧ head < chunkFrom + DEFAULT_CHUNK := by
  unfold chunkEnd DEFAULT_CHUNK
  split <;> omega

/-- Chunk after chunk from a block below which nothing is outstanding. Enough chunks, all of
them handled, leave nothing up to the head. -/
theorem fillChunks_conforms (head chunks : Nat) {chunkFrom : Nat} {phase : CheckpointPhase Payload}
    (enough : head < chunkFrom + chunks * DEFAULT_CHUNK)
    (from_below : chunkFrom ≤ head → chunkFrom ≤ phase.below)
    (reached : head < chunkFrom → head < phase.below) (none_left : phase.todo = []) :
    Conforms (next bootstrapFromBlock)
      (fun after result => result = .ok () → head < after.below ∧ after.todo = []) phase
      (fillChunks head chunks chunkFrom) := by
  induction chunks generalizing chunkFrom phase with
  | zero => exact fun _ => ⟨reached (by omega), none_left⟩
  | succ chunks inductionHypothesis =>
    rw [fillChunks]
    split
    next inside =>
      rw [bind_eq, conforms_bind, conforms_attemptCall]
      rintro (error | logs)
      · exact ⟨phase, rfl, fun failed => by cases failed⟩
      · refine ⟨{ phase with below := chunkEnd head chunkFrom + 1, todo := logs },
          by simp only [next, from_below inside, none_left, and_self, if_true], ?_⟩
        dsimp only [id_eq]
        rw [bind_eq, conforms_bind]
        refine (handleChunk_conforms logs rfl).mono ?_
        rintro handled (error | value) ⟨below, emptied⟩
        · exact fun failed => by cases failed
        · have empty : handled.todo = [] := emptied rfl
          dsimp only
          rw [bind_eq, conforms_bind]
          refine (saveLastProcessedBlock_conforms (Or.inr ⟨empty, ?_⟩)).mono ?_
          · rw [below]
            exact Nat.lt_succ_self _
          · rintro saved (error | value) rfl
            · exact fun failed => by cases failed
            · have ends := chunkEnd_or head chunkFrom
              rw [Nat.succ_mul] at enough
              refine inductionHypothesis (by omega) (fun within => ?_) (fun beyond => ?_) empty
              · rw [below]
                rcases ends with reached | ⟨_, beyond⟩
                · exact reached.ge
                · exact absurd within (by omega)
              · rw [below]
                dsimp only
                omega
    next outside => exact fun _ => ⟨reached (by omega), none_left⟩

/-- What a gap-fill does once it has read the stored block and the head. -/
theorem fillRange_conforms (bootstrapFromBlock : Option Nat) (last head : Nat) :
    Conforms (next bootstrapFromBlock)
      (fun after result => result = .ok () → head < after.below ∧ after.todo = [])
      ⟨resumeBlock bootstrapFromBlock last, [], none⟩
      (if resumeBlock bootstrapFromBlock last > head then .pure ()
        else fillChunks head (chunkCount (resumeBlock bootstrapFromBlock last) head)
          (resumeBlock bootstrapFromBlock last) : Ingestion Payload Unit) := by
  split
  next beyond => exact fun _ => ⟨beyond, rfl⟩
  next =>
    exact fillChunks_conforms head _ (chunkCount_enough _ head) (fun _ => le_refl _) id rfl

theorem runBootstrapOrGapFill_conforms (bootstrapFromBlock : Option Nat) :
    Conforms (next bootstrapFromBlock) (fun _ _ => True) start
      (runBootstrapOrGapFill bootstrapFromBlock : Ingestion Payload Unit) := by
  rw [runBootstrapOrGapFill, bind_eq, conforms_bind, conforms_attemptCall]
  rintro (error | last)
  · exact ⟨start, rfl, trivial⟩
  · refine ⟨⟨resumeBlock bootstrapFromBlock last, [], none⟩, rfl, ?_⟩
    dsimp only [id_eq]
    rw [bind_eq, conforms_bind, conforms_attemptCall]
    rintro (error | head)
    · exact ⟨_, rfl, trivial⟩
    · exact ⟨_, rfl, (fillRange_conforms bootstrapFromBlock last head).mono (fun _ _ _ => trivial)⟩

theorem handleFlashblockTick_conforms (blockNumber : Nat) :
    Conforms (next bootstrapFromBlock) (fun _ _ => True) phase
      (handleFlashblockTick blockNumber : Ingestion Payload Unit) := by
  rw [handleFlashblockTick, bind_eq, conforms_bind, conforms_ask]
  intro refresh
  refine ⟨_, rfl, ?_⟩
  dsimp only [id_eq]
  split
  next =>
    rw [bind_eq, conforms_bind, conforms_ask]
    refine fun _ => ⟨_, rfl, ?_⟩
    dsimp only
    rw [bind_eq, conforms_bind, conforms_attempt]
    refine (saveLastProcessedBlock_conforms (Or.inl rfl)).mono ?_
    rintro saved result rfl
    dsimp only
    rw [bind_eq, conforms_bind, conforms_ask]
    refine fun _ => ⟨_, rfl, ?_⟩
    cases result with
    | error error => trivial
    | ok value => trivial
  next => trivial

theorem flushSurvivalState_conforms (blockNumber : Nat) :
    Conforms (next bootstrapFromBlock) (fun _ _ => True) phase
      (flushSurvivalState blockNumber : Ingestion Payload Unit) := by
  rw [flushSurvivalState, bind_eq, conforms_bind, conforms_ask]
  refine fun _ => ⟨_, rfl, ?_⟩
  dsimp only
  split
  · exact (saveLastProcessedBlock_conforms (Or.inl rfl)).mono (fun _ _ _ => trivial)
  · trivial

/-- What the process starts: gap-fills at its start and at every connection, and
the handlers of what arrives. -/
inductive Ingests (bootstrapFromBlock : Option Nat) : Ingestion Payload Unit → Prop where
  | gapFill : Ingests bootstrapFromBlock (runBootstrapOrGapFill bootstrapFromBlock)
  | pendingLog (raw : RawLog Payload) : Ingests bootstrapFromBlock (handleRawLog raw .pending)
  | confirmedLog (raw : RawLog Payload) : Ingests bootstrapFromBlock (handleRawLog raw .confirmed)
  | flashblock (blockNumber : Nat) : Ingests bootstrapFromBlock (handleFlashblockTick blockNumber)
  | shutdown (blockNumber : Nat) : Ingests bootstrapFromBlock (flushSurvivalState blockNumber)

theorem Ingests.conforms {program : Ingestion Payload Unit}
    (ingests : Ingests bootstrapFromBlock program) :
    Conforms (next bootstrapFromBlock) (fun _ _ => True) start program := by
  cases ingests with
  | gapFill => exact runBootstrapOrGapFill_conforms bootstrapFromBlock
  | pendingLog raw => exact handleViemLog_conforms_live _ (by decide)
  | confirmedLog raw => exact handleViemLog_conforms_live _ (by decide)
  | flashblock blockNumber => exact handleFlashblockTick_conforms blockNumber
  | shutdown blockNumber => exact flushSurvivalState_conforms blockNumber

end LiquidationBot
