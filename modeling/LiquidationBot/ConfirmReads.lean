import LiquidationBot.HealthPolicy
import LiquidationBot.Library.Async
import LiquidationBot.Library.Batches
import LiquidationBot.TieredConfirmQueue
import Mathlib.Data.List.Induction

/-!
# The reads of a flush

A flush reads its accounts in batches, two multicalls for each. A multicall can
throw as a whole, and then the flush throws and the rows read so far are gone;
or single rows fail, and those are skipped. In both cases the set has been
emptied before, so an account without a row waits again only if another handler
enqueues it while the reads are under way.
-/

namespace LiquidationBot

/-- A multicall that allows failures: it throws, or every row succeeds or not. -/
abbrev Multicall (α : Type) := Except Unit (List (Option α))

/-- The two multicalls of a batch. -/
inductive ConfirmRead where
  | getUserAccountData (batch : List Address)
  | getUserEMode (batch : List Address)

@[reducible] def ConfirmRead.Answer : ConfirmRead → Type
  | .getUserAccountData _ => Multicall UserAccountData
  | .getUserEMode _ => Multicall Nat

abbrev ConfirmM := Async ConfirmRead ConfirmRead.Answer Unit

/-- A batch size. The loop of `confirmBatch` ends for positive ones only. -/
abbrev BatchSize := { size : Nat // 0 < size }

namespace TieredConfirmQueue

/-- `DEFAULT_BATCH`. -/
def DEFAULT_BATCH : BatchSize := ⟨200, by decide⟩

def getUserAccountData (batch : List Address) : ConfirmM (List (Option UserAccountData)) :=
  .call (.getUserAccountData batch) Async.orThrow

def getUserEMode (batch : List Address) : ConfirmM (List (Option Nat)) :=
  .call (.getUserEMode batch) Async.orThrow

/-- The row of an account; a failed read of its category counts as none. -/
def confirmResult (address : Address) (data : UserAccountData) (emode : Option (Option Nat)) :
    ConfirmResult where
  address := address
  healthFactor := data.healthFactor
  totalDebtBase := data.totalDebtBase
  totalCollateralBase := data.totalCollateralBase
  liquidationThreshold := data.currentLiquidationThreshold
  eModeCategoryId := match emode with
    | some (some category) => category
    | _ => 0

/-- One turn of the inner loop of `confirmBatch`. -/
def confirmRow (accountResults : List (Option UserAccountData))
    (emodeResults : List (Option Nat)) (entry : Address × Nat) : Option ConfirmResult :=
  match accountResults[entry.2]? with
  | some (some data) => some (confirmResult entry.1 data emodeResults[entry.2]?)
  | _ => none

/-- The rows that a batch adds to the results. -/
def confirmRows (batch : List Address) (accountResults : List (Option UserAccountData))
    (emodeResults : List (Option Nat)) : List ConfirmResult :=
  batch.zipIdx.filterMap (confirmRow accountResults emodeResults)

/-- The outer loop of `confirmBatch`. -/
def confirmBatches : List (List Address) → List ConfirmResult → ConfirmM (List ConfirmResult)
  | [], results => return results
  | batch :: rest, results => do
      let accountResults ← getUserAccountData batch
      let emodeResults ← getUserEMode batch
      confirmBatches rest (results ++ confirmRows batch accountResults emodeResults)

/-- `confirmBatch`. -/
def confirmBatch (batchSize : Option BatchSize) (addresses : List Address) :
    ConfirmM (List ConfirmResult) :=
  confirmBatches (Batches.batches (batchSize.getD DEFAULT_BATCH).val addresses) []

/-- `flushWatch` up to its first read. -/
def flushWatch (queue : TieredConfirmQueue) (maxBatch : Nat) :
    TieredConfirmQueue × List Address :=
  if !queue.enableWatchTier || decide (queue.watch.size = 0) then (queue, [])
  else
    let batch := queue.watch.keys.take maxBatch
    ({ queue with watch := batch.foldl (fun watch address =>
        watch.delete address.toLowerCase) queue.watch }, batch)

/-! ## Outcomes of a flush -/

/-- How the multicalls of a flush are answered. -/
abbrev Answers := (read : ConfirmRead) → read.Answer

/-- What `flushUrgent` returns or throws. -/
def flushOutcome (batchSize : Option BatchSize) (queue : TieredConfirmQueue) (answers : Answers) :
    Except Unit (List ConfirmResult) :=
  (confirmBatch batchSize queue.flushUrgent.2).evaluate answers

/-- What other handlers do to the queue while a flush awaits its reads. -/
inductive QueueStep where
  | enqueueUrgent (account : Address)
  | enqueueWatch (account : Address)
  | flushUrgent
  | flushWatch (maxBatch : Nat)

def QueueStep.run (queue : TieredConfirmQueue) : QueueStep → TieredConfirmQueue
  | .enqueueUrgent account => queue.enqueueUrgent account
  | .enqueueWatch account => queue.enqueueWatch account
  | .flushUrgent => queue.flushUrgent.1
  | .flushWatch maxBatch => (queue.flushWatch maxBatch).1

/-- Every account that was urgent when the flush began is among the rows it
returns, or urgent again at its end. -/
def Accounted (batchSize : Option BatchSize) (queue : TieredConfirmQueue) (answers : Answers)
    (meanwhile : List QueueStep) : Prop :=
  ∀ account, queue.Urgent account →
    (∃ results, flushOutcome batchSize queue answers = .ok results ∧
        ∃ row ∈ results, row.address = account.toLowerCase) ∨
      (meanwhile.foldl QueueStep.run queue.flushUrgent.1).Urgent account

/-- Both multicalls of a batch return. -/
def Returns (answers : Answers) (batch : List Address) : Prop :=
  (∃ rows, answers (.getUserAccountData batch) = .ok rows) ∧
    ∃ rows, answers (.getUserEMode batch) = .ok rows

/-- The account's row of a batch succeeds. -/
def Succeeds (answers : Answers) (batch : List Address) (account : Address) : Prop :=
  ∃ (rows : List (Option UserAccountData)) (index : Nat) (data : UserAccountData),
    answers (.getUserAccountData batch) = .ok rows ∧ batch[index]? = some account ∧
      rows[index]? = some (some data)

/-- Another handler enqueues the account, and no later flush takes it. -/
def PutBack (meanwhile : List QueueStep) (account : Address) : Prop :=
  ∃ earlier again later, meanwhile = earlier ++ .enqueueUrgent again :: later ∧
    again.toLowerCase = account.toLowerCase ∧ .flushUrgent ∉ later

/-- The batches that a flush reads. -/
def flushBatches (batchSize : Option BatchSize) (queue : TieredConfirmQueue) :
    List (List Address) :=
  Batches.batches (batchSize.getD DEFAULT_BATCH).val queue.flushUrgent.2

/-! ## Rows -/

/-- A batch holds a row for an account exactly when that account's read
succeeded. -/
theorem exists_confirmRow_iff (batch : List Address)
    (accountResults : List (Option UserAccountData)) (emodeResults : List (Option Nat))
    (account : Address) :
    (∃ row ∈ confirmRows batch accountResults emodeResults, row.address = account) ↔
      ∃ (index : Nat) (data : UserAccountData), batch[index]? = some account ∧
        accountResults[index]? = some (some data) := by
  simp only [confirmRows, List.mem_filterMap, Prod.exists, List.mk_mem_zipIdx_iff_getElem?]
  constructor
  · rintro ⟨row, ⟨address, index, stored, built⟩, same⟩
    simp only [confirmRow] at built
    split at built
    next data succeeded =>
      cases built
      exact ⟨index, data, same ▸ stored, succeeded⟩
    next => cases built
  · rintro ⟨index, data, stored, succeeded⟩
    refine ⟨confirmResult account data emodeResults[index]?, ⟨account, index, stored, ?_⟩, rfl⟩
    simp only [confirmRow, succeeded]

/-- A batch whose multicalls return continues with its rows, any other ends the
flush. -/
theorem evaluate_confirmBatches_cons (answers : Answers) (batch : List Address)
    (rest : List (List Address)) (results : List ConfirmResult) :
    (confirmBatches (batch :: rest) results).evaluate answers =
      match answers (.getUserAccountData batch), answers (.getUserEMode batch) with
      | .ok accountResults, .ok emodeResults =>
          (confirmBatches rest (results ++ confirmRows batch accountResults
            emodeResults)).evaluate answers
      | _, _ => .error () := by
  simp only [confirmBatches, getUserAccountData, getUserEMode, Async.bind_eq, Async.call_bind,
    Async.evaluate]
  cases answers (.getUserAccountData batch) with
  | error thrown => rfl
  | ok accountResults =>
    simp only [Async.orThrow, Async.pure_bind, Async.evaluate]
    cases answers (.getUserEMode batch) with
    | error thrown => rfl
    | ok emodeResults => rfl

/-- Induct on the batches. A row is returned exactly when every batch returns
and one of them holds the row, or it was there before. -/
theorem exists_result_iff (answers : Answers) (batches : List (List Address))
    (results : List ConfirmResult) (account : Address) :
    (∃ final, (confirmBatches batches results).evaluate answers = .ok final ∧
        ∃ row ∈ final, row.address = account) ↔
      (∀ batch ∈ batches, Returns answers batch) ∧
        ((∃ row ∈ results, row.address = account) ∨
          ∃ batch ∈ batches, Succeeds answers batch account) := by
  induction batches generalizing results with
  | nil => simp [confirmBatches, Async.evaluate]
  | cons batch rest inductionHypothesis =>
    rw [evaluate_confirmBatches_cons]
    simp only [List.mem_cons, forall_eq_or_imp, exists_eq_or_imp, Returns, Succeeds]
    cases answers (.getUserAccountData batch) with
    | error thrown => simp
    | ok accountResults =>
      cases answers (.getUserEMode batch) with
      | error thrown => simp
      | ok emodeResults =>
        have rows := exists_confirmRow_iff batch accountResults emodeResults account
        simp only [inductionHypothesis, List.mem_append, or_and_right, exists_or, rows]
        simp [Returns, Succeeds, or_assoc]

/-! ## The queue meanwhile -/

theorem urgent_flushWatch (queue : TieredConfirmQueue) (maxBatch : Nat) :
    (queue.flushWatch maxBatch).1.urgent = queue.urgent := by
  simp only [flushWatch]
  split
  · rfl
  · rfl

theorem not_urgent_flushUrgent (queue : TieredConfirmQueue) (account : Address) :
    ¬ queue.flushUrgent.1.Urgent account := by
  simp [Urgent, urgent_flushUrgent, InsertionMap.has]

theorem putBack_snoc_iff (meanwhile : List QueueStep) (step : QueueStep) (account : Address) :
    PutBack (meanwhile ++ [step]) account ↔
      (∃ again, step = .enqueueUrgent again ∧ again.toLowerCase = account.toLowerCase) ∨
        PutBack meanwhile account ∧ step ≠ .flushUrgent := by
  constructor
  · rintro ⟨earlier, again, later, split, same, kept⟩
    induction later using List.reverseRecOn with
    | nil =>
      obtain ⟨_, last⟩ := List.append_inj' split rfl
      cases last
      exact Or.inl ⟨again, rfl, same⟩
    | append_singleton front last _ =>
      rw [← List.cons_append, ← List.append_assoc] at split
      obtain ⟨rfl, ends⟩ := List.append_inj' split rfl
      cases ends
      rw [List.mem_append, not_or, List.mem_singleton] at kept
      exact Or.inr ⟨⟨earlier, again, front, rfl, same, kept.1⟩, fun flush => kept.2 flush.symm⟩
  · rintro (⟨again, rfl, same⟩ | ⟨⟨earlier, again, later, rfl, same, kept⟩, notFlush⟩)
    · exact ⟨meanwhile, again, [], rfl, same, List.not_mem_nil⟩
    · refine ⟨earlier, again, later ++ [step], by simp, same, ?_⟩
      rw [List.mem_append, not_or, List.mem_singleton]
      exact ⟨kept, fun flush => notFlush flush.symm⟩

/-- From an empty urgent tier, exactly the accounts put back are urgent. -/
theorem urgent_meanwhile_iff (queue : TieredConfirmQueue) (meanwhile : List QueueStep)
    (account : Address) :
    (meanwhile.foldl QueueStep.run queue.flushUrgent.1).Urgent account ↔
      PutBack meanwhile account := by
  induction meanwhile using List.reverseRecOn with
  | nil =>
    constructor
    · intro urgent
      exact absurd urgent (not_urgent_flushUrgent queue account)
    · rintro ⟨earlier, again, later, split, _⟩
      simp at split
  | append_singleton meanwhile step inductionHypothesis =>
    rw [List.foldl_append, List.foldl_cons, List.foldl_nil, putBack_snoc_iff,
      ← inductionHypothesis]
    cases step with
    | enqueueUrgent again => simp [QueueStep.run, or_comm]
    | enqueueWatch again => simp [QueueStep.run, Urgent]
    | flushUrgent => simp [QueueStep.run, not_urgent_flushUrgent]
    | flushWatch maxBatch => simp [QueueStep.run, Urgent, urgent_flushWatch]

/-- A flush accounts for its accounts exactly when for each of them every
multicall returns and its own row succeeds, or another handler puts it back. -/
theorem flush_accounted_iff (batchSize : Option BatchSize) (queue : TieredConfirmQueue)
    (answers : Answers) (meanwhile : List QueueStep) :
    Accounted batchSize queue answers meanwhile ↔
      ∀ account, queue.Urgent account →
        (∀ batch ∈ flushBatches batchSize queue, Returns answers batch) ∧
            (∃ batch ∈ flushBatches batchSize queue,
              Succeeds answers batch account.toLowerCase) ∨
          PutBack meanwhile account := by
  have returned (account : Address) := exists_result_iff answers (flushBatches batchSize queue) []
    account.toLowerCase
  simp only [List.not_mem_nil, false_and, exists_false, false_or] at returned
  simp only [Accounted, flushOutcome, confirmBatch, urgent_meanwhile_iff]
  constructor
  · intro accounted account urgent
    exact (accounted account urgent).imp_left (returned account).mp
  · intro condition account urgent
    exact (condition account urgent).imp_left (returned account).mpr

/-- Two accounts wait, in batches of one. -/
def twoWaiting : TieredConfirmQueue :=
  ((initial true).enqueueUrgent ⟨1, 0⟩).enqueueUrgent ⟨2, 0⟩

/-- The first batch is answered and the second one throws. -/
def secondThrows : Answers
  | .getUserAccountData batch =>
      if batch = [⟨1, 0⟩] then .ok [some ⟨1000, 900, 0, 8000, 7500, 888000000000000000⟩]
      else .error ()
  | .getUserEMode _ => .ok [some 0]

/-- The first account's row was read and is lost with the second one's. -/
theorem urgent_lost_by_throw :
    twoWaiting.Urgent ⟨1, 0⟩ ∧
      flushOutcome (some ⟨1, by decide⟩) twoWaiting secondThrows = .error () ∧
      ¬ Accounted (some ⟨1, by decide⟩) twoWaiting secondThrows [] := by
  have waits : twoWaiting.Urgent ⟨1, 0⟩ := rfl
  have throws : flushOutcome (some ⟨1, by decide⟩) twoWaiting secondThrows = .error () :=
    rfl
  refine ⟨waits, throws, ?_⟩
  intro accounted
  rcases accounted ⟨1, 0⟩ waits with ⟨results, returned, _⟩ | urgent
  · rw [throws] at returned
    cases returned
  · exact not_urgent_flushUrgent twoWaiting ⟨1, 0⟩ urgent

end TieredConfirmQueue

end LiquidationBot
