import LiquidationBot.SingleInstanceLock

/-!
# The stages of a process around its lock

A process looks at the lock file, and then either recognizes its own pid in it,
or creates the file and writes its pid. From the lock to the end of the polling
loop it holds the lock. The stage follows from the calls made so far.
-/

namespace LiquidationBot

open Async SingleInstanceLock

inductive LockStage where
  | acquiring
  | recognized
  | opened (fd : Nat)
  | written
  | holding
  | ended
deriving DecidableEq

inductive LockPhase where
  | fresh
  | running (self : ProcessSelf) (stage : LockStage)
deriving DecidableEq

/-- The calls that neither read nor change the lock file. -/
def ProcessCall.quiet : ProcessCall → Bool
  | .readFileSync => false
  | .unlinkSync => false
  | .openSync => false
  | .writeFileSync _ _ => false
  | _ => true

namespace LockStage

/-- The calls that leave the stage alone, whatever they answer. -/
def allows : LockStage → ProcessCall → Bool
  | .acquiring, .writeFileSync _ _ => false
  | .acquiring, _ => true
  | .holding, .existsSync => true
  | .holding, .readFileSync => true
  | .holding, .unlinkSync => true
  | .ended, .existsSync => true
  | .ended, .readFileSync => true
  | .ended, .unlinkSync => true
  | .ended, .closeSync _ => true
  | .ended, .exit => true
  | _, _ => false

/-- The stage after an answered call. -/
def next (pid : Pid) : LockStage → (call : ProcessCall) → call.Answer → Option LockStage
  | .acquiring, .readFileSync, .ok contents =>
      some (if parseLockPid contents = some pid.value then .recognized else .acquiring)
  | .acquiring, .openSync, .ok fd => some (.opened fd)
  | .recognized, .kill _, true => some .holding
  | .recognized, .kill _, false => some .acquiring
  | .opened fd, .writeFileSync target data, .ok _ =>
      if target = fd ∧ data = lockText pid then some .written else none
  | .opened _, .writeFileSync _ _, .error _ => some .ended
  | .written, .closeSync _, .ok _ => some .holding
  | .written, .closeSync _, .error _ => some .ended
  | .holding, .evaluateRuntimeDeploymentSafety, true => some .ended
  | .holding, .evaluateRuntimeDeploymentSafety, false => some .holding
  | .holding, .buildBot, .ok _ => some .holding
  | .holding, .buildBot, .error _ => some .ended
  | .holding, .runPollingLoop, none => some .holding
  | .holding, .runPollingLoop, some _ => some .ended
  | .holding, .pollingLoopEnd, _ => some .ended
  | stage, syscall, _ => if stage.allows syscall then some stage else none

/-- The lock file is this process's own: it has been created, or its pid read or
written, and the process has not passed the end of its polling loop. -/
def claims : LockStage → Bool
  | .recognized => true
  | .opened _ => true
  | .written => true
  | .holding => true
  | .acquiring => false
  | .ended => false

/-- The created file whose pid is not written yet. -/
def unwritten : LockStage → Option Nat
  | .opened fd => some fd
  | _ => none

theorem claims_of_unwritten {stage : LockStage} {fd : Nat} (created : stage.unwritten = some fd) :
    stage.claims = true := by
  cases stage with
  | opened fd => rfl
  | acquiring | recognized | written | holding | ended => cases created

/-- Away from the lock file a stage stays as it is, is given up, or goes on to
hold the file in which the process has read or written its pid. -/
theorem next_quiet {pid : Pid} {stage stage' : LockStage} {syscall : ProcessCall}
    {answer : syscall.Answer} (isQuiet : syscall.quiet = true)
    (stepped : stage.next pid syscall answer = some stage') :
    stage' = stage ∨ stage'.claims = false ∨
      stage' = .holding ∧ (stage = .recognized ∨ stage = .written) := by
  cases stage with
  | acquiring =>
    cases syscall with
    | readFileSync | unlinkSync | openSync | writeFileSync => cases isQuiet
    | _ => exact .inl (Option.some.inj stepped).symm
  | recognized =>
    cases syscall with
    | kill existingPid =>
      cases answer with
      | true => exact .inr (.inr ⟨(Option.some.inj stepped).symm, .inl rfl⟩)
      | false =>
        cases stepped
        exact .inr (.inl rfl)
    | _ => cases stepped
  | opened fd =>
    cases syscall with
    | writeFileSync => cases isQuiet
    | _ => cases stepped
  | written =>
    cases syscall with
    | closeSync fd =>
      cases answer with
      | ok _ => exact .inr (.inr ⟨(Option.some.inj stepped).symm, .inr rfl⟩)
      | error error =>
        cases stepped
        exact .inr (.inl rfl)
    | _ => cases stepped
  | holding =>
    cases syscall with
    | evaluateRuntimeDeploymentSafety => cases answer <;> cases stepped <;> simp [claims]
    | buildBot => cases answer <;> cases stepped <;> simp [claims]
    | runPollingLoop => cases answer <;> cases stepped <;> simp [claims]
    | pollingLoopEnd =>
      cases stepped
      exact .inr (.inl rfl)
    | existsSync => exact .inl (Option.some.inj stepped).symm
    | readFileSync | unlinkSync => cases isQuiet
    | _ => cases stepped
  | ended =>
    cases syscall with
    | existsSync | closeSync | exit => exact .inl (Option.some.inj stepped).symm
    | readFileSync | unlinkSync => cases isQuiet
    | _ => cases stepped

end LockStage

namespace LockPhase

def next : LockPhase → (op : ProcessOp) → op.Answer → Option LockPhase
  | .fresh, .start, self => some (.running self .acquiring)
  | .running self stage, .system number syscall, answer =>
      if number = self.number then (stage.next self.pid syscall answer).map (.running self)
      else none
  | _, _, _ => none

/-- Stages that end with a lock hold it. -/
def acceptAcquire (self : ProcessSelf) (phase : LockPhase) :
    Except SystemError (Option SingleInstanceLock) → Prop
  | .ok (some _) => phase = .running self .holding
  | _ => True

end LockPhase

open LockPhase

variable {self : ProcessSelf}

/-- A call of the process is answered by its stage. -/
theorem conforms_system {α : Type} {accept : LockPhase → Except SystemError α → Prop}
    {stage : LockStage} {syscall : ProcessCall}
    {resume : syscall.Answer → ProcessProgram α}
    (steps : ∀ answer, ∃ after, stage.next self.pid syscall answer = some after ∧
      Conforms LockPhase.next accept (.running self after) (resume answer)) :
    Conforms LockPhase.next accept (.running self stage)
      (.call (.system self.number syscall) resume) := by
  intro answer
  obtain ⟨after, stepped, rest⟩ := steps answer
  refine ⟨.running self after, ?_, rest⟩
  simp only [LockPhase.next, if_true]
  exact congrArg (Option.map (LockPhase.running self)) stepped

/-- The file is created, its pid written, and it is closed. -/
theorem createLock_conforms :
    Conforms LockPhase.next (acceptAcquire self) (.running self .acquiring) (createLock self) := by
  apply conforms_system
  intro opened
  cases opened with
  | error error => exact ⟨.acquiring, rfl, trivial⟩
  | ok fd =>
    refine ⟨.opened fd, rfl, ?_⟩
    apply conforms_system
    intro written
    cases written with
    | error error =>
      refine ⟨.ended, rfl, ?_⟩
      apply conforms_system
      intro closed
      refine ⟨.ended, rfl, ?_⟩
      cases closed with
      | error error => trivial
      | ok _ => trivial
    | ok _ =>
      refine ⟨.written, ?_, ?_⟩
      · simp [LockStage.next]
      · apply conforms_system
        intro closed
        cases closed with
        | error error => exact ⟨.ended, rfl, trivial⟩
        | ok _ => exact ⟨.holding, rfl, rfl⟩

theorem takeOver_conforms (existingPid : Option Nat) :
    Conforms LockPhase.next (acceptAcquire self) (.running self .acquiring)
      (takeOver self existingPid) := by
  apply conforms_system
  intro removed
  refine ⟨.acquiring, rfl, ?_⟩
  cases removed with
  | error error => trivial
  | ok _ =>
    cases existingPid with
    | none => exact createLock_conforms
    | some stalePid =>
      apply conforms_system
      intro reported
      refine ⟨.acquiring, rfl, ?_⟩
      cases reported with
      | error error => trivial
      | ok _ => exact createLock_conforms

/-- A process that reads its own pid keeps the file, and any other live process
keeps its own. -/
theorem readLock_conforms (contents : List Char) :
    Conforms LockPhase.next (acceptAcquire self)
      (.running self (if parseLockPid contents = some self.pid.value then .recognized
        else .acquiring))
      (match parseLockPid contents with
        | none => takeOver self none
        | some existingPid => do
            if ← isProcessAlive self existingPid then
              if existingPid = self.pid.value then return some .reentrant else return none
            else takeOver self (some existingPid)) := by
  cases parsed : parseLockPid contents with
  | none => exact takeOver_conforms none
  | some existingPid =>
    by_cases own : existingPid = self.pid.value
    · simp only [own, if_true]
      apply conforms_system
      intro alive
      cases alive with
      | true => exact ⟨.holding, rfl, rfl⟩
      | false => exact ⟨.acquiring, rfl, takeOver_conforms (some self.pid.value)⟩
    · simp only [Option.some.injEq, own, if_false]
      apply conforms_system
      intro alive
      refine ⟨.acquiring, rfl, ?_⟩
      cases alive with
      | true => trivial
      | false => exact takeOver_conforms (some existingPid)

theorem acquireSingleInstanceLock_conforms :
    Conforms LockPhase.next (acceptAcquire self) (.running self .acquiring)
      (acquireSingleInstanceLock self) := by
  apply conforms_system
  intro made
  refine ⟨.acquiring, rfl, ?_⟩
  cases made with
  | error error => trivial
  | ok _ =>
    apply conforms_system
    intro present
    refine ⟨.acquiring, rfl, ?_⟩
    cases present with
    | false => exact createLock_conforms
    | true =>
      apply conforms_system
      intro read
      cases read with
      | error error => exact ⟨.acquiring, rfl, trivial⟩
      | ok contents =>
        refine ⟨_, rfl, ?_⟩
        exact readLock_conforms contents

/-- A handler makes calls that leave the lock held, and an ended process ended. -/
def Handles (self : ProcessSelf) (handler : ProcessProgram Unit) : Prop :=
  ∀ stage, stage = .holding ∨ stage = .ended →
    Conforms LockPhase.next (fun phase _ => phase = .running self stage) (.running self stage)
      handler

theorem removeOwnLock_uses : (removeOwnLock self).Uses (fun op =>
    op = .system self.number .existsSync ∨ op = .system self.number .readFileSync ∨
      op = .system self.number .unlinkSync) := by
  refine ⟨Or.inl rfl, ?_⟩
  intro present
  cases present with
  | false => trivial
  | true =>
    refine ⟨Or.inr (Or.inl rfl), ?_⟩
    intro read
    cases read with
    | error error => trivial
    | ok contents =>
      change (if _ then _ else _ : ProcessProgram Unit).Uses _
      split
      · refine ⟨Or.inr (Or.inr rfl), ?_⟩
        intro removed
        exact uses_orThrow removed
      · trivial

theorem release_handles (lock : SingleInstanceLock) : Handles self (release self lock) := by
  intro stage waiting
  cases lock with
  | reentrant => rfl
  | created =>
    have uses : (release self .created).Uses _ :=
      (removeOwnLock_uses.attempt).bind (fun _ => uses_pure ())
    apply uses.conforms
    · rintro op allowed answer
      rcases waiting with rfl | rfl <;> rcases allowed with rfl | rfl | rfl <;>
        · simp only [LockPhase.next, if_true]
          rfl
    · intro result
      rfl

section Main

variable {handler : ProcessProgram Unit}

theorem Handles.continue {stage : LockStage} {rest : ProcessProgram Unit}
    (handles : Handles self handler) (waiting : stage = .holding ∨ stage = .ended)
    (after : Conforms LockPhase.next (fun _ _ => True) (.running self stage) rest) :
    Conforms LockPhase.next (fun _ _ => True) (.running self stage)
      (handler.bind (fun _ => rest)) := by
  refine conforms_bind.mpr ((handles stage waiting).mono ?_)
  rintro phase result rfl
  cases result with
  | ok _ => exact after
  | error error => trivial

theorem untilExit_conforms (handles : Handles self handler) (signals : Nat) :
    Conforms LockPhase.next (fun _ _ => True) (.running self .ended)
      (untilExit self handler signals) := by
  induction signals with
  | zero => trivial
  | succ signals inductionHypothesis =>
    apply conforms_system
    intro interrupted
    refine ⟨.ended, rfl, ?_⟩
    cases interrupted with
    | false => trivial
    | true => exact handles.continue (Or.inr rfl) inductionHypothesis

theorem pollingLoop_conforms (handles : Handles self handler) (signals : Nat) :
    Conforms LockPhase.next (fun _ _ => True) (.running self .holding)
      (pollingLoop self handler signals) := by
  induction signals with
  | zero =>
    apply conforms_system
    intro ended
    refine ⟨.ended, rfl, ?_⟩
    cases ended with
    | ok _ => trivial
    | error error => trivial
  | succ signals inductionHypothesis =>
    apply conforms_system
    intro event
    cases event with
    | none => exact ⟨.holding, rfl, handles.continue (Or.inl rfl) inductionHypothesis⟩
    | some ended =>
      refine ⟨.ended, rfl, ?_⟩
      cases ended with
      | ok _ => exact untilExit_conforms handles (signals + 1)
      | error error => trivial

theorem runBot_conforms (handles : Handles self handler) (signals : Nat) :
    Conforms LockPhase.next (fun _ _ => True) (.running self .holding)
      (runBot self handler signals) := by
  apply conforms_system
  intro blocked
  cases blocked with
  | true => exact ⟨.ended, rfl, untilExit_conforms handles signals⟩
  | false =>
    refine ⟨.holding, rfl, ?_⟩
    apply conforms_system
    intro built
    cases built with
    | error error => exact ⟨.ended, rfl, trivial⟩
    | ok _ => exact ⟨.holding, rfl, pollingLoop_conforms handles signals⟩

/-- Without a lock nothing is claimed. -/
theorem runBot_unlocked :
    Conforms LockPhase.next (fun _ _ => True) (.running self .acquiring)
      (runBot self (.pure ()) 0) := by
  apply conforms_system
  intro blocked
  refine ⟨.acquiring, rfl, ?_⟩
  cases blocked with
  | true => trivial
  | false =>
    apply conforms_system
    intro built
    refine ⟨.acquiring, rfl, ?_⟩
    cases built with
    | error error => trivial
    | ok _ =>
      apply conforms_system
      intro ended
      refine ⟨.acquiring, rfl, ?_⟩
      cases ended with
      | ok _ => trivial
      | error error => trivial

end Main

theorem main_conforms (config : MainConfig) :
    Conforms LockPhase.next (fun _ _ => True) .fresh (main config) := by
  intro self
  refine ⟨.running self .acquiring, rfl, ?_⟩
  change Conforms _ _ _ (if _ then _ else _)
  split
  · refine conforms_bind.mpr (acquireSingleInstanceLock_conforms.mono ?_)
    intro phase result accepted
    cases result with
    | error error => trivial
    | ok lock =>
      cases lock with
      | none => trivial
      | some lock =>
        rw [show phase = .running self .holding from accepted]
        exact runBot_conforms (release_handles lock) handledSignals
  · change Conforms _ _ _ (if _ then _ else _)
    split
    · apply conforms_system
      intro replayed
      refine ⟨.acquiring, rfl, ?_⟩
      cases replayed with
      | ok _ => trivial
      | error error => trivial
    · exact runBot_unlocked

end LiquidationBot
