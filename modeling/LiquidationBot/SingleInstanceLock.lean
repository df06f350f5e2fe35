import LiquidationBot.Library.Async
import LiquidationBot.Library.NumberText

/-!
# The single-instance lock

A bot process takes a lock file before it starts its polling loop. A file that
names a live process is respected; any other file is removed and created anew.
The file is created first and receives the process id in a later step, and the
signal handlers that remove it run while the polling loop is still going on.

A process runs one thing at a time, so its signal handlers run where it waits:
between two events of the polling loop, or after `main` has returned.
-/

namespace LiquidationBot

/-- A process id: a positive `pid_t`. -/
@[ext] structure Pid where
  value : Nat
  positive : 0 < value
  small : value < 2 ^ 31
deriving DecidableEq

/-- A started process: its number in the order of starts, and its process id. -/
structure ProcessSelf where
  number : Nat
  pid : Pid
deriving DecidableEq

/-- What a system call throws. -/
inductive SystemError where
  | ENOENT
  | EEXIST
  | other
deriving DecidableEq

/-- The calls of a process. `pollingLoopEnd` is the end of a polling loop whose
signals are no longer handled. -/
inductive ProcessCall where
  | mkdirSync
  | existsSync
  | readFileSync
  | unlinkSync
  | onStaleLockRemoved (stalePid : Nat)
  | openSync
  | writeFileSync (fd : Nat) (data : List Char)
  | closeSync (fd : Nat)
  | kill (pid : Nat)
  | runDryRunReplay
  | evaluateRuntimeDeploymentSafety
  | buildBot
  | runPollingLoop
  | pollingLoopEnd
  | exit
deriving DecidableEq

/-- A signal that interrupts the polling loop is answered as none; `exit` answers
whether a signal came first. -/
def ProcessCall.Answer : ProcessCall → Type
  | .mkdirSync => Except SystemError Unit
  | .existsSync => Bool
  | .readFileSync => Except SystemError (List Char)
  | .unlinkSync => Except SystemError Unit
  | .onStaleLockRemoved _ => Except SystemError Unit
  | .openSync => Except SystemError Nat
  | .writeFileSync _ _ => Except SystemError Unit
  | .closeSync _ => Except SystemError Unit
  | .kill _ => Bool
  | .runDryRunReplay => Except SystemError Unit
  | .evaluateRuntimeDeploymentSafety => Bool
  | .buildBot => Except SystemError Unit
  | .runPollingLoop => Option (Except SystemError Unit)
  | .pollingLoopEnd => Except SystemError Unit
  | .exit => Bool

inductive ProcessOp where
  | start
  | system (number : Nat) (call : ProcessCall)
deriving DecidableEq

def ProcessOp.Answer : ProcessOp → Type
  | .start => ProcessSelf
  | .system _ call => call.Answer

/-- A program of one process. -/
abbrev ProcessProgram := Async ProcessOp ProcessOp.Answer SystemError

/-- The flags of the runtime config that decide whether the lock is taken. -/
structure MainConfig where
  disableSingleInstanceLock : Bool
  dryRunMode : Bool
deriving DecidableEq

/-- The two kinds of lock object: the release of a re-entrant one does nothing. -/
inductive SingleInstanceLock where
  | created
  | reentrant
deriving DecidableEq

namespace SingleInstanceLock

open Async

/-- What `acquireSingleInstanceLock` writes into the file. -/
def lockText (pid : Pid) : List Char := Nat.toDigits 10 pid.value ++ ['\n']

/-- `contents.trim().split(/\s+/)[0]`. -/
def firstWord (contents : List Char) : List Char :=
  (contents.dropWhile NumberText.isSpace).takeWhile (fun char => !NumberText.isSpace char)

def parseLockPid (contents : List Char) : Option Nat :=
  let line := firstWord contents
  if line.length = 0 then none
  else
    match NumberText.number line with
    | none => none
    | some parsed => if parsed.den = 1 ∧ 0 < parsed then some parsed.num.toNat else none

/-- A process learns its number and its pid. -/
def start : ProcessProgram ProcessSelf := perform ProcessOp.start

section Calls

variable (self : ProcessSelf)

def mkdirSync : ProcessProgram (Except SystemError Unit) :=
  perform (ProcessOp.system self.number .mkdirSync)

def existsSync : ProcessProgram Bool := perform (ProcessOp.system self.number .existsSync)

def readFileSync : ProcessProgram (Except SystemError (List Char)) :=
  perform (ProcessOp.system self.number .readFileSync)

def unlinkSync : ProcessProgram (Except SystemError Unit) :=
  perform (ProcessOp.system self.number .unlinkSync)

def onStaleLockRemoved (stalePid : Nat) : ProcessProgram (Except SystemError Unit) :=
  perform (ProcessOp.system self.number (.onStaleLockRemoved stalePid))

def openSync : ProcessProgram (Except SystemError Nat) :=
  perform (ProcessOp.system self.number .openSync)

def writeFileSync (fd : Nat) (data : List Char) : ProcessProgram (Except SystemError Unit) :=
  perform (ProcessOp.system self.number (.writeFileSync fd data))

def closeSync (fd : Nat) : ProcessProgram (Except SystemError Unit) :=
  perform (ProcessOp.system self.number (.closeSync fd))

/-- `isProcessAlive`, by the answer to signal zero. -/
def isProcessAlive (pid : Nat) : ProcessProgram Bool :=
  perform (ProcessOp.system self.number (.kill pid))

def runDryRunReplay : ProcessProgram (Except SystemError Unit) :=
  perform (ProcessOp.system self.number .runDryRunReplay)

/-- Whether the deployment gate blocks. -/
def evaluateRuntimeDeploymentSafety : ProcessProgram Bool :=
  perform (ProcessOp.system self.number .evaluateRuntimeDeploymentSafety)

def buildBot : ProcessProgram (Except SystemError Unit) :=
  perform (ProcessOp.system self.number .buildBot)

/-- The polling loop until its end, or until the next signal. -/
def runPollingLoop : ProcessProgram (Option (Except SystemError Unit)) :=
  perform (ProcessOp.system self.number .runPollingLoop)

def pollingLoopEnd : ProcessProgram (Except SystemError Unit) :=
  perform (ProcessOp.system self.number .pollingLoopEnd)

/-- Whether a signal comes before the process exits. -/
def exit : ProcessProgram Bool := perform (ProcessOp.system self.number .exit)

end Calls

/-- The exclusive create and the write behind it; the file is closed either way. -/
def createLock (self : ProcessSelf) : ProcessProgram (Option SingleInstanceLock) := do
  match ← openSync self with
  | .error _ => return none
  | .ok fd =>
      let written ← writeFileSync self fd (lockText self.pid)
      orThrow (← closeSync self fd)
      orThrow written
      return some .created

/-- Remove a lock file, and create it anew. -/
def takeOver (self : ProcessSelf) (existingPid : Option Nat) :
    ProcessProgram (Option SingleInstanceLock) := do
  match ← unlinkSync self with
  | .error _ => return none
  | .ok _ =>
      match existingPid with
      | none => createLock self
      | some stalePid =>
          match ← onStaleLockRemoved self stalePid with
          | .error _ => return none
          | .ok _ => createLock self

def acquireSingleInstanceLock (self : ProcessSelf) :
    ProcessProgram (Option SingleInstanceLock) := do
  orThrow (← mkdirSync self)
  if ← existsSync self then
    match parseLockPid (← orThrow (← readFileSync self)) with
    | none => takeOver self none
    | some existingPid =>
        if ← isProcessAlive self existingPid then
          if existingPid = self.pid.value then return some .reentrant else return none
        else takeOver self (some existingPid)
  else createLock self

/-- The body of `release` that the `catch` surrounds. -/
def removeOwnLock (self : ProcessSelf) : ProcessProgram Unit := do
  if ← existsSync self then
    let current := parseLockPid (← orThrow (← readFileSync self))
    if current = some self.pid.value then orThrow (← unlinkSync self)

def release (self : ProcessSelf) : SingleInstanceLock → ProcessProgram Unit
  | .reentrant => return ()
  | .created => do
      let _ ← (removeOwnLock self).attempt
      return ()

/-- After `main` has returned: the handlers that are left, until the process exits. -/
def untilExit (self : ProcessSelf) (handler : ProcessProgram Unit) : Nat → ProcessProgram Unit
  | 0 => return ()
  | signals + 1 => do
      if ← exit self then
        handler
        untilExit self handler signals

/-- The polling loop, interrupted by the signals that are still handled. A loop
that throws ends the process. -/
def pollingLoop (self : ProcessSelf) (handler : ProcessProgram Unit) : Nat → ProcessProgram Unit
  | 0 => do
      orThrow (← pollingLoopEnd self)
  | signals + 1 => do
      match ← runPollingLoop self with
      | none =>
          handler
          pollingLoop self handler signals
      | some ended =>
          orThrow ended
          untilExit self handler (signals + 1)

/-- `main` behind the lock. -/
def runBot (self : ProcessSelf) (handler : ProcessProgram Unit) (signals : Nat) :
    ProcessProgram Unit := do
  if ← evaluateRuntimeDeploymentSafety self then untilExit self handler signals
  else
    orThrow (← buildBot self)
    pollingLoop self handler signals

/-- `SIGINT` and `SIGTERM`, each handled once. -/
def handledSignals : Nat := 2

/-- A process that runs `main`. -/
def main (config : MainConfig) : ProcessProgram Unit := do
  let self ← start
  if !config.disableSingleInstanceLock && !config.dryRunMode then
    match ← acquireSingleInstanceLock self with
    | none => return ()
    | some lock => runBot self (release self lock) handledSignals
  else if config.dryRunMode then orThrow (← runDryRunReplay self)
  else runBot self (return ()) 0

theorem isSpace_of_isDigit {char : Char} (digit : char.isDigit = true) :
    NumberText.isSpace char = false := by
  simp only [Char.isDigit, Bool.and_eq_true, decide_eq_true_eq] at digit
  have above : 48 ≤ char.toNat := UInt32.le_iff_toNat_le.mp digit.1
  have below : char.toNat ≤ 57 := UInt32.le_iff_toNat_le.mp digit.2
  simp only [NumberText.isSpace, List.mem_cons, List.not_mem_nil, or_false, Bool.or_eq_false_iff,
    decide_eq_false_iff_not, Bool.and_eq_false_iff]
  omega

theorem firstWord_lockText (pid : Pid) : firstWord (lockText pid) = Nat.toDigits 10 pid.value := by
  have digits : ∀ char ∈ Nat.toDigits 10 pid.value, NumberText.isSpace char = false :=
    fun _ member => isSpace_of_isDigit (Nat.isDigit_of_mem_toDigits (by omega) (by omega) member)
  have nonempty : Nat.toDigits 10 pid.value ≠ [] := Nat.toDigits_ne_nil
  cases shape : Nat.toDigits 10 pid.value with
  | nil => exact absurd shape nonempty
  | cons first rest =>
    rw [shape] at digits
    have notSpace := digits first List.mem_cons_self
    have kept : ∀ char ∈ first :: rest, (!NumberText.isSpace char) = true := by
      intro char member
      rw [digits char member]
      rfl
    rw [firstWord, lockText, shape, List.cons_append, List.dropWhile_cons_of_neg (by simp [notSpace]),
      ← List.cons_append, List.takeWhile_append_of_pos kept]
    simp [NumberText.isSpace]

/-- The pid that is written is read back. -/
theorem parseLockPid_lockText (pid : Pid) : parseLockPid (lockText pid) = some pid.value := by
  have read : NumberText.number (Nat.toDigits 10 pid.value) = some (pid.value : ℚ) :=
    NumberText.number_toDigits pid.positive (pid.small.trans (by decide))
  have nonempty : (Nat.toDigits 10 pid.value).length ≠ 0 := by
    simp [Nat.toDigits_ne_nil]
  simp [parseLockPid, firstWord_lockText, read, nonempty, pid.positive]

/-- An empty file names no process. -/
theorem parseLockPid_nil : parseLockPid [] = none := rfl

end SingleInstanceLock

end LiquidationBot
