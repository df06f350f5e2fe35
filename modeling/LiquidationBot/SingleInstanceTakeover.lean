import LiquidationBot.SingleInstanceWorld

/-!
# Taking over a lock file

A lock file that names no live process does not keep a new process out: left
alone, it removes the file and creates its own, which then names it.
-/

namespace LiquidationBot

open Async SingleInstanceLock

/-- A lock file whose pid is not that of a live process, and one that names no
process. -/
def Abandoned (world : LockWorld) : Prop :=
  ∃ file, world.lockFile = some file ∧ ∀ pid, parseLockPid (world.files.getD file []) = some pid →
    world.pidAlive pid = false

/-- A turn without deaths and failures, and without other processes. -/
def quietTurn : LockTurn := ⟨[], ⟨1, by decide, by decide⟩, false, false, false, false, .ok ()⟩

/-- Alone, within the given number of calls, a program returns a lock, and the file
at the lock path then names the process. -/
def TakesLock (self : ProcessSelf) (calls : Nat) (world : LockWorld)
    (program : ProcessProgram (Option SingleInstanceLock)) : Prop :=
  ∃ run, runAlone LockWorld.serve (List.replicate calls quietTurn) world program = some run ∧
    run.result = .ok (some .created) ∧
      ∃ file, run.after.lockFile = some file ∧ run.after.files[file]? = some (lockText self.pid)

namespace TakesLock

variable {world : LockWorld} {self : ProcessSelf}

theorem killed_nil (world : LockWorld) : world.killed [] = world := by
  obtain ⟨processes, lockFile, files⟩ := world
  simp only [LockWorld.killed, List.contains_nil, Bool.not_false, Bool.and_true,
    LockWorld.mk.injEq, and_true]
  exact List.mapIdx_eq_iff.mpr (fun number => by cases processes[number]? <;> rfl)

/-- One call without a failure. -/
theorem call {syscall : ProcessCall} {answer : syscall.Answer} {after : LockWorld} {calls : Nat}
    {resume : syscall.Answer → ProcessProgram (Option SingleInstanceLock)}
    (served : world.serveCall quietTurn syscall = (after, answer))
    (lives : world.alive self.number = true) (rest : TakesLock self calls after (resume answer)) :
    TakesLock self (calls + 1) world (.call (.system self.number syscall) resume) := by
  obtain ⟨run, ran, returned, named⟩ := rest
  refine ⟨⟨⟨.system self.number syscall, answer⟩ :: run.events, run.result, run.after⟩, ?_,
    returned, named⟩
  have unkilled : world.killed quietTurn.deaths = world := killed_nil world
  have answered : LockWorld.serve quietTurn world (.system self.number syscall) =
      some (after, answer) := by
    simp only [LockWorld.serve, unkilled, lives, if_true]
    exact congrArg some served
  exact Option.bind_eq_some_iff.mpr
    ⟨(after, answer), answered, Option.map_eq_some_iff.mpr ⟨run, ran, rfl⟩⟩

theorem createLock (lives : world.alive self.number = true) (absent : world.lockFile = none)
    (calls : Nat) : TakesLock self (calls + 3) world (createLock self) := by
  have opened : world.serveCall quietTurn .openSync =
      ({ world with lockFile := some world.files.length, files := world.files ++ [[]] },
        .ok world.files.length) := by
    simp [LockWorld.serveCall, absent, quietTurn]
  refine call opened lives ?_
  refine call rfl lives ?_
  refine call rfl lives ?_
  let after : LockWorld := ⟨world.processes, some world.files.length,
    (world.files ++ [[]]).set world.files.length (lockText self.pid)⟩
  refine ⟨⟨[], .ok (some .created), after⟩, ?_, rfl, world.files.length, rfl, ?_⟩
  · exact runAlone_pure LockWorld.serve _ after (some SingleInstanceLock.created)
  · simp [after]

theorem takeOver (lives : world.alive self.number = true) {file : Nat}
    (present : world.lockFile = some file) (existingPid : Option Nat) (calls : Nat) :
    TakesLock self (calls + 5) world (takeOver self existingPid) := by
  have removed : world.serveCall quietTurn .unlinkSync =
      ({ world with lockFile := none }, .ok ()) := by
    simp [LockWorld.serveCall, present, quietTurn]
  refine call removed lives ?_
  cases existingPid with
  | none =>
    refine createLock ?_ rfl (calls + 1)
    exact lives
  | some stalePid =>
    refine call rfl lives ?_
    refine createLock ?_ rfl calls
    exact lives

/-- An abandoned lock file is taken over. -/
theorem acquireSingleInstanceLock (lives : world.alive self.number = true)
    (abandoned : Abandoned world) : TakesLock self 9 world (acquireSingleInstanceLock self) := by
  obtain ⟨file, present, dead⟩ := abandoned
  have found : world.serveCall quietTurn .existsSync = (world, true) := by
    simp only [LockWorld.serveCall, present, quietTurn]
    rfl
  have read : world.serveCall quietTurn .readFileSync =
      (world, .ok (world.files.getD file [])) := by
    simp [LockWorld.serveCall, present, quietTurn]
  refine call rfl lives ?_
  refine call found lives ?_
  refine call read lives ?_
  dsimp only [orThrow, Bind.bind, Async.bind]
  cases parsed : parseLockPid (world.files.getD file []) with
  | none => exact takeOver lives present none 1
  | some existingPid =>
    have answer : world.serveCall quietTurn (.kill existingPid) = (world, false) := by
      simp only [LockWorld.serveCall, dead existingPid parsed, quietTurn]
      rfl
    refine call answer lives ?_
    exact takeOver lives present (some existingPid) 0

end TakesLock

end LiquidationBot
