import LiquidationBot.Library.Apart
import LiquidationBot.Library.AsyncPool
import LiquidationBot.SingleInstanceProtocol

/-!
# Processes around one lock file

The file system keeps what the processes share: which of them live, the file at
the lock path, and the contents of every file that has been there. A process
that was created keeps writing into its own file after another process has
removed it. At every turn a run may let processes die, make a system call fail,
and choose which other processes of the machine answer to a pid.
-/

namespace LiquidationBot

open Async SingleInstanceLock

structure BotProcess where
  pid : Pid
  alive : Bool
deriving DecidableEq

/-- `lockFile` is the file at the lock path, by its place in `files`. -/
structure LockWorld where
  processes : List BotProcess
  lockFile : Option Nat
  files : List (List Char)
deriving DecidableEq

/-- What a run chooses at one turn. -/
structure LockTurn where
  deaths : List Nat
  pid : Pid
  fails : Bool
  foreign : Bool
  blocked : Bool
  signal : Bool
  outcome : Except SystemError Unit

namespace LockWorld

def alive (world : LockWorld) (number : Nat) : Bool :=
  (world.processes[number]?).any (fun process => process.alive)

/-- Whether a bot process answers to a pid. -/
def pidAlive (world : LockWorld) (pid : Nat) : Bool :=
  world.processes.any (fun process => process.alive && process.pid.value == pid)

def killed (world : LockWorld) (deaths : List Nat) : LockWorld :=
  { world with
    processes := world.processes.mapIdx (fun number process =>
      { process with alive := process.alive && !deaths.contains number }) }

def attempted (turn : LockTurn) : Except SystemError Unit :=
  if turn.fails then .error .other else .ok ()

/-- Effect and answer of a call. A call that fails has no effect. -/
def serveCall (turn : LockTurn) (world : LockWorld) :
    (syscall : ProcessCall) → LockWorld × syscall.Answer
  | .mkdirSync => (world, attempted turn)
  | .existsSync => (world, world.lockFile.isSome && !turn.fails)
  | .readFileSync =>
      match world.lockFile with
      | none => (world, .error .ENOENT)
      | some file =>
          if turn.fails then (world, .error .other) else (world, .ok (world.files.getD file []))
  | .unlinkSync =>
      match world.lockFile with
      | none => (world, .error .ENOENT)
      | some _ =>
          if turn.fails then (world, .error .other)
          else ({ world with lockFile := none }, .ok ())
  | .onStaleLockRemoved _ => (world, attempted turn)
  | .openSync =>
      match world.lockFile with
      | some _ => (world, .error .EEXIST)
      | none =>
          if turn.fails then (world, .error .other)
          else
            ({ world with lockFile := some world.files.length, files := world.files ++ [[]] },
              .ok world.files.length)
  | .writeFileSync fd data =>
      if turn.fails then (world, .error .other)
      else ({ world with files := world.files.set fd data }, .ok ())
  | .closeSync _ => (world, attempted turn)
  | .kill pid => (world, world.pidAlive pid || turn.foreign)
  | .runDryRunReplay => (world, turn.outcome)
  | .evaluateRuntimeDeploymentSafety => (world, turn.blocked)
  | .buildBot => (world, turn.outcome)
  | .runPollingLoop => (world, if turn.signal then none else some turn.outcome)
  | .pollingLoopEnd => (world, turn.outcome)
  | .exit => (world, turn.signal)

theorem serveCall_readFileSync (turn : LockTurn) (world : LockWorld) :
    (∃ error, world.serveCall turn .readFileSync = (world, .error error)) ∨
      ∃ file, world.lockFile = some file ∧
        world.serveCall turn .readFileSync = (world, .ok (world.files.getD file [])) := by
  simp only [serveCall]
  cases present : world.lockFile with
  | none => exact Or.inl ⟨.ENOENT, rfl⟩
  | some file =>
    by_cases fails : turn.fails = true
    · exact Or.inl ⟨.other, by simp [fails]⟩
    · exact Or.inr ⟨file, rfl, by simp [fails]⟩

theorem serveCall_unlinkSync (turn : LockTurn) (world : LockWorld) :
    (∃ error, world.serveCall turn .unlinkSync = (world, .error error)) ∨
      turn.fails = false ∧
        world.serveCall turn .unlinkSync = ({ world with lockFile := none }, .ok ()) := by
  simp only [serveCall]
  cases present : world.lockFile with
  | none => exact Or.inl ⟨.ENOENT, rfl⟩
  | some file =>
    by_cases fails : turn.fails = true
    · exact Or.inl ⟨.other, by simp [fails]⟩
    · exact Or.inr ⟨by simpa using fails, by simp [fails]⟩

theorem serveCall_openSync (turn : LockTurn) (world : LockWorld) :
    (∃ error, world.serveCall turn .openSync = (world, .error error)) ∨
      world.lockFile = none ∧ world.serveCall turn .openSync =
        ({ world with lockFile := some world.files.length, files := world.files ++ [[]] },
          .ok world.files.length) := by
  simp only [serveCall]
  cases present : world.lockFile with
  | some file => exact Or.inl ⟨.EEXIST, rfl⟩
  | none =>
    by_cases fails : turn.fails = true
    · exact Or.inl ⟨.other, by simp [fails]⟩
    · exact Or.inr ⟨rfl, by simp [fails]⟩

theorem serveCall_writeFileSync (turn : LockTurn) (world : LockWorld) (fd : Nat)
    (data : List Char) :
    (∃ error, world.serveCall turn (.writeFileSync fd data) = (world, .error error)) ∨
      world.serveCall turn (.writeFileSync fd data) =
        ({ world with files := world.files.set fd data }, .ok ()) := by
  by_cases fails : turn.fails = true
  · exact Or.inl ⟨.other, by simp [serveCall, fails]⟩
  · exact Or.inr (by simp [serveCall, fails])

/-- The other calls have no effect on the files. -/
theorem serveCall_quiet (turn : LockTurn) (world : LockWorld) {syscall : ProcessCall}
    (quiet : syscall.quiet = true) : (world.serveCall turn syscall).1 = world := by
  cases syscall <;> first | rfl | cases quiet

/-- Live processes have distinct pids, and a dead one makes no calls. -/
def serve : Server LockTurn LockWorld ProcessOp ProcessOp.Answer :=
  fun turn before op =>
    let world := before.killed turn.deaths
    match op with
    | .start =>
        if world.pidAlive turn.pid.value then none
        else
          some ({ world with processes := world.processes ++ [⟨turn.pid, true⟩] },
            ⟨world.processes.length, turn.pid⟩)
    | .system number syscall =>
        if world.alive number then some (world.serveCall turn syscall) else none

/-- The file at the lock path is the one that a stage relies on. -/
def Backs (world : LockWorld) (pid : Pid) : LockStage → Prop
  | .opened fd => world.lockFile = some fd ∧ world.files[fd]? = some []
  | .acquiring => True
  | .ended => True
  | _ => ∃ file contents, world.lockFile = some file ∧ world.files[file]? = some contents ∧
      parseLockPid contents = some pid.value

theorem alive_eq_true_iff {world : LockWorld} {number : Nat} :
    world.alive number = true ↔
      ∃ process, world.processes[number]? = some process ∧ process.alive = true := by
  simp only [alive, Option.any_eq_true]

theorem getElem?_killed {world : LockWorld} {deaths : List Nat} {number : Nat}
    {process : BotProcess} (found : (world.killed deaths).processes[number]? = some process) :
    ∃ before, world.processes[number]? = some before ∧ process.pid = before.pid ∧
      (process.alive = true → before.alive = true) := by
  simp only [killed, List.getElem?_mapIdx] at found
  obtain ⟨before, located, rfl⟩ := Option.map_eq_some_iff.mp found
  refine ⟨before, located, rfl, ?_⟩
  intro lives
  exact (Bool.and_eq_true_iff.mp lives).1

theorem alive_of_alive_killed {world : LockWorld} {deaths : List Nat} {number : Nat}
    (lives : (world.killed deaths).alive number = true) : world.alive number = true := by
  obtain ⟨process, found, alive⟩ := alive_eq_true_iff.mp lives
  obtain ⟨before, located, _, earlier⟩ := getElem?_killed found
  exact alive_eq_true_iff.mpr ⟨before, located, earlier alive⟩

/-- A process that claims the lock relies on a file at the lock path. -/
theorem Backs.lockFile {world : LockWorld} {pid : Pid} {stage : LockStage}
    (backed : world.Backs pid stage) (claims : stage.claims = true) :
    world.lockFile ≠ none := by
  intro none
  cases stage with
  | opened fd => cases backed.1.symm.trans none
  | acquiring => cases claims
  | ended => cases claims
  | recognized | written | holding =>
    obtain ⟨file, _, located, _⟩ := backed
    cases located.symm.trans none

end LockWorld

/-- A pool of processes that run `main`. -/
abbrev LockPool := Pool LockWorld ProcessOp ProcessOp.Answer SystemError Unit

abbrev LockAct := Act LockTurn ProcessOp ProcessOp.Answer SystemError Unit

/-- Every program that is started is `main`. -/
def RunsMain : LockAct → Prop
  | .start program => ∃ config, program = main config
  | .run _ _ => True

/-- The stage of a thread, as its calls tell it. -/
def stageOf (thread : Thread ProcessOp ProcessOp.Answer SystemError Unit) : Option LockPhase :=
  replay LockPhase.next .fresh thread.log

/-- No live process claims the lock file. -/
def unclaimed (world : LockWorld)
    (threads : List (Thread ProcessOp ProcessOp.Answer SystemError Unit)) : Bool :=
  threads.all (fun thread => match stageOf thread with
    | some (.running self stage) => !(world.alive self.number && stage.claims)
    | _ => true)

def waitsForUnlink : Thread ProcessOp ProcessOp.Answer SystemError Unit → Bool
  | ⟨.call (.system _ .unlinkSync) _, _⟩ => true
  | _ => false

/-- A lock file is removed only while no live process claims it. -/
def removesUnclaimed (pool : LockPool) : LockAct → Bool
  | .start _ => true
  | .run index turn =>
      !(pool.threads[index]?).any waitsForUnlink || turn.fails ||
        unclaimed (pool.shared.killed turn.deaths) pool.threads

theorem claims_eq_false_of_unclaimed {world : LockWorld}
    {threads : List (Thread ProcessOp ProcessOp.Answer SystemError Unit)}
    (free : unclaimed world threads = true)
    {thread : Thread ProcessOp ProcessOp.Answer SystemError Unit} (member : thread ∈ threads)
    {self : ProcessSelf} {stage : LockStage} (current : stageOf thread = some (.running self stage))
    (lives : world.alive self.number = true) : stage.claims = false := by
  have here := List.all_eq_true.mp free thread member
  simpa [current, lives] using here

/-- What every reachable pool satisfies. -/
structure LockSound (world : LockWorld) (phases : List LockPhase) : Prop where
  pids : Apart (fun first second : BotProcess => first.alive = true → second.alive = true →
    first.pid ≠ second.pid) world.processes
  inside : ∀ file, world.lockFile = some file → file < world.files.length
  apart : Apart (fun first second => ∀ self stage other stage', first = .running self stage →
    second = .running other stage' → self.number ≠ other.number ∧
      ∀ fd, stage.unwritten = some fd → stage'.unwritten ≠ some fd) phases
  known : ∀ (index : Nat) self stage, phases[index]? = some (.running self stage) →
    (world.processes[self.number]?).map BotProcess.pid = some self.pid
  created : ∀ (index : Nat) self stage fd, phases[index]? = some (.running self stage) →
    stage.unwritten = some fd → fd < world.files.length
  backs : ∀ (index : Nat) self stage, phases[index]? = some (.running self stage) →
    world.alive self.number = true → world.Backs self.pid stage

end LiquidationBot
