import LiquidationBot.SingleInstanceTakeover

/-!
# One process between its lock and the end of its loop

The invariant is that the file at the lock path backs every live process that
claims it: it is the empty file that the process has created, or names its pid.
Two live processes have distinct pids, so one file backs at most one of them.
Only a removal can take the file away from a process that relies on it.
-/

namespace LiquidationBot

open Async SingleInstanceLock

namespace LockSound

variable {world : LockWorld} {phases : List LockPhase}

/-- Deaths only take obligations away. -/
theorem killed (sound : LockSound world phases) (deaths : List Nat) :
    LockSound (world.killed deaths) phases where
  pids := by
    intro index other here there different foundHere foundThere livesHere livesThere
    obtain ⟨first, locatedFirst, samePid, firstLives⟩ := LockWorld.getElem?_killed foundHere
    obtain ⟨second, locatedSecond, sameOther, secondLives⟩ := LockWorld.getElem?_killed foundThere
    rw [samePid, sameOther]
    exact sound.pids index other first second different locatedFirst locatedSecond
      (firstLives livesHere) (secondLives livesThere)
  inside := sound.inside
  apart := sound.apart
  known := by
    intro index self stage found
    have known := sound.known index self stage found
    obtain ⟨process, located, same⟩ := Option.map_eq_some_iff.mp known
    simp [LockWorld.killed, List.getElem?_mapIdx, located, same]
  created := sound.created
  backs := by
    intro index self stage found lives
    have backed := sound.backs index self stage found (LockWorld.alive_of_alive_killed lives)
    cases stage <;> exact backed

/-- A process that has not made its first call. -/
theorem fresh (sound : LockSound world phases) : LockSound world (phases ++ [.fresh]) where
  pids := sound.pids
  inside := sound.inside
  apart := by
    apply sound.apart.snoc
    intro index phase found
    constructor
    · intro self stage other stage' isFresh
      cases isFresh
    · intro self stage other stage' _ isFresh
      cases isFresh
  known := by
    intro index self stage found
    rcases getElem?_snoc_cases found with earlier | ⟨_, isFresh⟩
    · exact sound.known index self stage earlier
    · cases isFresh
  created := by
    intro index self stage fd found unwritten
    rcases getElem?_snoc_cases found with earlier | ⟨_, isFresh⟩
    · exact sound.created index self stage fd earlier unwritten
    · cases isFresh
  backs := by
    intro index self stage found lives
    rcases getElem?_snoc_cases found with earlier | ⟨_, isFresh⟩
    · exact sound.backs index self stage earlier lives
    · cases isFresh

/-- A process starts under a pid that no live process has. -/
theorem start (sound : LockSound world phases) {index : Nat} {pid : Pid}
    (unused : world.pidAlive pid.value = false) :
    LockSound { world with processes := world.processes ++ [⟨pid, true⟩] }
      (phases.set index (.running ⟨world.processes.length, pid⟩ .acquiring)) := by
  have older : ∀ (place : Nat) self stage, phases[place]? = some (.running self stage) →
      self.number < world.processes.length := by
    intro place self stage found
    obtain ⟨process, located, _⟩ := Option.map_eq_some_iff.mp (sound.known place self stage found)
    exact (List.getElem?_eq_some_iff.mp located).1
  constructor
  · apply Apart.snoc sound.pids
    intro place process found
    have different : process.alive = true → process.pid ≠ pid := by
      rintro lives rfl
      have answers : world.pidAlive process.pid.value = true := by
        refine List.any_eq_true.mpr ⟨process, List.mem_of_getElem? found, ?_⟩
        simp [lives]
      rw [unused] at answers
      cases answers
    exact ⟨fun _ lives same => different lives same.symm, fun lives _ => different lives⟩
  · exact sound.inside
  · apply Apart.set sound.apart
    intro place phase elsewhere found
    constructor
    · rintro self stage other stage' ⟨⟩ rfl
      refine ⟨?_, ?_⟩
      · have := older place other stage' found
        change world.processes.length ≠ other.number
        omega
      · intro fd unwritten
        cases unwritten
    · rintro self stage other stage' rfl ⟨⟩
      refine ⟨?_, ?_⟩
      · have := older place self stage found
        change self.number ≠ world.processes.length
        omega
      · intro fd _ unwritten
        cases unwritten
  · intro place self stage found
    rcases getElem?_set_cases found with ⟨_, same⟩ | ⟨_, earlier⟩
    · cases same
      simp
    · rw [List.getElem?_append_left (older place self stage earlier)]
      exact sound.known place self stage earlier
  · intro place self stage fd found unwritten
    rcases getElem?_set_cases found with ⟨_, same⟩ | ⟨_, earlier⟩
    · cases same
      cases unwritten
    · exact sound.created place self stage fd earlier unwritten
  · intro place self stage found lives
    rcases getElem?_set_cases found with ⟨_, same⟩ | ⟨_, earlier⟩
    · cases same
      trivial
    · have livesBefore : world.alive self.number = true := by
        simp only [LockWorld.alive] at lives ⊢
        rwa [List.getElem?_append_left (older place self stage earlier)] at lives
      have backed := sound.backs place self stage earlier livesBefore
      cases stage <;> exact backed

variable {after : LockWorld} {index : Nat} {self : ProcessSelf} {stage stage' : LockStage}

/-- A call moves one process to its next stage. What backs it afterwards, and what
still backs the others, has to be shown. -/
theorem move (sound : LockSound world phases)
    (here : phases[index]? = some (.running self stage))
    (same : after.processes = world.processes)
    (inside : ∀ file, after.lockFile = some file → file < after.files.length)
    (grows : world.files.length ≤ after.files.length)
    (mine : ∀ fd, stage'.unwritten = some fd → fd < after.files.length ∧
      ∀ (place : Nat) other otherStage, place ≠ index →
        phases[place]? = some (.running other otherStage) → otherStage.unwritten ≠ some fd)
    (own : after.Backs self.pid stage')
    (others : ∀ (place : Nat) other otherStage, place ≠ index →
      phases[place]? = some (.running other otherStage) → world.alive other.number = true →
        after.Backs other.pid otherStage) :
    LockSound after (phases.set index (.running self stage')) where
  pids := same ▸ sound.pids
  inside := inside
  apart := by
    apply Apart.set sound.apart
    intro place phase elsewhere found
    constructor
    · rintro self' stage'' other otherStage ⟨⟩ rfl
      refine ⟨(sound.apart index place _ _ (Ne.symm elsewhere) here found self stage other
        otherStage rfl rfl).1, ?_⟩
      intro fd unwritten
      exact (mine fd unwritten).2 place other otherStage elsewhere found
    · rintro other otherStage self' stage'' rfl ⟨⟩
      refine ⟨(sound.apart place index _ _ elsewhere found here other otherStage self stage
        rfl rfl).1, ?_⟩
      intro fd unwritten unwritten'
      exact (mine fd unwritten').2 place other otherStage elsewhere found unwritten
  known := by
    intro place other otherStage found
    rw [same]
    rcases getElem?_set_cases found with ⟨_, isSelf⟩ | ⟨_, earlier⟩
    · cases isSelf
      exact sound.known index self stage here
    · exact sound.known place other otherStage earlier
  created := by
    intro place other otherStage fd found unwritten
    rcases getElem?_set_cases found with ⟨_, isSelf⟩ | ⟨_, earlier⟩
    · cases isSelf
      exact (mine fd unwritten).1
    · exact lt_of_lt_of_le (sound.created place other otherStage fd earlier unwritten) grows
  backs := by
    intro place other otherStage found lives
    rcases getElem?_set_cases found with ⟨_, isSelf⟩ | ⟨elsewhere, earlier⟩
    · cases isSelf
      exact own
    · simp only [LockWorld.alive, same] at lives
      exact others place other otherStage elsewhere earlier lives

/-- A call without effect. -/
theorem stay (sound : LockSound world phases)
    (here : phases[index]? = some (.running self stage))
    (created : ∀ fd, stage'.unwritten = some fd → stage.unwritten = some fd)
    (own : world.Backs self.pid stage') :
    LockSound world (phases.set index (.running self stage')) := by
  apply sound.move here rfl sound.inside le_rfl
  · intro fd unwritten
    have before := created fd unwritten
    refine ⟨sound.created index self stage fd here before, ?_⟩
    intro place other otherStage elsewhere found unwritten'
    exact (sound.apart place index _ _ elsewhere found here other otherStage self stage
      rfl rfl).2 fd unwritten' before
  · exact own
  · intro place other otherStage _ found lives
    exact sound.backs place other otherStage found lives

/-- No file is at the lock path: nobody alive relies on one. -/
theorem idle (sound : LockSound world phases) (absent : world.lockFile = none) {place : Nat}
    {other : ProcessSelf} {otherStage : LockStage}
    (found : phases[place]? = some (.running other otherStage))
    (lives : world.alive other.number = true) : otherStage.claims = false := by
  rw [← Bool.not_eq_true]
  intro claims
  exact (sound.backs place other otherStage found lives).lockFile claims absent

/-- A stage that claims nothing needs no file. -/
theorem backs_of_not_claims {pid : Pid} (unclaimed : stage.claims = false) :
    world.Backs pid stage := by
  cases stage with
  | acquiring => trivial
  | ended => trivial
  | opened fd => cases unclaimed
  | recognized => cases unclaimed
  | written => cases unclaimed
  | holding => cases unclaimed

section Calls

variable {turn : LockTurn}

/-- The exclusive create: no file was there, so nobody alive relied on one. -/
theorem openSync {answer : Except SystemError Nat} (sound : LockSound world phases)
    (here : phases[index]? = some (.running self stage))
    (served : world.serveCall turn .openSync = (after, answer))
    (stepped : stage.next self.pid .openSync answer = some stage') :
    LockSound after (phases.set index (.running self stage')) := by
  cases stage with
  | acquiring =>
    rcases LockWorld.serveCall_openSync turn world with ⟨error, failed⟩ | ⟨absent, opened⟩
    · cases failed.symm.trans served
      cases stepped
      exact sound.stay here (fun fd unwritten => unwritten) trivial
    · cases opened.symm.trans served
      cases stepped
      refine sound.move here rfl ?_ (by simp) ?_ ?_ ?_
      · rintro file ⟨⟩
        simp
      · rintro fd ⟨⟩
        refine ⟨by simp, ?_⟩
        intro place other otherStage _ found unwritten
        exact absurd (sound.created place other otherStage _ found unwritten) (lt_irrefl _)
      · exact ⟨rfl, List.getElem?_concat_length⟩
      · intro place other otherStage _ found lives
        exact backs_of_not_claims (sound.idle absent found lives)
  | recognized => cases stepped
  | opened fd => cases stepped
  | written => cases stepped
  | holding => cases stepped
  | ended => cases stepped

/-- The pid is written into the created file. While it was empty, nobody else
alive relied on the file at the lock path. -/
theorem writeFileSync {target : Nat} {data : List Char} {answer : Except SystemError Unit}
    (sound : LockSound world phases) (here : phases[index]? = some (.running self stage))
    (lives : world.alive self.number = true)
    (served : world.serveCall turn (.writeFileSync target data) = (after, answer))
    (stepped : stage.next self.pid (.writeFileSync target data) answer = some stage') :
    LockSound after (phases.set index (.running self stage')) := by
  cases stage with
  | opened fd =>
    rcases LockWorld.serveCall_writeFileSync turn world target data with ⟨error, failed⟩ | wrote
    · cases failed.symm.trans served
      cases stepped
      exact sound.stay here (fun fd unwritten => by cases unwritten) trivial
    · cases wrote.symm.trans served
      simp only [LockStage.next, Option.ite_none_right_eq_some] at stepped
      obtain ⟨⟨rfl, rfl⟩, same⟩ := stepped
      cases same
      obtain ⟨path, empty⟩ := sound.backs index self _ here lives
      have small : target < world.files.length := (List.getElem?_eq_some_iff.mp empty).1
      refine sound.move here rfl ?_ (by simp) ?_ ?_ ?_
      · intro file located
        simpa using sound.inside file located
      · intro fd unwritten
        cases unwritten
      · exact ⟨target, lockText self.pid, path, by simp [small], parseLockPid_lockText self.pid⟩
      · intro place other otherStage elsewhere found alive
        have backed := sound.backs place other otherStage found alive
        cases otherStage with
        | acquiring => trivial
        | ended => trivial
        | opened fd =>
          cases path.symm.trans backed.1
          exact absurd rfl ((sound.apart place index _ _ elsewhere found here other _ self _
            rfl rfl).2 target rfl)
        | recognized | written | holding =>
          obtain ⟨file, contents, located, stored, parsed⟩ := backed
          cases path.symm.trans located
          cases empty.symm.trans stored
          rw [parseLockPid_nil] at parsed
          cases parsed
  | acquiring => cases stepped
  | recognized => cases stepped
  | written => cases stepped
  | holding => cases stepped
  | ended => cases stepped

/-- A process that reads its own pid relies on the file it has read. -/
theorem readFileSync {answer : Except SystemError (List Char)} (sound : LockSound world phases)
    (here : phases[index]? = some (.running self stage))
    (lives : world.alive self.number = true)
    (served : world.serveCall turn .readFileSync = (after, answer))
    (stepped : stage.next self.pid .readFileSync answer = some stage') :
    LockSound after (phases.set index (.running self stage')) := by
  have backed := sound.backs index self stage here lives
  cases stage with
  | acquiring =>
    rcases LockWorld.serveCall_readFileSync turn world with ⟨error, failed⟩ | ⟨file, path, read⟩
    · cases failed.symm.trans served
      cases stepped
      exact sound.stay here (fun fd unwritten => unwritten) trivial
    · cases read.symm.trans served
      simp only [LockStage.next, Option.some.injEq] at stepped
      split at stepped
      next own =>
        cases stepped
        refine sound.stay here (fun fd unwritten => by cases unwritten) ?_
        have stored := List.getElem?_eq_getElem (sound.inside file path)
        rw [List.getD_eq_getElem?_getD, stored] at own
        exact ⟨file, _, path, stored, own⟩
      next =>
        cases stepped
        exact sound.stay here (fun fd unwritten => unwritten) trivial
  | holding | ended =>
    have unchanged : after = world := by
      rcases LockWorld.serveCall_readFileSync turn world with ⟨error, failed⟩ | ⟨file, path, read⟩
      · exact (congrArg Prod.fst (failed.symm.trans served)).symm
      · exact (congrArg Prod.fst (read.symm.trans served)).symm
    subst unchanged
    cases stepped
    exact sound.stay here (fun fd unwritten => unwritten) backed
  | recognized => cases stepped
  | opened fd => cases stepped
  | written => cases stepped

/-- A removal that nobody alive has a claim against. -/
theorem unlinkSync {answer : Except SystemError Unit} (sound : LockSound world phases)
    (here : phases[index]? = some (.running self stage))
    (lives : world.alive self.number = true)
    (served : world.serveCall turn .unlinkSync = (after, answer))
    (stepped : stage.next self.pid .unlinkSync answer = some stage')
    (unclaimed : turn.fails = false → ∀ (place : Nat) other otherStage,
      phases[place]? = some (.running other otherStage) → world.alive other.number = true →
        otherStage.claims = false) :
    LockSound after (phases.set index (.running self stage')) := by
  have same : stage' = stage := by
    cases stage <;> first | (cases stepped; rfl) | cases stepped
  subst same
  rcases LockWorld.serveCall_unlinkSync turn world with ⟨error, failed⟩ | ⟨works, removed⟩
  · cases failed.symm.trans served
    exact sound.stay here (fun fd unwritten => unwritten)
      (sound.backs index self stage' here lives)
  · cases removed.symm.trans served
    refine sound.move here rfl ?_ le_rfl ?_ ?_ ?_
    · intro file located
      cases located
    · intro fd unwritten
      have claims := unclaimed works index self stage' here lives
      exact absurd (LockStage.claims_of_unwritten unwritten) (Bool.eq_false_iff.mp claims)
    · exact backs_of_not_claims (unclaimed works index self stage' here lives)
    · intro place other otherStage _ found alive
      exact backs_of_not_claims (unclaimed works place other otherStage found alive)

/-- Every other call leaves the files alone, and relies on nothing new. -/
theorem quiet {syscall : ProcessCall} {answer : syscall.Answer} (sound : LockSound world phases)
    (here : phases[index]? = some (.running self stage))
    (lives : world.alive self.number = true) (isQuiet : syscall.quiet = true)
    (stepped : stage.next self.pid syscall answer = some stage') :
    LockSound world (phases.set index (.running self stage')) := by
  have backed := sound.backs index self stage here lives
  rcases LockStage.next_quiet isQuiet stepped with rfl | unclaimed | ⟨rfl, rfl | rfl⟩
  · exact sound.stay here (fun fd unwritten => unwritten) backed
  · refine sound.stay here ?_ (backs_of_not_claims unclaimed)
    intro fd unwritten
    exact absurd (LockStage.claims_of_unwritten unwritten) (Bool.eq_false_iff.mp unclaimed)
  · exact sound.stay here (fun fd unwritten => by cases unwritten) backed
  · exact sound.stay here (fun fd unwritten => by cases unwritten) backed

/-- One call of a live process. -/
theorem call {syscall : ProcessCall} {answer : syscall.Answer} (sound : LockSound world phases)
    (here : phases[index]? = some (.running self stage))
    (lives : world.alive self.number = true)
    (served : world.serveCall turn syscall = (after, answer))
    (stepped : stage.next self.pid syscall answer = some stage')
    (unclaimed : syscall = .unlinkSync → turn.fails = false → ∀ (place : Nat) other otherStage,
      phases[place]? = some (.running other otherStage) → world.alive other.number = true →
        otherStage.claims = false) :
    LockSound after (phases.set index (.running self stage')) := by
  by_cases isQuiet : syscall.quiet = true
  · have unchanged : after = world :=
      (congrArg Prod.fst served).symm.trans (LockWorld.serveCall_quiet turn world isQuiet)
    rw [unchanged]
    exact sound.quiet here lives isQuiet stepped
  · cases syscall with
    | readFileSync => exact sound.readFileSync here lives served stepped
    | unlinkSync => exact sound.unlinkSync here lives served stepped (unclaimed rfl)
    | openSync => exact sound.openSync here served stepped
    | writeFileSync fd data => exact sound.writeFileSync here lives served stepped
    | _ => exact absurd rfl isQuiet

end Calls

/-- Two live processes do not rely on the lock file at once. -/
theorem exclusive (sound : LockSound world phases) {other : Nat} {self' : ProcessSelf}
    (here : phases[index]? = some (.running self .holding))
    (there : phases[other]? = some (.running self' .holding))
    (livesHere : world.alive self.number = true) (livesThere : world.alive self'.number = true) :
    index = other := by
  obtain ⟨file, contents, path, stored, parsed⟩ := sound.backs index self _ here livesHere
  obtain ⟨file', contents', path', stored', parsed'⟩ := sound.backs other self' _ there livesThere
  cases path.symm.trans path'
  cases stored.symm.trans stored'
  have samePid : self.pid.value = self'.pid.value := Option.some.inj (parsed.symm.trans parsed')
  by_contra different
  have numbers := (sound.apart index other _ _ different here there self _ self' _ rfl rfl).1
  obtain ⟨process, found, alive⟩ := LockWorld.alive_eq_true_iff.mp livesHere
  obtain ⟨process', found', alive'⟩ := LockWorld.alive_eq_true_iff.mp livesThere
  have pid := sound.known index self _ here
  have pid' := sound.known other self' _ there
  rw [found, Option.map_some, Option.some.injEq] at pid
  rw [found', Option.map_some, Option.some.injEq] at pid'
  apply sound.pids _ _ process process' numbers found found' alive alive'
  rw [pid, pid']
  exact Pid.ext samePid

end LockSound

/-- The answers after which a process with a lock is no longer in `main`: the gate
has blocked it, its bot was not built, or its polling loop has ended. -/
def endsMain : Event ProcessOp ProcessOp.Answer → Bool
  | ⟨.system _ .evaluateRuntimeDeploymentSafety, true⟩ => true
  | ⟨.system _ .buildBot, .error _⟩ => true
  | ⟨.system _ .runPollingLoop, some _⟩ => true
  | ⟨.system _ .pollingLoopEnd, _⟩ => true
  | _ => false

/-- A process has acquired a lock, and its `main` goes on since. -/
def HoldsLock (self : ProcessSelf) (thread : Thread ProcessOp ProcessOp.Answer SystemError Unit) :
    Prop :=
  ∃ taken lock since, thread.log = ⟨.start, self⟩ :: (taken ++ since) ∧
    Runs (acquireSingleInstanceLock self) taken (.ok (some lock)) ∧
      ∀ event ∈ since, endsMain event = false

/-- No two live processes hold a lock. -/
def Exclusive (pool : LockPool) : Prop :=
  ∀ (index other : Nat) thread thread' self self', index ≠ other →
    pool.threads[index]? = some thread → pool.threads[other]? = some thread' →
      HoldsLock self thread → HoldsLock self' thread' →
        ¬ (pool.shared.alive self.number = true ∧ pool.shared.alive self'.number = true)

theorem holding_next {self : ProcessSelf} {phase : LockPhase}
    {event : Event ProcessOp ProcessOp.Answer} (continues : endsMain event = false)
    (stepped : LockPhase.next (.running self .holding) event.1 event.2 = some phase) :
    phase = .running self .holding := by
  obtain ⟨op, answer⟩ := event
  cases op with
  | start => cases stepped
  | system number syscall =>
    simp only [LockPhase.next, Option.ite_none_right_eq_some, Option.map_eq_some_iff] at stepped
    obtain ⟨_, stage, moved, rfl⟩ := stepped
    cases syscall with
    | evaluateRuntimeDeploymentSafety =>
      cases answer with
      | true => cases continues
      | false =>
        cases moved
        rfl
    | buildBot =>
      cases answer with
      | error error => cases continues
      | ok _ =>
        cases moved
        rfl
    | runPollingLoop =>
      cases answer with
      | some ended => cases continues
      | none =>
        cases moved
        rfl
    | pollingLoopEnd => cases continues
    | existsSync | readFileSync | unlinkSync =>
      cases moved
      rfl
    | _ => cases moved

theorem holding_replay {self : ProcessSelf} {since : List (Event ProcessOp ProcessOp.Answer)}
    (continues : ∀ event ∈ since, endsMain event = false) {phase : LockPhase}
    (replayed : replay LockPhase.next (.running self .holding) since = some phase) :
    phase = .running self .holding := by
  induction since generalizing phase with
  | nil => exact (Option.some.inj replayed).symm
  | cons event rest inductionHypothesis =>
    obtain ⟨between, stepped, remaining⟩ := Option.bind_eq_some_iff.mp replayed
    cases holding_next (continues event List.mem_cons_self) stepped
    exact inductionHypothesis
      (fun later member => continues later (List.mem_cons_of_mem event member))
      remaining

/-- A process that holds a lock is in that stage. -/
theorem HoldsLock.stage {self : ProcessSelf}
    {thread : Thread ProcessOp ProcessOp.Answer SystemError Unit} (holds : HoldsLock self thread)
    {phase : LockPhase} (replayed : replay LockPhase.next .fresh thread.log = some phase) :
    phase = .running self .holding := by
  obtain ⟨taken, lock, since, log, acquired, continues⟩ := holds
  obtain ⟨between, reached, accepted⟩ := acquireSingleInstanceLock_conforms.replay acquired
  have first : LockPhase.next .fresh .start self = some (.running self .acquiring) := rfl
  rw [log, replay, first, Option.bind_some, replay_append, reached, Option.bind_some,
    show between = .running self .holding from accepted] at replayed
  exact holding_replay continues replayed

/-- The invariant of every run that removes unclaimed lock files only. -/
theorem lockSound_of_run {world : LockWorld} {pool : LockPool} (empty : world.processes = [])
    (inside : ∀ file, world.lockFile = some file → file < world.files.length)
    (run : Pool.Run LockWorld.serve (fun pool act => RunsMain act ∧ removesUnclaimed pool act = true)
      (Pool.initial world) pool) :
    ∃ phases, Pool.Tracks LockPhase.next (fun _ _ => True) .fresh pool phases ∧
      LockSound pool.shared phases := by
  apply run.invariant (fun pool phases => LockSound pool.shared phases)
  · refine ⟨[], .nil, ?_⟩
    constructor
    · simp only [Pool.initial, empty]
      exact Apart.nil
    · exact inside
    · exact Apart.nil
    all_goals
      intro index self stage
      intros
      simp_all
  · rintro before phases program tracks sound ⟨⟨config, rfl⟩, _⟩
    exact ⟨main_conforms config, sound.fresh⟩
  · rintro before phases index turn op resume log shared answer phase after tracks sound
      ⟨_, permitted⟩ found served located stepped _
    have sound := sound.killed turn.deaths
    cases phase with
    | fresh =>
      cases op with
      | system number syscall => cases stepped
      | start =>
        obtain ⟨unused, same⟩ := Option.ite_none_left_eq_some.mp served
        cases same
        cases stepped
        exact sound.start (by simpa using unused)
    | running self stage =>
      cases op with
      | start => cases stepped
      | system number syscall =>
        simp only [LockPhase.next, Option.ite_none_right_eq_some, Option.map_eq_some_iff] at stepped
        obtain ⟨rfl, stage', moved, rfl⟩ := stepped
        obtain ⟨lives, answered⟩ := Option.ite_none_right_eq_some.mp served
        apply sound.call located lives (Option.some.inj answered) moved
        rintro rfl works place other otherStage listed alive
        obtain ⟨thread, member, tracked⟩ := tracks.phase listed
        have free : unclaimed (before.shared.killed turn.deaths) before.threads = true := by
          simpa [removesUnclaimed, found, waitsForUnlink, works] using permitted
        exact claims_eq_false_of_unclaimed free (List.mem_of_getElem? member) tracked.1 alive

/-- In every run that removes unclaimed lock files only, no two live processes
hold a lock; and an abandoned lock file is taken over. -/
theorem exclusive_of_removesUnclaimed {world : LockWorld} {pool : LockPool}
    (empty : world.processes = [])
    (inside : ∀ file, world.lockFile = some file → file < world.files.length)
    (run : Pool.Run LockWorld.serve (fun pool act => RunsMain act ∧ removesUnclaimed pool act = true)
      (Pool.initial world) pool) :
    Exclusive pool ∧ ∀ (self : ProcessSelf), pool.shared.alive self.number = true →
      Abandoned pool.shared → TakesLock self 9 pool.shared (acquireSingleInstanceLock self) := by
  obtain ⟨phases, tracks, sound⟩ := lockSound_of_run empty inside run
  refine ⟨?_, fun self lives abandoned => TakesLock.acquireSingleInstanceLock lives abandoned⟩
  intro index other thread thread' self self' different found found' holds holds' ⟨lives, lives'⟩
  obtain ⟨phase, located, tracked⟩ := tracks.thread found
  obtain ⟨phase', located', tracked'⟩ := tracks.thread found'
  cases holds.stage tracked.1
  cases holds'.stage tracked'.1
  exact different (sound.exclusive located located' lives lives')

/-- The process whose log shows a lock, read off by following its calls. -/
def holder (thread : Thread ProcessOp ProcessOp.Answer SystemError Unit) : Option ProcessSelf :=
  match thread.log with
  | ⟨.start, self⟩ :: events =>
      match (acquireSingleInstanceLock self).follow events with
      | some (.ok (some _), since) =>
          if since.all (fun event => !endsMain event) then some self else none
      | _ => none
  | _ => none

theorem holdsLock_of_holder {thread : Thread ProcessOp ProcessOp.Answer SystemError Unit}
    {self : ProcessSelf} (holds : holder thread = some self) : HoldsLock self thread := by
  simp only [holder] at holds
  split at holds
  next started events log =>
    split at holds
    next lock since followed =>
      obtain ⟨continues, same⟩ := Option.ite_none_right_eq_some.mp holds
      cases same
      obtain ⟨taken, rfl, runs⟩ := runs_of_follow followed
      refine ⟨taken, lock, since, log, runs, ?_⟩
      simpa using continues
    next => cases holds
  next => cases holds

section Schedules

/-- A process that runs `main` with the defaults. -/
def mainProgram : ProcessProgram Unit := main ⟨false, false⟩

def otherTurn : LockTurn := { quietTurn with pid := ⟨2, by decide, by decide⟩ }

/-- The first process has created the file and has not written its pid when the
second one looks at it. Both then go on into their polling loops. -/
def emptyFileSchedule : List LockAct :=
  [.start mainProgram, .start mainProgram] ++ List.replicate 4 (.run 0 quietTurn) ++
    List.replicate 10 (.run 1 otherTurn) ++ List.replicate 4 (.run 0 quietTurn)

/-- The first process takes over the file of a dead one, and its polling loop
ends. A signal before its exit removes the file, and the second process follows. -/
def successiveSchedule : List LockAct :=
  [.start mainProgram] ++ List.replicate 13 (.run 0 quietTurn) ++
    [.run 0 { quietTurn with signal := true }] ++ List.replicate 3 (.run 0 quietTurn) ++
    [.start mainProgram] ++ List.replicate 8 (.run 1 otherTurn)

theorem runsMain_emptyFileSchedule : ∀ act ∈ emptyFileSchedule, RunsMain act := by
  intro act member
  simp only [emptyFileSchedule, List.mem_append, List.mem_cons, List.not_mem_nil, or_false,
    List.mem_replicate] at member
  rcases member with ((((rfl | rfl) | ⟨_, rfl⟩) | ⟨_, rfl⟩) | ⟨_, rfl⟩)
  · exact ⟨_, rfl⟩
  · exact ⟨_, rfl⟩
  · trivial
  · trivial
  · trivial

theorem runsMain_successiveSchedule : ∀ act ∈ successiveSchedule, RunsMain act := by
  intro act member
  simp only [successiveSchedule, List.mem_append, List.mem_cons, List.not_mem_nil, or_false,
    List.mem_replicate] at member
  rcases member with ((((rfl | ⟨_, rfl⟩) | rfl) | ⟨_, rfl⟩) | rfl) | ⟨_, rfl⟩
  · exact ⟨_, rfl⟩
  · trivial
  · trivial
  · trivial
  · exact ⟨_, rfl⟩
  · trivial

/-- A lock file of a dead process is left. -/
def leftWorld : LockWorld := ⟨[], some 0, [['7', '\n']]⟩

def successivePool : LockPool :=
  (Pool.execute LockWorld.serve removesUnclaimed (Pool.initial leftWorld)
    successiveSchedule).get (by decide +kernel)

/-- The theorem at two processes, one after the other. -/
theorem exclusive_successive :
    (Exclusive successivePool ∧ ∀ (self : ProcessSelf),
      successivePool.shared.alive self.number = true → Abandoned successivePool.shared →
        TakesLock self 9 successivePool.shared (acquireSingleInstanceLock self)) ∧
      successivePool.threads.map holder = [none, some ⟨1, ⟨2, by decide, by decide⟩⟩] := by
  constructor
  · refine exclusive_of_removesUnclaimed (show leftWorld.processes = [] from rfl) ?_
      (Pool.run_of_execute .refl
        (fun act member _ passed => ⟨runsMain_successiveSchedule act member, passed⟩)
        (Option.some_get _).symm)
    rintro file ⟨⟩
    decide
  · decide +kernel

def emptyFilePool : LockPool :=
  (Pool.execute LockWorld.serve (fun _ _ => true) (Pool.initial ⟨[], none, []⟩)
    emptyFileSchedule).get (by decide +kernel)

/-- Two live processes are in their polling loops, each with a lock. -/
theorem two_instances_hold :
    Pool.Run LockWorld.serve (fun _ act => RunsMain act) (Pool.initial ⟨[], none, []⟩)
        emptyFilePool ∧
      ¬ Exclusive emptyFilePool := by
  constructor
  · exact Pool.run_of_execute .refl (fun act member _ _ => runsMain_emptyFileSchedule act member)
      (Option.some_get _).symm
  · intro exclusive
    have holders : emptyFilePool.threads.map holder =
        [some ⟨0, ⟨1, by decide, by decide⟩⟩, some ⟨1, ⟨2, by decide, by decide⟩⟩] := by
      decide +kernel
    have first : (emptyFilePool.threads.map holder)[0]? =
        some (some ⟨0, ⟨1, by decide, by decide⟩⟩) := by rw [holders]; rfl
    have second : (emptyFilePool.threads.map holder)[1]? =
        some (some ⟨1, ⟨2, by decide, by decide⟩⟩) := by rw [holders]; rfl
    rw [List.getElem?_map] at first second
    obtain ⟨thread, found, holds⟩ := Option.map_eq_some_iff.mp first
    obtain ⟨thread', found', holds'⟩ := Option.map_eq_some_iff.mp second
    exact exclusive 0 1 thread thread' _ _ Nat.zero_ne_one found found'
      (holdsLock_of_holder holds) (holdsLock_of_holder holds') (by decide +kernel)

end Schedules

end LiquidationBot
