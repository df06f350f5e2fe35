import LiquidationBot.Library.Async
import LiquidationBot.Library.InsertionMap
import LiquidationBot.Library.Prefixes

/-!
# Checkpoints on disk

Both checkpoints of a chain are entries of one file. A save reads the file, sets its entry
and writes the file back, with two waits between. Saves run side by side, so what a save
writes back may be older than what the file holds by then, of the other entry or of its
own. Where it is not, every entry holds what was saved last.

The file system makes directories and writes; a read fails where there is no file with
JSON in it, and may fail otherwise.
-/

namespace LiquidationBot

open Async Prefixes

/-- The content of the file, by its keys. -/
abbrev CheckpointFile := InsertionMap String String

/-- The calls of the store, each of them one step. A read is parsed in its step. -/
inductive DiskOp where
  | readFile
  | mkdir
  | writeFile (content : CheckpointFile)

/-- A read answers nothing where it fails or there is no JSON. -/
@[reducible] def DiskOp.Answer : DiskOp → Type
  | .readFile => Option CheckpointFile
  | .mkdir => Unit
  | .writeFile _ => Unit

abbrev DiskM := Async DiskOp DiskOp.Answer Empty

namespace DiskBlockCursorStore

def get (key : String) : DiskM (Option String) :=
  .call .readFile (fun parsed => .pure (parsed.bind (fun content => content.get? key)))

def set (key value : String) : DiskM Unit :=
  .call .readFile (fun parsed =>
    let existing := parsed.getD .empty
    .call .mkdir (fun _ => .call (.writeFile (existing.set key value)) (fun _ => .pure ())))

end DiskBlockCursorStore

/-- The two checkpoints of a chain. -/
inductive CheckpointKey where
  | lastProcessed
  | bootstrap
deriving DecidableEq

namespace PositionCheckpointStore

def lastProcessedKey (chain : String) : String := "bot:lastProcessedBlock:" ++ chain

def bootstrapKey (chain : String) : String := "bot:bootstrapChunkCursor:" ++ chain

def saveLastProcessedBlock (chain : String) (blockNumber : Int) : DiskM Unit :=
  DiskBlockCursorStore.set (lastProcessedKey chain) (toString blockNumber)

def saveBootstrapChunkCursor (chain : String) (blockNumber : Int) : DiskM Unit :=
  DiskBlockCursorStore.set (bootstrapKey chain) (toString blockNumber)

/-- The key of a checkpoint. -/
def keyOf (chain : String) : CheckpointKey → String
  | .lastProcessed => lastProcessedKey chain
  | .bootstrap => bootstrapKey chain

/-- The save of a checkpoint. -/
def save (chain : String) : CheckpointKey → Int → DiskM Unit
  | .lastProcessed => saveLastProcessedBlock chain
  | .bootstrap => saveBootstrapChunkCursor chain

theorem save_eq (chain : String) (key : CheckpointKey) (blockNumber : Int) :
    save chain key blockNumber =
      DiskBlockCursorStore.set (keyOf chain key) (toString blockNumber) := by
  cases key <;> rfl

end PositionCheckpointStore

open PositionCheckpointStore

/-- A save that was called, and what is left of it. -/
structure CheckpointSave where
  key : CheckpointKey
  blockNumber : Int
  program : DiskM Unit

def CheckpointSave.completed (save : CheckpointSave) : Bool := !save.program.unfinished

/-- The file, and the saves in the order of their calls. -/
structure DiskWorld where
  file : Option CheckpointFile
  saves : List CheckpointSave

/-- A save is called, or one takes its next step, in which the file can be read or not. -/
inductive DiskStep where
  | save (key : CheckpointKey) (blockNumber : Int)
  | turn (index : Nat) (readable : Bool)

namespace DiskWorld

def initial (file : Option CheckpointFile) : DiskWorld := ⟨file, []⟩

/-- A call leaves a file and is answered. -/
def serve (readable : Bool) (file : Option CheckpointFile) :
    (op : DiskOp) → Option CheckpointFile × op.Answer
  | .readFile => (file, if readable then file else none)
  | .mkdir => (file, ())
  | .writeFile content => (some content, ())

def step (chain : String) (world : DiskWorld) : DiskStep → Option DiskWorld
  | .save key blockNumber =>
      some { world with
        saves := world.saves ++ [⟨key, blockNumber, PositionCheckpointStore.save chain key blockNumber⟩] }
  | .turn index readable =>
      match world.saves[index]? with
      | some ⟨key, blockNumber, .call op resume⟩ =>
          let served := serve readable world.file op
          some ⟨served.1, world.saves.set index ⟨key, blockNumber, resume served.2⟩⟩
      | _ => none

/-- The world after a run, if each of its steps can happen. -/
def after (chain : String) (file : Option CheckpointFile) (run : List DiskStep) : Option DiskWorld :=
  run.foldlM (step chain) (initial file)

/-- What `get` would answer of a file that can be read. -/
def held (chain : String) (file : Option CheckpointFile) (key : CheckpointKey) :
    Except Empty (Option String) :=
  (DiskBlockCursorStore.get (keyOf chain key)).evaluate (fun op => (serve true file op).2)

/-- The last of the saves of a checkpoint that have completed. -/
def lastCompleted (world : DiskWorld) (key : CheckpointKey) : Option CheckpointSave :=
  (world.saves.filter (fun save => save.key = key ∧ save.completed = true)).getLast?

/-- The last save of a checkpoint that was called. -/
def lastCalled (world : DiskWorld) (key : CheckpointKey) : Option CheckpointSave :=
  (world.saves.filter (fun save => save.key = key)).getLast?

/-- The file holds of each checkpoint what was saved last, or what it held at first; once all
saves have completed, that is the last call. -/
structure LosesNothing (chain : String) (file : Option CheckpointFile) (world : DiskWorld) :
    Prop where
  saved : ∀ key save, world.lastCompleted key = some save →
    held chain world.file key = .ok (some (toString save.blockNumber))
  untouched : ∀ key, world.lastCompleted key = none →
    held chain world.file key = held chain file key
  final : (∀ save ∈ world.saves, save.completed = true) →
    ∀ key save, world.lastCalled key = some save →
      held chain world.file key = .ok (some (toString save.blockNumber))

/-- What the program writes next. -/
def pendingWrite : DiskM Unit → Option CheckpointFile
  | .call (.writeFile content) _ => some content
  | _ => none

/-- A save that writes next has read the other checkpoint as the file holds it, and no later
save of its own one has completed. -/
def UpToDate (chain : String) (world : DiskWorld) : DiskStep → Prop
  | .save _ _ => True
  | .turn index _ =>
      ∀ save ∈ world.saves[index]?, ∀ content ∈ pendingWrite save.program,
        (∀ other, other ≠ save.key →
          held chain (some content) other = held chain world.file other) ∧
          ∀ later ∈ world.saves.drop (index + 1), later.key = save.key → later.completed = false

/-! ## What an up to date run keeps -/

/-- The stages of a save. -/
inductive Stage (chain : String) (save : CheckpointSave) : Prop where
  | called (program : save.program = PositionCheckpointStore.save chain save.key save.blockNumber)
  | read (existing : CheckpointFile)
      (program : save.program = .call .mkdir (fun _ => .call (.writeFile
        (existing.set (keyOf chain save.key) (toString save.blockNumber))) (fun _ => .pure ())))
  | made (existing : CheckpointFile)
      (program : save.program = .call (.writeFile
        (existing.set (keyOf chain save.key) (toString save.blockNumber))) (fun _ => .pure ()))
  | written (program : save.program = .pure ())

/-- The saves are in their stages, and the file holds what was saved last. -/
structure Kept (chain : String) (file : Option CheckpointFile) (world : DiskWorld) : Prop where
  stages : ∀ save ∈ world.saves, Stage chain save
  saved : ∀ key save, world.lastCompleted key = some save →
    held chain world.file key = .ok (some (toString save.blockNumber))
  untouched : ∀ key, world.lastCompleted key = none →
    held chain world.file key = held chain file key

section Steps

variable {chain : String} {file : Option CheckpointFile} {world : DiskWorld}

theorem held_some (content : CheckpointFile) (key : CheckpointKey) :
    held chain (some content) key = .ok (content.get? (keyOf chain key)) := rfl

/-- A world in which nothing has completed since, over the same file. -/
theorem Kept.frame {next : DiskWorld} (kept : Kept chain file world) (same : next.file = world.file)
    (stages : ∀ save ∈ next.saves, Stage chain save)
    (completed : ∀ key, next.lastCompleted key = world.lastCompleted key) : Kept chain file next where
  stages := stages
  saved := by
    intro key save last
    rw [same]
    exact kept.saved key save (completed key ▸ last)
  untouched := by
    intro key none
    rw [same]
    exact kept.untouched key (completed key ▸ none)

theorem kept_initial : Kept chain file (initial file) where
  stages := by simp [initial]
  saved := fun _ _ none => by cases none
  untouched := fun _ _ => rfl

theorem kept_save (kept : Kept chain file world) (key : CheckpointKey) (blockNumber : Int) :
    Kept chain file { world with saves := world.saves ++
      [⟨key, blockNumber, PositionCheckpointStore.save chain key blockNumber⟩] } := by
  refine kept.frame rfl ?_ ?_
  · intro save member
    rcases List.mem_append.mp member with earlier | new
    · exact kept.stages save earlier
    · rw [List.mem_singleton.mp new]
      exact .called rfl
  · intro tested
    have waiting : (⟨key, blockNumber, PositionCheckpointStore.save chain key blockNumber⟩ :
        CheckpointSave).completed = false := by
      cases key <;> rfl
    simp [lastCompleted, List.filter_append, waiting]

/-- The saves before and behind one of them. -/
theorem exists_split {index : Nat} {save : CheckpointSave}
    (found : world.saves[index]? = some save) : ∃ earlier,
      world.saves = earlier ++ save :: world.saves.drop (index + 1) ∧
        ∀ moved, world.saves.set index moved = earlier ++ moved :: world.saves.drop (index + 1) := by
  obtain ⟨inside, rfl⟩ := List.getElem?_eq_some_iff.mp found
  refine ⟨world.saves.take index, ?_, ?_⟩
  · rw [← List.drop_eq_getElem_cons inside, List.take_append_drop]
  · intro moved
    rw [List.set_eq_take_append_cons_drop, if_pos inside]

/-- A step of a save that leaves the file. -/
theorem kept_moved (kept : Kept chain file world) {index : Nat} {save moved : CheckpointSave}
    (found : world.saves[index]? = some save) (unfinished : save.completed = false)
    (still : moved.completed = false) (stage : Stage chain moved) :
    Kept chain file { world with saves := world.saves.set index moved } := by
  obtain ⟨earlier, whole, replaced⟩ := exists_split found
  refine kept.frame rfl ?_ ?_
  · intro tested member
    rcases List.mem_or_eq_of_mem_set member with old | rfl
    · exact kept.stages tested old
    · exact stage
  · intro key
    simp only [lastCompleted]
    rw [replaced moved]
    conv_rhs => rw [whole]
    simp [List.filter_append, unfinished, still]

/-- A save that completes is its checkpoint's last, unless a later one has. -/
theorem lastCompleted_set (content : Option CheckpointFile) {index : Nat} {key : CheckpointKey}
    {blockNumber : Int} {program : DiskM Unit}
    (found : world.saves[index]? = some ⟨key, blockNumber, program⟩)
    (latest : ∀ later ∈ world.saves.drop (index + 1), later.key = key → later.completed = false) :
    DiskWorld.lastCompleted ⟨content, world.saves.set index ⟨key, blockNumber, .pure ()⟩⟩ key =
      some ⟨key, blockNumber, .pure ()⟩ := by
  obtain ⟨earlier, -, replaced⟩ := exists_split found
  have done : (⟨key, blockNumber, .pure ()⟩ : CheckpointSave).completed = true := rfl
  have none : (world.saves.drop (index + 1)).filter
      (fun save => save.key = key ∧ save.completed = true) = [] := by
    apply List.filter_eq_nil_iff.mpr
    intro later member both
    have tested := of_decide_eq_true both
    rw [latest later member tested.1] at tested
    cases tested.2
  simp only [lastCompleted]
  rw [replaced, List.filter_append, List.filter_cons_of_pos (by simp [done]), none]
  exact List.getLast?_concat

theorem lastCompleted_set_other (content : Option CheckpointFile) {index : Nat}
    {save : CheckpointSave} (found : world.saves[index]? = some save) (moved : CheckpointSave)
    (same : moved.key = save.key) {other : CheckpointKey} (different : other ≠ save.key) :
    DiskWorld.lastCompleted ⟨content, world.saves.set index moved⟩ other =
      world.lastCompleted other := by
  obtain ⟨earlier, whole, replaced⟩ := exists_split found
  simp only [lastCompleted]
  rw [replaced]
  conv_rhs => rw [whole]
  simp [List.filter_append, same, different.symm]

/-- A write that is up to date. -/
theorem kept_written (kept : Kept chain file world) {index : Nat} {key : CheckpointKey}
    {blockNumber : Int} {program : DiskM Unit} {existing : CheckpointFile}
    (found : world.saves[index]? = some ⟨key, blockNumber, program⟩)
    (others : ∀ other, other ≠ key →
      held chain (some (existing.set (keyOf chain key) (toString blockNumber))) other =
        held chain world.file other)
    (latest : ∀ later ∈ world.saves.drop (index + 1), later.key = key → later.completed = false) :
    Kept chain file ⟨some (existing.set (keyOf chain key) (toString blockNumber)),
      world.saves.set index ⟨key, blockNumber, .pure ()⟩⟩ := by
  let content := some (existing.set (keyOf chain key) (toString blockNumber))
  have own := lastCompleted_set content found latest
  have rest (other : CheckpointKey) (different : other ≠ key) :=
    lastCompleted_set_other content found ⟨key, blockNumber, .pure ()⟩ rfl different
  refine ⟨?_, ?_, ?_⟩
  · intro tested member
    rcases List.mem_or_eq_of_mem_set member with old | rfl
    · exact kept.stages tested old
    · exact .written rfl
  · intro tested save last
    by_cases same : tested = key
    · subst same
      rw [own] at last
      cases last
      rw [held_some, InsertionMap.get?_set, if_pos rfl]
    · rw [rest tested same] at last
      rw [others tested same]
      exact kept.saved tested save last
  · intro tested none
    by_cases same : tested = key
    · subst same
      rw [own] at none
      cases none
    · rw [rest tested same] at none
      rw [others tested same]
      exact kept.untouched tested none

/-- A step that is up to date keeps what was saved. -/
theorem kept_step {taken : DiskStep} {next : DiskWorld} (kept : Kept chain file world)
    (upToDate : UpToDate chain world taken) (stepped : world.step chain taken = some next) :
    Kept chain file next := by
  cases taken with
  | save key blockNumber =>
    cases stepped
    exact kept_save kept key blockNumber
  | turn index readable =>
    simp only [step] at stepped
    split at stepped
    next key blockNumber op resume found =>
      cases stepped
      have stage := kept.stages _ (List.mem_of_getElem? found)
      cases stage with
      | called program =>
        rw [PositionCheckpointStore.save_eq, DiskBlockCursorStore.set] at program
        dsimp only at program
        cases program
        exact kept_moved kept found rfl rfl (.read _ rfl)
      | read existing program =>
        dsimp only at program
        cases program
        exact kept_moved kept found rfl rfl (.made existing rfl)
      | made existing program =>
        dsimp only at program
        cases program
        obtain ⟨others, latest⟩ := upToDate _ found _ rfl
        exact kept_written kept found others latest
      | written program => cases program
    next => cases stepped

/-- Where every save has completed, the last one that has is the last one called. -/
theorem losesNothing_of_kept (kept : Kept chain file world) : world.LosesNothing chain file where
  saved := kept.saved
  untouched := kept.untouched
  final := by
    intro all key save last
    apply kept.saved key save
    rw [← last]
    unfold lastCompleted lastCalled
    congr 1
    apply List.filter_congr
    intro tested member
    simp [all tested member]

end Steps

/-- While every write is up to date, no checkpoint is lost. -/
theorem no_checkpoint_lost (chain : String) (file : Option CheckpointFile) (run : List DiskStep)
    (upToDate : EachStep (fun past taken =>
      ∀ world ∈ after chain file past, world.UpToDate chain taken) run) :
    Always (fun past => ∀ world ∈ after chain file past, world.LosesNothing chain file) run := by
  have kept := upToDate.keeps kept_initial
    (fun _ _ _ kept upToDate stepped => kept_step kept upToDate stepped)
  exact fun past reached world here => losesNothing_of_kept (kept past reached world here)

/-! ## Two saves side by side -/

instance decideKeys (tested : CheckpointKey → Prop) [DecidablePred tested] :
    Decidable (∀ key, tested key) :=
  decidable_of_iff (tested .lastProcessed ∧ tested .bootstrap)
    ⟨fun both key => key.rec both.1 both.2, fun all => ⟨all _, all _⟩⟩

instance decideUpToDate (chain : String) (world : DiskWorld) :
    (taken : DiskStep) → Decidable (world.UpToDate chain taken)
  | .save _ _ => .isTrue trivial
  | .turn index _ =>
      inferInstanceAs (Decidable (∀ save ∈ world.saves[index]?,
        ∀ content ∈ pendingWrite save.program,
          (∀ other, other ≠ save.key →
            held chain (some content) other = held chain world.file other) ∧
            ∀ later ∈ world.saves.drop (index + 1), later.key = save.key →
              later.completed = false))

/-- A block is saved, and then a bootstrap cursor. -/
theorem no_checkpoint_lost_apart :
    Always (fun past => ∀ world ∈ after "base" none past, world.LosesNothing "base" none)
      ([] ++ [DiskStep.save .lastProcessed 7] ++ [.turn 0 true] ++ [.turn 0 true] ++ [.turn 0 true] ++
        [.save .bootstrap 3] ++ [.turn 1 true] ++ [.turn 1 true] ++ [.turn 1 true]) := by
  apply no_checkpoint_lost
  simp only [eachStep_snoc]
  refine ⟨⟨⟨⟨⟨⟨⟨⟨?_, ?_⟩, ?_⟩, ?_⟩, ?_⟩, ?_⟩, ?_⟩, ?_⟩, ?_⟩
  · intro past taken impossible
    simp at impossible
  all_goals decide +kernel

/-- Both saves have read the file before either has written it. -/
def sideBySide : List DiskStep :=
  [.save .lastProcessed 7, .save .bootstrap 3, .turn 0 true, .turn 1 true, .turn 0 true,
    .turn 1 true, .turn 0 true, .turn 1 true]

/-- The save of the bootstrap cursor removes the block that was saved beside it. -/
theorem checkpoint_lost :
    ¬ ∀ (chain : String) (file : Option CheckpointFile) (run : List DiskStep),
      Always (fun past => ∀ world ∈ after chain file past, world.LosesNothing chain file) run := by
  intro claim
  have kept := claim "base" none sideBySide sideBySide List.prefix_rfl
  have final : ∀ world ∈ after "base" none sideBySide,
      (∀ save ∈ world.saves, save.completed = true) →
        ∀ save ∈ world.lastCalled .lastProcessed,
          held "base" world.file .lastProcessed = .ok (some (toString save.blockNumber)) :=
    fun world here all save last => (kept world here).final all .lastProcessed save last
  revert final
  decide +kernel

end DiskWorld

end LiquidationBot
