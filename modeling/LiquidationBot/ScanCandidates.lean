import LiquidationBot.HealthFactorMonitor
import LiquidationBot.Library.Spacing

/-!
# Candidates returned once in a cooldown

A scan holds a key from the check that found it free until it drops the position
or ends, and only its end notes the key. Another check in between finds the key
free as well: of a second row of the borrower in the same page, or of a scan that
runs at the same time. In every run without such a check, the scans return each
key at most once in a cooldown.
-/

namespace LiquidationBot

/-- A key with the time of the scan that holds or returns it. -/
abbrev ScanEntry := CandidateKey × ℚ

def ScanResult.entries (result : ScanResult) : List ScanEntry :=
  result.candidates.map (fun candidate => (candidateKey candidate, result.now))

namespace HealthFactorMonitor

open Async

/-! ## Phases of a scan -/

/-- A scan that has accepted candidates and may be judging a position that passed
the check, or one that has noted its candidates. -/
inductive ScanPhase where
  | scanning (candidates : List ScanEntry) (checking : Option ScanEntry)
  | returned (candidates : List ScanEntry)
deriving DecidableEq

/-- Reads from outside, and the cursor. -/
def outside : ScanOp → Bool
  | .isCoolingDown _ _ => false
  | .settle _ _ => false
  | .noteCandidates _ _ => false
  | _ => true

namespace ScanPhase

def start : ScanPhase := .scanning [] none

/-- What the scan holds. -/
def held : ScanPhase → List ScanEntry
  | .scanning candidates checking => candidates ++ checking.toList
  | .returned _ => []

def out : ScanPhase → List ScanEntry
  | .scanning _ _ => []
  | .returned candidates => candidates

/-- A verdict is about the position last checked, and what is noted are the
accepted candidates. -/
def scanned (candidates : List ScanEntry) :
    Option ScanEntry → (op : ScanOp) → op.Answer → Option ScanPhase
  | none, .isCoolingDown _ _, true => some (.scanning candidates none)
  | none, .isCoolingDown key now, false => some (.scanning candidates (some (key, now)))
  | some entry, .settle key true, _ =>
      if entry.1 = key then some (.scanning (candidates ++ [entry]) none) else none
  | _, .settle _ false, _ => some (.scanning candidates none)
  | none, .noteCandidates keys now, _ =>
      if candidates = keys.map (fun key => (key, now)) then some (.returned candidates) else none
  | _, _, _ => none

/-- The phase after an answered call. -/
def next : ScanPhase → (op : ScanOp) → op.Answer → Option ScanPhase
  | .scanning candidates checking, op, answer =>
      if outside op then some (.scanning candidates checking)
      else scanned candidates checking op answer
  | .returned _, _, _ => none

/-- What a call can do to the phase. -/
inductive Step : ScanPhase → (op : ScanOp) → op.Answer → ScanPhase → Prop where
  | passed (candidates : List ScanEntry) (key : CandidateKey) (now : ℚ) :
      Step (.scanning candidates none) (.isCoolingDown key now) false
        (.scanning candidates (some (key, now)))
  | cooling (candidates : List ScanEntry) (key : CandidateKey) (now : ℚ) :
      Step (.scanning candidates none) (.isCoolingDown key now) true (.scanning candidates none)
  | accepted (candidates : List ScanEntry) (entry : ScanEntry) :
      Step (.scanning candidates (some entry)) (.settle entry.1 true) ()
        (.scanning (candidates ++ [entry]) none)
  | dropped (candidates : List ScanEntry) (checking : Option ScanEntry) (key : CandidateKey) :
      Step (.scanning candidates checking) (.settle key false) () (.scanning candidates none)
  | noted (keys : List CandidateKey) (now : ℚ) :
      Step (.scanning (keys.map (fun key => (key, now))) none) (.noteCandidates keys now) ()
        (.returned (keys.map (fun key => (key, now))))
  | read (candidates : List ScanEntry) (checking : Option ScanEntry) (op : ScanOp)
      (answer : op.Answer) (reads : outside op = true) :
      Step (.scanning candidates checking) op answer (.scanning candidates checking)

theorem scanned_cases {candidates : List ScanEntry} {checking : Option ScanEntry}
    {after : ScanPhase} {op : ScanOp} {answer : op.Answer}
    (stepped : scanned candidates checking op answer = some after) :
    Step (.scanning candidates checking) op answer after := by
  cases op with
  | isCoolingDown key now =>
    cases checking with
    | some entry => cases stepped
    | none =>
      cases answer with
      | false =>
        cases stepped
        exact .passed candidates key now
      | true =>
        cases stepped
        exact .cooling candidates key now
  | settle key executable =>
    cases executable with
    | false =>
      have same : some (ScanPhase.scanning candidates none) = some after := by
        cases checking with
        | none => exact stepped
        | some entry => exact stepped
      cases same
      exact .dropped candidates checking key
    | true =>
      cases checking with
      | none => cases stepped
      | some entry =>
        obtain ⟨rfl, same⟩ := Option.ite_none_right_eq_some.mp stepped
        cases same
        exact .accepted candidates entry
  | noteCandidates keys now =>
    cases checking with
    | some entry => cases stepped
    | none =>
      obtain ⟨rfl, same⟩ := Option.ite_none_right_eq_some.mp stepped
      cases same
      exact .noted keys now
  | _ => cases checking <;> cases stepped

theorem next_cases {phase after : ScanPhase} {op : ScanOp} {answer : op.Answer}
    (stepped : next phase op answer = some after) : Step phase op answer after := by
  cases phase with
  | returned candidates => cases stepped
  | scanning candidates checking =>
    rw [next] at stepped
    split at stepped
    next reads =>
      cases stepped
      exact .read candidates checking op answer reads
    next => exact scanned_cases stepped

end ScanPhase

/-! ## A scan follows its phases -/

section Conforming

open ScanPhase

/-- A scan that returns has noted what it returns, one that throws has not. -/
def Ends : ScanPhase → Except ScanError ScanResult → Prop
  | phase, .ok result => phase = .returned result.entries
  | phase, .error _ => phase.out = []

/-- A position is accepted only if it has passed the check. -/
def Verdict (candidates : List ScanEntry) (entry : ScanEntry) :
    ScanPhase → Except ScanError Bool → Prop
  | after, .ok true => after = .scanning candidates (some entry)
  | after, .ok false => ∃ checking, after = .scanning candidates checking
  | after, .error _ => after.out = []

/-- The loop ends with the candidates of its phase. -/
def Listed (now : ℚ) : ScanPhase → Except ScanError (List LiquidationCandidate) → Prop
  | after, .ok candidates => after = .scanning (ScanResult.entries ⟨now, candidates⟩) none
  | after, .error _ => after.out = []

/-- Programs that only read from outside leave the phase alone. -/
theorem outside_conforms {α : Type} {program : ScanM α}
    (uses : program.Uses (fun op => outside op = true)) (candidates : List ScanEntry)
    (checking : Option ScanEntry) :
    Conforms next (fun after _ => after = .scanning candidates checking)
      (.scanning candidates checking) program := by
  apply uses.conforms
  · intro op reads answer
    rw [next, if_pos reads]
  · intro _
    rfl

theorem resolveGasCostUsd_uses (config : HealthFactorMonitorConfig) :
    (resolveGasCostUsd config).Uses (fun op => outside op = true) := by
  rw [resolveGasCostUsd]
  split
  · exact ⟨rfl, fun _ => trivial⟩
  · trivial

theorem resolveSlippageBps_uses (config : HealthFactorMonitorConfig) :
    (resolveSlippageBps config).Uses (fun op => outside op = true) := by
  rw [resolveSlippageBps]
  split
  · exact ⟨rfl, fun _ => trivial⟩
  · trivial

theorem readPositions_uses (protocol : AaveScanner) (borrowers : List Address) :
    (readPositions protocol borrowers).Uses (fun op => outside op = true) := by
  induction borrowers with
  | nil => trivial
  | cons account rest inductionHypothesis =>
    refine ⟨rfl, fun answer => (uses_orThrow answer).bind (fun data => ?_)⟩
    split
    · refine (uses_orThrow _).bind (fun pair => ?_)
      exact inductionHypothesis.bind (fun later => trivial)
    · exact inductionHypothesis

theorem getLiquidatablePositions_uses (protocol : AaveScanner) :
    (getLiquidatablePositions protocol).Uses (fun op => outside op = true) := by
  rw [getLiquidatablePositions]
  split
  · trivial
  · refine ⟨rfl, fun answer => (uses_orThrow answer).bind (fun page => ?_)⟩
    exact (readPositions_uses protocol _).bind (fun positions => ⟨rfl, fun _ => trivial⟩)

theorem passesDustFilter_uses (config : HealthFactorMonitorConfig)
    (candidate : LiquidationCandidate) (gasCostUsd : ℚ) :
    (passesDustFilter config candidate gasCostUsd).Uses (fun op => outside op = true) := by
  rw [passesDustFilter]
  split
  · trivial
  · rw [bind_eq, debtUsd]
    split
    · exact ⟨rfl, fun answer => (uses_orThrow answer).bind (fun _ => trivial)⟩
    · trivial

/-- From the check that has passed on. -/
theorem judged_conforms (config : HealthFactorMonitorConfig) (candidate : LiquidationCandidate)
    (gasCostUsd slippageBps : ℚ) (candidates : List ScanEntry) (entry : ScanEntry) :
    Conforms next (Verdict candidates entry) (.scanning candidates (some entry))
      (judged config candidate gasCostUsd slippageBps) := by
  rw [judged, bind_eq, conforms_bind]
  refine (outside_conforms (passesDustFilter_uses config candidate gasCostUsd) _ _).mono ?_
  rintro _ (error | passes) rfl
  · rfl
  · cases passes with
    | false => exact ⟨some entry, rfl⟩
    | true =>
      cases liquidationEv config candidate gasCostUsd slippageBps with
      | error error => exact rfl
      | ok ev =>
        obtain ⟨expected, profitable⟩ := ev
        cases profitable with
        | true => exact rfl
        | false => exact ⟨some entry, rfl⟩

theorem isExecutableCandidate_conforms (config : HealthFactorMonitorConfig)
    (candidate : LiquidationCandidate) (now gasCostUsd slippageBps : ℚ)
    (candidates : List ScanEntry) :
    Conforms next (Verdict candidates (candidateKey candidate, now)) (.scanning candidates none)
      (isExecutableCandidate config candidate now gasCostUsd slippageBps) := by
  rw [isExecutableCandidate]
  split
  · exact ⟨none, rfl⟩
  · rintro (passed | cooling)
    · refine ⟨.scanning candidates (some (candidateKey candidate, now)), rfl, ?_⟩
      exact judged_conforms config candidate gasCostUsd slippageBps candidates
        (candidateKey candidate, now)
    · exact ⟨.scanning candidates none, rfl, none, rfl⟩

theorem executableCandidates_conforms (config : HealthFactorMonitorConfig)
    (now gasCostUsd slippageBps : ℚ) (candidates positions : List LiquidationCandidate) :
    Conforms next (Listed now) (.scanning (ScanResult.entries ⟨now, candidates⟩) none)
      (executableCandidates config now gasCostUsd slippageBps candidates positions) := by
  induction positions generalizing candidates with
  | nil => exact rfl
  | cons position rest inductionHypothesis =>
    rw [executableCandidates, bind_eq, conforms_bind]
    refine (isExecutableCandidate_conforms config position now gasCostUsd slippageBps _).mono ?_
    rintro after (error | executable) verdict
    · exact verdict
    · cases executable with
      | true =>
        cases verdict
        have grown : ScanResult.entries ⟨now, candidates ++ [position]⟩ =
            ScanResult.entries ⟨now, candidates⟩ ++ [(candidateKey position, now)] := by
          simp [ScanResult.entries]
        refine fun _ => ⟨_, if_pos rfl, ?_⟩
        rw [← grown]
        exact inductionHypothesis (candidates ++ [position])
      | false =>
        obtain ⟨checking, rfl⟩ := verdict
        refine fun _ => ⟨.scanning (ScanResult.entries ⟨now, candidates⟩) none, ?_, ?_⟩
        · cases checking with
          | none => rfl
          | some entry => rfl
        · exact inductionHypothesis candidates

theorem scanOnce_conforms (config : HealthFactorMonitorConfig) (now : ℚ) :
    Conforms next Ends start (scanOnce config now) := by
  rw [scanOnce, bind_eq, conforms_bind]
  refine (outside_conforms (resolveGasCostUsd_uses config) [] none).mono ?_
  rintro _ (error | gasCostUsd) rfl
  · rfl
  dsimp only
  rw [bind_eq, conforms_bind]
  refine (outside_conforms (resolveSlippageBps_uses config) [] none).mono ?_
  rintro _ (error | slippageBps) rfl
  · rfl
  dsimp only
  rw [bind_eq, conforms_bind]
  refine (outside_conforms (getLiquidatablePositions_uses config.protocol) [] none).mono ?_
  rintro _ (error | positions) rfl
  · rfl
  dsimp only
  rw [bind_eq, conforms_bind]
  refine (executableCandidates_conforms config now gasCostUsd slippageBps [] positions).mono ?_
  rintro after (error | candidates) listed
  · exact listed
  · cases listed
    have keys : ScanResult.entries ⟨now, candidates⟩ =
        (candidates.map candidateKey).map (fun key => (key, now)) := by
      simp [ScanResult.entries]
    exact fun _ => ⟨.returned (ScanResult.entries ⟨now, candidates⟩), if_pos keys, rfl⟩

end Conforming

/-! ## Overlapping scans -/

abbrev ScanThread := Thread ScanOp ScanOp.Answer ScanError ScanResult

abbrev ScanPool := Pool MonitorWorld ScanOp ScanOp.Answer ScanError ScanResult

abbrev ScanAct := Act MonitorOracle ScanOp ScanOp.Answer ScanError ScanResult

/-- The keys that an unfinished scan holds, by its calls so far. -/
def heldBy (thread : ScanThread) : List ScanEntry :=
  if thread.program.unfinished then
    ((replay ScanPhase.next ScanPhase.start thread.log).map ScanPhase.held).getD []
  else []

/-- The keys that a scan has returned, with its time. -/
def returnedBy (thread : ScanThread) : List ScanEntry :=
  match thread.program with
  | .pure result => result.entries
  | _ => []

/-- The key whose check the scan is about to pass. -/
def passing (config : HealthFactorMonitorConfig) (world : MonitorWorld) (thread : ScanThread) :
    Option CandidateKey :=
  match thread.program with
  | .call (.isCoolingDown key now) _ =>
      if isCoolingDown config world key now then none else some key
  | _ => none

/-- What is started is a scan. -/
def Scans (config : HealthFactorMonitorConfig) : ScanAct → Prop
  | .start program => ∃ now, program = scanOnce config now
  | .run _ _ => True

/-- No check passes for a key that is held, by this scan or another one. -/
def checksFree (config : HealthFactorMonitorConfig) (pool : ScanPool) : ScanAct → Bool
  | .start _ => true
  | .run index _ => ((pool.threads[index]?).bind (passing config pool.shared)).all (fun key =>
      decide (key ∉ (pool.threads.flatMap heldBy).map Prod.fst))

/-- All that was returned of one key is at least the cooldown apart. -/
def ReturnedOnce (config : HealthFactorMonitorConfig) (pool : ScanPool) : Prop :=
  (pool.threads.flatMap returnedBy).Pairwise (Spacing.Spaced config.candidateCooldownMs)

section Threads

open ScanPhase

variable {thread : ScanThread} {phase : ScanPhase}

theorem heldBy_eq (tracks : Pool.ThreadTracks next Ends start thread phase) :
    heldBy thread = if thread.program.unfinished then phase.held else [] := by
  rw [heldBy, tracks.1]
  rfl

theorem heldBy_sublist (tracks : Pool.ThreadTracks next Ends start thread phase) :
    (heldBy thread).Sublist phase.held := by
  rw [heldBy_eq tracks]
  split
  · exact List.Sublist.refl _
  · exact List.nil_sublist _

/-- Every call has an answer. -/
theorem answered (op : ScanOp) : Nonempty op.Answer := by
  cases op with
  | isCoolingDown key now => exact ⟨true⟩
  | setBorrowerCursor cursorId => exact ⟨()⟩
  | settle key executable => exact ⟨()⟩
  | noteCandidates keys now => exact ⟨()⟩
  | _ => exact ⟨.error .outside⟩

theorem returnedBy_eq (tracks : Pool.ThreadTracks next Ends start thread phase) :
    returnedBy thread = phase.out := by
  obtain ⟨_, conforms⟩ := tracks
  obtain ⟨program, log⟩ := thread
  cases program with
  | pure result =>
    have ended : phase = .returned result.entries := conforms
    rw [ended]
    rfl
  | throw error =>
    have nothing : phase.out = [] := conforms
    exact nothing.symm
  | call op resume =>
    obtain ⟨answer⟩ := answered op
    obtain ⟨after, stepped, _⟩ := conforms answer
    cases phase with
    | scanning candidates checking => rfl
    | returned candidates => cases stepped

end Threads

/-- The state of all scans, in the library's terms. -/
def Accounted (config : HealthFactorMonitorConfig) (world : MonitorWorld)
    (threads : List ScanThread) : Prop :=
  Spacing.Kept config.candidateCooldownMs world.lastCandidateAt.get? (threads.flatMap heldBy)
    (threads.flatMap returnedBy)

section Turns

open ScanPhase

variable {config : HealthFactorMonitorConfig} {world between : MonitorWorld}
  {front back : List ScanThread} {moved : ScanThread} {op : ScanOp} {answer : op.Answer}
  {resume : op.Answer → ScanM ScanResult} {log : List (Event ScanOp ScanOp.Answer)}
  {phase after : ScanPhase} {oracle : MonitorOracle}

/-- Reads leave the notes alone. -/
theorem serve_outside (reads : outside op = true)
    (served : serve config oracle world op = some (between, answer)) :
    between.lastCandidateAt = world.lastCandidateAt := by
  cases op with
  | isCoolingDown key now => cases reads
  | settle key executable => cases reads
  | noteCandidates keys now => cases reads
  | _ =>
    cases served
    rfl

theorem accounted_split (thread : ScanThread) : Accounted config world (front ++ thread :: back) ↔
    Spacing.Kept config.candidateCooldownMs world.lastCandidateAt.get?
      (front.flatMap heldBy ++ (heldBy thread ++ back.flatMap heldBy))
      (front.flatMap returnedBy ++ (returnedBy thread ++ back.flatMap returnedBy)) := by
  simp only [Accounted, List.flatMap_append, List.flatMap_cons]

/-- One scan holds less, returns what it did, and the notes stand. -/
theorem Accounted.quiet {thread : ScanThread}
    (accounted : Accounted config world (front ++ thread :: back))
    (held : (heldBy moved).Sublist (heldBy thread)) (out : returnedBy moved = returnedBy thread)
    (notes : between.lastCandidateAt = world.lastCandidateAt) :
    Accounted config between (front ++ moved :: back) := by
  rw [accounted_split] at accounted ⊢
  rw [out, notes]
  apply accounted.drop
  exact (List.Sublist.refl _).append (held.append (List.Sublist.refl _))

/-- One scan takes up a key that is free and held by none. -/
theorem Accounted.passed {thread : ScanThread}
    (accounted : Accounted config world (front ++ thread :: back))
    {key : CandidateKey} {now : ℚ} (passes : isCoolingDown config world key now = false)
    (unheld : key ∉ ((front ++ thread :: back).flatMap heldBy).map Prod.fst)
    (held : (heldBy moved).Sublist (heldBy thread ++ [(key, now)]))
    (out : returnedBy moved = returnedBy thread) :
    Accounted config world (front ++ moved :: back) := by
  simp only [List.flatMap_append, List.flatMap_cons] at unheld
  rw [accounted_split] at accounted ⊢
  rw [out]
  have order : (front.flatMap heldBy ++
      (heldBy thread ++ [(key, now)] ++ back.flatMap heldBy)).Perm
      ((key, now) :: (front.flatMap heldBy ++ (heldBy thread ++ back.flatMap heldBy))) := by
    simp only [List.append_assoc, List.singleton_append]
    rw [← List.append_assoc, ← List.append_assoc]
    exact List.perm_middle
  apply (accounted.take order unheld (isCoolingDown_eq_false_iff.mp passes)).drop
  exact (List.Sublist.refl _).append (held.append (List.Sublist.refl _))

/-- One scan notes all that it holds and returns it. -/
theorem Accounted.noted {thread : ScanThread}
    (accounted : Accounted config world (front ++ thread :: back))
    {keys : List CandidateKey} {now : ℚ} (held : heldBy thread = keys.map (fun key => (key, now)))
    (out : returnedBy thread = []) (nothing : heldBy moved = [])
    (returns : returnedBy moved = keys.map (fun key => (key, now))) :
    Accounted config
      { world with lastCandidateAt := noteCandidates world.lastCandidateAt keys now }
      (front ++ moved :: back) := by
  rw [accounted_split, held, out] at accounted
  rw [accounted_split, nothing, returns]
  have times : ∀ entry ∈ keys.map (fun key => (key, now)), entry.2 = now := by
    simp
  have notes : ∀ key, (noteCandidates world.lastCandidateAt keys now).get? key =
      if key ∈ (keys.map (fun key => (key, now))).map Prod.fst then some now
      else world.lastCandidateAt.get? key := by
    intro key
    rw [get?_noteCandidates]
    simp
  exact accounted.release (List.perm_append_comm_assoc _ _ _) times notes
    (List.perm_append_comm_assoc _ _ _)

/-- One answered call of one scan. A check that passes takes its key up, the end
releases all candidates, and every other call at most drops a position. -/
theorem Accounted.turn
    (accounted : Accounted config world (front ++ ⟨.call op resume, log⟩ :: back))
    (free : ∀ key ∈ passing config world ⟨.call op resume, log⟩,
      key ∉ ((front ++ ⟨.call op resume, log⟩ :: back).flatMap heldBy).map Prod.fst)
    (served : serve config oracle world op = some (between, answer))
    (tracks : Pool.ThreadTracks next Ends start ⟨.call op resume, log⟩ phase)
    (stepped : Step phase op answer after)
    (remains : Pool.ThreadTracks next Ends start moved after) :
    Accounted config between (front ++ moved :: back) := by
  have held : heldBy ⟨.call op resume, log⟩ = phase.held := heldBy_eq tracks
  have out := returnedBy_eq tracks
  have fewer := heldBy_sublist remains
  have outAfter := returnedBy_eq remains
  cases stepped with
  | passed candidates key now =>
    obtain ⟨rfl, passes⟩ := Prod.mk.inj (Option.some.inj served)
    have about : passing config world ⟨.call (.isCoolingDown key now) resume, log⟩ = some key := by
      simp only [passing, passes]
      rfl
    apply accounted.passed passes (free key about) _ (outAfter.trans out.symm)
    rw [held]
    simpa [ScanPhase.held] using fewer
  | cooling candidates key now =>
    obtain ⟨rfl, _⟩ := Prod.mk.inj (Option.some.inj served)
    exact accounted.quiet (held ▸ fewer) (outAfter.trans out.symm) rfl
  | accepted candidates entry =>
    cases served
    apply accounted.quiet _ (outAfter.trans out.symm) rfl
    rw [held]
    simpa [ScanPhase.held] using fewer
  | dropped candidates checking key =>
    cases served
    apply accounted.quiet _ (outAfter.trans out.symm) rfl
    rw [held]
    exact fewer.trans (by simp [ScanPhase.held])
  | noted keys now =>
    cases served
    refine accounted.noted (held.trans ?_) out (List.eq_nil_of_sublist_nil fewer) outAfter
    simp [ScanPhase.held]
  | read candidates checking op answer reads =>
    exact accounted.quiet (held ▸ fewer) (outAfter.trans out.symm) (serve_outside reads served)

end Turns

/-- A thread among the others, and what replaces it. -/
theorem split_set {α : Type} {values : List α} {index : Nat} {value : α}
    (found : values[index]? = some value) : ∃ front back, values = front ++ value :: back ∧
      ∀ fresh, values.set index fresh = front ++ fresh :: back := by
  obtain ⟨inside, rfl⟩ := List.getElem?_eq_some_iff.mp found
  refine ⟨values.take index, values.drop (index + 1), ?_, ?_⟩
  · rw [List.getElem_cons_drop, List.take_append_drop]
  · intro fresh
    rw [List.set_eq_take_append_cons_drop, if_pos inside]

/-- In every run in which no check passes for a held key, all scans are accounted
for. -/
theorem accounted_run {config : HealthFactorMonitorConfig} {pool : ScanPool}
    (run : Pool.Run (serve config)
      (fun pool act => Scans config act ∧ checksFree config pool act = true)
      (Pool.initial initialWorld) pool) :
    ∃ phases, Pool.Tracks ScanPhase.next Ends ScanPhase.start pool phases ∧
      Accounted config pool.shared pool.threads := by
  apply run.invariant (fun pool _ => Accounted config pool.shared pool.threads)
  · exact ⟨[], .nil, Spacing.kept_empty _ _⟩
  · rintro before phases program _ accounted ⟨⟨now, rfl⟩, _⟩
    have conforms := scanOnce_conforms config now
    refine ⟨conforms, ?_⟩
    have fresh : Pool.ThreadTracks ScanPhase.next Ends ScanPhase.start
        (⟨scanOnce config now, []⟩ : ScanThread) ScanPhase.start := ⟨rfl, conforms⟩
    have nothing : heldBy ⟨scanOnce config now, []⟩ = [] :=
      List.eq_nil_of_sublist_nil (heldBy_sublist fresh)
    have none : returnedBy ⟨scanOnce config now, []⟩ = [] := returnedBy_eq fresh
    simpa only [Accounted, List.flatMap_append, List.flatMap_cons, List.flatMap_nil, nothing, none,
      List.append_nil] using accounted
  · rintro before phases index oracle op resume log shared answer phase after tracks accounted
      ⟨_, free⟩ found served located stepped remains
    obtain ⟨front, back, threads, replaced⟩ := split_set found
    obtain ⟨here, locatedHere, tracksHere⟩ := tracks.thread found
    rw [located] at locatedHere
    cases locatedHere
    have inside : index < before.threads.length := (List.getElem?_eq_some_iff.mp found).1
    obtain ⟨there, locatedThere, remainsThere⟩ := remains.thread (List.getElem?_set_self inside)
    have phaseInside : index < phases.length := (List.getElem?_eq_some_iff.mp located).1
    rw [List.getElem?_set_self phaseInside] at locatedThere
    cases locatedThere
    have unheld : ∀ key ∈ passing config before.shared ⟨.call op resume, log⟩,
        key ∉ (before.threads.flatMap heldBy).map Prod.fst := by
      intro key passes
      simp only [checksFree, found, Option.bind_some, Option.all_eq_true, decide_eq_true_eq] at free
      exact free key passes
    rw [threads] at accounted unheld
    rw [replaced]
    exact accounted.turn unheld served tracksHere (ScanPhase.next_cases stepped) remainsThere

/-- In every run in which no check passes for a key that a scan holds, each key is
returned at most once in a cooldown. -/
theorem returned_once (config : HealthFactorMonitorConfig) (pool : ScanPool)
    (run : Pool.Run (serve config)
      (fun pool act => Scans config act ∧ checksFree config pool act = true)
      (Pool.initial initialWorld) pool) :
    ReturnedOnce config pool := by
  obtain ⟨_, _, accounted⟩ := accounted_run run
  exact accounted.spaced

/-! ## Scans of one borrower -/

/-- A cooldown of a minute, and no dust filter. -/
def minuteConfig : HealthFactorMonitorConfig where
  protocol := ⟨[⟨⟨2, 0⟩, ⟨3, 0⟩, 100, 1000, 500⟩], true, 50⟩
  candidateCooldownMs := 60000
  minProfitUsd := 10
  gasCostUsd := 4
  resolvesGasCost := false
  slippageBps := 50
  resolvesSlippage := false
  minLiquidationDebtUsd := none
  resolvesDebt := false

/-- Account one on the one reserve pair. -/
def minuteKey : CandidateKey := ⟨⟨1, 0⟩, ⟨2, 0⟩, ⟨3, 0⟩⟩

/-- A subgraph with these rows, and accounts with a health factor of nine tenths. -/
def rowsOf (rows : List String) : MonitorOracle where
  number := .ok none
  subgraph := fun _ _ => .ok ⟨some rows⟩
  account := fun _ => .ok ⟨2000, 1000, 0, 4000, 7500, 900000000000000000⟩

/-- The id of account one's position in an asset. -/
def rowIn (assetId : String) : String :=
  "0x0000000000000000000000000000000000000001-" ++ assetId ++ "-BORROWER-0"

def oneRow : List String := [rowIn "0x38d693ce1df5aadf7bc62595a37d667ad57922e5"]

def twoRows : List String := oneRow ++ [rowIn "0x82e64f49ed5ec1bc6e43dad4fc8af9bb3a2312ee"]

def scanTurns (index turns : Nat) (rows : List String) : List ScanAct :=
  List.replicate turns (.run index (rowsOf rows))

theorem scans_scanTurns {index turns : Nat} {rows : List String} {act : ScanAct}
    (member : act ∈ scanTurns index turns rows) : Scans minuteConfig act := by
  rw [(List.mem_replicate.mp member).2]
  trivial

/-- Two scans, one after the other and a minute apart. -/
def minuteApart : List ScanAct :=
  [.start (scanOnce minuteConfig 0)] ++ scanTurns 0 6 oneRow ++
    [.start (scanOnce minuteConfig 60000)] ++ scanTurns 1 6 oneRow

/-- One scan of a page that names the borrower twice. -/
def namedTwice : List ScanAct := [.start (scanOnce minuteConfig 0)] ++ scanTurns 0 9 twoRows

/-- Two scans, a millisecond apart, that note their candidates after both have
checked the borrower. -/
def overlapping : List ScanAct :=
  [.start (scanOnce minuteConfig 0), .start (scanOnce minuteConfig 1)] ++ scanTurns 0 5 oneRow ++
    scanTurns 1 6 oneRow ++ scanTurns 0 1 oneRow

theorem scans_minuteApart : ∀ act ∈ minuteApart, Scans minuteConfig act := by
  simp only [minuteApart, List.mem_append, List.mem_singleton]
  rintro act (((rfl | turn) | rfl) | turn)
  · exact ⟨0, rfl⟩
  · exact scans_scanTurns turn
  · exact ⟨60000, rfl⟩
  · exact scans_scanTurns turn

theorem scans_namedTwice : ∀ act ∈ namedTwice, Scans minuteConfig act := by
  simp only [namedTwice, List.mem_append, List.mem_singleton]
  rintro act (rfl | turn)
  · exact ⟨0, rfl⟩
  · exact scans_scanTurns turn

theorem scans_overlapping : ∀ act ∈ overlapping, Scans minuteConfig act := by
  simp only [overlapping, List.mem_append, List.mem_cons, List.not_mem_nil, or_false]
  rintro act ((((rfl | rfl) | turn) | turn) | turn)
  · exact ⟨0, rfl⟩
  · exact ⟨1, rfl⟩
  · exact scans_scanTurns turn
  · exact scans_scanTurns turn
  · exact scans_scanTurns turn

/-- The scans that pass the test, from a new monitor. -/
def scanned (test : ScanPool → ScanAct → Bool) (acts : List ScanAct) : Option ScanPool :=
  Pool.execute (serve minuteConfig) test (Pool.initial initialWorld) acts

/-- The theorem for two scans a minute apart, which both return the borrower. -/
theorem returned_once_minuteApart : ∃ pool,
    pool.threads.flatMap returnedBy = [(minuteKey, 0), (minuteKey, 60000)] ∧
      ReturnedOnce minuteConfig pool := by
  have returned : (scanned (checksFree minuteConfig) minuteApart).map
      (fun pool => pool.threads.flatMap returnedBy) =
        some [(minuteKey, 0), (minuteKey, 60000)] := by
    decide +kernel
  obtain ⟨pool, executed, returns⟩ := Option.map_eq_some_iff.mp returned
  refine ⟨pool, returns, returned_once minuteConfig pool ?_⟩
  exact Pool.run_of_execute .refl
    (fun act member _ passed => ⟨scans_minuteApart act member, passed⟩) executed

/-- A scan returns a borrower twice whose rows are two. -/
theorem borrower_returned_twice : ∃ pool,
    Pool.Run (serve minuteConfig) (fun _ act => Scans minuteConfig act) (Pool.initial initialWorld)
        pool ∧
      pool.threads.flatMap returnedBy = [(minuteKey, 0), (minuteKey, 0)] ∧
      ¬ ReturnedOnce minuteConfig pool := by
  have returned : (scanned (fun _ _ => true) namedTwice).map
      (fun pool => pool.threads.flatMap returnedBy) =
        some [(minuteKey, 0), (minuteKey, 0)] := by
    decide +kernel
  obtain ⟨pool, executed, returns⟩ := Option.map_eq_some_iff.mp returned
  refine ⟨pool, Pool.run_of_execute .refl (fun act member _ _ => scans_namedTwice act member)
    executed, returns, ?_⟩
  rw [ReturnedOnce, returns]
  norm_num [Spacing.Spaced, minuteConfig]

/-- Two overlapping scans return a borrower with one row, a millisecond apart. -/
theorem overlapping_scans_return_twice : ∃ pool,
    Pool.Run (serve minuteConfig) (fun _ act => Scans minuteConfig act) (Pool.initial initialWorld)
        pool ∧
      pool.threads.flatMap returnedBy = [(minuteKey, 0), (minuteKey, 1)] ∧
      ¬ ReturnedOnce minuteConfig pool := by
  have returned : (scanned (fun _ _ => true) overlapping).map
      (fun pool => pool.threads.flatMap returnedBy) =
        some [(minuteKey, 0), (minuteKey, 1)] := by
    decide +kernel
  obtain ⟨pool, executed, returns⟩ := Option.map_eq_some_iff.mp returned
  refine ⟨pool, Pool.run_of_execute .refl (fun act member _ _ => scans_overlapping act member)
    executed, returns, ?_⟩
  rw [ReturnedOnce, returns]
  norm_num [Spacing.Spaced, minuteConfig]

end HealthFactorMonitor

end LiquidationBot
