import LiquidationBot.HealthFactorMonitor
import LiquidationBot.Library.AsyncAlone
import LiquidationBot.Library.KeysetPages
import Mathlib.Data.String.Basic

/-!
# The rotation through the borrower pages

Each call of `getLiquidatablePositions` reads the borrowers of one page of position
rows, and the cursor that it leaves decides which page the next call reads. Over
fixed rows the cursors go around, so a full rotation of calls reads every borrower
and returns those that can be liquidated. A call moves the cursor only at its end: an
account that cannot be read takes the rest of the page with it, what the page had
found, and the turn.
-/

namespace LiquidationBot

open Async KeysetPages

/-- The ids of the position rows, as the query orders them: an id starts with an
address, which puts it behind the cursor of the first page. -/
structure BorrowerRows where
  ids : List String
  ordered : ids.Pairwise (· < ·)
  behindZero : ∀ id ∈ ids, AaveScanner.ZERO_CURSOR_ID < id

/-- The page that the subgraph answers with. -/
def BorrowerRows.page (rows : BorrowerRows) (first : Nat) (lastId : String) : BorrowerPage :=
  ⟨some (pageAfter rows.ids first lastId)⟩

/-- What lies outside at one request: whether the subgraph can be reached, and what
each account reads as. -/
structure RowsOracle where
  reachable : Bool
  account : Address → Except ScanError UserAccountData

def RowsOracle.over (oracle : RowsOracle) (rows : BorrowerRows) : MonitorOracle where
  number := .error .outside
  subgraph := fun first lastId =>
    if oracle.reachable then .ok (rows.page first lastId) else .error .outside
  account := oracle.account

/-- The monitor's server over fixed rows. -/
def serveRows (config : HealthFactorMonitorConfig) (rows : BorrowerRows) :
    Server RowsOracle MonitorWorld ScanOp ScanOp.Answer :=
  fun oracle world op => HealthFactorMonitor.serve config (oracle.over rows) world op

/-- A call of `getLiquidatablePositions`: what it asked, how it ended, and the world
that it left. -/
abbrev ScanCall := AloneRun MonitorWorld ScanOp ScanOp.Answer ScanError (List LiquidationCandidate)

namespace ScanCall

/-- The page request of the call was answered. -/
def PageRead (call : ScanCall) : Prop :=
  ∃ first page, (⟨.fetchBorrowerPage first, .ok page⟩ : Event ScanOp ScanOp.Answer) ∈ call.events

/-- The call has read an account. -/
def Reads (call : ScanCall) (account : Address) (data : UserAccountData) : Prop :=
  (⟨.getUserAccount account, .ok data⟩ : Event ScanOp ScanOp.Answer) ∈ call.events

/-- The call could not read an account. -/
def FailsToRead (call : ScanCall) (account : Address) : Prop :=
  ∃ error, (⟨.getUserAccount account, .error error⟩ : Event ScanOp ScanOp.Answer) ∈ call.events

/-- The call has returned an account with a health factor. -/
def Returns (call : ScanCall) (account : Address) (healthFactor : Nat) : Prop :=
  ∃ positions, call.result = .ok positions ∧
    ∃ candidate ∈ positions, candidate.account = account ∧ candidate.healthFactor = healthFactor

/-- What a call does that gets through its page. -/
structure Completes (rows : BorrowerRows) (size : Nat) (before : MonitorWorld) (call : ScanCall) :
    Prop where
  read : ∀ account ∈ AaveScanner.extractBorrowerAddresses (rows.page size before.lastBorrowerCursorId),
    ∃ data, call.Reads account data
  returned : ∀ account data, call.Reads account data → data.healthFactor < WAD →
    call.Returns account data.healthFactor
  moved : call.after.lastBorrowerCursorId =
    nextCursor AaveScanner.ZERO_CURSOR_ID size (pageAfter rows.ids size before.lastBorrowerCursorId)

end ScanCall

section Call

variable {config : HealthFactorMonitorConfig} {rows : BorrowerRows} {world after : MonitorWorld}

/-- The positions are those of the accounts read, and all borrowers were read. -/
structure FoundAll (borrowers : List Address) (events : List (Event ScanOp ScanOp.Answer))
    (positions : List LiquidationCandidate) : Prop where
  read : ∀ account ∈ borrowers, ∃ data,
    (⟨.getUserAccount account, .ok data⟩ : Event ScanOp ScanOp.Answer) ∈ events
  found : ∀ account data,
    (⟨.getUserAccount account, .ok data⟩ : Event ScanOp ScanOp.Answer) ∈ events →
      data.healthFactor < WAD → ∃ candidate ∈ positions,
        candidate.account = account ∧ candidate.healthFactor = data.healthFactor

/-- One account more was read, and found if its health factor is below one. -/
theorem FoundAll.cons {borrowers : List Address} {events : List (Event ScanOp ScanOp.Answer)}
    {positions more : List LiquidationCandidate} (all : FoundAll borrowers events positions)
    (account : Address) (data : UserAccountData) (kept : ∀ candidate ∈ positions, candidate ∈ more)
    (found : data.healthFactor < WAD → ∃ candidate ∈ more,
      candidate.account = account ∧ candidate.healthFactor = data.healthFactor) :
    FoundAll (account :: borrowers) (⟨.getUserAccount account, .ok data⟩ :: events) more where
  read := by
    intro borrower member
    rcases List.mem_cons.mp member with rfl | later
    · exact ⟨data, List.mem_cons_self⟩
    · obtain ⟨held, event⟩ := all.read borrower later
      exact ⟨held, List.mem_cons_of_mem _ event⟩
  found := by
    intro borrower held event below
    rcases List.mem_cons.mp event with same | later
    · cases same
      exact found below
    · obtain ⟨candidate, member, rest⟩ := all.found borrower held later below
      exact ⟨candidate, kept candidate member, rest⟩

/-- The loop over the borrowers of a page leaves the world alone. It stops at the first
account that cannot be read, and otherwise finds them all. -/
theorem alone_readPositions (configured : config.protocol.reservePairs ≠ [])
    {borrowers : List Address} {events : List (Event ScanOp ScanOp.Answer)}
    {result : Except ScanError (List LiquidationCandidate)}
    (alone : Alone (serveRows config rows) world
      (HealthFactorMonitor.readPositions config.protocol borrowers) events result after) :
    after = world ∧
      ((∃ account error, result = .error error ∧
          (⟨.getUserAccount account, .error error⟩ : Event ScanOp ScanOp.Answer) ∈ events) ∨
        ∃ positions, result = .ok positions ∧ FoundAll borrowers events positions) := by
  induction borrowers generalizing events result after with
  | nil =>
    obtain ⟨rfl, rfl, rfl⟩ := alone_pure.mp alone
    exact ⟨rfl, Or.inr ⟨[], rfl, by simp, by simp⟩⟩
  | cons account rest inductionHypothesis =>
    obtain ⟨oracle, between, answer, later, served, rfl, remaining⟩ := alone_call.mp alone
    have kept : between = world := by
      cases served
      rfl
    subst kept
    cases answer with
    | error error =>
      obtain ⟨rfl, rfl, rfl⟩ := alone_throw.mp remaining
      exact ⟨rfl, Or.inl ⟨account, error, rfl, List.mem_cons_self⟩⟩
    | ok data =>
      rw [orThrow, pure_bind] at remaining
      split at remaining
      next below =>
        obtain ⟨pair, pairs, configuredPairs⟩ := List.exists_cons_of_ne_nil configured
        have first : HealthFactorMonitor.firstReservePair config.protocol = .ok pair := by
          rw [HealthFactorMonitor.firstReservePair, configuredPairs]
        rw [bind_eq, first, orThrow, pure_bind, bind_eq] at remaining
        rcases alone_bind.mp remaining with
          ⟨error, ended, rfl⟩ | ⟨positions, between, earlier, final, rfl, ended, returned⟩
        · obtain ⟨same, outcome⟩ := inductionHypothesis ended
          refine ⟨same, Or.inl ?_⟩
          rcases outcome with ⟨failed, thrown, ⟨⟩, event⟩ | ⟨positions, impossible, _⟩
          · exact ⟨failed, error, rfl, List.mem_cons_of_mem _ event⟩
          · cases impossible
        · obtain ⟨rfl, rfl, rfl⟩ := alone_pure.mp returned
          rw [List.append_nil]
          obtain ⟨same, outcome⟩ := inductionHypothesis ended
          refine ⟨same, outcome.imp ?_ ?_⟩
          · rintro ⟨failed, error, impossible, event⟩
            cases impossible
          · rintro ⟨_, ⟨⟩, all⟩
            refine ⟨_, rfl, all.cons account data (fun _ => List.mem_cons_of_mem _) ?_⟩
            exact fun _ => ⟨_, List.mem_cons_self, rfl, rfl⟩
      next healthy =>
        obtain ⟨same, outcome⟩ := inductionHypothesis remaining
        refine ⟨same, outcome.imp ?_ ?_⟩
        · rintro ⟨failed, error, thrown, event⟩
          exact ⟨failed, error, thrown, List.mem_cons_of_mem _ event⟩
        · rintro ⟨positions, rfl, all⟩
          exact ⟨positions, rfl, all.cons account data (fun _ member => member)
            (fun below => absurd below healthy)⟩

/-- A page request leaves the world alone, and its page is the one behind the cursor. -/
theorem served_page {oracle : RowsOracle} {first : Nat} {answer : Except ScanError BorrowerPage}
    (served : serveRows config rows oracle world (.fetchBorrowerPage first) =
      some (after, answer)) :
    after = world ∧
      ∀ page, answer = .ok page → page = rows.page first world.lastBorrowerCursorId := by
  simp only [serveRows, HealthFactorMonitor.serve, RowsOracle.over, Option.some.injEq,
    Prod.mk.injEq] at served
  obtain ⟨rfl, rfl⟩ := served
  refine ⟨rfl, ?_⟩
  intro page answered
  split at answered
  · exact (Except.ok.inj answered).symm
  · cases answered

/-- A call that found all borrowers of its page gets through it. -/
theorem FoundAll.completes {size : Nat} {reads : List (Event ScanOp ScanOp.Answer)}
    {positions : List LiquidationCandidate} {page : BorrowerPage} {cursorId : String}
    (all : FoundAll (AaveScanner.extractBorrowerAddresses (rows.page size world.lastBorrowerCursorId))
      reads positions)
    (moved : after.lastBorrowerCursorId = nextCursor AaveScanner.ZERO_CURSOR_ID size
      (pageAfter rows.ids size world.lastBorrowerCursorId)) :
    ScanCall.Completes rows size world ⟨⟨.fetchBorrowerPage size, .ok page⟩ ::
      (reads ++ [⟨.setBorrowerCursor cursorId, ()⟩]), .ok positions, after⟩ where
  read := by
    intro account member
    obtain ⟨data, event⟩ := all.read account member
    exact ⟨data, List.mem_cons_of_mem _ (List.mem_append_left _ event)⟩
  returned := by
    intro account data event below
    have read : (⟨.getUserAccount account, .ok data⟩ : Event ScanOp ScanOp.Answer) ∈ reads := by
      rcases List.mem_cons.mp event with impossible | inside
      · cases impossible
      · rcases List.mem_append.mp inside with here | impossible
        · exact here
        · cases List.mem_singleton.mp impossible
    exact ⟨positions, rfl, all.found account data read below⟩
  moved := moved

/-- A call whose page request fails, or that fails to read an account, leaves the
world alone; any other gets through its page. -/
theorem alone_getLiquidatablePositions (configured : config.protocol.reservePairs ≠ [])
    {call : ScanCall}
    (alone : Alone (serveRows config rows) world
      (HealthFactorMonitor.getLiquidatablePositions config.protocol) call.events call.result
        call.after) :
    (call.after = world ∧ (¬ call.PageRead ∨ ∃ account, call.FailsToRead account)) ∨
      call.Completes rows config.protocol.borrowerPageSize world := by
  obtain ⟨events, result, after⟩ := call
  unfold HealthFactorMonitor.getLiquidatablePositions at alone
  dsimp only at alone
  split at alone
  next =>
    obtain ⟨rfl, rfl, rfl⟩ := alone_throw.mp alone
    refine Or.inl ⟨rfl, Or.inl ?_⟩
    rintro ⟨first, page, event⟩
    cases event
  next =>
    obtain ⟨oracle, between, answer, later, served, rfl, remaining⟩ := alone_call.mp alone
    obtain ⟨rfl, pageOf⟩ := served_page served
    cases answer with
    | error error =>
      obtain ⟨rfl, rfl, rfl⟩ := alone_throw.mp remaining
      refine Or.inl ⟨rfl, Or.inl ?_⟩
      rintro ⟨first, page, event⟩
      simp at event
    | ok page =>
      rw [orThrow, pure_bind, pageOf page rfl] at remaining
      rcases alone_bind.mp remaining with
        ⟨error, ended, rfl⟩ | ⟨positions, between', earlier, final, rfl, ended, moving⟩
      · obtain ⟨same, ⟨failed, thrown, _, event⟩ | ⟨positions, impossible, _⟩⟩ :=
          alone_readPositions configured ended
        · exact Or.inl ⟨same, Or.inr ⟨failed, thrown, List.mem_cons_of_mem _ event⟩⟩
        · cases impossible
      · obtain ⟨rfl, ⟨failed, thrown, impossible, _⟩ | ⟨_, ⟨⟩, all⟩⟩ :=
          alone_readPositions configured ended
        · cases impossible
        · obtain ⟨oracle, moved, answer, rest, served, rfl, returned⟩ := alone_call.mp moving
          obtain ⟨rfl, rfl, rfl⟩ := alone_pure.mp returned
          cases served
          exact Or.inr (all.completes rfl)

end Call

/-! ## Runs of calls -/

/-- Calls one after the other over fixed rows, each with any answers from the outside. -/
inductive Scans (config : HealthFactorMonitorConfig) (rows : BorrowerRows) :
    MonitorWorld → List ScanCall → MonitorWorld → Prop where
  | nil (world : MonitorWorld) : Scans config rows world [] world
  | cons (world after : MonitorWorld) (call : ScanCall) (rest : List ScanCall)
      (alone : Alone (serveRows config rows) world
        (HealthFactorMonitor.getLiquidatablePositions config.protocol) call.events call.result
          call.after)
      (later : Scans config rows call.after rest after) :
      Scans config rows world (call :: rest) after

/-- The borrowers whose reads succeed are all read, and returned whenever they were read
with a health factor below one. -/
def CoversBorrowers (rows : BorrowerRows) (calls : List ScanCall) : Prop :=
  ∀ account ∈ AaveScanner.extractBorrowerAddresses ⟨some rows.ids⟩,
    (∀ call ∈ calls, ¬ call.FailsToRead account) →
      (∃ call ∈ calls, ∃ data, call.Reads account data) ∧
        ∀ call ∈ calls, ∀ data, call.Reads account data → data.healthFactor < WAD →
          call.Returns account data.healthFactor

section Runs

variable {config : HealthFactorMonitorConfig} {rows : BorrowerRows} {world after : MonitorWorld}

theorem Scans.append {earlier later : List ScanCall}
    (scans : Scans config rows world (earlier ++ later) after) :
    ∃ between, Scans config rows world earlier between ∧ Scans config rows between later after := by
  induction earlier generalizing world with
  | nil => exact ⟨world, .nil world, scans⟩
  | cons call rest inductionHypothesis =>
    cases scans with
    | cons _ _ _ _ alone remaining =>
      obtain ⟨between, first, second⟩ := inductionHypothesis remaining
      exact ⟨between, .cons world between call rest alone first, second⟩

/-- The cursor is the one before some page of the rotation. -/
def AtPage (rows : BorrowerRows) (size : Nat) (world : MonitorWorld) (number : Nat) : Prop :=
  number ≤ rows.ids.length / size ∧
    world.lastBorrowerCursorId = cursorAt AaveScanner.ZERO_CURSOR_ID rows.ids size number

/-- A call that gets through reads the page it starts at and goes on to the next. -/
theorem Completes.atPage {size number : Nat} {call : ScanCall} (positive : 0 < size)
    (completes : call.Completes rows size world) (before : AtPage rows size world number) :
    (∀ account ∈ AaveScanner.extractBorrowerAddresses ⟨some (page rows.ids size number)⟩,
        ∃ data, call.Reads account data) ∧
      AtPage rows size call.after ((number + 1) % (rows.ids.length / size + 1)) := by
  obtain ⟨inside, cursor⟩ := before
  have asked : pageAfter rows.ids size world.lastBorrowerCursorId = page rows.ids size number := by
    rw [cursor]
    exact pageAfter_cursorAt rows.ordered rows.behindZero positive
      ((Nat.le_div_iff_mul_le positive).mp inside)
  refine ⟨?_, Nat.le_of_lt_succ (Nat.mod_lt _ (Nat.succ_pos _)), ?_⟩
  · intro account member
    apply completes.read
    rw [BorrowerRows.page, asked]
    exact member
  · rw [completes.moved, asked, nextCursor_page positive inside]

/-- A call that lost neither its page nor an account. -/
def ScanCall.Answered (call : ScanCall) : Prop :=
  call.PageRead ∧ ∀ account, ¬ call.FailsToRead account

theorem ScanCall.Answered.completes (configured : config.protocol.reservePairs ≠ [])
    {call : ScanCall} (answered : call.Answered)
    (alone : Alone (serveRows config rows) world
      (HealthFactorMonitor.getLiquidatablePositions config.protocol) call.events call.result
        call.after) :
    call.Completes rows config.protocol.borrowerPageSize world := by
  refine (alone_getLiquidatablePositions configured alone).resolve_left ?_
  rintro ⟨_, unread | ⟨account, failed⟩⟩
  · exact unread answered.1
  · exact answered.2 account failed

/-- Whatever fails in its calls, a run ends before some page of the rotation. -/
theorem Scans.exists_atPage (configured : config.protocol.reservePairs ≠ [])
    (positive : 0 < config.protocol.borrowerPageSize) {calls : List ScanCall}
    (scans : Scans config rows world calls after)
    (before : ∃ number, AtPage rows config.protocol.borrowerPageSize world number) :
    ∃ number, AtPage rows config.protocol.borrowerPageSize after number := by
  induction scans with
  | nil world => exact before
  | cons world after call rest alone later inductionHypothesis =>
    apply inductionHypothesis
    obtain ⟨number, here⟩ := before
    rcases alone_getLiquidatablePositions configured alone with ⟨same, _⟩ | completes
    · exact ⟨number, same ▸ here⟩
    · exact ⟨_, (Completes.atPage positive completes here).2⟩

/-- As many turns later, a run of answered calls reads the page that is as far ahead. -/
theorem Scans.reads_page (configured : config.protocol.reservePairs ≠ [])
    (positive : 0 < config.protocol.borrowerPageSize) {calls : List ScanCall}
    (scans : Scans config rows world calls after) (answered : ∀ call ∈ calls, call.Answered)
    {number turn : Nat} (before : AtPage rows config.protocol.borrowerPageSize world number)
    (within : turn < calls.length) :
    ∃ call ∈ calls, ∀ account ∈ AaveScanner.extractBorrowerAddresses ⟨some
      (page rows.ids config.protocol.borrowerPageSize ((number + turn) %
        (rows.ids.length / config.protocol.borrowerPageSize + 1)))⟩,
          ∃ data, call.Reads account data := by
  induction scans generalizing number turn with
  | nil world => cases within
  | cons world after call rest alone later inductionHypothesis =>
    have completes := (answered call List.mem_cons_self).completes configured alone
    obtain ⟨read, next⟩ := Completes.atPage positive completes before
    cases turn with
    | zero =>
      refine ⟨call, List.mem_cons_self, ?_⟩
      rw [Nat.add_zero, Nat.mod_eq_of_lt (Nat.lt_succ_of_le before.1)]
      exact read
    | succ turn =>
      obtain ⟨reader, member, reads⟩ := inductionHypothesis
        (fun tested listed => answered tested (List.mem_cons_of_mem _ listed)) next
        (Nat.lt_of_succ_lt_succ within)
      refine ⟨reader, List.mem_cons_of_mem _ member, ?_⟩
      rw [Nat.mod_add_mod, Nat.add_assoc, Nat.add_comm 1 turn] at reads
      exact reads

theorem Scans.returned (configured : config.protocol.reservePairs ≠ []) {calls : List ScanCall}
    (scans : Scans config rows world calls after) (answered : ∀ call ∈ calls, call.Answered) :
    ∀ call ∈ calls, ∀ account data, call.Reads account data → data.healthFactor < WAD →
      call.Returns account data.healthFactor := by
  induction scans with
  | nil world => simp
  | cons world after call rest alone later inductionHypothesis =>
    intro tested member
    rcases List.mem_cons.mp member with rfl | listed
    · exact ((answered tested List.mem_cons_self).completes configured alone).returned
    · exact inductionHypothesis
        (fun other listed => answered other (List.mem_cons_of_mem _ listed)) tested listed

/-- After any calls, a rotation of calls whose pages and accounts can all be read
covers every borrower. -/
theorem rotation_covers_borrowers (config : HealthFactorMonitorConfig) (rows : BorrowerRows)
    (configured : config.protocol.reservePairs ≠ [])
    (positive : 0 < config.protocol.borrowerPageSize) (history calls : List ScanCall)
    (after : MonitorWorld)
    (scans : Scans config rows HealthFactorMonitor.initialWorld (history ++ calls) after)
    (rotation : calls.length = rows.ids.length / config.protocol.borrowerPageSize + 1)
    (paged : ∀ call ∈ calls, call.PageRead)
    (readable : ∀ call ∈ calls, ∀ account, ¬ call.FailsToRead account) :
    CoversBorrowers rows calls := by
  intro account borrower _
  have answered : ∀ call ∈ calls, call.Answered := fun call member =>
    ⟨paged call member, readable call member⟩
  obtain ⟨between, earlier, later⟩ := scans.append
  obtain ⟨number, start⟩ := earlier.exists_atPage configured positive
    ⟨0, Nat.zero_le _, rfl⟩
  refine ⟨?_, fun call member data => later.returned configured answered call member account data⟩
  obtain ⟨id, member, address⟩ := List.mem_filterMap.mp borrower
  obtain ⟨target, inside, onPage⟩ := exists_page positive (Option.getD_some ▸ member)
  obtain ⟨turn, within, same⟩ := exists_turn start.1 inside
  obtain ⟨call, made, reads⟩ := later.reads_page configured positive answered start
    (by rw [rotation]; exact Nat.lt_succ_of_le within)
  refine ⟨call, made, reads account ?_⟩
  rw [same]
  exact List.mem_filterMap.mpr ⟨id, onPage, address⟩

end Runs

/-! ## A page of two borrowers -/

def twoBorrowers : BorrowerRows where
  ids := ["0x0000000000000000000000000000000000000001-market-BORROWER-0",
    "0x0000000000000000000000000000000000000002-market-BORROWER-0"]
  ordered := by decide
  behindZero := by decide

/-- A monitor that scans two rows a time. -/
def pairwiseScanner : HealthFactorMonitorConfig where
  protocol := ⟨[⟨⟨11, 0⟩, ⟨12, 0⟩, 1000000, 1, 500⟩], true, 2⟩
  candidateCooldownMs := 0
  minProfitUsd := 0
  gasCostUsd := 0
  resolvesGasCost := false
  slippageBps := 0
  resolvesSlippage := false
  minLiquidationDebtUsd := none
  resolvesDebt := false

/-- Every account reads as liquidatable. -/
def liquidatableRead : UserAccountData := ⟨0, 1, 0, 0, 0, WAD - 1⟩

/-- Both borrowers are read, and returned. -/
def fullPageCall : ScanCall where
  events := [⟨.fetchBorrowerPage 2, .ok ⟨some twoBorrowers.ids⟩⟩,
    ⟨.getUserAccount ⟨1, 0⟩, .ok liquidatableRead⟩, ⟨.getUserAccount ⟨2, 0⟩, .ok liquidatableRead⟩,
    ⟨.setBorrowerCursor "0x0000000000000000000000000000000000000002-market-BORROWER-0", ()⟩]
  result := .ok [⟨⟨1, 0⟩, ⟨11, 0⟩, ⟨12, 0⟩, 1000000, 1, 500, WAD - 1⟩,
    ⟨⟨2, 0⟩, ⟨11, 0⟩, ⟨12, 0⟩, 1000000, 1, 500, WAD - 1⟩]
  after := ⟨.empty, "0x0000000000000000000000000000000000000002-market-BORROWER-0"⟩

/-- Nothing is behind the last row, and the cursor goes back. -/
def emptyPageCall : ScanCall where
  events := [⟨.fetchBorrowerPage 2, .ok ⟨some []⟩⟩,
    ⟨.setBorrowerCursor AaveScanner.ZERO_CURSOR_ID, ()⟩]
  result := .ok []
  after := HealthFactorMonitor.initialWorld

/-- The first borrower cannot be read. -/
def stalledCall : ScanCall where
  events := [⟨.fetchBorrowerPage 2, .ok ⟨some twoBorrowers.ids⟩⟩,
    ⟨.getUserAccount ⟨1, 0⟩, .error .outside⟩]
  result := .error .outside
  after := HealthFactorMonitor.initialWorld

theorem fullPageCall_alone : Alone (serveRows pairwiseScanner twoBorrowers)
    HealthFactorMonitor.initialWorld
    (HealthFactorMonitor.getLiquidatablePositions pairwiseScanner.protocol) fullPageCall.events
      fullPageCall.result fullPageCall.after := by
  have answers : runAlone (serveRows pairwiseScanner twoBorrowers)
      (List.replicate 4 ⟨true, fun _ => .ok liquidatableRead⟩) HealthFactorMonitor.initialWorld
      (HealthFactorMonitor.getLiquidatablePositions pairwiseScanner.protocol) =
        some fullPageCall := rfl
  exact alone_of_runAlone answers

theorem emptyPageCall_alone : Alone (serveRows pairwiseScanner twoBorrowers) fullPageCall.after
    (HealthFactorMonitor.getLiquidatablePositions pairwiseScanner.protocol) emptyPageCall.events
      emptyPageCall.result emptyPageCall.after := by
  have answers : runAlone (serveRows pairwiseScanner twoBorrowers)
      (List.replicate 2 ⟨true, fun _ => .ok liquidatableRead⟩) fullPageCall.after
      (HealthFactorMonitor.getLiquidatablePositions pairwiseScanner.protocol) =
        some emptyPageCall := rfl
  exact alone_of_runAlone answers

theorem stalledCall_alone : Alone (serveRows pairwiseScanner twoBorrowers)
    HealthFactorMonitor.initialWorld
    (HealthFactorMonitor.getLiquidatablePositions pairwiseScanner.protocol) stalledCall.events
      stalledCall.result stalledCall.after := by
  have answers : runAlone (serveRows pairwiseScanner twoBorrowers)
      (List.replicate 2 ⟨true, fun _ => .error .outside⟩) HealthFactorMonitor.initialWorld
      (HealthFactorMonitor.getLiquidatablePositions pairwiseScanner.protocol) =
        some stalledCall := rfl
  exact alone_of_runAlone answers

theorem rotation_covers_borrowers_pair :
    CoversBorrowers twoBorrowers [fullPageCall, emptyPageCall] := by
  refine rotation_covers_borrowers pairwiseScanner twoBorrowers (by decide) (by decide) [] _
    HealthFactorMonitor.initialWorld ?_ rfl ?_ ?_
  · exact .cons _ _ fullPageCall _ fullPageCall_alone
      (.cons _ _ emptyPageCall _ emptyPageCall_alone (.nil _))
  · intro call member
    rcases List.mem_pair.mp member with rfl | rfl
    · exact ⟨_, _, List.mem_cons_self⟩
    · exact ⟨_, _, List.mem_cons_self⟩
  · rintro call member account ⟨error, event⟩
    rcases List.mem_pair.mp member with rfl | rfl
    · simp [fullPageCall] at event
    · simp [emptyPageCall] at event

/-- One account that cannot be read keeps every call on its page, and the borrower
behind it is not read. -/
theorem unreadable_account_stalls_rotation :
    ¬ ∀ (config : HealthFactorMonitorConfig) (rows : BorrowerRows) (history calls : List ScanCall)
      (after : MonitorWorld), config.protocol.reservePairs ≠ [] →
      0 < config.protocol.borrowerPageSize →
      Scans config rows HealthFactorMonitor.initialWorld (history ++ calls) after →
      calls.length = rows.ids.length / config.protocol.borrowerPageSize + 1 →
      (∀ call ∈ calls, call.PageRead) → CoversBorrowers rows calls := by
  intro covers
  have scans : Scans pairwiseScanner twoBorrowers HealthFactorMonitor.initialWorld
      ([] ++ [stalledCall, stalledCall]) HealthFactorMonitor.initialWorld :=
    .cons _ _ stalledCall _ stalledCall_alone
      (.cons _ _ stalledCall _ stalledCall_alone (.nil _))
  have paged : ∀ call ∈ [stalledCall, stalledCall], call.PageRead := by
    intro call member
    rcases List.mem_pair.mp member with rfl | rfl
    · exact ⟨_, _, List.mem_cons_self⟩
    · exact ⟨_, _, List.mem_cons_self⟩
  have second := covers pairwiseScanner twoBorrowers [] [stalledCall, stalledCall] _ (by decide)
    (by decide) scans rfl paged ⟨2, 0⟩ (by decide +kernel)
  have readable : ∀ call ∈ [stalledCall, stalledCall], ¬ call.FailsToRead ⟨2, 0⟩ := by
    rintro call member ⟨error, event⟩
    rcases List.mem_pair.mp member with rfl | rfl
    · simp [stalledCall] at event
    · simp [stalledCall] at event
  obtain ⟨call, member, data, event⟩ := (second readable).1
  rcases List.mem_pair.mp member with rfl | rfl
  · simp [ScanCall.Reads, stalledCall] at event
  · simp [ScanCall.Reads, stalledCall] at event

end LiquidationBot
