import LiquidationBot.Library.AsyncTurns
import LiquidationBot.Library.Tiles
import LiquidationBot.PoolLogs
import Mathlib.Data.List.Infix

/-!
# Discovering accounts from the pool's logs

The bootstrap scans five events over a range of blocks, chunk by chunk. A chunk that an
endpoint refuses for its limits is asked for three times there and then at the next
endpoint. Any other refusal, and a refusal by all of them, ends the discovery.

The discovery is complete or it fails. Where it returns, endpoints that answer from the
chain have named every account whose balances a log in the range changed, although the
declarations of two events misname their arguments.
-/

namespace LiquidationBot

open PoolLogs EventLogs Async

/-- `isRetryableRpcError`, of the text of an error. -/
def isRetryableRpcError (error : String) : Bool :=
  ["limit", "capacity", "429", "timeout", "eai_again", "fetch failed"].any
    (fun part => decide (part.toList <:+: error.toList.map Char.toLower))

/-- `GETLOGS_ATTEMPTS_PER_RPC`. -/
def GETLOGS_ATTEMPTS_PER_RPC : Nat := 3

/-- `BOOTSTRAP_EVENT_NAMES`, all of which are declared. -/
def BOOTSTRAP_EVENT_NAMES : List AavePoolEventName :=
  [.Supply, .Borrow, .Repay, .Withdraw, .LiquidationCall]

/-- The arguments of a decoded log that name accounts. The recipient is the source's `to`. -/
structure UserLogArgs where
  user : Option Address
  onBehalfOf : Option Address
  repayer : Option Address
  recipient : Option Address
deriving DecidableEq

namespace UserLogArgs

/-- `extractBorrowerAddressesFromLog`. -/
def extractBorrowerAddresses (args : UserLogArgs) : List Address :=
  args.onBehalfOf.toList ++ if args.user ≠ args.onBehalfOf then args.user.toList else []

/-- `extractUserAddressesFromAavePoolLog`: no account twice, whatever its spelling. -/
def extractUserAddresses (args : UserLogArgs) : List Address :=
  [args.onBehalfOf, args.user, args.repayer, args.recipient].foldl (fun out candidate =>
    match candidate with
    | none => out
    | some address =>
        if out.any (fun existing => decide (existing.toLowerCase = address.toLowerCase)) then out
        else out ++ [address]) []

end UserLogArgs

/-- One chunk of the scan. -/
structure LogQuery where
  event : AavePoolEventName
  fromBlock : Nat
  toBlock : Nat
deriving DecidableEq

/-- A request to an endpoint, by its place in the list, or a pause. -/
inductive DiscoveryOp where
  | getLogs (client : Nat) (query : LogQuery)
  | sleep (ms : Nat)
deriving DecidableEq

/-- Decoded logs, or the text of an error. -/
def DiscoveryOp.Answer : DiscoveryOp → Type
  | .getLogs _ _ => Except String (List UserLogArgs)
  | .sleep _ => Unit

inductive DiscoveryError where
  | noRpcClients
  | rpc (lastError : Option String)
deriving DecidableEq

abbrev DiscoveryM (α : Type) := Async DiscoveryOp DiscoveryOp.Answer DiscoveryError α

/-- `LogDiscoveryResult`; the two sets keep the order of insertion. -/
structure LogDiscoveryResult where
  accounts : InsertionMap Address Unit
  borrowAccounts : InsertionMap Address Unit
  totalLogs : Nat

namespace PoolLogDiscovery

/-- The attempts at one endpoint: the logs, or the last error. An error that is not
retryable is thrown. -/
def attemptsAt (client : Nat) (query : LogQuery) :
    List Nat → Option String → DiscoveryM (Except (Option String) (List UserLogArgs))
  | [], lastError => .pure (.error lastError)
  | attempt :: later, _ =>
      .call (.getLogs client query) (fun answer =>
        match answer with
        | .ok logs => .pure (.ok logs)
        | .error error =>
            if isRetryableRpcError error then
              if attempt < GETLOGS_ATTEMPTS_PER_RPC then
                .call (.sleep (attempt * 2000)) (fun _ =>
                  attemptsAt client query later (some error))
              else attemptsAt client query later (some error)
            else .throw (.rpc (some error)))

/-- `attempt` counts from one. -/
def attempts : List Nat := (List.range GETLOGS_ATTEMPTS_PER_RPC).map (· + 1)

/-- The endpoints one after the other. -/
def rotate (query : LogQuery) : List Nat → Option String → DiscoveryM (List UserLogArgs)
  | [], lastError => .throw (.rpc lastError)
  | client :: later, lastError =>
      (attemptsAt client query attempts lastError).bind (fun outcome =>
        match outcome with
        | .ok logs => .pure logs
        | .error lastError => rotate query later lastError)

/-- `getLogsWithRpcRotation`. -/
def getLogsWithRpcRotation (clients : Nat) (query : LogQuery) : DiscoveryM (List UserLogArgs) :=
  if clients = 0 then .throw .noRpcClients else rotate query (List.range clients) none

/-- The chunks of the inner loop, of which there are at most `fuel`. -/
def chunksFrom (chunkBlocks toBlock : Nat) : Nat → Nat → List (Nat × Nat)
  | 0, _ => []
  | fuel + 1, start =>
      if start ≤ toBlock then
        (start, if start + chunkBlocks - 1 > toBlock then toBlock else start + chunkBlocks - 1) ::
          chunksFrom chunkBlocks toBlock fuel (start + chunkBlocks)
      else []

def chunks (chunkBlocks fromBlock toBlock : Nat) : List (Nat × Nat) :=
  chunksFrom chunkBlocks toBlock (toBlock + 1 - fromBlock) fromBlock

/-- The turns of the two loops. -/
def queries (chunkBlocks fromBlock toBlock : Nat) : List LogQuery :=
  BOOTSTRAP_EVENT_NAMES.flatMap (fun event =>
    (chunks chunkBlocks fromBlock toBlock).map (fun range => ⟨event, range.1, range.2⟩))

/-- The addresses that a log of the event adds. -/
def addressesOf (event : AavePoolEventName) (args : UserLogArgs) : List Address :=
  if event = .Borrow then args.extractBorrowerAddresses else args.extractUserAddresses

/-- The body of the innermost loop. -/
def addAddress (event : AavePoolEventName) (found : LogDiscoveryResult) (address : Address) :
    LogDiscoveryResult :=
  { found with
    accounts := found.accounts.set address.toLowerCase ()
    borrowAccounts :=
      if event = .Borrow then found.borrowAccounts.set address.toLowerCase ()
      else found.borrowAccounts }

/-- What a chunk's answer adds. -/
def addLogs (found : LogDiscoveryResult) (answered : LogQuery × List UserLogArgs) :
    LogDiscoveryResult :=
  answered.2.foldl (fun found args =>
      (addressesOf answered.1.event args).foldl (addAddress answered.1.event) found)
    { found with totalLogs := found.totalLogs + answered.2.length }

/-- `discoverUsersFromPoolLogs`. -/
def discoverUsersFromPoolLogs (clients chunkBlocks fromBlock toBlock : Nat) :
    DiscoveryM LogDiscoveryResult :=
  (queries chunkBlocks fromBlock toBlock).foldlM (fun found query =>
      (getLogsWithRpcRotation clients query).bind (fun logs =>
        .pure (addLogs found (query, logs)))) ⟨.empty, .empty, 0⟩

/-! ## The chain behind the endpoints -/

/-- The emissions of the pool with their blocks, in order. -/
abbrev PoolHistory := List (Nat × PoolEmission)

/-- What the library decodes of an emission. -/
def argsOfEmission (checksum : BitVec 160 → BitVec 40) (emission : PoolEmission) : UserLogArgs :=
  let values := (decode (aavePoolAbi emission.name) emission.record).getD []
  { user := addressField checksum values .user
    onBehalfOf := addressField checksum values .onBehalfOf
    repayer := addressField checksum values .repayer
    recipient := addressField checksum values .recipient }

/-- The emission is in the chunk. -/
def Within (query : LogQuery) (entry : Nat × PoolEmission) : Prop :=
  entry.2.name = query.event ∧ query.fromBlock ≤ entry.1 ∧ entry.1 ≤ query.toBlock

instance (query : LogQuery) : DecidablePred (Within query) :=
  fun _ => inferInstanceAs (Decidable (_ ∧ _ ∧ _))

/-- The logs of a chunk on the chain. -/
def logsOf (checksum : BitVec 160 → BitVec 40) (history : PoolHistory) (query : LogQuery) :
    List UserLogArgs :=
  (history.filter (fun entry => Within query entry)).map (fun entry =>
    argsOfEmission checksum entry.2)

/-- Endpoints that answer at all answer from the chain. -/
def Honest (checksum : BitVec 160 → BitVec 40) (history : PoolHistory)
    (events : List (Event DiscoveryOp DiscoveryOp.Answer)) : Prop :=
  ∀ client query logs, ⟨.getLogs client query, .ok logs⟩ ∈ events →
    logs = logsOf checksum history query

/-! ## One chunk -/

section Requests

variable {client : Nat} {query : LogQuery} {logs : List UserLogArgs}
  {events : List (Event DiscoveryOp DiscoveryOp.Answer)}

/-- The endpoint refused the chunk. -/
def refused (client : Nat) (query : LogQuery) : Event DiscoveryOp DiscoveryOp.Answer → Bool
  | ⟨.getLogs asked chunk, .error _⟩ => decide (asked = client ∧ chunk = query)
  | _ => false

/-- An endpoint refused the chunk in a way that is not tried again. -/
def rejects (query : LogQuery) : Event DiscoveryOp DiscoveryOp.Answer → Bool
  | ⟨.getLogs _ chunk, .error error⟩ => decide (chunk = query) && !isRetryableRpcError error
  | _ => false

def Rejected (query : LogQuery) (events : List (Event DiscoveryOp DiscoveryOp.Answer)) : Prop :=
  events.any (rejects query) = true

theorem rejected_append {earlier later : List (Event DiscoveryOp DiscoveryOp.Answer)} :
    Rejected query (earlier ++ later) ↔ Rejected query earlier ∨ Rejected query later := by
  rw [Rejected, List.any_append, Bool.or_eq_true, Rejected, Rejected]

/-- The calls for one chunk at some of the endpoints. -/
def Asks (clients : List Nat) (query : LogQuery) : DiscoveryOp → Prop
  | .getLogs client chunk => client ∈ clients ∧ chunk = query
  | .sleep _ => True

/-- Other endpoints and other chunks are not refused meanwhile. -/
theorem countP_refused_eq_zero {clients : List Nat} {other : Nat} {chunk : LogQuery}
    (asked : ∀ event ∈ events, Asks clients query event.1)
    (apart : other ∉ clients ∨ chunk ≠ query) : events.countP (refused other chunk) = 0 := by
  rw [List.countP_eq_zero]
  rintro ⟨op, answer⟩ member counted
  have known := asked _ member
  match op, answer with
  | .sleep _, _ => cases counted
  | .getLogs _ _, .ok _ => cases counted
  | .getLogs _ _, .error _ =>
    simp only [refused, decide_eq_true_eq] at counted
    obtain ⟨rfl, rfl⟩ := counted
    rcases apart with foreign | different
    · exact foreign known.1
    · exact different known.2

theorem not_rejected_of_ne {clients : List Nat} {chunk : LogQuery}
    (asked : ∀ event ∈ events, Asks clients query event.1) (different : chunk ≠ query) :
    ¬ Rejected chunk events := by
  rw [Rejected, List.any_eq_true]
  rintro ⟨⟨op, answer⟩, member, counted⟩
  have known := asked _ member
  match op, answer with
  | .sleep _, _ => cases counted
  | .getLogs _ _, .ok _ => cases counted
  | .getLogs _ _, .error _ =>
    simp only [rejects, Bool.and_eq_true, decide_eq_true_eq] at counted
    exact different (counted.1.symm.trans known.2)

theorem uses_attemptsAt (numbers : List Nat) (lastError : Option String) :
    (attemptsAt client query numbers lastError).Uses (Asks [client] query) := by
  induction numbers generalizing lastError with
  | nil => trivial
  | cons attempt numbers inductionHypothesis =>
    refine ⟨⟨List.mem_singleton_self client, rfl⟩, fun answer => ?_⟩
    match answer with
    | .ok logs => trivial
    | .error error =>
      dsimp only
      split
      · split
        · exact ⟨trivial, fun _ => inductionHypothesis _⟩
        · exact inductionHypothesis _
      · trivial

theorem uses_rotate (clients : List Nat) (lastError : Option String) :
    (rotate query clients lastError).Uses (Asks clients query) := by
  induction clients generalizing lastError with
  | nil => trivial
  | cons client clients inductionHypothesis =>
    refine Uses.bind ((uses_attemptsAt attempts lastError).mono ?_) (fun outcome => ?_)
    · intro op asked
      cases op with
      | getLogs asker chunk =>
        exact ⟨List.mem_cons.mpr (Or.inl (List.mem_singleton.mp asked.1)), asked.2⟩
      | sleep ms => trivial
    · cases outcome with
      | ok logs => trivial
      | error last =>
        refine (inductionHypothesis last).mono ?_
        intro op asked
        cases op with
        | getLogs asker chunk => exact ⟨List.mem_cons_of_mem _ asked.1, asked.2⟩
        | sleep ms => trivial

theorem uses_getLogsWithRpcRotation (clients : Nat) (query : LogQuery) :
    (getLogsWithRpcRotation clients query).Uses (Asks (List.range clients) query) := by
  unfold getLogsWithRpcRotation
  split
  · trivial
  · exact uses_rotate _ _

/-- What the calls of the attempts at one endpoint have in common, by how they end. -/
def AttemptsMade (client : Nat) (query : LogQuery) (count : Nat)
    (events : List (Event DiscoveryOp DiscoveryOp.Answer)) :
    Except DiscoveryError (Except (Option String) (List UserLogArgs)) → Prop
  | .ok (.ok logs) => ⟨.getLogs client query, .ok logs⟩ ∈ events ∧
      events.countP (refused client query) < count ∧ ¬ Rejected query events
  | .ok (.error _) => count ≤ events.countP (refused client query) ∧ ¬ Rejected query events
  | .error _ => Rejected query events

/-- One more refusal that is tried again. -/
theorem AttemptsMade.cons {count : Nat} {error : String}
    (before : List (Event DiscoveryOp DiscoveryOp.Answer))
    {after : List (Event DiscoveryOp DiscoveryOp.Answer)}
    {result : Except DiscoveryError (Except (Option String) (List UserLogArgs))}
    (retryable : isRetryableRpcError error = true)
    (pauses : ∀ event ∈ before, ∃ ms answer, event = ⟨.sleep ms, answer⟩)
    (later : AttemptsMade client query count after result) :
    AttemptsMade client query (count + 1)
      (⟨.getLogs client query, .error error⟩ :: (before ++ after)) result := by
  have quiet : before.countP (refused client query) = 0 ∧ before.any (rejects query) = false := by
    rw [List.countP_eq_zero, List.any_eq_false]
    constructor
    all_goals
      intro event member counted
      obtain ⟨ms, answer, rfl⟩ := pauses event member
      cases counted
  have once : refused client query ⟨.getLogs client query, .error error⟩ = true := by
    simp [refused]
  have counted : (⟨.getLogs client query, .error error⟩ :: (before ++ after) :
      List (Event DiscoveryOp DiscoveryOp.Answer)).countP (refused client query) =
      after.countP (refused client query) + 1 := by
    rw [List.countP_cons_of_pos once, List.countP_append, quiet.1, Nat.zero_add]
  have rejected : Rejected query (⟨.getLogs client query, .error error⟩ :: (before ++ after)) ↔
      Rejected query after := by
    rw [Rejected, List.any_cons, List.any_append, quiet.2, Rejected, rejects, retryable]
    simp
  match result with
  | .ok (.ok logs) =>
    obtain ⟨member, few, accepted⟩ := later
    refine ⟨List.mem_cons_of_mem _ (List.mem_append_right _ member), ?_, rejected.not.mpr accepted⟩
    rw [counted]
    exact Nat.succ_lt_succ few
  | .ok (.error last) =>
    obtain ⟨many, accepted⟩ := later
    refine ⟨?_, rejected.not.mpr accepted⟩
    rw [counted]
    exact Nat.succ_le_succ many
  | .error thrown => exact rejected.mpr later

/-- How the attempts at one endpoint end. Induct on the attempts. -/
theorem runs_attemptsAt {numbers : List Nat} {lastError : Option String}
    {result : Except DiscoveryError (Except (Option String) (List UserLogArgs))}
    (made : Runs (attemptsAt client query numbers lastError) events result) :
    AttemptsMade client query numbers.length events result := by
  induction numbers generalizing lastError events with
  | nil =>
    obtain ⟨rfl, rfl⟩ := runs_pure.mp made
    exact ⟨Nat.zero_le _, Bool.false_ne_true⟩
  | cons attempt numbers inductionHypothesis =>
    obtain ⟨answer, rest, rfl, run⟩ := runs_call.mp made
    match answer with
    | .ok found =>
      obtain ⟨rfl, rfl⟩ := runs_pure.mp run
      exact ⟨List.mem_cons_self, Nat.succ_pos _, Bool.false_ne_true⟩
    | .error error =>
      replace run : Runs (if isRetryableRpcError error then
          if attempt < GETLOGS_ATTEMPTS_PER_RPC then
            .call (.sleep (attempt * 2000)) (fun _ => attemptsAt client query numbers (some error))
          else attemptsAt client query numbers (some error)
        else .throw (.rpc (some error))) rest result := run
      split at run
      next retryable =>
        split at run
        next =>
          obtain ⟨answer, after, rfl, again⟩ := runs_call.mp run
          refine AttemptsMade.cons [⟨_, answer⟩] retryable ?_
            (inductionHypothesis again)
          intro event member
          exact ⟨_, answer, List.mem_singleton.mp member⟩
        next => exact AttemptsMade.cons [] retryable nofun (inductionHypothesis run)
      next final =>
        obtain ⟨rfl, rfl⟩ := runs_throw.mp run
        simp [AttemptsMade, Rejected, rejects, final]

/-- The chunk was answered, or refused for good: by an error that is not tried again, or three
times by each of the endpoints. -/
def Settled (clients : List Nat) (query : LogQuery)
    (events : List (Event DiscoveryOp DiscoveryOp.Answer)) :
    Except DiscoveryError (List UserLogArgs) → Prop
  | .ok logs => (∃ client ∈ clients, ⟨.getLogs client query, .ok logs⟩ ∈ events ∧
      events.countP (refused client query) < GETLOGS_ATTEMPTS_PER_RPC) ∧ ¬ Rejected query events
  | .error _ => Rejected query events ∨ ∀ client ∈ clients,
      GETLOGS_ATTEMPTS_PER_RPC ≤ events.countP (refused client query)

/-- Induct on the endpoints. -/
theorem runs_rotate {clients : List Nat} {lastError : Option String}
    {result : Except DiscoveryError (List UserLogArgs)} (distinct : clients.Nodup)
    (run : Runs (rotate query clients lastError) events result) :
    Settled clients query events result := by
  induction clients generalizing lastError events with
  | nil =>
    obtain ⟨rfl, rfl⟩ := runs_throw.mp run
    exact Or.inr (by simp)
  | cons client clients inductionHypothesis =>
    obtain ⟨fresh, distinct⟩ := List.nodup_cons.mp distinct
    rcases runs_bind.mp run with ⟨error, thrown, rfl⟩ | ⟨outcome, earlier, later, rfl, tried, rest⟩
    · exact Or.inl (runs_attemptsAt thrown)
    · have here := runs_attemptsAt tried
      cases outcome with
      | ok found =>
        obtain ⟨rfl, rfl⟩ := runs_pure.mp rest
        obtain ⟨member, few, accepted⟩ := here
        rw [List.append_nil]
        exact ⟨⟨client, List.mem_cons_self, member, few⟩, accepted⟩
      | error last =>
        have known := inductionHypothesis distinct rest
        obtain ⟨many, accepted⟩ := here
        cases result with
        | ok found =>
          obtain ⟨⟨other, listed, member, few⟩, rested⟩ := known
          refine ⟨⟨other, List.mem_cons_of_mem _ listed, List.mem_append_right _ member, ?_⟩, ?_⟩
          · have foreign : other ∉ [client] := by
              rintro same
              exact fresh (List.mem_singleton.mp same ▸ listed)
            rw [List.countP_append, countP_refused_eq_zero
              ((uses_attemptsAt attempts lastError).of_run tried) (Or.inl foreign), Nat.zero_add]
            exact few
          · rw [rejected_append, not_or]
            exact ⟨accepted, rested⟩
        | error error =>
          rcases known with rejected | everywhere
          · exact Or.inl (rejected_append.mpr (Or.inr rejected))
          · refine Or.inr (fun tested member => ?_)
            rw [List.countP_append]
            rcases List.mem_cons.mp member with rfl | further
            · exact (show GETLOGS_ATTEMPTS_PER_RPC ≤ _ from many).trans (Nat.le_add_right _ _)
            · exact (everywhere tested further).trans (Nat.le_add_left _ _)

theorem runs_getLogsWithRpcRotation {clients : Nat}
    {result : Except DiscoveryError (List UserLogArgs)}
    (run : Runs (getLogsWithRpcRotation clients query) events result) :
    Settled (List.range clients) query events result := by
  unfold getLogsWithRpcRotation at run
  split at run
  next none =>
    obtain ⟨rfl, rfl⟩ := runs_throw.mp run
    exact Or.inr (by simp [none])
  next => exact runs_rotate List.nodup_range run

end Requests

/-! ## What is added -/

section Additions

variable {found : LogDiscoveryResult}

/-- The addresses that the arguments name. -/
def named (args : UserLogArgs) : List Address :=
  [args.onBehalfOf, args.user, args.repayer, args.recipient].flatMap Option.toList

/-- Some address of the list has the lower-case spelling. -/
def Spells (addresses : List Address) (key : Address) : Prop :=
  ∃ address ∈ addresses, address.toLowerCase = key

theorem spells_append {addresses others : List Address} {key : Address} :
    Spells (addresses ++ others) key ↔ Spells addresses key ∨ Spells others key := by
  simp only [Spells, List.mem_append, or_and_right, exists_or]

/-- Leaving out a second spelling loses no account. -/
theorem spells_extractUserAddresses (args : UserLogArgs) (key : Address) :
    Spells args.extractUserAddresses key ↔ Spells (named args) key := by
  have folded : ∀ (candidates : List (Option Address)) (out : List Address),
      Spells (candidates.foldl (fun out candidate =>
        match candidate with
        | none => out
        | some address =>
            if out.any (fun existing =>
              decide (existing.toLowerCase = address.toLowerCase)) then out
            else out ++ [address]) out) key ↔
        Spells out key ∨ Spells (candidates.flatMap Option.toList) key := by
    intro candidates
    induction candidates with
    | nil => simp [Spells]
    | cons candidate candidates inductionHypothesis =>
      intro out
      rw [List.foldl_cons, inductionHypothesis, List.flatMap_cons, spells_append]
      cases candidate with
      | none => simp [Spells]
      | some address =>
        dsimp only [Option.toList]
        split
        next known =>
          simp only [List.any_eq_true, decide_eq_true_eq] at known
          obtain ⟨existing, member, same⟩ := known
          have already : Spells [address] key → Spells out key := by
            rintro ⟨_, single, spelled⟩
            rw [List.mem_singleton.mp single] at spelled
            exact ⟨existing, member, same.trans spelled⟩
          constructor
          · exact Or.imp_right Or.inr
          · rintro (before | here | later)
            · exact Or.inl before
            · exact Or.inl (already here)
            · exact Or.inr later
        next => rw [spells_append, or_assoc]
  rw [UserLogArgs.extractUserAddresses, folded, named]
  simp [Spells]

/-- A borrow log has neither a repayer nor a recipient. -/
theorem spells_extractBorrowerAddresses {args : UserLogArgs} (repayer : args.repayer = none)
    (recipient : args.recipient = none) (key : Address) :
    Spells args.extractBorrowerAddresses key ↔ Spells (named args) key := by
  simp only [named, repayer, recipient, UserLogArgs.extractBorrowerAddresses]
  split
  next => simp [Spells]
  next same =>
    rw [not_not.mp same]
    simp [Spells]

theorem has_foldl_addAddress (event : AavePoolEventName) (addresses : List Address)
    (found : LogDiscoveryResult) (key : Address) :
    ((addresses.foldl (addAddress event) found).accounts.has key = true ↔
      found.accounts.has key = true ∨ Spells addresses key) ∧
    ((addresses.foldl (addAddress event) found).borrowAccounts.has key = true ↔
      found.borrowAccounts.has key = true ∨ event = .Borrow ∧ Spells addresses key) ∧
    (addresses.foldl (addAddress event) found).totalLogs = found.totalLogs := by
  induction addresses generalizing found with
  | nil => simp [Spells]
  | cons address addresses inductionHypothesis =>
    obtain ⟨accounts, borrowers, total⟩ := inductionHypothesis (addAddress event found address)
    rw [List.foldl_cons]
    have split : Spells (address :: addresses) key ↔
        key = address.toLowerCase ∨ Spells addresses key := by
      simp [Spells, @eq_comm _ key]
    refine ⟨?_, ?_, total⟩
    · rw [accounts, split, addAddress, InsertionMap.has_set, Bool.or_eq_true, decide_eq_true_eq,
        or_assoc, or_left_comm]
    · rw [borrowers, split, addAddress]
      by_cases borrow : event = .Borrow
      · simp only [borrow, if_true, true_and]
        rw [InsertionMap.has_set, Bool.or_eq_true, decide_eq_true_eq, or_assoc, or_left_comm]
      · simp [borrow]

/-- What the answers of one chunk add. -/
theorem has_addLogs (answered : LogQuery × List UserLogArgs) (found : LogDiscoveryResult)
    (key : Address) :
    ((addLogs found answered).accounts.has key = true ↔
      found.accounts.has key = true ∨
        ∃ args ∈ answered.2, Spells (addressesOf answered.1.event args) key) ∧
    ((addLogs found answered).borrowAccounts.has key = true ↔
      found.borrowAccounts.has key = true ∨ answered.1.event = .Borrow ∧
        ∃ args ∈ answered.2, Spells (addressesOf answered.1.event args) key) ∧
    (addLogs found answered).totalLogs = found.totalLogs + answered.2.length := by
  obtain ⟨query, logs⟩ := answered
  have folded : ∀ (logs : List UserLogArgs) (found : LogDiscoveryResult),
      let last := logs.foldl (fun found args =>
        (addressesOf query.event args).foldl (addAddress query.event) found) found
      (last.accounts.has key = true ↔ found.accounts.has key = true ∨
        ∃ args ∈ logs, Spells (addressesOf query.event args) key) ∧
      (last.borrowAccounts.has key = true ↔ found.borrowAccounts.has key = true ∨
        query.event = .Borrow ∧ ∃ args ∈ logs, Spells (addressesOf query.event args) key) ∧
      last.totalLogs = found.totalLogs := by
    intro logs
    induction logs with
    | nil => simp
    | cons args logs inductionHypothesis =>
      intro found
      obtain ⟨accounts, borrowers, total⟩ := inductionHypothesis
        ((addressesOf query.event args).foldl (addAddress query.event) found)
      obtain ⟨first, firstBorrower, same⟩ :=
        has_foldl_addAddress query.event (addressesOf query.event args) found key
      refine ⟨?_, ?_, total.trans same⟩
      · rw [List.foldl_cons, accounts, first, or_assoc]
        simp
      · rw [List.foldl_cons, borrowers, firstBorrower, or_assoc, ← and_or_left]
        simp
  obtain ⟨accounts, borrowers, total⟩ :=
    folded logs { found with totalLogs := found.totalLogs + logs.length }
  exact ⟨accounts, borrowers, total⟩

/-- What the answers of all the chunks add. Induct on the answers. -/
theorem has_foldl_addLogs (answered : List (LogQuery × List UserLogArgs))
    (found : LogDiscoveryResult) (key : Address) :
    ((answered.foldl addLogs found).accounts.has key = true ↔
      found.accounts.has key = true ∨ ∃ chunk ∈ answered, ∃ args ∈ chunk.2,
        Spells (addressesOf chunk.1.event args) key) ∧
    ((answered.foldl addLogs found).borrowAccounts.has key = true ↔
      found.borrowAccounts.has key = true ∨ ∃ chunk ∈ answered, chunk.1.event = .Borrow ∧
        ∃ args ∈ chunk.2, Spells (addressesOf chunk.1.event args) key) ∧
    (answered.foldl addLogs found).totalLogs =
      found.totalLogs + (answered.map (fun chunk => chunk.2.length)).sum := by
  induction answered generalizing found with
  | nil => simp
  | cons chunk answered inductionHypothesis =>
    obtain ⟨accounts, borrowers, total⟩ := inductionHypothesis (addLogs found chunk)
    obtain ⟨first, firstBorrower, firstTotal⟩ := has_addLogs chunk found key
    refine ⟨?_, ?_, ?_⟩
    · rw [List.foldl_cons, accounts, first, or_assoc, List.exists_mem_cons_iff]
    · rw [List.foldl_cons, borrowers, firstBorrower, or_assoc, List.exists_mem_cons_iff]
    · rw [List.foldl_cons, total, firstTotal, List.map_cons, List.sum_cons, Nat.add_assoc]

end Additions

/-! ## The chunks -/

section Chunks

variable {chunkBlocks toBlock : Nat}

/-- Behind the last block there is no chunk. -/
theorem chunksFrom_behind {start : Nat} (behind : toBlock < start) (fuel : Nat) :
    chunksFrom chunkBlocks toBlock fuel start = [] := by
  cases fuel with
  | zero => rfl
  | succ fuel => rw [chunksFrom, if_neg (by omega)]

/-- The chunks of the loop tile the rest of the range. Induct on the fuel. -/
theorem tile_chunksFrom (positive : 0 < chunkBlocks) (fuel start : Nat)
    (enough : toBlock + 1 - start ≤ fuel) :
    Tiles.Tile start (max start (toBlock + 1)) (chunksFrom chunkBlocks toBlock fuel start) := by
  induction fuel generalizing start with
  | zero =>
    change start = max start (toBlock + 1)
    omega
  | succ fuel inductionHypothesis =>
    rw [chunksFrom]
    split
    next before =>
      refine ⟨rfl, ?_, ?_⟩
      · dsimp only
        split <;> omega
      · split
        next last =>
          rw [chunksFrom_behind (by omega)]
          change toBlock + 1 = max start (toBlock + 1)
          omega
        next more =>
          have later := inductionHypothesis (start + chunkBlocks) (by omega)
          have behind : start + chunkBlocks - 1 + 1 = start + chunkBlocks := by omega
          have stop : max (start + chunkBlocks) (toBlock + 1) = max start (toBlock + 1) := by omega
          dsimp only
          rw [behind, ← stop]
          exact later
    next behind =>
      change start = max start (toBlock + 1)
      omega

theorem tile_chunks (positive : 0 < chunkBlocks) (fromBlock : Nat) :
    Tiles.Tile fromBlock (max fromBlock (toBlock + 1)) (chunks chunkBlocks fromBlock toBlock) :=
  tile_chunksFrom positive _ _ le_rfl

/-- The emission is in the range of blocks. -/
def InRange (fromBlock toBlock : Nat) (entry : Nat × PoolEmission) : Prop :=
  fromBlock ≤ entry.1 ∧ entry.1 ≤ toBlock

instance (fromBlock toBlock : Nat) : DecidablePred (InRange fromBlock toBlock) :=
  fun _ => inferInstanceAs (Decidable (_ ∧ _))

/-- Every emission in the range is asked for, and no other. -/
theorem exists_query_iff (positive : 0 < chunkBlocks) (fromBlock : Nat)
    (entry : Nat × PoolEmission) :
    (∃ query ∈ queries chunkBlocks fromBlock toBlock, Within query entry) ↔
      InRange fromBlock toBlock entry := by
  have named : entry.2.name ∈ BOOTSTRAP_EVENT_NAMES := by
    cases entry.2 <;> simp [PoolEmission.name, BOOTSTRAP_EVENT_NAMES]
  have covered := (@tile_chunks chunkBlocks toBlock positive fromBlock).covers_iff entry.1
  have bounds : InRange fromBlock toBlock entry ↔
      fromBlock ≤ entry.1 ∧ entry.1 < max fromBlock (toBlock + 1) := by
    unfold InRange
    omega
  rw [bounds, ← covered]
  constructor
  · rintro ⟨query, member, -, after, before⟩
    simp only [queries, List.mem_flatMap, List.mem_map] at member
    obtain ⟨event, -, range, listed, rfl⟩ := member
    exact ⟨range, listed, after, before⟩
  · rintro ⟨range, listed, after, before⟩
    refine ⟨⟨entry.2.name, range.1, range.2⟩, ?_, rfl, after, before⟩
    exact List.mem_flatMap.mpr ⟨entry.2.name, named, List.mem_map.mpr ⟨range, listed, rfl⟩⟩

/-- An emission is of exactly one of the events. -/
theorem sum_countP_name (history : PoolHistory) (fromBlock stop : Nat) :
    (BOOTSTRAP_EVENT_NAMES.map (fun event => history.countP (fun entry =>
      decide (entry.2.name = event ∧ fromBlock ≤ entry.1 ∧ entry.1 < stop)))).sum =
      history.countP (fun entry => decide (fromBlock ≤ entry.1 ∧ entry.1 < stop)) := by
  induction history with
  | nil => rfl
  | cons entry history inductionHypothesis =>
    rw [List.countP_cons, ← inductionHypothesis]
    obtain ⟨block, emission⟩ := entry
    simp only [BOOTSTRAP_EVENT_NAMES, List.map_cons, List.map_nil, List.sum_cons, List.sum_nil,
      List.countP_cons, decide_eq_true_eq]
    cases emission <;> simp only [PoolEmission.name, reduceCtorEq, false_and, true_and, if_false]
      <;> omega

/-- The chunks hold every emission in the range once. -/
theorem sum_length_logsOf (positive : 0 < chunkBlocks) (fromBlock : Nat)
    (checksum : BitVec 160 → BitVec 40) (history : PoolHistory) :
    ((queries chunkBlocks fromBlock toBlock).map (fun query =>
      (logsOf checksum history query).length)).sum =
      history.countP (fun entry => InRange fromBlock toBlock entry) := by
  have each : ∀ event, ((chunks chunkBlocks fromBlock toBlock).map (fun range =>
      (logsOf checksum history ⟨event, range.1, range.2⟩).length)).sum =
      history.countP (fun entry => decide (entry.2.name = event ∧ fromBlock ≤ entry.1 ∧
        entry.1 < max fromBlock (toBlock + 1))) := by
    intro event
    rw [← (tile_chunks positive fromBlock).sum_countP history Prod.fst
      (fun entry => entry.2.name = event)]
    congr 2
    funext range
    rw [logsOf, List.length_map, ← List.countP_eq_length_filter]
    rfl
  rw [queries, List.map_flatMap, List.flatMap_def, List.sum_flatten, List.map_map]
  simp only [List.map_map, Function.comp_def, each]
  rw [sum_countP_name]
  congr 1
  funext entry
  rw [decide_eq_decide, InRange]
  omega

end Chunks

/-! ## The accounts of an emission -/

section Accounts

variable (checksum : BitVec 160 → BitVec 40)

/-- Under the bot's declarations the arguments of every log name the account whose balances
changed. -/
theorem user_argsOfEmission (emission : PoolEmission) :
    (argsOfEmission checksum emission).user =
      some ⟨emission.account, checksum emission.account⟩ := by
  cases emission with
  | supply reserve user onBehalfOf amount referralCode =>
    have decoded := decode_supply reserve user onBehalfOf amount referralCode
    rw [setWidth_ofUnsigned (by decide) onBehalfOf] at decoded
    rw [argsOfEmission, PoolEmission.name, decoded]
    rfl
  | borrow reserve user onBehalfOf amount interestRateMode borrowRate referralCode =>
    have decoded := decode_borrow reserve user onBehalfOf amount interestRateMode borrowRate
      referralCode
    rw [setWidth_ofUnsigned (by decide) onBehalfOf] at decoded
    rw [argsOfEmission, PoolEmission.name, decoded]
    rfl
  | repay reserve user repayer amount useATokens =>
    rw [argsOfEmission, decode_same _ rfl]
    rfl
  | withdraw reserve user recipient amount =>
    rw [argsOfEmission, decode_same _ rfl]
    rfl
  | liquidationCall collateralAsset debtAsset user debtToCover liquidatedCollateralAmount
      liquidator receiveAToken =>
    rw [argsOfEmission, decode_same _ rfl]
    rfl

/-- The account, as the discovery keeps it. -/
theorem spells_account (emission : PoolEmission) :
    Spells (named (argsOfEmission checksum emission)) ⟨emission.account, 0⟩ := by
  refine ⟨⟨emission.account, checksum emission.account⟩, ?_, rfl⟩
  rw [named, user_argsOfEmission]
  simp

/-- The loop adds every address that the arguments name. -/
theorem spells_addressesOf (emission : PoolEmission) (key : Address) :
    Spells (addressesOf emission.name (argsOfEmission checksum emission)) key ↔
      Spells (named (argsOfEmission checksum emission)) key := by
  cases emission with
  | borrow reserve user onBehalfOf amount interestRateMode borrowRate referralCode =>
    have decoded := decode_borrow reserve user onBehalfOf amount interestRateMode borrowRate
      referralCode
    rw [PoolEmission.name, addressesOf, if_pos rfl]
    apply spells_extractBorrowerAddresses <;>
    · rw [argsOfEmission, PoolEmission.name, decoded]
      rfl
  | supply => rw [PoolEmission.name, addressesOf, if_neg (by decide), spells_extractUserAddresses]
  | repay => rw [PoolEmission.name, addressesOf, if_neg (by decide), spells_extractUserAddresses]
  | withdraw => rw [PoolEmission.name, addressesOf, if_neg (by decide), spells_extractUserAddresses]
  | liquidationCall =>
    rw [PoolEmission.name, addressesOf, if_neg (by decide), spells_extractUserAddresses]

end Accounts

/-! ## The whole discovery -/

section Discovery

variable {checksum : BitVec 160 → BitVec 40} {history : PoolHistory}
  {clients chunkBlocks fromBlock toBlock : Nat} {found : LogDiscoveryResult}
  {events : List (Event DiscoveryOp DiscoveryOp.Answer)}

/-- The loop collects the answers and then adds them. -/
theorem discover_eq (clients chunkBlocks fromBlock toBlock : Nat) :
    discoverUsersFromPoolLogs clients chunkBlocks fromBlock toBlock =
      (collect (getLogsWithRpcRotation clients) (fun query logs => [(query, logs)]) []
        (queries chunkBlocks fromBlock toBlock)).bind
          (fun answered => .pure (answered.foldl addLogs ⟨.empty, .empty, 0⟩)) := by
  have turn : ∀ found query, ((getLogsWithRpcRotation clients query).bind (fun logs =>
      .pure (addLogs found (query, logs))) : DiscoveryM LogDiscoveryResult) =
      (getLogsWithRpcRotation clients query).bind (fun logs =>
        .pure ([(query, logs)].foldl addLogs found)) := fun _ _ => rfl
  exact foldlM_eq_collect turn ⟨.empty, .empty, 0⟩ []

/-- From endpoints that answer from the chain, the discovery adds the logs of each chunk. -/
theorem found_eq (honest : Honest checksum history events)
    (run : Runs (discoverUsersFromPoolLogs clients chunkBlocks fromBlock toBlock) events
      (.ok found)) :
    found = ((queries chunkBlocks fromBlock toBlock).map (fun query =>
      (query, logsOf checksum history query))).foldl addLogs ⟨.empty, .empty, 0⟩ := by
  rw [discover_eq, runs_bind_ok] at run
  obtain ⟨answered, earlier, later, rfl, collected, ended⟩ := run
  obtain ⟨rfl, same⟩ := runs_pure.mp ended
  cases same
  obtain ⟨turns, items, ran, rfl, rfl⟩ := runs_collect.mp collected
  have each : ∀ made ∈ turns, [(made.item, made.outcome)] =
      [(made.item, logsOf checksum history made.item)] := by
    intro made member
    obtain ⟨⟨client, -, answer, -⟩, -⟩ := runs_getLogsWithRpcRotation (ran made member)
    rw [honest client made.item made.outcome
      (List.mem_append_left _ (List.mem_flatMap.mpr ⟨made, member, answer⟩))]
  rw [List.nil_append, List.flatMap_congr each, ← items, List.map_map, List.map_eq_flatMap]
  rfl

theorem nodup_queries (positive : 0 < chunkBlocks) (fromBlock : Nat) :
    (queries chunkBlocks fromBlock toBlock).Nodup := by
  rw [queries, List.nodup_flatMap]
  constructor
  · intro event _
    refine (tile_chunks positive fromBlock).nodup.map ?_
    intro first second same
    simp only [LogQuery.mk.injEq, true_and] at same
    exact Prod.ext same.1 same.2
  · refine List.Pairwise.imp ?_ (show BOOTSTRAP_EVENT_NAMES.Nodup by decide)
    intro first second different query one other
    simp only [List.mem_map] at one other
    obtain ⟨_, _, rfl⟩ := one
    obtain ⟨_, _, same⟩ := other
    exact different (LogQuery.mk.inj same).1.symm

/-- The chunk is refused for good. -/
def RefusedForGood (clients : Nat) (query : LogQuery)
    (events : List (Event DiscoveryOp DiscoveryOp.Answer)) : Prop :=
  Rejected query events ∨ ∀ client < clients,
    GETLOGS_ATTEMPTS_PER_RPC ≤ events.countP (refused client query)

/-- In a loop over distinct chunks the refusals of a chunk are those of its own turn. -/
theorem not_refusedForGood {turns : List (Turn DiscoveryOp DiscoveryOp.Answer LogQuery
      (List UserLogArgs))} (distinct : (turns.map Turn.item).Nodup)
    (ran : ∀ made ∈ turns, made.Ran (getLogsWithRpcRotation clients))
    {query : LogQuery} (listed : query ∈ turns.map Turn.item) :
    ¬ RefusedForGood clients query (turns.flatMap Turn.events) := by
  obtain ⟨made, member, rfl⟩ := List.mem_map.mp listed
  obtain ⟨front, back, rfl⟩ := List.append_of_mem member
  have asked : ∀ other ∈ front ++ made :: back, ∀ event ∈ other.events,
      Asks (List.range clients) other.item event.1 := fun other member =>
    (uses_getLogsWithRpcRotation clients other.item).of_run (ran other member)
  have elsewhere : ∀ turns : List (Turn DiscoveryOp DiscoveryOp.Answer LogQuery _),
      (∀ other ∈ turns, other ∈ front ++ made :: back ∧ made.item ≠ other.item) →
      ¬ Rejected made.item (turns.flatMap Turn.events) ∧
        ∀ client, (turns.flatMap Turn.events).countP (refused client made.item) = 0 := by
    intro turns
    induction turns with
    | nil => exact fun _ => ⟨Bool.false_ne_true, fun _ => rfl⟩
    | cons other turns inductionHypothesis =>
      intro others
      obtain ⟨known, different⟩ := others other List.mem_cons_self
      obtain ⟨accepted, silent⟩ := inductionHypothesis (fun later member =>
        others later (List.mem_cons_of_mem _ member))
      rw [List.flatMap_cons, rejected_append, not_or]
      refine ⟨⟨not_rejected_of_ne (asked other known) different, accepted⟩, fun client => ?_⟩
      rw [List.countP_append, silent,
        countP_refused_eq_zero (asked other known) (Or.inr different)]
  rw [List.map_append, List.map_cons, List.nodup_middle, List.nodup_cons, List.mem_append,
    not_or] at distinct
  obtain ⟨⟨notBefore, notAfter⟩, -⟩ := distinct
  obtain ⟨acceptedBefore, silentBefore⟩ := elsewhere front (fun other member =>
    ⟨List.mem_append_left _ member,
      fun same => notBefore (List.mem_map.mpr ⟨other, member, same.symm⟩)⟩)
  obtain ⟨acceptedAfter, silentAfter⟩ := elsewhere back (fun other member =>
    ⟨List.mem_append_right _ (List.mem_cons_of_mem _ member),
      fun same => notAfter (List.mem_map.mpr ⟨other, member, same.symm⟩)⟩)
  obtain ⟨⟨client, within, _, few⟩, accepted⟩ := runs_getLogsWithRpcRotation (ran made member)
  rw [RefusedForGood, List.flatMap_append, List.flatMap_cons, rejected_append, rejected_append]
  rintro ((before | here | after) | everywhere)
  · exact acceptedBefore before
  · exact accepted here
  · exact acceptedAfter after
  · have many := everywhere client (List.mem_range.mp within)
    rw [List.countP_append, List.countP_append, silentBefore, silentAfter] at many
    omega

/-- Endpoints that refuse everything for a reason that stays. -/
def unauthorized : (op : DiscoveryOp) → op.Answer
  | .getLogs _ _ => .error "unauthorized"
  | .sleep _ => ()

/-- The answers of the chain over all the chunks, as emissions. -/
theorem exists_answered_iff (positive : 0 < chunkBlocks) (chosen : AavePoolEventName → Prop)
    (key : Address) :
    (∃ chunk ∈ (queries chunkBlocks fromBlock toBlock).map (fun query =>
        (query, logsOf checksum history query)), chosen chunk.1.event ∧
        ∃ args ∈ chunk.2, Spells (addressesOf chunk.1.event args) key) ↔
      ∃ entry ∈ history, InRange fromBlock toBlock entry ∧ chosen entry.2.name ∧
        Spells (named (argsOfEmission checksum entry.2)) key := by
  constructor
  · rintro ⟨_, listed, picked, args, member, spelled⟩
    obtain ⟨query, asked, rfl⟩ := List.mem_map.mp listed
    obtain ⟨entry, filtered, rfl⟩ := List.mem_map.mp member
    obtain ⟨present, within⟩ := List.mem_filter.mp filtered
    rw [decide_eq_true_eq] at within
    dsimp only at picked spelled
    rw [← within.1] at picked spelled
    exact ⟨entry, present, (exists_query_iff positive fromBlock entry).mp ⟨query, asked, within⟩,
      picked, (spells_addressesOf checksum entry.2 key).mp spelled⟩
  · rintro ⟨entry, present, inRange, picked, spelled⟩
    obtain ⟨query, asked, within⟩ := (exists_query_iff positive fromBlock entry).mpr inRange
    refine ⟨_, List.mem_map.mpr ⟨query, asked, rfl⟩, ?_, argsOfEmission checksum entry.2,
      List.mem_map.mpr ⟨entry, List.mem_filter.mpr ⟨present, decide_eq_true within⟩, rfl⟩, ?_⟩
    · exact within.1 ▸ picked
    · dsimp only
      rw [← within.1]
      exact (spells_addressesOf checksum entry.2 key).mpr spelled

/-- Endpoints that always answer from the chain. -/
def fromChain (checksum : BitVec 160 → BitVec 40) (history : PoolHistory) :
    (op : DiscoveryOp) → op.Answer
  | .getLogs _ query => .ok (logsOf checksum history query)
  | .sleep _ => ()

theorem honest_trace {α : Type} (program : DiscoveryM α) :
    Honest checksum history (program.trace (fromChain checksum history)) := by
  induction program with
  | pure value => exact fun _ _ _ => nofun
  | throw error => exact fun _ _ _ => nofun
  | call op resume inductionHypothesis =>
    intro client query logs member
    rcases List.mem_cons.mp member with here | later
    · cases here
      rfl
    · exact inductionHypothesis _ client query logs later

end Discovery

end PoolLogDiscovery

end LiquidationBot
