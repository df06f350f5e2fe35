import LiquidationBot.BorrowerPages
import LiquidationBot.Library.Window
import Mathlib.Data.List.TakeWhile

/-!
# Enumerating the borrowers of a subgraph

Two loops page through a subgraph until a page is short. Both come to their end within
one request more than there are full pages. `fetchAllBorrowers` keeps the part of each
position id before the first hyphen, whatever it is; `listBorrowerAddresses` keeps the
ids that are addresses. What the first returns is therefore the addresses of the rows
only where every row begins with one.
-/

namespace LiquidationBot

open KeysetPages

/-- The text is a lower-case address: `0x` and forty hex digits. -/
def isAddressText (text : List Char) : Bool := (AaveScanner.asAddress text).isSome

/-- An address has no hyphen. -/
theorem hyphen_notMem {text : List Char} (isAddress : isAddressText text = true) : '-' ∉ text := by
  have digitsOnly (digits : List Char) {values : List Nat}
      (read : digits.mapM AaveScanner.hexDigit = some values) : '-' ∉ digits := by
    induction digits generalizing values with
    | nil => exact List.not_mem_nil
    | cons digit digits inductionHypothesis =>
      obtain ⟨value, first, rest, later, _⟩ : ∃ value, AaveScanner.hexDigit digit = some value ∧
          ∃ rest, digits.mapM AaveScanner.hexDigit = some rest ∧ value :: rest = values := by
        simpa [Option.bind_eq_some_iff] using read
      intro member
      rcases List.mem_cons.mp member with rfl | further
      · cases first
      · exact inductionHypothesis later further
  unfold isAddressText AaveScanner.asAddress at isAddress
  split at isAddress
  next digits =>
    split at isAddress
    next =>
      rw [Option.isSome_map] at isAddress
      obtain ⟨values, read⟩ := Option.isSome_iff_exists.mp isAddress
      simpa using digitsOnly digits read
    next => cases isAddress
  next => cases isAddress

/-- Adding to a set, which keeps the order of insertion. -/
def addToSet {κ : Type} [DecidableEq κ] (known : List κ) (added : κ) : List κ :=
  if added ∈ known then known else known ++ [added]

/-- A set keeps what is added to it in the order of first additions. -/
theorem foldl_addToSet (texts : List (List Char)) : texts.foldl addToSet [] = Window.firsts texts := rfl

/-! ## `fetchAllBorrowers` -/

namespace AaveScanner

/-- The text that `fetchAllBorrowers` keeps of a row. No letter beyond ASCII has a hex
digit, an x or a hyphen as its lower case, so whether it is an address is decided by
the ASCII ones. -/
def borrowerOf (id : String) : List Char := (extractAddressFromPositionId id).map Char.toLower

/-- The loop of `fetchAllBorrowers`, with the number of requests that it may make. -/
def fetchBorrowers (request : Nat → String → BorrowerPage) (pageSize : Nat) :
    Nat → List (List Char) → String → Option (List (List Char))
  | 0, _, _ => none
  | allowed + 1, borrowers, lastId =>
      let positions := (request pageSize lastId).positions.getD []
      if positions.length = 0 then some borrowers
      else
        let borrowers := positions.foldl (fun known id => addToSet known (borrowerOf id)) borrowers
        if positions.length < pageSize then some borrowers
        else fetchBorrowers request pageSize allowed borrowers (positions.getLast?.getD lastId)

def fetchAllBorrowers (request : Nat → String → BorrowerPage) (pageSize allowed : Nat) :
    Option (List (List Char)) :=
  fetchBorrowers request pageSize allowed [] ZERO_CURSOR_ID

/-- An empty page is a short one. -/
theorem fetchBorrowers_eq_collect {pageSize : Nat} (positive : 0 < pageSize) (rows : BorrowerRows)
    (allowed : Nat) (borrowers : List (List Char)) (lastId : String) :
    fetchBorrowers rows.page pageSize allowed borrowers lastId =
      collect (pageAfter rows.ids pageSize) pageSize (fun known id => addToSet known (borrowerOf id))
        allowed borrowers lastId := by
  induction allowed generalizing borrowers lastId with
  | zero => rfl
  | succ allowed inductionHypothesis =>
    have answered : (rows.page pageSize lastId).positions.getD [] =
        pageAfter rows.ids pageSize lastId := rfl
    simp only [fetchBorrowers, collect]
    rw [answered]
    split
    next empty =>
      rw [List.length_eq_zero_iff.mp empty, List.length_nil, if_pos positive]
      rfl
    next => simp only [inductionHypothesis]

end AaveScanner

/-! ## `createSubgraphBorrowerDiscovery` -/

/-- `SubgraphPage`: the ids of its users or of its accounts. -/
structure SubgraphPage where
  users : Option (List String)
  accounts : Option (List String)

inductive QueryMode where
  | users
  | accounts

/-- The page of a subgraph for a query mode. -/
def BorrowerRows.subgraphPage (rows : BorrowerRows) (queryMode : QueryMode) (first : Nat)
    (lastId : String) : SubgraphPage :=
  match queryMode with
  | .users => ⟨some (pageAfter rows.ids first lastId), none⟩
  | .accounts => ⟨none, some (pageAfter rows.ids first lastId)⟩

def nextSubgraphIdCursor (rows : List String) (currentCursor : String) : String :=
  match rows.getLast? with
  | none => currentCursor
  | some last => last

namespace SubgraphBorrowerDiscovery

def SUBGRAPH_ID_CURSOR_START : String := "0x0000000000000000000000000000000000000000"

def normalized (id : String) : List Char := id.toList.map Char.toLower

/-- What the loop adds for a row. -/
def addRow (borrowers : List (List Char)) (id : String) : List (List Char) :=
  if isAddressText (normalized id) then addToSet borrowers (normalized id) else borrowers

/-- The loop of `listBorrowerAddresses`, with the number of requests that it may make. -/
def listBorrowers (request : Nat → String → SubgraphPage) (pageSize : Nat) :
    Nat → List (List Char) → String → Option (List (List Char))
  | 0, _, _ => none
  | allowed + 1, borrowers, lastId =>
      let page := request pageSize lastId
      let rows := (page.users <|> page.accounts).getD []
      let borrowers := rows.foldl addRow borrowers
      if rows.length < pageSize then some borrowers
      else listBorrowers request pageSize allowed borrowers (nextSubgraphIdCursor rows lastId)

def listBorrowerAddresses (request : Nat → String → SubgraphPage) (pageSize allowed : Nat) :
    Option (List (List Char)) :=
  listBorrowers request pageSize allowed [] SUBGRAPH_ID_CURSOR_START

theorem listBorrowers_eq_collect (queryMode : QueryMode) (rows : BorrowerRows) (pageSize allowed : Nat)
    (borrowers : List (List Char)) (lastId : String) :
    listBorrowers (rows.subgraphPage queryMode) pageSize allowed borrowers lastId =
      collect (pageAfter rows.ids pageSize) pageSize addRow allowed borrowers lastId := by
  induction allowed generalizing borrowers lastId with
  | zero => rfl
  | succ allowed inductionHypothesis =>
    have answered : ((rows.subgraphPage queryMode pageSize lastId).users <|>
        (rows.subgraphPage queryMode pageSize lastId).accounts).getD [] =
          pageAfter rows.ids pageSize lastId := by
      cases queryMode <;> rfl
    have moved (page : List String) : nextSubgraphIdCursor page lastId = page.getLast?.getD lastId := by
      unfold nextSubgraphIdCursor
      cases page.getLast? <;> rfl
    simp only [listBorrowers, collect, answered, moved, inductionHypothesis]

theorem foldl_addRow (ids : List String) (borrowers : List (List Char)) :
    ids.foldl addRow borrowers =
      ((ids.map normalized).filter isAddressText).foldl addToSet borrowers := by
  rw [List.foldl_filter, List.foldl_map]
  rfl

end SubgraphBorrowerDiscovery

/-! ## What the loops return -/

/-- The addresses of the rows, by the part of their ids before the first hyphen. -/
def BorrowerRows.borrowers (rows : BorrowerRows) : List (List Char) :=
  rows.ids.map AaveScanner.borrowerOf

/-- Within the requests that the pages need, the loop returns each of the texts that is an
address once, and nothing else. -/
def Enumerates (loop : Nat → Option (List (List Char))) (texts : List (List Char))
    (requests : Nat) : Prop :=
  ∀ allowed ≥ requests, ∃ borrowers, loop allowed = some borrowers ∧ borrowers.Nodup ∧
    ∀ text, text ∈ borrowers ↔ text ∈ texts ∧ isAddressText text = true

/-- What is behind the first cursor needs a request for each full page and one more. -/
theorem collect_rows (rows : BorrowerRows) {pageSize allowed : Nat} (positive : 0 < pageSize)
    (enough : allowed ≥ rows.ids.length / pageSize + 1) {gather : List (List Char) → String → List (List Char)} :
    collect (pageAfter rows.ids pageSize) pageSize gather allowed [] AaveScanner.ZERO_CURSOR_ID =
      some (rows.ids.foldl gather []) := by
  have all : behind rows.ids AaveScanner.ZERO_CURSOR_ID = rows.ids := by
    apply List.filter_eq_self.mpr
    intro id member
    exact decide_eq_true (rows.behindZero id member)
  rw [collect_pageAfter rows.ordered positive, all]
  rw [all]
  exact enough

section Loops

variable {rows : BorrowerRows} {pageSize : Nat}

/-- `fetchAllBorrowers` returns what the ids begin with, address or not. -/
theorem fetchAllBorrowers_result (positive : 0 < pageSize) {allowed : Nat}
    (enough : allowed ≥ rows.ids.length / pageSize + 1) :
    AaveScanner.fetchAllBorrowers rows.page pageSize allowed =
      some (Window.firsts rows.borrowers) := by
  rw [← foldl_addToSet, AaveScanner.fetchAllBorrowers, AaveScanner.fetchBorrowers_eq_collect positive,
    collect_rows rows positive enough, BorrowerRows.borrowers, List.foldl_map]

/-- `listBorrowerAddresses` returns the ids that are addresses. -/
theorem listBorrowerAddresses_result (positive : 0 < pageSize) (queryMode : QueryMode) {allowed : Nat}
    (enough : allowed ≥ rows.ids.length / pageSize + 1) :
    SubgraphBorrowerDiscovery.listBorrowerAddresses (rows.subgraphPage queryMode) pageSize allowed =
      some (Window.firsts
        ((rows.ids.map SubgraphBorrowerDiscovery.normalized).filter isAddressText)) := by
  rw [← foldl_addToSet, ← SubgraphBorrowerDiscovery.foldl_addRow,
    SubgraphBorrowerDiscovery.listBorrowerAddresses,
    SubgraphBorrowerDiscovery.listBorrowers_eq_collect]
  exact collect_rows rows positive enough

/-- An id that is an address begins with itself. -/
theorem borrowerOf_of_normalized {id : String}
    (isAddress : isAddressText (SubgraphBorrowerDiscovery.normalized id) = true) :
    AaveScanner.borrowerOf id = SubgraphBorrowerDiscovery.normalized id := by
  have whole : AaveScanner.extractAddressFromPositionId id = id.toList := by
    apply List.takeWhile_eq_self_iff.mpr
    intro char member
    apply decide_eq_true
    rintro rfl
    exact hyphen_notMem isAddress (List.mem_map_of_mem member)
  rw [AaveScanner.borrowerOf, whole, SubgraphBorrowerDiscovery.normalized]

/-- The texts of a loop are the addresses among the wanted ones exactly if the loop keeps
addresses only and misses none. -/
theorem enumerates_iff {loop : Nat → Option (List (List Char))} {kept texts : List (List Char)}
    {requests : Nat} (result : ∀ allowed ≥ requests, loop allowed = some (Window.firsts kept)) :
    Enumerates loop texts requests ↔
      ∀ text, text ∈ kept ↔ text ∈ texts ∧ isAddressText text = true := by
  constructor
  · intro enumerates text
    obtain ⟨borrowers, returned, _, exactly⟩ := enumerates requests (le_refl requests)
    rw [result requests (le_refl requests)] at returned
    cases returned
    rw [← Window.mem_firsts, exactly]
  · intro exactly allowed enough
    refine ⟨_, result allowed enough, Window.nodup_firsts kept, ?_⟩
    intro text
    rw [Window.mem_firsts, exactly]

end Loops

/-- Both loops end within the requests that the pages need, whatever the ids are. They return
each address that the ids begin with once and nothing else, `fetchAllBorrowers` exactly if every
position id begins with an address, and `listBorrowerAddresses` exactly if every address that an
id begins with is the id of a row. -/
theorem enumerations_iff (positions entities : BorrowerRows) (queryMode : QueryMode)
    (pageSize : Nat) (positive : 0 < pageSize) :
    (Enumerates (AaveScanner.fetchAllBorrowers positions.page pageSize) positions.borrowers
        (positions.ids.length / pageSize + 1) ∧
      Enumerates (SubgraphBorrowerDiscovery.listBorrowerAddresses (entities.subgraphPage queryMode)
        pageSize) entities.borrowers (entities.ids.length / pageSize + 1)) ↔
      (∀ text ∈ positions.borrowers, isAddressText text = true) ∧
        ∀ text ∈ entities.borrowers, isAddressText text = true →
          text ∈ entities.ids.map SubgraphBorrowerDiscovery.normalized := by
  rw [enumerates_iff (fun _ => fetchAllBorrowers_result positive),
    enumerates_iff (fun _ => listBorrowerAddresses_result positive queryMode)]
  apply and_congr
  · constructor
    · intro exactly text kept
      exact ((exactly text).mp kept).2
    · intro addresses text
      exact ⟨fun kept => ⟨kept, addresses text kept⟩, And.left⟩
  · simp only [List.mem_filter]
    constructor
    · intro exactly text begins isAddress
      exact ((exactly text).mpr ⟨begins, isAddress⟩).1
    · intro bare text
      constructor
      · rintro ⟨kept, isAddress⟩
        obtain ⟨id, member, rfl⟩ := List.mem_map.mp kept
        refine ⟨?_, isAddress⟩
        rw [← borrowerOf_of_normalized isAddress]
        exact List.mem_map_of_mem member
      · rintro ⟨begins, isAddress⟩
        exact ⟨bare text begins isAddress, isAddress⟩

/-- A subgraph with one row. -/
def oneRow (id : String) (behindZero : AaveScanner.ZERO_CURSOR_ID < id) : BorrowerRows where
  ids := [id]
  ordered := List.pairwise_singleton _ _
  behindZero := by simpa using behindZero

def positionRow : BorrowerRows :=
  oneRow "0x8ba1f109551bd432803012645ac136ddd64dba72-0x01" (by decide)

def accountRow : BorrowerRows :=
  oneRow "0x8Ba1F109551bD432803012645Ac136ddd64DBA72" (by decide)

def brokenRow : BorrowerRows := oneRow "0xdead-0x01" (by decide)

/-- A position and an account of the same borrower, a row at a time. -/
theorem enumerations_iff_oneRow :
    Enumerates (AaveScanner.fetchAllBorrowers positionRow.page 1) positionRow.borrowers
        (positionRow.ids.length / 1 + 1) ∧
      Enumerates (SubgraphBorrowerDiscovery.listBorrowerAddresses (accountRow.subgraphPage .accounts)
        1) accountRow.borrowers (accountRow.ids.length / 1 + 1) :=
  (enumerations_iff positionRow accountRow .accounts 1 Nat.one_pos).mpr (by decide +kernel)

/-- A row that begins with no address comes out as a borrower. -/
theorem brokenRow_returned :
    AaveScanner.fetchAllBorrowers brokenRow.page 1000 1 = some ["0xdead".toList] ∧
      ¬ Enumerates (AaveScanner.fetchAllBorrowers brokenRow.page 1000) brokenRow.borrowers
        (brokenRow.ids.length / 1000 + 1) := by
  have returned : AaveScanner.fetchAllBorrowers brokenRow.page 1000 1 = some ["0xdead".toList] := by
    decide +kernel
  refine ⟨returned, ?_⟩
  intro enumerates
  obtain ⟨borrowers, found, _, exactly⟩ := enumerates 1 (by decide)
  rw [returned] at found
  cases found
  have isAddress := ((exactly "0xdead".toList).mp List.mem_cons_self).2
  revert isAddress
  decide

end LiquidationBot
