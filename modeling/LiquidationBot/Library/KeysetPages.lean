import Mathlib.Data.List.Infix
import Mathlib.Order.Defs.LinearOrder
import Mathlib.Tactic.Common
import Mathlib.Tactic.Ring

/-!
# Rotating through the pages of an ordered list

A reader keeps a cursor and asks for the rows behind it, a page at a time. A page
that is short sends the cursor back to the origin, and a full one moves it to its
last row. Behind the origin lie all rows. A rotation has one page more than the
full ones, which is empty if the full ones are all; so as many turns as that read
every row, wherever they begin. A reader that stops at a short page instead has read
all rows behind its cursor in as many turns.
-/

namespace LiquidationBot.KeysetPages

universe u v
variable {κ : Type u}

def nextCursor (origin : κ) (size : Nat) (page : List κ) : κ :=
  if page.length < size then origin else page.getLast?.getD origin

/-- The rows of a page, by its number. -/
def page (rows : List κ) (size number : Nat) : List κ := (rows.drop (number * size)).take size

/-- The cursor before a page. -/
def cursorAt (origin : κ) (rows : List κ) (size number : Nat) : κ :=
  if number = 0 then origin else (rows[number * size - 1]?).getD origin

variable {origin : κ} {rows : List κ} {size number : Nat}

theorem length_page : (page rows size number).length = min size (rows.length - number * size) := by
  rw [page, List.length_take, List.length_drop]

/-- A page moves the cursor on to the next one, and the last page to the first. -/
theorem nextCursor_page (positive : 0 < size) (inside : number ≤ rows.length / size) :
    nextCursor origin size (page rows size number) =
      cursorAt origin rows size ((number + 1) % (rows.length / size + 1)) := by
  have start := (Nat.le_div_iff_mul_le positive).mp inside
  have following : number + 1 ≤ rows.length / size ↔ (number + 1) * size ≤ rows.length :=
    Nat.le_div_iff_mul_le positive
  have product : (number + 1) * size = number * size + size := by ring
  unfold nextCursor
  rw [length_page]
  split
  next short =>
    have last : number = rows.length / size := by
      have notInside : ¬ number + 1 ≤ rows.length / size := by
        rw [following]
        omega
      omega
    rw [last, Nat.mod_self]
    rfl
  next full =>
    have more : number + 1 ≤ rows.length / size := by
      rw [following]
      omega
    rw [Nat.mod_eq_of_lt (by omega), cursorAt, if_neg (Nat.succ_ne_zero number),
      List.getLast?_eq_getElem?, length_page, page, List.getElem?_take, if_pos (by omega),
      List.getElem?_drop]
    congr 2
    omega

/-- Every row is on a page of the rotation. -/
theorem exists_page (positive : 0 < size) {row : κ} (member : row ∈ rows) :
    ∃ number ≤ rows.length / size, row ∈ page rows size number := by
  obtain ⟨index, inside, rfl⟩ := List.mem_iff_getElem.mp member
  refine ⟨index / size, Nat.div_le_div_right inside.le, ?_⟩
  rw [List.mem_iff_getElem?]
  refine ⟨index % size, ?_⟩
  rw [page, List.getElem?_take, if_pos (Nat.mod_lt index positive), List.getElem?_drop,
    Nat.div_add_mod' index size]
  exact List.getElem?_eq_getElem inside

/-- A full rotation meets every page. -/
theorem exists_turn {last start target : Nat} (before : start ≤ last) (inside : target ≤ last) :
    ∃ turn ≤ last, (start + turn) % (last + 1) = target := by
  rcases Nat.le_total start target with ahead | behind
  · refine ⟨target - start, by omega, ?_⟩
    rw [Nat.add_sub_cancel' ahead, Nat.mod_eq_of_lt (Nat.lt_succ_of_le inside)]
  · rcases Nat.eq_or_lt_of_le behind with rfl | wrapped
    · exact ⟨0, Nat.zero_le last, Nat.mod_eq_of_lt (Nat.lt_succ_of_le inside)⟩
    · refine ⟨target + (last + 1) - start, by omega, ?_⟩
      rw [Nat.add_sub_cancel' (by omega), Nat.add_mod_right,
        Nat.mod_eq_of_lt (Nat.lt_succ_of_le inside)]

section Order

variable [LinearOrder κ]

/-- The first rows behind the cursor. -/
def pageAfter (rows : List κ) (size : Nat) (cursor : κ) : List κ :=
  (rows.filter (fun row => decide (cursor < row))).take size

/-- Behind a row of an ordered list lie those that come after it. -/
theorem filter_lt_getElem (ordered : rows.Pairwise (· < ·)) {index : Nat} {row : κ}
    (found : rows[index]? = some row) :
    rows.filter (fun tested => decide (row < tested)) = rows.drop (index + 1) := by
  induction rows generalizing index with
  | nil => cases found
  | cons first rest inductionHypothesis =>
    obtain ⟨least, later⟩ := List.pairwise_cons.mp ordered
    cases index with
    | zero =>
      cases found
      rw [List.filter_cons_of_neg (by simp), List.drop_one, List.tail_cons]
      apply List.filter_eq_self.mpr
      intro tested member
      exact decide_eq_true (least tested member)
    | succ index =>
      rw [List.getElem?_cons_succ] at found
      have before := least row (List.mem_of_getElem? found)
      rw [List.filter_cons_of_neg (by simp [before.le]), List.drop_succ_cons]
      exact inductionHypothesis later found

/-- What is read from the cursor before a page is the page. -/
theorem pageAfter_cursorAt (ordered : rows.Pairwise (· < ·))
    (behind : ∀ row ∈ rows, origin < row) (positive : 0 < size)
    (inside : number * size ≤ rows.length) :
    pageAfter rows size (cursorAt origin rows size number) = page rows size number := by
  unfold pageAfter cursorAt page
  split
  next first =>
    have all : rows.filter (fun row => decide (origin < row)) = rows := by
      apply List.filter_eq_self.mpr
      intro row member
      exact decide_eq_true (behind row member)
    rw [all, first, Nat.zero_mul, List.drop_zero]
  next later =>
    have least : 1 ≤ number * size := Nat.mul_pos (Nat.pos_of_ne_zero later) positive
    have bound : number * size - 1 < rows.length := by omega
    have found : rows[number * size - 1]? = some rows[number * size - 1] :=
      List.getElem?_eq_getElem bound
    rw [found, Option.getD_some, filter_lt_getElem ordered found, Nat.sub_add_cancel least]

/-! ### Reading to the end -/

/-- The rows behind the cursor. -/
def behind (rows : List κ) (cursor : κ) : List κ := rows.filter (fun row => decide (cursor < row))

/-- A page that is not empty leaves what lies behind its last row. -/
theorem behind_eq_append (ordered : rows.Pairwise (· < ·)) {cursor next : κ}
    (last : (pageAfter rows size cursor).getLast? = some next) :
    behind rows cursor = pageAfter rows size cursor ++ behind rows next := by
  obtain ⟨remaining, known⟩ : ∃ remaining, remaining = behind rows cursor := ⟨_, rfl⟩
  have page : pageAfter rows size cursor = remaining.take size := by rw [known]; rfl
  have found : remaining[(remaining.take size).length - 1]? = some next := by
    rw [page, List.getLast?_eq_getElem?, List.getElem?_take] at last
    exact (Option.ite_none_right_eq_some.mp last).2
  have later : cursor < next := by
    have member := List.mem_of_getElem? found
    rw [known] at member
    exact of_decide_eq_true (List.mem_filter.mp member).2
  have rest : behind rows next = remaining.filter (fun row => decide (next < row)) := by
    rw [known, behind, behind, List.filter_filter]
    apply List.filter_congr
    intro row _
    by_cases further : next < row
    · simp [further, later.trans further]
    · simp [further]
  have nonempty : 0 < (remaining.take size).length := by
    rw [page] at last
    exact List.length_pos_of_mem (List.mem_of_getLast? last)
  have order : remaining.Pairwise (· < ·) := by
    rw [known]
    exact ordered.filter _
  rw [page, rest, filter_lt_getElem order found, ← known, Nat.sub_add_cancel nonempty]
  by_cases whole : remaining.length ≤ size
  · simp [List.take_of_length_le whole]
  · rw [List.length_take_of_le (by omega), List.take_append_drop]

end Order

/-- A reader that gathers the rows of the pages behind a cursor until a page is short. It
has no result if it needs more requests than are allowed. -/
def collect {σ : Type v} (request : κ → List κ) (size : Nat) (gather : σ → κ → σ) :
    Nat → σ → κ → Option σ
  | 0, _, _ => none
  | allowed + 1, gathered, cursor =>
      let page := request cursor
      let gathered := page.foldl gather gathered
      if page.length < size then some gathered
      else collect request size gather allowed gathered (page.getLast?.getD cursor)

/-- A reader that may ask for all pages and one more gathers all rows behind its cursor.
Induct on the pages that may be asked for. -/
theorem collect_pageAfter [LinearOrder κ] {σ : Type v} {gather : σ → κ → σ}
    (ordered : rows.Pairwise (· < ·)) (positive : 0 < size) (allowed : Nat) (gathered : σ)
    (cursor : κ) (enough : (behind rows cursor).length / size < allowed) :
    collect (pageAfter rows size) size gather allowed gathered cursor =
      some ((behind rows cursor).foldl gather gathered) := by
  induction allowed generalizing gathered cursor with
  | zero => exact absurd enough (Nat.not_lt_zero _)
  | succ allowed inductionHypothesis =>
    have length : (pageAfter rows size cursor).length = min size (behind rows cursor).length :=
      List.length_take
    rw [collect]
    split
    next short =>
      have whole : pageAfter rows size cursor = behind rows cursor := by
        apply List.take_of_length_le
        change (behind rows cursor).length ≤ size
        omega
      rw [whole]
    next long =>
      have full : (pageAfter rows size cursor).length = size := by omega
      obtain ⟨next, last⟩ : ∃ next, (pageAfter rows size cursor).getLast? = some next := by
        rw [← Option.ne_none_iff_exists']
        intro none
        rw [List.getLast?_eq_none_iff.mp none] at full
        exact positive.ne full
      have split := behind_eq_append ordered last
      rw [last, Option.getD_some, inductionHypothesis, split, List.foldl_append]
      rw [split, List.length_append, full, Nat.add_div_left _ positive] at enough
      omega

end LiquidationBot.KeysetPages
