import LiquidationBot.Library.InsertionMap

/-!
# Memo tables with a coarse key

A memo table answers a call from the entry stored under the call's key, and
computes and stores the value when there is none. The key may forget part of the
call. Then the table agrees with the computation on a sequence of calls exactly
when no two calls of the sequence share a key without sharing their value.
-/

namespace LiquidationBot.Memo

universe u v w
variable {α : Type u} {κ : Type v} {ν : Type w} [DecidableEq κ]

/-- The value a call gets from a table, and the table after it. -/
def call (keyOf : α → κ) (compute : α → ν) (table : InsertionMap κ ν) (argument : α) :
    ν × InsertionMap κ ν :=
  match table.get? (keyOf argument) with
  | some value => (value, table)
  | none => (compute argument, table.set (keyOf argument) (compute argument))

/-- The values of calls made one after another. -/
def calls (keyOf : α → κ) (compute : α → ν) : InsertionMap κ ν → List α → List ν
  | _, [] => []
  | table, argument :: rest =>
      (call keyOf compute table argument).1 ::
        calls keyOf compute (call keyOf compute table argument).2 rest

variable {keyOf : α → κ} {compute : α → ν}

/-- An entry the argument would not be served wrongly by. -/
def Agrees (keyOf : α → κ) (compute : α → ν) (table : InsertionMap κ ν) (argument : α) : Prop :=
  ∀ value, table.get? (keyOf argument) = some value → value = compute argument

theorem call_eq_iff (table : InsertionMap κ ν) (argument : α) :
    (call keyOf compute table argument).1 = compute argument ↔
      Agrees keyOf compute table argument := by
  unfold call Agrees
  split
  next value found => simp [found]
  next absent => simp [absent]

/-- After a call that was served rightly, another agrees with the table exactly
when it did before and does not share the call's key at another value. -/
theorem agrees_call {table : InsertionMap κ ν} {argument : α}
    (right : (call keyOf compute table argument).1 = compute argument) (other : α) :
    Agrees keyOf compute (call keyOf compute table argument).2 other ↔
      Agrees keyOf compute table other ∧
        (keyOf argument = keyOf other → compute argument = compute other) := by
  have agrees := (call_eq_iff table argument).mp right
  unfold call
  split
  next value found =>
    refine (and_iff_left_of_imp (fun holds same => ?_)).symm
    rw [← holds value (same ▸ found), agrees value found]
  next absent =>
    unfold Agrees
    dsimp only
    rw [InsertionMap.get?_set]
    by_cases same : keyOf other = keyOf argument
    · simp [same, absent]
    · simp [same, Ne.symm same]

/-- A sequence of calls is served rightly exactly when no entry it starts with
and no earlier call of the sequence stores another value under a call's key. -/
theorem calls_eq_map_iff (table : InsertionMap κ ν) (arguments : List α) :
    calls keyOf compute table arguments = arguments.map compute ↔
      (∀ argument ∈ arguments, Agrees keyOf compute table argument) ∧
        arguments.Pairwise (fun earlier later =>
          keyOf earlier = keyOf later → compute earlier = compute later) := by
  induction arguments generalizing table with
  | nil => simp [calls]
  | cons argument rest inductionHypothesis =>
    rw [calls, List.map_cons, List.cons.injEq, List.forall_mem_cons, List.pairwise_cons,
      inductionHypothesis, ← call_eq_iff]
    constructor
    · rintro ⟨right, agree, apart⟩
      have each := fun other member => (agrees_call right other).mp (agree other member)
      exact ⟨⟨right, fun other member => (each other member).1⟩,
        fun other member => (each other member).2, apart⟩
    · rintro ⟨⟨right, agree⟩, first, apart⟩
      exact ⟨right, fun other member => (agrees_call right other).mpr
        ⟨agree other member, first other member⟩, apart⟩

end LiquidationBot.Memo
