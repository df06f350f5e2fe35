import Mathlib.Data.List.Basic

/-!
# Relations between the members of a list

Every two members at different places are related. What one place changes to has
to be related to all others; the rest of the list needs no second look.
-/

namespace LiquidationBot

universe u
variable {α : Type u}

/-- Members at different places are related. -/
def Apart (related : α → α → Prop) (values : List α) : Prop :=
  ∀ (index other : Nat) (here there : α), index ≠ other →
    values[index]? = some here → values[other]? = some there → related here there

theorem getElem?_snoc_cases {values : List α} {fresh value : α} {index : Nat}
    (found : (values ++ [fresh])[index]? = some value) :
    values[index]? = some value ∨ index = values.length ∧ value = fresh := by
  rcases Nat.lt_trichotomy index values.length with inside | rfl | outside
  · exact Or.inl ((List.getElem?_append_left inside).symm.trans found)
  · rw [List.getElem?_concat_length] at found
    exact Or.inr ⟨rfl, (Option.some.inj found).symm⟩
  · rw [List.getElem?_eq_none (by simp; omega)] at found
    cases found

theorem getElem?_set_cases {values : List α} {fresh value : α} {index place : Nat}
    (found : (values.set place fresh)[index]? = some value) :
    index = place ∧ value = fresh ∨ index ≠ place ∧ values[index]? = some value := by
  by_cases same : place = index
  · subst same
    rw [List.getElem?_set_self'] at found
    obtain ⟨_, _, rfl⟩ := Option.map_eq_some_iff.mp found
    exact Or.inl ⟨rfl, rfl⟩
  · rw [List.getElem?_set_ne same] at found
    exact Or.inr ⟨Ne.symm same, found⟩

namespace Apart

variable {related : α → α → Prop} {values : List α}

theorem nil : Apart related ([] : List α) := by
  intro index other here there _ found
  cases found

/-- A new member related to all others. -/
theorem snoc (apart : Apart related values) {fresh : α}
    (all : ∀ (index : Nat) value, values[index]? = some value →
      related fresh value ∧ related value fresh) :
    Apart related (values ++ [fresh]) := by
  intro index other here there different foundHere foundThere
  rcases getElem?_snoc_cases foundHere with earlier | ⟨last, rfl⟩
  · rcases getElem?_snoc_cases foundThere with earlierOther | ⟨_, rfl⟩
    · exact apart index other here there different earlier earlierOther
    · exact (all index here earlier).2
  · rcases getElem?_snoc_cases foundThere with earlierOther | ⟨alsoLast, rfl⟩
    · exact (all other there earlierOther).1
    · omega

/-- A changed member related to all others. -/
theorem set (apart : Apart related values) {place : Nat} {fresh : α}
    (all : ∀ (index : Nat) value, index ≠ place → values[index]? = some value →
      related fresh value ∧ related value fresh) :
    Apart related (values.set place fresh) := by
  intro index other here there different foundHere foundThere
  rcases getElem?_set_cases foundHere with ⟨rfl, rfl⟩ | ⟨elsewhere, earlier⟩
  · rcases getElem?_set_cases foundThere with ⟨rfl, _⟩ | ⟨elsewhere, earlier⟩
    · exact absurd rfl different
    · exact (all other there elsewhere earlier).1
  · rcases getElem?_set_cases foundThere with ⟨rfl, rfl⟩ | ⟨_, earlierOther⟩
    · exact (all index here elsewhere earlier).2
    · exact apart index other here there different earlier earlierOther

end Apart

end LiquidationBot
