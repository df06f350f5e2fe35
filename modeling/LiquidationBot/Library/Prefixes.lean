import Mathlib.Data.List.Infix
import Mathlib.Tactic.Common

/-!
# Properties of every prefix of a run

A run is a finite list of events, oldest first. A property that starts out true
and whose survival of one more event has an exact condition holds at every
prefix exactly when every event of the run meets its condition. The condition
may look at the whole past, which is how a state before the event enters.
-/

namespace LiquidationBot.Prefixes

universe u
variable {ε : Type u}

/-- The property after every initial part of the run, the whole run included. -/
def Always (good : List ε → Prop) (run : List ε) : Prop := ∀ past, past <+: run → good past

/-- Each event of the run, judged together with the events before it. -/
def EachStep (safe : List ε → ε → Prop) (run : List ε) : Prop :=
  ∀ past event, past ++ [event] <+: run → safe past event

theorem always_congr {good other : List ε → Prop} {run : List ε}
    (same : ∀ past, past <+: run → (good past ↔ other past)) :
    Always good run ↔ Always other run :=
  forall₂_congr same

theorem eachStep_congr {safe other : List ε → ε → Prop} {run : List ε}
    (same : ∀ past event, past ++ [event] <+: run → (safe past event ↔ other past event)) :
    EachStep safe run ↔ EachStep other run :=
  forall₃_congr same

theorem always_snoc (good : List ε → Prop) (run : List ε) (event : ε) :
    Always good (run ++ [event]) ↔ Always good run ∧ good (run ++ [event]) := by
  constructor
  · intro holds
    refine ⟨fun past initial => ?_, holds _ List.prefix_rfl⟩
    exact holds past (initial.trans (List.prefix_append run [event]))
  · rintro ⟨earlier, last⟩ past initial
    rcases List.prefix_concat_iff.mp initial with rfl | shorter
    · exact last
    · exact earlier past shorter

theorem eachStep_snoc (safe : List ε → ε → Prop) (run : List ε) (event : ε) :
    EachStep safe (run ++ [event]) ↔ EachStep safe run ∧ safe run event := by
  constructor
  · intro holds
    refine ⟨fun past earlier initial => ?_, holds run event List.prefix_rfl⟩
    exact holds past earlier (initial.trans (List.prefix_append run [event]))
  · rintro ⟨earlier, last⟩ past tested initial
    rcases List.prefix_concat_iff.mp initial with same | shorter
    · obtain ⟨rfl, sameEvent⟩ := List.append_inj' same rfl
      cases sameEvent
      exact last
    · exact earlier past tested shorter

/-- The property survives the whole run exactly when each event meets the exact
condition of its own step. Induct on the run's last event; the earlier events
are covered on both sides, so only the last step's equivalence is needed. -/
theorem always_iff_eachStep {good : List ε → Prop} {safe : List ε → ε → Prop}
    (initially : good []) (run : List ε)
    (exact : ∀ past event, past ++ [event] <+: run → good past →
      (good (past ++ [event]) ↔ safe past event)) :
    Always good run ↔ EachStep safe run := by
  induction run using List.reverseRecOn with
  | nil =>
    constructor
    · intro _ past event initial
      simp at initial
    · intro _ past initial
      rw [List.prefix_nil.mp initial]
      exact initially
  | append_singleton run event inductionHypothesis =>
    have earlierExact : ∀ past tested, past ++ [tested] <+: run → good past →
        (good (past ++ [tested]) ↔ safe past tested) := fun past tested initial =>
      exact past tested (initial.trans (List.prefix_append run [event]))
    rw [always_snoc, eachStep_snoc, ← inductionHypothesis earlierExact]
    refine and_congr_right (fun earlier => ?_)
    exact exact run event List.prefix_rfl (earlier run List.prefix_rfl)

/-- An invariant that each event keeps under its condition holds after the run. -/
theorem EachStep.invariant {kept : List ε → Prop} {safe : List ε → ε → Prop} {run : List ε}
    (each : EachStep safe run) (initially : kept [])
    (step : ∀ past event, kept past → safe past event → kept (past ++ [event])) : kept run := by
  induction run using List.reverseRecOn with
  | nil => exact initially
  | append_singleton past event inductionHypothesis =>
    obtain ⟨earlier, last⟩ := (eachStep_snoc safe past event).mp each
    exact step past event (inductionHypothesis earlier) last

/-- The exact condition of a property whose proof carries more than the property: an
event that meets its condition keeps the invariant, and one that does not breaks the
property itself. -/
theorem always_iff_eachStep_of_invariant {kept good : List ε → Prop}
    {safe : List ε → ε → Prop} (initially : kept []) (good_of_kept : ∀ past, kept past → good past)
    (step : ∀ past event, kept past → safe past event → kept (past ++ [event]))
    (broken : ∀ past event, kept past → ¬ safe past event → ¬ good (past ++ [event]))
    (run : List ε) : Always good run ↔ EachStep safe run := by
  induction run using List.reverseRecOn with
  | nil =>
    constructor
    · intro _ past event initial
      simp at initial
    · intro _ past initial
      rw [List.prefix_nil.mp initial]
      exact good_of_kept [] initially
  | append_singleton run event inductionHypothesis =>
    rw [always_snoc, eachStep_snoc, inductionHypothesis]
    refine and_congr_right (fun each => ?_)
    have here : kept run := each.invariant initially step
    constructor
    · exact fun survives => not_not.mp (fun unsafely => broken run event here unsafely survives)
    · exact fun safely => good_of_kept _ (step run event here safely)

/-- At every prefix a run leads where its selected events alone lead exactly
when each event that is not selected leaves the state it meets unchanged. -/
theorem always_selected_iff {σ : Type*} (step : σ → ε → σ) (start : σ) (selected : ε → Bool)
    (run : List ε) :
    Always (fun past => past.foldl step start = (past.filter selected).foldl step start) run ↔
      EachStep (fun past event => selected event = true ∨
        step (past.foldl step start) event = past.foldl step start) run := by
  apply always_iff_eachStep
  · rfl
  · intro past event _ same
    rw [List.foldl_append, List.filter_append, List.foldl_append, ← same]
    cases here : selected event with
    | true => simp [here]
    | false => simp [here]

section Joined

variable {safe : List ε → ε → Prop}

/-- Where a longer past does no harm, runs that keep a condition keep it one after the other. -/
theorem EachStep.append (longer : ∀ front past event, safe past event → safe (front ++ past) event)
    {earlier later : List ε} (first : EachStep safe earlier) (second : EachStep safe later) :
    EachStep safe (earlier ++ later) := by
  induction later using List.reverseRecOn with
  | nil => rwa [List.append_nil]
  | append_singleton past event inductionHypothesis =>
    obtain ⟨before, last⟩ := (eachStep_snoc safe past event).mp second
    rw [← List.append_assoc, eachStep_snoc]
    exact ⟨inductionHypothesis before, longer earlier past event last⟩

theorem EachStep.flatten (longer : ∀ front past event, safe past event → safe (front ++ past) event)
    {runs : List (List ε)} (each : ∀ run ∈ runs, EachStep safe run) :
    EachStep safe runs.flatten := by
  induction runs with
  | nil =>
    intro past event initial
    simp at initial
  | cons run rest inductionHypothesis =>
    exact (each run List.mem_cons_self).append longer
      (inductionHypothesis (fun other member => each other (List.mem_cons_of_mem run member)))

end Joined

section Partial

variable {σ : Type*} {step : σ → ε → Option σ} {start : σ}

/-- The states along a run of events that may not be possible: an invariant that each event
keeps where it meets its condition holds of all of them. -/
theorem EachStep.keeps {Inv : σ → Prop} {safe : σ → ε → Prop} {run : List ε}
    (each : EachStep (fun past event => ∀ state ∈ past.foldlM step start, safe state event) run)
    (initially : Inv start)
    (kept : ∀ state event after, Inv state → safe state event → step state event = some after →
      Inv after) :
    Always (fun past => ∀ state ∈ past.foldlM step start, Inv state) run := by
  intro past
  induction past using List.reverseRecOn with
  | nil =>
    intro _ state here
    cases here
    exact initially
  | append_singleton past event inductionHypothesis =>
    intro reached state here
    simp only [Option.mem_def, List.foldlM_append, List.foldlM_cons, List.foldlM_nil,
      bind_pure] at here
    obtain ⟨before, there, possible⟩ := Option.bind_eq_some_iff.mp here
    exact kept before event state
      (inductionHypothesis ((List.prefix_append past [event]).trans reached) before there)
      (each past event reached before there) possible

end Partial

end LiquidationBot.Prefixes
