import EventCollector.Lib.Machine

/-!
Getting to the end of a run. A measure that every counted step lowers bounds the number
of counted steps of any run; a measure that can always be lowered until the goal is met
leads to the goal.
-/

namespace Machine

variable {State Label : Type} {machine : Machine State Label}

/-- `cost` is what a step takes off the measure, `income` what it may add. -/
theorem total_le_of_pays (invariant : State → Prop) (measure : State → Nat)
    (cost income : State → Label → Nat)
    (preserved : ∀ state label next, invariant state → machine.step state label = some next →
      invariant next)
    (pays : ∀ state label next, invariant state → machine.step state label = some next →
      measure next + cost state label ≤ measure state + income state label)
    {labels : List Label} {state final : State} (holds : invariant state)
    (reached : machine.run state labels = some final) :
    measure final + machine.total cost state labels ≤
      measure state + machine.total income state labels := by
  induction labels generalizing state with
  | nil =>
      obtain rfl := Option.some.inj reached
      exact Nat.le_refl _
  | cons label rest ih =>
      obtain ⟨next, stepped, tail⟩ := run_cons_some.mp reached
      have paid := pays state label next holds stepped
      have later := ih (preserved state label next holds stepped) tail
      simp only [total, stepped]
      omega

/-- `allowed` is what the steps on the way may be. -/
theorem reaches_of_progress (invariant goal : State → Prop) (allowed : Label → Prop)
    (measure : State → Nat)
    (progress : ∀ state, invariant state → ¬ goal state → ∃ labels next,
      (∀ label ∈ labels, allowed label) ∧ machine.run state labels = some next ∧
      invariant next ∧ measure next < measure state)
    {state : State} (holds : invariant state) :
    ∃ labels final, (∀ label ∈ labels, allowed label) ∧
      machine.run state labels = some final ∧ invariant final ∧ goal final := by
  induction bound : measure state using Nat.strongRecOn generalizing state with
  | ind size ih =>
      by_cases met : goal state
      · exact ⟨[], state, by simp, rfl, holds, met⟩
      · obtain ⟨first, middle, early, ran, inside, lower⟩ := progress state holds met
        obtain ⟨rest, final, late, reached, kept, met'⟩ :=
          ih (measure middle) (bound ▸ lower) inside rfl
        refine ⟨first ++ rest, final, ?_, by rw [run_append ran, reached], kept, met'⟩
        intro label member
        rcases List.mem_append.mp member with before | after
        · exact early label before
        · exact late label after

end Machine
