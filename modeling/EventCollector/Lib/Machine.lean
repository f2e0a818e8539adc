import Mathlib.Logic.Basic
import Mathlib.Tactic.Basic

/-!
Labelled transition systems with an executable step. A label carries everything
the environment decides (which thread moves, what an outside service answers),
so one list of labels is one interleaving and quantifying over lists of labels
quantifies over all of them.
-/

structure Machine (State Label : Type) where
  initial : State
  step : State → Label → Option State

namespace Machine

variable {State Label : Type}

def run (machine : Machine State Label) : State → List Label → Option State
  | state, [] => some state
  | state, label :: rest => (machine.step state label).bind fun next => run machine next rest

def Reachable (machine : Machine State Label) (state : State) : Prop :=
  ∃ labels, machine.run machine.initial labels = some state

theorem run_cons_some {machine : Machine State Label} {state final : State} {label : Label}
    {rest : List Label} :
    machine.run state (label :: rest) = some final ↔
      ∃ next, machine.step state label = some next ∧ machine.run next rest = some final := by
  simp only [run, Option.bind_eq_some_iff]

theorem run_append {machine : Machine State Label} {state middle : State}
    {first second : List Label} (reached : machine.run state first = some middle) :
    machine.run state (first ++ second) = machine.run middle second := by
  induction first generalizing state with
  | nil =>
      simp only [run, Option.some.injEq] at reached
      rw [List.nil_append, reached]
  | cons label rest ih =>
      obtain ⟨next, stepped, tail⟩ := run_cons_some.mp reached
      simp only [List.cons_append, run, stepped, Option.bind_some]
      exact ih tail

theorem Reachable.start (machine : Machine State Label) : machine.Reachable machine.initial :=
  ⟨[], rfl⟩

theorem Reachable.run {machine : Machine State Label} {state final : State} {labels : List Label}
    (reachable : machine.Reachable state) (reached : machine.run state labels = some final) :
    machine.Reachable final := by
  obtain ⟨first, start⟩ := reachable
  exact ⟨first ++ labels, by rw [run_append start, reached]⟩

theorem Reachable.step {machine : Machine State Label} {state next : State} {label : Label}
    (reachable : machine.Reachable state) (stepped : machine.step state label = some next) :
    machine.Reachable next :=
  reachable.run (show machine.run state [label] = some next by simp [Machine.run, stepped])

/-! Invariants: what one step preserves holds after any run. -/

theorem run_invariant {machine : Machine State Label} (invariant : State → Prop)
    (preserved : ∀ state label next, invariant state →
      machine.step state label = some next → invariant next)
    {labels : List Label} {state final : State} (holds : invariant state)
    (reached : machine.run state labels = some final) : invariant final := by
  induction labels generalizing state with
  | nil =>
      simp only [run, Option.some.injEq] at reached
      exact reached ▸ holds
  | cons label rest ih =>
      obtain ⟨next, stepped, tail⟩ := run_cons_some.mp reached
      exact ih (preserved state label next holds stepped) tail

theorem reachable_invariant {machine : Machine State Label} (invariant : State → Prop)
    (initially : invariant machine.initial)
    (preserved : ∀ state label next, invariant state →
      machine.step state label = some next → invariant next)
    {state : State} (reachable : machine.Reachable state) : invariant state := by
  obtain ⟨labels, reached⟩ := reachable
  exact run_invariant invariant preserved initially reached

/-! Conditions on a run: `Always` speaks of every state it visits, `Steps` of
every step it takes, the state before the step included. -/

def Always (machine : Machine State Label) (property : State → Prop) :
    State → List Label → Prop
  | state, [] => property state
  | state, label :: rest => property state ∧
      ∀ next, machine.step state label = some next → Always machine property next rest

def Steps (machine : Machine State Label) (guard : State → Label → Prop) :
    State → List Label → Prop
  | _, [] => True
  | state, label :: rest =>
      ∀ next, machine.step state label = some next →
        guard state label ∧ Steps machine guard next rest

/-! Both are decided by running the machine. -/

def decidableNext (option : Option State) (property : State → Prop)
    (decidable : ∀ next, Decidable (property next)) :
    Decidable (∀ next, option = some next → property next) :=
  match option with
  | none => isTrue fun _ impossible => nomatch impossible
  | some state => decidable_of_iff (property state)
      ⟨fun holds _ same => Option.some.inj same ▸ holds, fun all => all state rfl⟩

instance Always.decidable (machine : Machine State Label) (property : State → Prop)
    [DecidablePred property] :
    ∀ state labels, Decidable (machine.Always property state labels)
  | state, [] => inferInstanceAs (Decidable (property state))
  | state, label :: rest =>
      haveI := decidableNext (machine.step state label) _ fun next =>
        Always.decidable machine property next rest
      inferInstanceAs (Decidable (property state ∧
        ∀ next, machine.step state label = some next → Always machine property next rest))

instance Steps.decidable (machine : Machine State Label) (guard : State → Label → Prop)
    [∀ state label, Decidable (guard state label)] :
    ∀ state labels, Decidable (machine.Steps guard state labels)
  | _, [] => isTrue trivial
  | state, label :: rest =>
      decidableNext (machine.step state label) _ fun next =>
        haveI := Steps.decidable machine guard next rest
        inferInstanceAs (Decidable (guard state label ∧ Steps machine guard next rest))

theorem always_of_steps {machine : Machine State Label} {property : State → Prop}
    {guard : State → Label → Prop} (invariant : State → Prop)
    (implied : ∀ state, invariant state → property state)
    (preserved : ∀ state label next, invariant state → guard state label →
      machine.step state label = some next → invariant next)
    {labels : List Label} {state : State} (holds : invariant state)
    (guarded : machine.Steps guard state labels) : machine.Always property state labels := by
  induction labels generalizing state with
  | nil => exact implied state holds
  | cons label rest ih =>
      refine ⟨implied state holds, ?_⟩
      intro next stepped
      obtain ⟨allowed, later⟩ := guarded next stepped
      exact ih (preserved state label next holds allowed stepped) later

theorem always_final {machine : Machine State Label} {property : State → Prop}
    {labels : List Label} {state final : State} (always : machine.Always property state labels)
    (reached : machine.run state labels = some final) : property final := by
  induction labels generalizing state with
  | nil =>
      simp only [run, Option.some.injEq] at reached
      exact reached ▸ always
  | cons label rest ih =>
      obtain ⟨next, stepped, tail⟩ := run_cons_some.mp reached
      exact ih (always.2 next stepped) tail

theorem steps_unguarded (machine : Machine State Label) (state : State) (labels : List Label) :
    machine.Steps (fun _ _ => True) state labels := by
  induction labels generalizing state with
  | nil => trivial
  | cons label rest ih => exact fun next _ => ⟨trivial, ih next⟩

theorem always_of_invariant {machine : Machine State Label} {property : State → Prop}
    (invariant : State → Prop) (implied : ∀ state, invariant state → property state)
    (preserved : ∀ state label next, invariant state →
      machine.step state label = some next → invariant next)
    {labels : List Label} {state : State} (holds : invariant state) :
    machine.Always property state labels :=
  always_of_steps invariant implied
    (fun state label next holds _ stepped => preserved state label next holds stepped) holds
    (steps_unguarded machine state labels)

/-- The two conditions agree when guarded steps keep an invariant that gives the
property, and every other step from the invariant loses the property at once. -/
theorem always_iff_steps {machine : Machine State Label} {property : State → Prop}
    {guard : State → Label → Prop} (invariant : State → Prop)
    (implied : ∀ state, invariant state → property state)
    (preserved : ∀ state label next, invariant state → guard state label →
      machine.step state label = some next → invariant next)
    (broken : ∀ state label next, invariant state → ¬ guard state label →
      machine.step state label = some next → ¬ property next)
    {labels : List Label} {state : State} (holds : invariant state) :
    machine.Always property state labels ↔ machine.Steps guard state labels := by
  constructor
  · intro always
    induction labels generalizing state with
    | nil => trivial
    | cons label rest ih =>
        intro next stepped
        have later := always.2 next stepped
        have now : property next := by
          cases rest with
          | nil => exact later
          | cons _ _ => exact later.1
        have allowed : guard state label :=
          Classical.not_not.mp fun refused => broken state label next holds refused stepped now
        exact ⟨allowed, ih (preserved state label next holds allowed stepped) later⟩
  · exact always_of_steps invariant implied preserved holds

/-! What the steps of a run add up to. -/

def total (machine : Machine State Label) (weight : State → Label → Nat) :
    State → List Label → Nat
  | _, [] => 0
  | state, label :: rest =>
      match machine.step state label with
      | none => 0
      | some next => weight state label + total machine weight next rest

theorem run_total {machine : Machine State Label} (weight : State → Label → Nat)
    (relation : State → Nat → Prop)
    (preserved : ∀ state label next amount, relation state amount →
      machine.step state label = some next → relation next (amount + weight state label))
    {labels : List Label} {state final : State} {amount : Nat} (holds : relation state amount)
    (reached : machine.run state labels = some final) :
    relation final (amount + machine.total weight state labels) := by
  induction labels generalizing state amount with
  | nil =>
      simp only [run, Option.some.injEq] at reached
      exact reached ▸ holds
  | cons label rest ih =>
      obtain ⟨next, stepped, tail⟩ := run_cons_some.mp reached
      simp only [total, stepped, ← Nat.add_assoc]
      exact ih (preserved state label next amount holds stepped) tail

/-! What the steps of a run record, in order. -/

def log {Item : Type} (machine : Machine State Label) (record : State → Label → List Item) :
    State → List Label → List Item
  | _, [] => []
  | state, label :: rest =>
      match machine.step state label with
      | none => []
      | some next => record state label ++ log machine record next rest

theorem run_log_guarded {Item : Type} {machine : Machine State Label}
    (record : State → Label → List Item) (guard : State → Label → Prop)
    (relation : State → List Item → Prop)
    (preserved : ∀ state label next items, relation state items → guard state label →
      machine.step state label = some next → relation next (items ++ record state label))
    {labels : List Label} {state final : State} {items : List Item} (holds : relation state items)
    (guarded : machine.Steps guard state labels)
    (reached : machine.run state labels = some final) :
    relation final (items ++ machine.log record state labels) := by
  induction labels generalizing state items with
  | nil =>
      simp only [run, Option.some.injEq] at reached
      rw [log, List.append_nil]
      exact reached ▸ holds
  | cons label rest ih =>
      obtain ⟨next, stepped, tail⟩ := run_cons_some.mp reached
      obtain ⟨allowed, later⟩ := guarded next stepped
      simp only [log, stepped, ← List.append_assoc]
      exact ih (preserved state label next items holds allowed stepped) later tail

theorem run_log {Item : Type} {machine : Machine State Label}
    (record : State → Label → List Item) (relation : State → List Item → Prop)
    (preserved : ∀ state label next items, relation state items →
      machine.step state label = some next → relation next (items ++ record state label))
    {labels : List Label} {state final : State} {items : List Item} (holds : relation state items)
    (reached : machine.run state labels = some final) :
    relation final (items ++ machine.log record state labels) :=
  run_log_guarded record (fun _ _ => True) relation
    (fun state label next items holds _ stepped => preserved state label next items holds stepped)
    holds (steps_unguarded machine state labels) reached

theorem log_append {Item : Type} {machine : Machine State Label}
    (record : State → Label → List Item) {state middle : State} {first second : List Label}
    (reached : machine.run state first = some middle) :
    machine.log record state (first ++ second) =
      machine.log record state first ++ machine.log record middle second := by
  induction first generalizing state with
  | nil =>
      obtain rfl := Option.some.inj reached
      rfl
  | cons label rest ih =>
      obtain ⟨next, stepped, tail⟩ := run_cons_some.mp reached
      simp only [List.cons_append, log, stepped, List.append_assoc]
      rw [ih tail]

/-- A record that the state has no part in can be read off the labels. -/
theorem log_flatMap {Item : Type} {machine : Machine State Label} (record : Label → List Item)
    {labels : List Label} {state final : State} (reached : machine.run state labels = some final) :
    machine.log (fun _ => record) state labels = labels.flatMap record := by
  induction labels generalizing state with
  | nil => rfl
  | cons label rest ih =>
      obtain ⟨next, stepped, tail⟩ := run_cons_some.mp reached
      simp only [log, stepped, List.flatMap_cons, ih tail]

/-- A sum over the steps is the measure of what they record. -/
theorem total_eq_log {Item : Type} (weight : State → Label → Nat)
    (record : State → Label → List Item) (measure : List Item → Nat) (nothing : measure [] = 0)
    (additive : ∀ first second, measure (first ++ second) = measure first + measure second)
    (same : ∀ state label, weight state label = measure (record state label))
    (machine : Machine State Label) (state : State) (labels : List Label) :
    machine.total weight state labels = measure (machine.log record state labels) := by
  induction labels generalizing state with
  | nil => exact nothing.symm
  | cons label rest ih =>
      simp only [total, log]
      split
      · exact nothing.symm
      · rw [additive, ih, same]

end Machine

/-! A refinement maps every concrete step to a run of the abstract machine. -/

structure Refinement {State Label Spec Action : Type} (concrete : Machine State Label)
    (abstract : Machine Spec Action) where
  view : State → Spec
  actions : State → Label → List Action
  initial : view concrete.initial = abstract.initial
  simulates : ∀ state label next, concrete.step state label = some next →
    abstract.run (view state) (actions state label) = some (view next)

namespace Refinement

variable {State Label Spec Action : Type} {concrete : Machine State Label}
  {abstract : Machine Spec Action}

theorem run (refinement : Refinement concrete abstract) {labels : List Label}
    {state final : State} (reached : concrete.run state labels = some final) :
    abstract.run (refinement.view state) (concrete.log refinement.actions state labels) =
      some (refinement.view final) := by
  induction labels generalizing state with
  | nil =>
      obtain rfl := Option.some.inj reached
      rfl
  | cons label rest ih =>
      obtain ⟨next, stepped, tail⟩ := Machine.run_cons_some.mp reached
      simp only [Machine.log, stepped]
      rw [Machine.run_append (refinement.simulates state label next stepped), ih tail]

theorem reachable (refinement : Refinement concrete abstract) {state : State}
    (reached : concrete.Reachable state) : abstract.Reachable (refinement.view state) := by
  refine Machine.reachable_invariant
    (fun state => abstract.Reachable (refinement.view state)) ?_ ?_ reached
  · rw [refinement.initial]
    exact Machine.Reachable.start abstract
  · intro state label next holds stepped
    exact holds.run (refinement.simulates state label next stepped)

theorem invariant (refinement : Refinement concrete abstract) {property : Spec → Prop}
    (abstractly : ∀ spec, abstract.Reachable spec → property spec) {state : State}
    (reached : concrete.Reachable state) : property (refinement.view state) :=
  abstractly _ (refinement.reachable reached)

end Refinement
