import EventCollector.Lib.Machine

/-!
A reader that looks at a running machine several times, one look at a time. What it
sees comes from as many states, and all that ties them together is that the machine
went from each to the next.
-/

structure Scan (State : Type) where
  state : State
  moments : List State

inductive ScanLabel (Label : Type)
  | move (label : Label)
  | look
  deriving DecidableEq

namespace Machine

variable {State Label : Type}

/-- The machine goes on between the looks, of which there are at most `looks`. -/
def scan (machine : Machine State Label) (looks : Nat) :
    Machine (Scan State) (ScanLabel Label) where
  initial := ⟨machine.initial, []⟩
  step scan
    | .move label =>
        (machine.step scan.state label).map fun next => { scan with state := next }
    | .look =>
        if scan.moments.length < looks then
          some { scan with moments := scan.moments ++ [scan.state] }
        else none

def Leads (machine : Machine State Label) (first later : State) : Prop :=
  ∃ labels, machine.run first labels = some later

theorem Leads.refl (machine : Machine State Label) (state : State) : machine.Leads state state :=
  ⟨[], rfl⟩

theorem Leads.step {machine : Machine State Label} {first later next : State} {label : Label}
    (leads : machine.Leads first later) (stepped : machine.step later label = some next) :
    machine.Leads first next := by
  obtain ⟨labels, reached⟩ := leads
  refine ⟨labels ++ [label], ?_⟩
  rw [run_append reached]
  exact run_cons_some.mpr ⟨next, stepped, rfl⟩

/-- What never falls in one step never falls. -/
theorem Leads.grows {machine : Machine State Label} (amount : State → Nat)
    (grows : ∀ state label next, machine.step state label = some next →
      amount state ≤ amount next) {first later : State} (leads : machine.Leads first later) :
    amount first ≤ amount later := by
  obtain ⟨labels, reached⟩ := leads
  refine run_invariant (fun state => amount first ≤ amount state) ?_ (Nat.le_refl _) reached
  intro state label next holds stepped
  exact Nat.le_trans holds (grows state label next stepped)

structure Scanned (machine : Machine State Label) (scan : Scan State) : Prop where
  reachable : machine.Reachable scan.state
  seen : ∀ moment ∈ scan.moments, machine.Reachable moment ∧ machine.Leads moment scan.state
  ordered : scan.moments.Pairwise machine.Leads

theorem scan_scanned {machine : Machine State Label} {looks : Nat} {scan : Scan State}
    (reachable : (machine.scan looks).Reachable scan) : Scanned machine scan := by
  refine reachable_invariant (Scanned machine) ?_ ?_ reachable
  · exact ⟨Reachable.start machine, by simp [Machine.scan], List.Pairwise.nil⟩
  · intro scan label next holds stepped
    cases label with
    | move label =>
        obtain ⟨state, moved, rfl⟩ := Option.map_eq_some_iff.mp stepped
        refine ⟨holds.reachable.step moved, ?_, holds.ordered⟩
        intro moment member
        obtain ⟨reached, leads⟩ := holds.seen moment member
        exact ⟨reached, leads.step moved⟩
    | look =>
        simp only [Machine.scan, Option.ite_none_right_eq_some, Option.some.injEq] at stepped
        obtain ⟨-, rfl⟩ := stepped
        refine ⟨holds.reachable, ?_, ?_⟩
        · intro moment member
          rcases List.mem_append.mp member with earlier | now
          · exact holds.seen moment earlier
          · rw [List.mem_singleton.mp now]
            exact ⟨holds.reachable, Leads.refl machine scan.state⟩
        · rw [List.pairwise_append]
          refine ⟨holds.ordered, List.pairwise_singleton _ _, ?_⟩
          intro moment earlier current now
          rw [List.mem_singleton.mp now]
          exact (holds.seen moment earlier).2

theorem Scanned.leads {machine : Machine State Label} {scan : Scan State}
    (scanned : Scanned machine scan) {first later : Nat} {one other : State}
    (order : first ≤ later) (foundOne : scan.moments[first]? = some one)
    (foundOther : scan.moments[later]? = some other) : machine.Leads one other := by
  by_cases same : first = later
  · subst same
    rw [Option.some.inj (foundOne.symm.trans foundOther)]
    exact Leads.refl machine other
  · obtain ⟨bound, rfl⟩ := List.getElem?_eq_some_iff.mp foundOne
    obtain ⟨bound', rfl⟩ := List.getElem?_eq_some_iff.mp foundOther
    exact List.pairwise_iff_getElem.mp scanned.ordered first later bound bound' (by omega)

end Machine
