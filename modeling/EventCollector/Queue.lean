import EventCollector.QueueCore

/-! `ThreadSafeQueue` is a bounded first-in first-out queue under any schedule. -/

namespace EventCollector

namespace ThreadSafeQueue

variable {Value : Type} {capacity : Nat}

theorem tryPush_cases (queue : ThreadSafeQueue Value capacity) (value : Value) :
    (queue.items.length = capacity ∧ queue.tryPush value = (false, queue)) ∨
    (queue.items.length < capacity ∧ ∃ next : ThreadSafeQueue Value capacity,
      next.items = queue.items ++ [value] ∧ queue.tryPush value = (true, next)) := by
  have bounded := queue.bounded
  by_cases full : queue.items.length ≥ capacity
  · exact Or.inl ⟨by omega, by simp [tryPush, full]⟩
  · exact Or.inr ⟨by omega, ⟨queue.items ++ [value], by simp; omega⟩, rfl,
      by simp [tryPush, full]⟩

theorem tryPop_none {queue : ThreadSafeQueue Value capacity} :
    queue.tryPop = none ↔ queue.items = [] := by
  unfold tryPop
  split
  · rename_i shape
    simp [shape]
  · rename_i shape
    simp [shape]

theorem tryPop_some {queue next : ThreadSafeQueue Value capacity} {value : Value} :
    queue.tryPop = some (value, next) ↔ queue.items = value :: next.items := by
  unfold tryPop
  split
  · rename_i shape
    simp [shape]
  · rename_i front rest shape
    simp only [Option.some.injEq, Prod.mk.injEq, shape, List.cons.injEq]
    constructor
    · rintro ⟨sameFront, rfl⟩
      exact ⟨sameFront, rfl⟩
    · rintro ⟨sameFront, sameRest⟩
      exact ⟨sameFront, by cases next; simp_all⟩

@[simp] theorem overload_tryPush (overload : Overload)
    (queue : ThreadSafeQueue Value capacity) (value : Value) :
    overload.tryPush queue value = queue.tryPush value := by
  cases overload <;> rfl

end ThreadSafeQueue

open ThreadSafeQueue

variable {Value : Type} {capacity : Nat}

/-! The atomic queue: what was handed out followed by what waits is what was
accepted. -/

def AtomicQueue.Ordered (atomic : AtomicQueue Value capacity) : Prop :=
  atomic.popped ++ atomic.queue.items = atomic.pushed

theorem AtomicQueue.step_ordered (atomic : AtomicQueue Value capacity)
    (action : AtomicAction Value) (ordered : atomic.Ordered) : (atomic.step action).Ordered := by
  unfold AtomicQueue.Ordered at ordered ⊢
  cases action with
  | push value =>
      rcases tryPush_cases atomic.queue value with ⟨_, refused⟩ | ⟨_, next, grown, accepted⟩
      · simpa only [AtomicQueue.step, refused] using ordered
      · simp only [AtomicQueue.step, accepted, grown]
        rw [← List.append_assoc, ordered]
  | pop =>
      cases popped : atomic.queue.tryPop with
      | none => simpa only [AtomicQueue.step, popped] using ordered
      | some result =>
          obtain ⟨value, next⟩ := result
          rw [tryPop_some.mp popped] at ordered
          simpa only [AtomicQueue.step, popped, List.append_assoc, List.singleton_append]
            using ordered

theorem atomicMachine_ordered (atomic : AtomicQueue Value capacity)
    (reachable : (atomicMachine Value capacity).Reachable atomic) : atomic.Ordered := by
  refine Machine.reachable_invariant AtomicQueue.Ordered ?_ ?_ reachable
  · rfl
  intro state action next ordered stepped
  simp only [atomicMachine, Option.some.injEq] at stepped
  exact stepped ▸ state.step_ordered action ordered

/-! The queue with sleeping and waking threads refines the atomic queue: going
to sleep, waking and giving up are invisible. -/

namespace QueueSystem

def view (system : QueueSystem Value capacity) : AtomicQueue Value capacity :=
  ⟨system.queue, system.pushed, system.popped⟩

def actions : QueueAction Value → List (AtomicAction Value)
  | .push _ value _ => [.push value]
  | .pop => [.pop]
  | .popFor _ => [.pop]
  | .wake _ _ => []
  | .resume _ => [.pop]

theorem testPredicate_view (system : QueueSystem Value capacity) (thread : Nat)
    (timedOut : Bool) :
    (system.testPredicate thread timedOut).2.view = system.view.step .pop := by
  simp only [testPredicate, AtomicQueue.step, view]
  cases popped : system.queue.tryPop with
  | none => cases timedOut <;> rfl
  | some result => rfl

theorem exec_view {system next : QueueSystem Value capacity} {action : QueueAction Value}
    {result : QueueResult Value} (executed : system.exec action = some (result, next)) :
    (atomicMachine Value capacity).run system.view (actions action) = some next.view := by
  cases action with
  | push overload value notified =>
      simp only [exec, overload_tryPush] at executed
      simp only [actions, Machine.run, atomicMachine, Option.bind_some, AtomicQueue.step, view]
      rcases tryPush_cases system.queue value with ⟨_, refused⟩ | ⟨_, grown, _, accepted⟩
      · simp only [refused, Option.ite_none_right_eq_some, Option.some.injEq,
          Prod.mk.injEq] at executed ⊢
        obtain ⟨_, _, rfl⟩ := executed
        rfl
      · simp only [accepted, Option.map_eq_some_iff, Prod.mk.injEq] at executed ⊢
        obtain ⟨waiters, _, _, rfl⟩ := executed
        rfl
  | pop =>
      simp only [exec] at executed
      simp only [actions, Machine.run, atomicMachine, Option.bind_some, AtomicQueue.step, view]
      cases popped : system.queue.tryPop with
      | none =>
          simp only [popped, Option.some.injEq, Prod.mk.injEq] at executed ⊢
          rw [← executed.2]
      | some taken =>
          simp only [popped, Option.some.injEq, Prod.mk.injEq] at executed ⊢
          rw [← executed.2]
  | popFor thread =>
      simp only [exec, Option.ite_none_right_eq_some, Option.some.injEq] at executed
      simpa only [actions, Machine.run, atomicMachine, Option.bind_some, executed.2] using
        congrArg some (system.testPredicate_view thread false).symm
  | wake thread timedOut =>
      simp only [exec, Option.ite_none_right_eq_some, Option.some.injEq,
        Prod.mk.injEq] at executed
      obtain ⟨_, _, rfl⟩ := executed
      rfl
  | resume thread =>
      simp only [exec] at executed
      split at executed
      · rename_i timedOut _
        simp only [Option.some.injEq] at executed
        simpa only [actions, Machine.run, atomicMachine, Option.bind_some, executed] using
          congrArg some (system.testPredicate_view thread timedOut).symm
      · simp at executed

def refinesAtomic (Value : Type) (capacity threads : Nat) :
    Refinement (queueMachine Value capacity threads) (atomicMachine Value capacity) where
  view := view
  actions _ := actions
  initial := rfl
  simulates system action next stepped := by
    simp only [queueMachine, Option.map_eq_some_iff] at stepped
    obtain ⟨⟨result, after⟩, executed, rfl⟩ := stepped
    exact exec_view executed

/-! What a caller can conclude from the answer of an operation. -/

def accepted : QueueAction Value → QueueResult Value → List Value
  | .push _ value _, .pushed true => [value]
  | _, _ => []

theorem exec_push {system next : QueueSystem Value capacity} {overload : Overload}
    {value : Value} {notified : Option Nat} {result : QueueResult Value}
    (executed : system.exec (.push overload value notified) = some (result, next)) :
    (system.queue.items.length = capacity ∧ result = .pushed false ∧ next = system) ∨
    (system.queue.items.length < capacity ∧ result = .pushed true ∧
      next.pushed = system.pushed ++ [value] ∧ next.popped = system.popped) := by
  simp only [exec, overload_tryPush] at executed
  rcases tryPush_cases system.queue value with ⟨full, refused⟩ | ⟨room, grown, _, taken⟩
  · simp only [refused, Option.ite_none_right_eq_some, Option.some.injEq,
      Prod.mk.injEq] at executed
    obtain ⟨_, answered, same⟩ := executed
    exact Or.inl ⟨full, answered.symm, same.symm⟩
  · simp only [taken, Option.map_eq_some_iff, Prod.mk.injEq] at executed
    obtain ⟨waiters, _, answered, rfl⟩ := executed
    exact Or.inr ⟨room, answered.symm, rfl, rfl⟩

theorem exec_pop {system next : QueueSystem Value capacity} {result : QueueResult Value}
    (executed : system.exec .pop = some (result, next)) :
    (system.queue.items = [] ∧ result = .popped none ∧ next = system) ∨
    (∃ value, result = .popped (some value) ∧ next.pushed = system.pushed ∧
      next.popped = system.popped ++ [value]) := by
  simp only [exec] at executed
  cases popped : system.queue.tryPop with
  | none =>
      simp only [popped, Option.some.injEq, Prod.mk.injEq] at executed
      exact Or.inl ⟨tryPop_none.mp popped, executed.1.symm, executed.2.symm⟩
  | some taken =>
      simp only [popped, Option.some.injEq, Prod.mk.injEq] at executed
      obtain ⟨answered, rfl⟩ := executed
      exact Or.inr ⟨taken.1, answered.symm, rfl, rfl⟩

theorem testPredicate_cases (system : QueueSystem Value capacity) (thread : Nat)
    (timedOut : Bool) :
    (system.queue.items = [] ∧ (system.testPredicate thread timedOut).1 = .returned none ∧
      (system.testPredicate thread timedOut).2 =
        { system with waiters := system.waiters.set thread .outside }) ∨
    ((system.testPredicate thread timedOut).1 = .working ∧
      (system.testPredicate thread timedOut).2.pushed = system.pushed ∧
      (system.testPredicate thread timedOut).2.popped = system.popped) ∨
    (∃ value, (system.testPredicate thread timedOut).1 = .returned (some value) ∧
      (system.testPredicate thread timedOut).2.pushed = system.pushed ∧
      (system.testPredicate thread timedOut).2.popped = system.popped ++ [value]) := by
  simp only [testPredicate]
  cases popped : system.queue.tryPop with
  | none =>
      cases timedOut with
      | false => exact Or.inr (Or.inl ⟨rfl, rfl, rfl⟩)
      | true => exact Or.inl ⟨tryPop_none.mp popped, rfl, rfl⟩
  | some taken => exact Or.inr (Or.inr ⟨taken.1, rfl, rfl, rfl⟩)

structure Answered (system : QueueSystem Value capacity) (action : QueueAction Value)
    (result : QueueResult Value) (next : QueueSystem Value capacity) : Prop where
  pushed : next.pushed = system.pushed ++ accepted action result
  popped : next.popped = system.popped ++ result.handedOut
  refused : ∀ overload value notified, action = .push overload value notified →
    (result = .pushed false ↔ system.queue.items.length = capacity)
  unchanged : result = .pushed false ∨ result = .popped none → next = system
  nothing : result = .popped none ∨ result = .returned none → system.queue.items = []
  gaveUp : result = .returned none →
    ∃ thread, next = { system with waiters := system.waiters.set thread .outside }

theorem testPredicate_answered (system : QueueSystem Value capacity)
    (action : QueueAction Value) (thread : Nat) (timedOut : Bool)
    (noPush : ∀ overload value notified, action ≠ .push overload value notified) :
    Answered system action (system.testPredicate thread timedOut).1
      (system.testPredicate thread timedOut).2 := by
  have nothingAccepted (result : QueueResult Value) : accepted action result = [] := by
    cases action with
    | push overload value notified => exact (noPush overload value notified rfl).elim
    | pop => rfl
    | popFor _ => rfl
    | wake _ _ => rfl
    | resume _ => rfl
  have notPush (overload : Overload) (value : Value) (notified : Option Nat)
      (same : action = .push overload value notified) : False := noPush _ _ _ same
  rcases system.testPredicate_cases thread timedOut with
    ⟨drained, answer, after⟩ | ⟨answer, pushed, popped⟩ | ⟨value, answer, pushed, popped⟩
  · rw [answer, after]
    exact ⟨by simp [nothingAccepted], by simp [QueueResult.handedOut],
      fun o v n same => (notPush o v n same).elim, by simp, fun _ => drained,
      fun _ => ⟨thread, rfl⟩⟩
  · rw [answer]
    exact ⟨by simp [nothingAccepted, pushed], by simp [QueueResult.handedOut, popped],
      fun o v n same => (notPush o v n same).elim, by simp, by simp, by simp⟩
  · rw [answer]
    exact ⟨by simp [nothingAccepted, pushed], by simp [QueueResult.handedOut, popped],
      fun o v n same => (notPush o v n same).elim, by simp, by simp, by simp⟩

theorem exec_answered {system next : QueueSystem Value capacity} {action : QueueAction Value}
    {result : QueueResult Value} (executed : system.exec action = some (result, next)) :
    Answered system action result next := by
  cases action with
  | push overload value notified =>
      rcases exec_push executed with ⟨full, rfl, rfl⟩ | ⟨room, rfl, pushed, popped⟩
      · exact ⟨by simp [accepted], by simp [QueueResult.handedOut],
          fun _ _ _ _ => by simp [full], fun _ => rfl, by simp, by simp⟩
      · exact ⟨by simp [accepted, pushed], by simp [QueueResult.handedOut, popped],
          fun _ _ _ _ => by simp; omega, by simp, by simp, by simp⟩
  | pop =>
      rcases exec_pop executed with ⟨drained, rfl, rfl⟩ | ⟨value, rfl, pushed, popped⟩
      · exact ⟨by simp [accepted], by simp [QueueResult.handedOut], by simp, fun _ => rfl,
          fun _ => drained, by simp⟩
      · exact ⟨by simp [accepted, pushed], by simp [QueueResult.handedOut, popped], by simp,
          by simp, by simp, by simp⟩
  | popFor thread =>
      simp only [exec, Option.ite_none_right_eq_some, Option.some.injEq] at executed
      simpa only [executed.2] using
        system.testPredicate_answered (.popFor thread) thread false (by simp)
  | wake thread timedOut =>
      simp only [exec, Option.ite_none_right_eq_some, Option.some.injEq,
        Prod.mk.injEq] at executed
      obtain ⟨_, rfl, rfl⟩ := executed
      exact ⟨by simp [accepted], by simp [QueueResult.handedOut], by simp, by simp, by simp,
        by simp⟩
  | resume thread =>
      simp only [exec] at executed
      split at executed
      · rename_i timedOut _
        simp only [Option.some.injEq] at executed
        simpa only [executed] using
          system.testPredicate_answered (.resume thread) thread timedOut (by simp)
      · simp at executed

end QueueSystem

/-- In every reachable state the queue is within its capacity and holds, in
order, exactly what was accepted and not yet handed out. A push is refused
exactly at capacity, a pop returns nothing only on an empty queue, and neither
then changes the queue. -/
theorem queueMachine_boundedFifo (threads : Nat) {system : QueueSystem Value capacity}
    (reachable : (queueMachine Value capacity threads).Reachable system) :
    system.queue.items.length ≤ capacity ∧
    system.popped ++ system.queue.items = system.pushed ∧
    ∀ action result next, system.exec action = some (result, next) →
      QueueSystem.Answered system action result next := by
  refine ⟨system.queue.bounded, ?_, fun _ _ _ executed => QueueSystem.exec_answered executed⟩
  exact (QueueSystem.refinesAtomic Value capacity threads).invariant
    atomicMachine_ordered reachable

theorem queueMachine_boundedFifo_stolen :
    ∃ system : QueueSystem Nat 1, system.waiters = [.asleep, .outside] ∧ system.popped = [7] ∧
      system.popped ++ system.queue.items = system.pushed :=
  ⟨⟨.empty Nat 1, [.asleep, .outside], [7], [7]⟩, rfl, rfl,
    (queueMachine_boundedFifo 2
      ⟨[.popFor 0, .push .move 7 (some 0), .pop, .resume 0], by rfl⟩).2.1⟩

end EventCollector
