import EventCollector.Lib.Ledger
import EventCollector.Queue

/-!
No wakeup is lost. A thread goes to sleep only on an empty queue, and as long as
one sleeps every push wakes another, so that each element has a thread on its way.
-/

namespace EventCollector

open Ledger ThreadSafeQueue

variable {Value : Type} {capacity : Nat}

def Waiter.isWoken : Waiter → Bool
  | .woken _ => true
  | _ => false

inductive WaitMove (items : List Value) (waiters : List Waiter) :
    List Value → List Waiter → Prop
  | stay : WaitMove items waiters items waiters
  | pushAlone {value : Value} : .asleep ∉ waiters →
      WaitMove items waiters (items ++ [value]) waiters
  | pushNotify {value : Value} {thread : Nat} : waiters[thread]? = some .asleep →
      WaitMove items waiters (items ++ [value]) (waiters.set thread (.woken false))
  | steal {value : Value} {rest : List Value} : items = value :: rest →
      WaitMove items waiters rest waiters
  | take {value : Value} {rest : List Value} {thread : Nat} {old : Waiter} :
      items = value :: rest → waiters[thread]? = some old → old ≠ .asleep →
      WaitMove items waiters rest (waiters.set thread .outside)
  | leave {thread : Nat} {old new : Waiter} : items = [] → waiters[thread]? = some old →
      old ≠ .asleep → new.isWoken = false →
      WaitMove items waiters [] (waiters.set thread new)
  | wake {thread : Nat} {timedOut : Bool} : waiters[thread]? = some .asleep →
      WaitMove items waiters items (waiters.set thread (.woken timedOut))

namespace QueueSystem

theorem testPredicate_wait {system : QueueSystem Value capacity} {thread : Nat} {old : Waiter}
    (found : system.waiters[thread]? = some old) (awake : old ≠ .asleep) (timedOut : Bool) :
    WaitMove system.queue.items system.waiters
      (system.testPredicate thread timedOut).2.queue.items
      (system.testPredicate thread timedOut).2.waiters := by
  simp only [testPredicate]
  cases popped : system.queue.tryPop with
  | some taken =>
      obtain ⟨value, queue⟩ := taken
      exact .take (tryPop_some.mp popped) found awake
  | none =>
      have drained := tryPop_none.mp popped
      cases timedOut with
      | false =>
          simp only [Bool.false_eq_true, if_false, drained]
          exact .leave rfl found awake rfl
      | true =>
          simp only [if_true, drained]
          exact .leave rfl found awake rfl

theorem notifyOne_wait {waiters after : List Waiter} {notified : Option Nat}
    (woken : notifyOne waiters notified = some after) (items : List Value) (value : Value) :
    WaitMove items waiters (items ++ [value]) after := by
  cases notified with
  | none =>
      simp only [notifyOne, Option.ite_none_left_eq_some, Option.some.injEq] at woken
      obtain ⟨nobody, rfl⟩ := woken
      exact .pushAlone nobody
  | some thread =>
      simp only [notifyOne, Option.ite_none_right_eq_some, Option.some.injEq] at woken
      obtain ⟨asleep, rfl⟩ := woken
      exact .pushNotify asleep

theorem exec_wait {system next : QueueSystem Value capacity} {action : QueueAction Value}
    {result : QueueResult Value} (executed : system.exec action = some (result, next)) :
    WaitMove system.queue.items system.waiters next.queue.items next.waiters := by
  cases action with
  | push overload value notified =>
      simp only [exec, overload_tryPush] at executed
      rcases tryPush_cases system.queue value with ⟨_, refused⟩ | ⟨_, grown, items, accepted⟩
      · simp only [refused, Option.ite_none_right_eq_some, Option.some.injEq,
          Prod.mk.injEq] at executed
        obtain ⟨_, _, rfl⟩ := executed
        exact .stay
      · simp only [accepted, Option.map_eq_some_iff, Prod.mk.injEq] at executed
        obtain ⟨waiters, woken, _, rfl⟩ := executed
        rw [items]
        exact notifyOne_wait woken system.queue.items value
  | pop =>
      simp only [exec] at executed
      cases popped : system.queue.tryPop with
      | none =>
          simp only [popped, Option.some.injEq, Prod.mk.injEq] at executed
          obtain ⟨_, rfl⟩ := executed
          exact .stay
      | some taken =>
          obtain ⟨value, queue⟩ := taken
          simp only [popped, Option.some.injEq, Prod.mk.injEq] at executed
          obtain ⟨_, rfl⟩ := executed
          exact .steal (tryPop_some.mp popped)
  | popFor thread =>
      simp only [exec, Option.ite_none_right_eq_some, Option.some.injEq] at executed
      obtain ⟨outside, tested⟩ := executed
      simpa only [tested] using testPredicate_wait outside (by simp) false
  | wake thread timedOut =>
      simp only [exec, Option.ite_none_right_eq_some, Option.some.injEq,
        Prod.mk.injEq] at executed
      obtain ⟨asleep, _, rfl⟩ := executed
      exact .wake asleep
  | resume thread =>
      simp only [exec] at executed
      split at executed
      · rename_i timedOut woken
        simp only [Option.some.injEq] at executed
        simpa only [executed] using testPredicate_wait woken (by simp) timedOut
      · simp at executed

end QueueSystem

/-! The invariant, one kind of step at a time. -/

def Covered (items : List Value) (waiters : List Waiter) : Prop :=
  .asleep ∈ waiters → items.length ≤ waiters.countP Waiter.isWoken

theorem covered_wake {items : List Value} {waiters : List Waiter} {thread : Nat}
    (covered : Covered items waiters) (asleep : waiters[thread]? = some .asleep)
    (timedOut : Bool) :
    items.length < (waiters.set thread (.woken timedOut)).countP Waiter.isWoken := by
  have before := covered (List.mem_of_getElem? asleep)
  have counted := countP_set Waiter.isWoken (.woken timedOut) asleep
  simp only [indicator, Waiter.isWoken, if_true, Bool.false_eq_true, if_false] at counted
  omega

theorem asleep_of_set {waiters : List Waiter} {thread : Nat}
    (remains : .asleep ∈ waiters.set thread .outside) : .asleep ∈ waiters := by
  rcases List.mem_or_eq_of_mem_set remains with old | same
  · exact old
  · simp at same

theorem covered_step {items items' : List Value} {waiters waiters' : List Waiter}
    (covered : Covered items waiters) (moved : WaitMove items waiters items' waiters') :
    Covered items' waiters' := by
  cases moved with
  | stay => exact covered
  | pushAlone nobody => exact fun remains => absurd remains nobody
  | pushNotify asleep =>
      intro _
      have more := covered_wake covered asleep false
      rw [List.length_append, List.length_singleton]
      omega
  | steal shape =>
      subst shape
      intro remains
      have before := covered remains
      rw [List.length_cons] at before
      omega
  | @take value rest thread old shape found awake =>
      subst shape
      intro remains
      have before := covered (asleep_of_set remains)
      have counted := countP_set Waiter.isWoken .outside found
      have atMost : indicator Waiter.isWoken old ≤ 1 := by
        unfold indicator
        split <;> omega
      rw [List.length_cons] at before
      simp only [indicator, Waiter.isWoken, Bool.false_eq_true, if_false] at counted atMost
      omega
  | leave _ _ _ _ => exact fun _ => Nat.zero_le _
  | @wake thread timedOut asleep =>
      intro _
      have more := covered_wake covered asleep timedOut
      omega

/-- While a consumer sleeps, every element of the queue has a woken consumer of its
own that is on its way to the mutex; so with all the others asleep it is empty. -/
theorem queueMachine_noLostWakeup (threads : Nat) {system : QueueSystem Value capacity}
    (reachable : (queueMachine Value capacity threads).Reachable system) :
    (.asleep ∈ system.waiters →
      system.queue.items.length ≤ system.waiters.countP Waiter.isWoken) ∧
    (.asleep ∈ system.waiters → (∀ waiter ∈ system.waiters, waiter.isWoken = false) →
      system.queue.items = []) := by
  have covered : Covered system.queue.items system.waiters := by
    refine Machine.reachable_invariant
      (fun system => Covered system.queue.items system.waiters) ?_ ?_ reachable
    · exact fun _ => Nat.zero_le _
    · intro before action after holds stepped
      simp only [queueMachine, Option.map_eq_some_iff] at stepped
      obtain ⟨⟨result, next⟩, executed, rfl⟩ := stepped
      exact covered_step holds (QueueSystem.exec_wait executed)
  refine ⟨covered, ?_⟩
  intro asleep unnotified
  have nobody : system.waiters.countP Waiter.isWoken = 0 := by
    rw [List.countP_eq_zero]
    intro waiter member
    rw [unnotified waiter member]
    decide
  have bound := covered asleep
  exact List.length_eq_zero_iff.mp (by omega)

theorem queueMachine_noLostWakeup_notified :
    ∃ system : QueueSystem Nat 2, system.waiters = [.woken false, .asleep] ∧
      system.queue.items = [7] ∧
      system.queue.items.length ≤ system.waiters.countP Waiter.isWoken :=
  ⟨⟨⟨[7], by decide⟩, [.woken false, .asleep], [7], []⟩, rfl, rfl,
    (queueMachine_noLostWakeup 2
      ⟨[.popFor 0, .popFor 1, .push .copy 7 (some 0)], by rfl⟩).1 (by decide)⟩

end EventCollector
