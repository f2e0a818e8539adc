import EventCollector.Lib.Machine

/-!
`include/queue.h`: the bounded queue between the io threads and the workers.
The element type is a parameter, so that bookkeeping can ride along with a
`std::string`. Each section that holds `mtx_` is one atomic step; a thread
inside `try_pop_for` runs one such section on entry and one after every wakeup.
-/

namespace EventCollector

/-- `capacity_` never changes, so it is part of the type, and a queue over its
capacity cannot be built. -/
structure ThreadSafeQueue (Value : Type) (capacity : Nat) where
  items : List Value
  bounded : items.length ≤ capacity
  deriving DecidableEq

namespace ThreadSafeQueue

variable {Value : Type} {capacity : Nat}

def empty (Value : Type) (capacity : Nat) : ThreadSafeQueue Value capacity :=
  ⟨[], Nat.zero_le capacity⟩

def tryPush (queue : ThreadSafeQueue Value capacity) (value : Value) :
    Bool × ThreadSafeQueue Value capacity :=
  if full : queue.items.length ≥ capacity then (false, queue)
  else (true, ⟨queue.items ++ [value], by
    rw [List.length_append, List.length_singleton]
    omega⟩)

def tryPushCopy (queue : ThreadSafeQueue Value capacity) (value : Value) :
    Bool × ThreadSafeQueue Value capacity :=
  queue.tryPush value

def tryPushMove (queue : ThreadSafeQueue Value capacity) (value : Value) :
    Bool × ThreadSafeQueue Value capacity :=
  queue.tryPush value

def tryPop (queue : ThreadSafeQueue Value capacity) :
    Option (Value × ThreadSafeQueue Value capacity) :=
  match shape : queue.items with
  | [] => none
  | value :: rest => some (value, ⟨rest, by
      have bounded := queue.bounded
      rw [shape, List.length_cons] at bounded
      omega⟩)

end ThreadSafeQueue

inductive Waiter
  | outside
  | asleep
  | woken (timedOut : Bool)
  deriving DecidableEq

inductive Overload
  | copy
  | move
  deriving DecidableEq

def Overload.tryPush {Value : Type} {capacity : Nat} :
    Overload → ThreadSafeQueue Value capacity → Value → Bool × ThreadSafeQueue Value capacity
  | .copy => ThreadSafeQueue.tryPushCopy
  | .move => ThreadSafeQueue.tryPushMove

/-- The queue with its threads. `pushed` and `popped` record the values of the
successful pushes and pops in the order of their critical sections. -/
structure QueueSystem (Value : Type) (capacity : Nat) where
  queue : ThreadSafeQueue Value capacity
  waiters : List Waiter
  pushed : List Value
  popped : List Value
  deriving DecidableEq

inductive QueueAction (Value : Type)
  | push (overload : Overload) (value : Value) (notified : Option Nat)
  | pop
  | popFor (thread : Nat)
  | wake (thread : Nat) (timedOut : Bool)
  | resume (thread : Nat)
  deriving DecidableEq

/-- What the caller sees: `pushed` is the answer of `try_push`, `popped` that of
`try_pop`, `returned` that of `try_pop_for`; `working` means no call returned. -/
inductive QueueResult (Value : Type)
  | pushed (accepted : Bool)
  | popped (value : Option Value)
  | returned (value : Option Value)
  | working
  deriving DecidableEq

def QueueResult.handedOut {Value : Type} : QueueResult Value → List Value
  | .popped value => value.toList
  | .returned value => value.toList
  | _ => []

namespace QueueSystem

variable {Value : Type} {capacity : Nat}

/-- `notify_one` wakes one sleeper of the scheduler's choice, and nobody only
when nobody sleeps. -/
def notifyOne (waiters : List Waiter) : Option Nat → Option (List Waiter)
  | none => if .asleep ∈ waiters then none else some waiters
  | some thread =>
      if waiters[thread]? = some .asleep then some (waiters.set thread (.woken false)) else none

/-- One turn of the loop inside `wait_for(lk, timeout, pred)`, the mutex held:
the predicate is tested, and only a thread that has timed out gives up. -/
def testPredicate (system : QueueSystem Value capacity) (thread : Nat) (timedOut : Bool) :
    QueueResult Value × QueueSystem Value capacity :=
  match system.queue.tryPop with
  | some (value, queue) =>
      (.returned (some value), { system with
        queue := queue
        waiters := system.waiters.set thread .outside
        popped := system.popped ++ [value] })
  | none =>
      if timedOut then
        (.returned none, { system with waiters := system.waiters.set thread .outside })
      else
        (.working, { system with waiters := system.waiters.set thread .asleep })

def exec (system : QueueSystem Value capacity) :
    QueueAction Value → Option (QueueResult Value × QueueSystem Value capacity)
  | .push overload value notified =>
      match overload.tryPush system.queue value with
      | (false, _) => if notified = none then some (.pushed false, system) else none
      | (true, queue) =>
          (notifyOne system.waiters notified).map fun waiters =>
            (.pushed true, { system with
              queue := queue
              waiters := waiters
              pushed := system.pushed ++ [value] })
  | .pop =>
      match system.queue.tryPop with
      | none => some (.popped none, system)
      | some (value, queue) =>
          some (.popped (some value), { system with
            queue := queue
            popped := system.popped ++ [value] })
  | .popFor thread =>
      if system.waiters[thread]? = some .outside then some (system.testPredicate thread false)
      else none
  -- a notification, a spurious wakeup or the deadline; the mutex is not held yet
  | .wake thread timedOut =>
      if system.waiters[thread]? = some .asleep then
        some (.working, { system with waiters := system.waiters.set thread (.woken timedOut) })
      else none
  | .resume thread =>
      match system.waiters[thread]? with
      | some (.woken timedOut) => some (system.testPredicate thread timedOut)
      | _ => none

end QueueSystem

def queueMachine (Value : Type) (capacity threads : Nat) :
    Machine (QueueSystem Value capacity) (QueueAction Value) where
  initial := ⟨.empty Value capacity, List.replicate threads .outside, [], []⟩
  step system action := (system.exec action).map Prod.snd

/-! The queue without waiting: every operation is one step. This is what the
rest of the pipeline builds on. -/

structure AtomicQueue (Value : Type) (capacity : Nat) where
  queue : ThreadSafeQueue Value capacity
  pushed : List Value
  popped : List Value
  deriving DecidableEq

inductive AtomicAction (Value : Type)
  | push (value : Value)
  | pop
  deriving DecidableEq

def AtomicQueue.step {Value : Type} {capacity : Nat} (atomic : AtomicQueue Value capacity) :
    AtomicAction Value → AtomicQueue Value capacity
  | .push value =>
      match atomic.queue.tryPush value with
      | (false, _) => atomic
      | (true, queue) => { atomic with queue := queue, pushed := atomic.pushed ++ [value] }
  | .pop =>
      match atomic.queue.tryPop with
      | none => atomic
      | some (value, queue) => { atomic with queue := queue, popped := atomic.popped ++ [value] }

def atomicMachine (Value : Type) (capacity : Nat) :
    Machine (AtomicQueue Value capacity) (AtomicAction Value) where
  initial := ⟨.empty Value capacity, [], []⟩
  step atomic action := some (atomic.step action)

end EventCollector
