import Mathlib.Algebra.Group.Nat.Defs
import Mathlib.Logic.Function.Basic

/-!
A key-value server's counters with a time to live: a key whose expiry has passed is
gone, an increment keeps the expiry of its key and creates a missing key without
one, and a counter is a signed 64-bit number.
-/

structure Counter where
  value : Nat
  expiry : Option Nat
  deriving DecidableEq

def Counter.alive (counter : Counter) (now : Nat) : Bool :=
  match counter.expiry with
  | none => true
  | some expiry => now < expiry

abbrev CounterStore (Key : Type) := Key → Option Counter

namespace CounterStore

variable {Key : Type}

def lookup (store : CounterStore Key) (now : Nat) (key : Key) : Option Counter :=
  (store key).filter (Counter.alive · now)

theorem lookup_absent {store : CounterStore Key} {key : Key} (absent : store key = none)
    (now : Nat) : store.lookup now key = none := by
  simp [lookup, absent]

theorem lookup_live {store : CounterStore Key} {key : Key} {value expiry now : Nat}
    (found : store key = some ⟨value, some expiry⟩) (early : now < expiry) :
    store.lookup now key = some ⟨value, some expiry⟩ := by
  simp [lookup, found, Counter.alive, early]

theorem lookup_expired {store : CounterStore Key} {key : Key} {value expiry now : Nat}
    (found : store key = some ⟨value, some expiry⟩) (late : expiry ≤ now) :
    store.lookup now key = none := by
  simp [lookup, found, Counter.alive, late]

variable [DecidableEq Key]

def put (store : CounterStore Key) (key : Key) (counter : Counter) : CounterStore Key :=
  Function.update store key (some counter)

/-- Fails on a counter that would leave the signed 64-bit range. -/
def incr (store : CounterStore Key) (now : Nat) (key : Key) : Option (Nat × CounterStore Key) :=
  match store.lookup now key with
  | none => some (1, store.put key ⟨1, none⟩)
  | some counter =>
      if counter.value + 1 < 2 ^ 63 then
        some (counter.value + 1, store.put key { counter with value := counter.value + 1 })
      else none

def expire (store : CounterStore Key) (key : Key) (expiry : Nat) : CounterStore Key :=
  match store key with
  | none => store
  | some counter => store.put key { counter with expiry := some expiry }

@[simp] theorem put_same (store : CounterStore Key) (key : Key) (counter : Counter) :
    store.put key counter key = some counter := Function.update_self ..

theorem put_other (store : CounterStore Key) {key other : Key} (counter : Counter)
    (different : other ≠ key) : store.put key counter other = store other :=
  Function.update_of_ne different ..

@[simp] theorem put_put (store : CounterStore Key) (key : Key) (first second : Counter) :
    (store.put key first).put key second = store.put key second := Function.update_idem ..

theorem incr_other {store next : CounterStore Key} {now count : Nat} {key other : Key}
    (counted : store.incr now key = some (count, next)) (different : other ≠ key) :
    next other = store other := by
  unfold incr at counted
  split at counted
  · simp only [Option.some.injEq, Prod.mk.injEq] at counted
    rw [← counted.2]
    exact put_other store _ different
  · simp only [Option.ite_none_right_eq_some, Option.some.injEq, Prod.mk.injEq] at counted
    rw [← counted.2.2]
    exact put_other store _ different

theorem expire_other (store : CounterStore Key) {key other : Key} (expiry : Nat)
    (different : other ≠ key) : store.expire key expiry other = store other := by
  unfold expire
  cases store key with
  | none => rfl
  | some counter => exact put_other store _ different

end CounterStore
