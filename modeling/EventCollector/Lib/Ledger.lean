import Mathlib.Algebra.BigOperators.Group.List.Basic
import Mathlib.Algebra.Order.Group.Multiset

/-!
Accounting over a pool of threads. Every thread holds an amount fixed by where
it is in its code; a thread's own step moves an amount between the thread and
the shared state, and the whole pool then balances. Amounts live in any
cancellative commutative monoid: numbers for counters, multisets for items.
-/

namespace Ledger

variable {Thread Amount : Type}

def tally [AddCommMonoid Amount] (weight : Thread → Amount) (pool : List Thread) : Amount :=
  (pool.map weight).sum

@[simp] theorem tally_cons [AddCommMonoid Amount] (weight : Thread → Amount) (thread : Thread)
    (pool : List Thread) : tally weight (thread :: pool) = weight thread + tally weight pool := by
  simp [tally]

theorem tally_set [AddCommMonoid Amount] (weight : Thread → Amount) {pool : List Thread}
    {index : Nat} {old : Thread} (new : Thread) (found : pool[index]? = some old) :
    tally weight (pool.set index new) + weight old = tally weight pool + weight new := by
  induction pool generalizing index with
  | nil => simp at found
  | cons thread rest ih =>
      cases index with
      | zero =>
          simp only [List.getElem?_cons_zero, Option.some.injEq] at found
          subst found
          simp only [List.set_cons_zero, tally_cons]
          exact add_right_comm _ _ _ |>.trans (by rw [add_comm (weight new), add_right_comm])
      | succ index =>
          simp only [List.getElem?_cons_succ] at found
          simp only [List.set_cons_succ, tally_cons, add_assoc, ih found]

theorem tally_append [AddCommMonoid Amount] (weight : Thread → Amount)
    (first second : List Thread) :
    tally weight (first ++ second) = tally weight first + tally weight second := by
  simp [tally]

theorem tally_singleton [AddCommMonoid Amount] (weight : Thread → Amount) (thread : Thread) :
    tally weight [thread] = weight thread := by
  simp [tally]

theorem tally_eraseIdx [AddCommMonoid Amount] (weight : Thread → Amount) {pool : List Thread}
    {index : Nat} {old : Thread} (found : pool[index]? = some old) :
    tally weight (pool.eraseIdx index) + weight old = tally weight pool := by
  induction pool generalizing index with
  | nil => simp at found
  | cons thread rest ih =>
      cases index with
      | zero =>
          simp only [List.getElem?_cons_zero, Option.some.injEq] at found
          subst found
          rw [List.eraseIdx_zero, List.tail_cons, tally_cons, add_comm]
      | succ index =>
          simp only [List.getElem?_cons_succ] at found
          rw [List.eraseIdx_cons_succ, tally_cons, tally_cons, add_assoc, ih found]

/-- A total that is settled or held by some thread stays so when one thread's
own step accounts for every change. -/
theorem account_set [AddCancelCommMonoid Amount] {weight : Thread → Amount} {pool : List Thread}
    {index : Nat} {old new : Thread} {total settled total' settled' : Amount}
    (account : total = settled + tally weight pool) (found : pool[index]? = some old)
    (moved : settled' + weight new + total = settled + weight old + total') :
    total' = settled' + tally weight (pool.set index new) := by
  have exchanged := tally_set weight new found
  refine add_right_cancel (b := weight old + total) ?_
  calc total' + (weight old + total)
      = total' + (weight old + (settled + tally weight pool)) := by rw [← account]
    _ = (settled + weight old + total') + tally weight pool := by ac_rfl
    _ = (settled' + weight new + total) + tally weight pool := by rw [moved]
    _ = settled' + (tally weight pool + weight new) + total := by ac_rfl
    _ = settled' + (tally weight (pool.set index new) + weight old) + total := by rw [exchanged]
    _ = settled' + tally weight (pool.set index new) + (weight old + total) := by ac_rfl

theorem tally_replicate_zero [AddCommMonoid Amount] (weight : Thread → Amount) (thread : Thread)
    (empty : weight thread = 0) (count : Nat) :
    tally weight (List.replicate count thread) = 0 := by
  induction count with
  | zero => rfl
  | succ count ih => rw [List.replicate_succ, tally_cons, empty, ih, add_zero]

theorem tally_eq_zero [AddCommMonoid Amount] {weight : Thread → Amount} {pool : List Thread}
    (empty : ∀ thread ∈ pool, weight thread = 0) : tally weight pool = 0 := by
  induction pool with
  | nil => rfl
  | cons thread rest ih =>
      rw [tally_cons, empty thread (by simp), ih (fun other member => empty other (by simp [member])),
        add_zero]

theorem mem_tally {Item : Type} {weight : Thread → Multiset Item} {pool : List Thread}
    {thread : Thread} {item : Item} (member : thread ∈ pool) (held : item ∈ weight thread) :
    item ∈ tally weight pool := by
  induction pool with
  | nil => simp at member
  | cons first rest ih =>
      rw [tally_cons, Multiset.mem_add]
      rcases List.mem_cons.mp member with rfl | later
      · exact Or.inl held
      · exact Or.inr (ih later)

theorem le_tally {weight : Thread → Nat} {pool : List Thread} {thread : Thread}
    (member : thread ∈ pool) : weight thread ≤ tally weight pool := by
  induction pool with
  | nil => simp at member
  | cons first rest ih =>
      rw [tally_cons]
      rcases List.mem_cons.mp member with rfl | later
      · exact Nat.le_add_right _ _
      · exact Nat.le_trans (ih later) (Nat.le_add_left _ _)

theorem tally_le {weight : Thread → Nat} {pool : List Thread} {most : Nat}
    (each : ∀ thread ∈ pool, weight thread ≤ most) : tally weight pool ≤ most * pool.length := by
  induction pool with
  | nil => exact Nat.zero_le _
  | cons thread rest ih =>
      have own := each thread List.mem_cons_self
      have others := ih fun other member => each other (List.mem_cons_of_mem thread member)
      rw [tally_cons, List.length_cons, Nat.mul_succ]
      omega

theorem card_tally {Item : Type} (weight : Thread → Multiset Item) (pool : List Thread) :
    (tally weight pool).card = tally (fun thread => (weight thread).card) pool := by
  induction pool with
  | nil => rfl
  | cons thread rest ih => rw [tally_cons, tally_cons, Multiset.card_add, ih]

/-! Counting the threads at some place is the tally of an indicator. -/

def indicator (place : Thread → Bool) (thread : Thread) : Nat :=
  if place thread then 1 else 0

theorem countP_eq_tally (place : Thread → Bool) (pool : List Thread) :
    pool.countP place = tally (indicator place) pool := by
  induction pool with
  | nil => rfl
  | cons thread rest ih =>
      rw [List.countP_cons, ih, tally_cons, indicator, add_comm]

theorem countP_set (place : Thread → Bool) {pool : List Thread} {index : Nat} {old : Thread}
    (new : Thread) (found : pool[index]? = some old) :
    (pool.set index new).countP place + indicator place old =
      pool.countP place + indicator place new := by
  simp only [countP_eq_tally]
  exact tally_set (indicator place) new found

theorem two_le_countP {place : Thread → Bool} {pool : List Thread} {first second : Nat}
    {one other : Thread} (away : Thread) (different : first ≠ second) (foundOne : pool[first]? = some one)
    (foundOther : pool[second]? = some other) (atOne : place one = true)
    (atOther : place other = true) (outside : place away = false) : 2 ≤ pool.countP place := by
  have moved := countP_set place away foundOne
  have kept : (pool.set first away)[second]? = some other := by
    rw [List.getElem?_set_ne different]
    exact foundOther
  have remains : 0 < (pool.set first away).countP place :=
    List.countP_pos_iff.mpr ⟨other, List.mem_of_getElem? kept, atOther⟩
  simp only [indicator, atOne, outside, if_true, Bool.false_eq_true, if_false] at moved
  omega

theorem forall_set {property : Thread → Prop} {pool : List Thread} {index : Nat} {new : Thread}
    (others : ∀ thread ∈ pool, property thread) (own : property new) :
    ∀ thread ∈ pool.set index new, property thread := by
  intro thread member
  rcases List.mem_or_eq_of_mem_set member with old | same
  · exact others thread old
  · exact same ▸ own

/-! Lists up to order, for amounts that are made of items. -/

def bag {Item : Type} (items : List Item) : Multiset Item := items

@[simp] theorem bag_nil {Item : Type} : bag ([] : List Item) = 0 := rfl

@[simp] theorem bag_append {Item : Type} (first second : List Item) :
    bag (first ++ second) = bag first + bag second :=
  (Multiset.coe_add first second).symm

@[simp] theorem bag_singleton {Item : Type} (item : Item) : bag [item] = {item} := rfl

theorem bag_eq_bag {Item : Type} {first second : List Item} :
    bag first = bag second ↔ first.Perm second :=
  Multiset.coe_eq_coe

end Ledger
