import Mathlib.Data.List.Infix
import Mathlib.Order.Lattice

/-!
Timed items in windows of one length, each window opened when the one before it
is over. No stretch of time as long as a window meets more than two of them.
-/

namespace Windows

structure Window (Item : Type) (time : Item → Nat) (span : Nat) where
  start : Nat
  items : List Item
  inside : ∀ item ∈ items, start ≤ time item ∧ time item < start + span

variable {Item : Type} {time : Item → Nat} {span : Nat}

def Spaced (windows : List (Window Item time span)) : Prop :=
  windows.Pairwise fun earlier later => earlier.start + span ≤ later.start

def within (time : Item → Nat) (span start : Nat) (item : Item) : Bool :=
  decide (start ≤ time item ∧ time item < start + span)

variable (keep : Item → Bool) {limit : Nat} (start : Nat)

theorem countP_outside {items : List Item}
    (outside : ∀ item ∈ items, ¬ (start ≤ time item ∧ time item < start + span)) :
    items.countP (fun item => keep item && within time span start item) = 0 := by
  rw [List.countP_eq_zero]
  intro item member
  simp [within, outside item member]

theorem countP_after {windows : List (Window Item time span)}
    (after : ∀ window ∈ windows, start + span ≤ window.start) :
    (windows.flatMap Window.items).countP
      (fun item => keep item && within time span start item) = 0 := by
  refine countP_outside keep start ?_
  intro item member
  obtain ⟨window, among, held⟩ := List.mem_flatMap.mp member
  have later := after window among
  have bounds := window.inside item held
  omega

theorem countP_within_le (window : Window Item time span)
    (bounded : window.items.countP keep ≤ limit) :
    window.items.countP (fun item => keep item && within time span start item) ≤ limit := by
  refine le_trans (List.countP_mono_left ?_) bounded
  intro item _ both
  simp only [Bool.and_eq_true] at both
  exact both.1

/-- Of windows that all open from `start` on, at most one opens in time. -/
theorem countP_opened_le {windows : List (Window Item time span)} (spaced : Spaced windows)
    (bounded : ∀ window ∈ windows, window.items.countP keep ≤ limit)
    (opened : ∀ window ∈ windows, start ≤ window.start) :
    (windows.flatMap Window.items).countP
      (fun item => keep item && within time span start item) ≤ limit := by
  cases windows with
  | nil => exact Nat.zero_le limit
  | cons first rest =>
      have order := List.pairwise_cons.mp spaced
      have earliest := opened first List.mem_cons_self
      have one := countP_within_le keep start first (bounded first List.mem_cons_self)
      have none := countP_after keep start fun window member => by
        have gap := order.1 window member
        omega
      rw [List.flatMap_cons, List.countP_append]
      omega

theorem countP_interval_le {windows : List (Window Item time span)} (spaced : Spaced windows)
    (bounded : ∀ window ∈ windows, window.items.countP keep ≤ limit) :
    (windows.flatMap Window.items).countP
      (fun item => keep item && within time span start item) ≤ 2 * limit := by
  induction windows with
  | nil => exact Nat.zero_le _
  | cons first rest ih =>
      have order := List.pairwise_cons.mp spaced
      have later (window : Window Item time span) (member : window ∈ rest) :
          window.items.countP keep ≤ limit := bounded window (List.mem_cons_of_mem first member)
      rw [List.flatMap_cons, List.countP_append]
      by_cases meets : ∃ item ∈ first.items, start ≤ time item ∧ time item < start + span
      · obtain ⟨item, member, reached, _⟩ := meets
        have bounds := first.inside item member
        have one := countP_within_le keep start first (bounded first List.mem_cons_self)
        have other := countP_opened_le keep start order.2 later fun window member => by
          have gap := order.1 window member
          omega
        omega
      · have none := countP_outside keep start
          fun item member inside => meets ⟨item, member, inside⟩
        have remaining := ih order.2 later
        omega

end Windows
