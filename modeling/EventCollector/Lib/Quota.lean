import Mathlib.Algebra.BigOperators.Group.Finset.Piecewise

/-!
Items counted by kind against one limit: by how much all kinds together exceed it, in
whatever order the items come.
-/

namespace Quota

variable {Item : Type} [DecidableEq Item]

def uses (items : List Item) (kind : Item) : Nat := items.count kind

theorem uses_same (items : List Item) (kind : Item) :
    uses (items ++ [kind]) kind = uses items kind + 1 := by
  simp [uses]

theorem uses_other (items : List Item) {item kind : Item} (different : kind ≠ item) :
    uses (items ++ [item]) kind = uses items kind := by
  have absent : [item].count kind = 0 := List.count_eq_zero.mpr (by simpa using different)
  rw [uses, uses, List.count_append, absent, Nat.add_zero]

def excess (limit : Nat) (items : List Item) : Nat :=
  ∑ kind ∈ items.toFinset, (uses items kind - limit)

@[simp] theorem excess_nil (limit : Nat) : excess limit ([] : List Item) = 0 := rfl

theorem excess_perm (limit : Nat) {first second : List Item} (same : first.Perm second) :
    excess limit first = excess limit second := by
  rw [excess, excess, List.toFinset_eq_of_perm first second same]
  exact Finset.sum_congr rfl fun kind _ => by rw [uses, uses, same.count_eq]

theorem excess_over (limit : Nat) {items : List Item} {kinds : Finset Item}
    (among : items.toFinset ⊆ kinds) :
    excess limit items = ∑ kind ∈ kinds, (uses items kind - limit) := by
  refine Finset.sum_subset among ?_
  intro kind _ absent
  rw [uses, List.count_eq_zero.mpr (by simpa using absent), Nat.zero_sub]

/-- One more item exceeds the limit exactly when its kind has used the limit up. -/
theorem excess_snoc (limit : Nat) (items : List Item) (item : Item) :
    excess limit (items ++ [item]) =
      excess limit items + if limit ≤ uses items item then 1 else 0 := by
  have among : items.toFinset ⊆ (items ++ [item]).toFinset := by
    intro other member
    simp only [List.mem_toFinset, List.mem_append] at member ⊢
    exact Or.inl member
  have last : item ∈ (items ++ [item]).toFinset := by simp
  have each (kind : Item) : uses (items ++ [item]) kind - limit = (uses items kind - limit) +
      if item = kind then (if limit ≤ uses items item then 1 else 0) else 0 := by
    by_cases same : kind = item
    · subst same
      rw [uses_same, if_pos rfl]
      by_cases used : limit ≤ uses items kind
      · rw [if_pos used]
        omega
      · rw [if_neg used]
        omega
    · rw [uses_other items same, if_neg (Ne.symm same), Nat.add_zero]
  rw [excess_over limit among, excess]
  simp only [each, Finset.sum_add_distrib, Finset.sum_ite_eq, last, if_true]

end Quota
