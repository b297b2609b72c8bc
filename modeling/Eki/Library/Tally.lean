import Mathlib.Algebra.Order.BigOperators.Group.List
import Mathlib.Algebra.Order.Ring.Nat

/-!
# Tallies

The total weight of a list, and what replacing one item does to it.
-/

namespace Tally

universe u

variable {Item : Type u}

def total (weight : Item → Nat) (items : List Item) : Nat :=
  (items.map weight).sum

theorem total_set (weight : Item → Nat) {items : List Item} {index : Nat}
    {old : Item} (new : Item) (found : items[index]? = some old) :
    total weight (items.set index new) + weight old =
      total weight items + weight new := by
  unfold total
  induction items generalizing index with
  | nil => cases found
  | cons item rest induction =>
    cases index with
    | zero =>
      cases found
      rw [List.set_cons_zero, List.map_cons, List.map_cons, List.sum_cons,
        List.sum_cons]
      omega
    | succ index =>
      have later := induction found
      rw [List.set_cons_succ, List.map_cons, List.map_cons, List.sum_cons,
        List.sum_cons]
      omega

end Tally
