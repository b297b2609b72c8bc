import Mathlib.Algebra.Order.Monoid.Defs
import Mathlib.Data.List.Basic
import Mathlib.Order.Basic

/-!
# Ordered placements of least cost

Items are placed one after another at indices that never decrease.  The best
placement of one more item ends a best placement of the items before it, and
the least of them is taken among the indices up to its own.
-/

namespace Placement

universe u v

variable {α : Type u} {R : Type v}

def total [Add R] [Zero R] (cost : α → Nat → R) : List α → List Nat → R
  | item :: items, index :: indices =>
    cost item index + total cost items indices
  | _, _ => 0

structure Placed (count : Nat) (items : List α) (indices : List Nat) :
    Prop where
  length_eq : indices.length = items.length
  inRange : ∀ index ∈ indices, index < count
  sorted : indices.Pairwise (· ≤ ·)

variable {count : Nat} {items : List α} {indices : List Nat} {item : α}

theorem Placed.single {last : Nat} (inRange : last < count) :
    Placed count [item] [last] := by
  constructor
  · rfl
  · intro index member
    rw [List.mem_singleton.mp member]
    exact inRange
  · exact List.pairwise_singleton _ _

theorem Placed.concat (placed : Placed count items indices) {last : Nat}
    (inRange : last < count) (after : ∀ index ∈ indices, index ≤ last) :
    Placed count (items ++ [item]) (indices ++ [last]) := by
  constructor
  · rw [List.length_append, List.length_append, placed.length_eq]
    rfl
  · intro index member
    rcases List.mem_append.mp member with before | final
    · exact placed.inRange index before
    · rw [List.mem_singleton.mp final]
      exact inRange
  · rw [List.pairwise_append]
    refine ⟨placed.sorted, List.pairwise_singleton _ _, ?_⟩
    intro index member final same
    rw [List.mem_singleton.mp same]
    exact after index member

theorem Placed.split (placed : Placed count (items ++ [item]) indices) :
    ∃ front last, indices = front ++ [last] ∧ Placed count items front ∧
      last < count ∧ ∀ index ∈ front, index ≤ last := by
  rcases List.eq_nil_or_concat indices with empty | ⟨front, last, split⟩
  · have length := placed.length_eq
    rw [empty, List.length_append] at length
    cases length
  · rw [List.concat_eq_append] at split
    subst split
    have length := placed.length_eq
    rw [List.length_append, List.length_append] at length
    have sorted := List.pairwise_append.mp placed.sorted
    refine ⟨front, last, rfl, ?_, ?_, ?_⟩
    · constructor
      · exact Nat.succ_injective length
      · intro index member
        exact placed.inRange index (List.mem_append_left _ member)
      · exact sorted.1
    · exact placed.inRange last
        (List.mem_append_right _ (List.mem_singleton_self _))
    · intro index member
      exact sorted.2.2 index member last (List.mem_singleton_self _)

theorem Placed.le_last (placed : Placed count items indices) {last : Nat}
    (ends : indices.getLast? = some last) : ∀ index ∈ indices, index ≤ last := by
  rcases List.eq_nil_or_concat indices with empty | ⟨front, final, split⟩
  · subst empty
    cases ends
  · rw [List.concat_eq_append] at split
    subst split
    rw [List.getLast?_concat] at ends
    cases ends
    intro index member
    rcases List.mem_append.mp member with before | same
    · exact (List.pairwise_append.mp placed.sorted).2.2 index before _
        (List.mem_singleton_self _)
    · exact Nat.le_of_eq (List.mem_singleton.mp same)

variable [AddCommMonoid R] {cost : α → Nat → R}

theorem total_concat (length : indices.length = items.length) (last : Nat) :
    total cost (items ++ [item]) (indices ++ [last]) =
      total cost items indices + cost item last := by
  induction items generalizing indices with
  | nil =>
    have empty := List.length_eq_zero_iff.mp length
    subst empty
    simp only [List.nil_append, total, add_zero, zero_add]
  | cons first items induction =>
    cases indices with
    | nil => cases length
    | cons index indices =>
      have later := induction (Nat.succ_injective length)
      simp only [List.cons_append, total]
      rw [later, add_assoc]

variable [LinearOrder R]

structure Best (cost : α → Nat → R) (count : Nat) (items : List α)
    (indices : List Nat) (last : Nat) : Prop where
  placed : Placed count items indices
  ends : indices.getLast? = some last
  least : ∀ other, Placed count items other → other.getLast? = some last →
    total cost items indices ≤ total cost items other

theorem Best.first {last : Nat} (inRange : last < count) :
    Best cost count [item] [last] last := by
  constructor
  · exact .single inRange
  · rfl
  · intro other placed ends
    have appended : Placed count ([] ++ [item]) other := placed
    obtain ⟨front, final, split, before, -, -⟩ := appended.split
    have empty := List.length_eq_zero_iff.mp before.length_eq
    subst empty
    subst split
    cases ends
    exact le_refl _

theorem Best.next [IsOrderedAddMonoid R] {best : Nat → List Nat}
    {last chosen : Nat} (some_items : items ≠ [])
    (inRange : last < count) (before : chosen ≤ last)
    (each : ∀ index, index ≤ last → Best cost count items (best index) index)
    (chosen_least : ∀ index, index ≤ last →
      total cost items (best chosen) ≤ total cost items (best index)) :
    Best cost count (items ++ [item]) (best chosen ++ [last]) last := by
  have own := each chosen before
  constructor
  · apply own.placed.concat inRange
    intro index member
    exact le_trans (own.placed.le_last own.ends index member) before
  · exact List.getLast?_concat
  · intro other placed ends
    obtain ⟨front, final, split, earlier, -, after⟩ := placed.split
    subst split
    rw [List.getLast?_concat] at ends
    cases ends
    rw [total_concat own.placed.length_eq, total_concat earlier.length_eq]
    apply add_le_add_left
    have some_front : front ≠ [] := by
      intro empty
      rw [empty] at earlier
      exact some_items (List.length_eq_zero_iff.mp earlier.length_eq.symm)
    obtain ⟨middle, ends⟩ : ∃ middle, front.getLast? = some middle := by
      rw [List.getLast?_eq_some_getLast some_front]
      exact ⟨_, rfl⟩
    have bound := after middle (List.mem_of_getLast? ends)
    exact le_trans (chosen_least middle bound)
      ((each middle bound).least front earlier ends)

structure Optimal (cost : α → Nat → R) (count : Nat) (items : List α)
    (indices : List Nat) : Prop where
  placed : Placed count items indices
  least : ∀ other, Placed count items other →
    total cost items indices ≤ total cost items other
  latest : ∀ other, Placed count items other →
    total cost items other ≤ total cost items indices →
    ∀ last final, other.getLast? = some last →
      indices.getLast? = some final → last ≤ final

theorem Optimal.of_best {best : Nat → List Nat} {chosen : Nat}
    (some_items : items ≠ []) (inRange : chosen < count)
    (each : ∀ index, index < count → Best cost count items (best index) index)
    (chosen_least : ∀ index, index < count →
      total cost items (best chosen) ≤ total cost items (best index))
    (chosen_latest : ∀ index, index < count →
      total cost items (best index) ≤ total cost items (best chosen) →
      index ≤ chosen) :
    Optimal cost count items (best chosen) := by
  have own := each chosen inRange
  have ended : ∀ other, Placed count items other →
      ∃ last, last < count ∧ other.getLast? = some last := by
    intro other placed
    have some_other : other ≠ [] := by
      intro empty
      rw [empty] at placed
      exact some_items (List.length_eq_zero_iff.mp placed.length_eq.symm)
    exact ⟨other.getLast some_other,
      placed.inRange _ (List.getLast_mem some_other),
      List.getLast?_eq_some_getLast some_other⟩
  constructor
  · exact own.placed
  · intro other placed
    obtain ⟨last, bound, ends⟩ := ended other placed
    exact le_trans (chosen_least last bound)
      ((each last bound).least other placed ends)
  · intro other placed cheap last final ends final_ends
    have bound := placed.inRange last (List.mem_of_getLast? ends)
    have here : final = chosen := by
      rw [own.ends] at final_ends
      exact (Option.some.inj final_ends).symm
    rw [here]
    apply chosen_latest last bound
    exact le_trans ((each last bound).least other placed ends) cheap

end Placement
