import Mathlib.Algebra.BigOperators.Group.List.Basic
import Mathlib.Algebra.Order.Monoid.Defs
import Mathlib.Data.List.Forall2

/-!
# Least chains through layers

A chain takes one item of each layer, each after the one before it.  A chain
that is least among those with its last item is an item behind such a chain of
the layers before it, so that it is enough to keep one chain for each item of
the last layer.  Layers and chains are listed from the last one back.
-/

namespace Layers

universe u v

variable {α : Type u}

inductive Chain (before : α → α → Prop) : List (List α) → List α → Prop where
  | first {layer : List α} {item : α} (member : item ∈ layer) :
      Chain before [layer] [item]
  | next {layer : List α} {layers : List (List α)} {item last : α}
      {rest : List α} (member : item ∈ layer)
      (chain : Chain before layers (last :: rest))
      (behind : before last item) :
      Chain before (layer :: layers) (item :: last :: rest)

variable {before : α → α → Prop} {layers : List (List α)} {layer : List α}
  {chain : List α}

theorem chain_iff : Chain before layers chain ↔
    layers ≠ [] ∧ List.Forall₂ (fun item layer => item ∈ layer) chain layers ∧
      chain.IsChain fun item last => before last item := by
  constructor
  · intro walked
    induction walked with
    | first member =>
      exact ⟨List.cons_ne_nil _ _, .cons member .nil, .singleton _⟩
    | next member _ behind induction =>
      obtain ⟨_, members, linked⟩ := induction
      exact ⟨List.cons_ne_nil _ _, .cons member members,
        .cons_cons behind linked⟩
  · rintro ⟨some, members, linked⟩
    induction members with
    | nil => exact absurd rfl some
    | cons member members induction =>
      cases members with
      | nil => exact .first member
      | cons earlier members =>
        cases linked with
        | cons_cons behind linked =>
          exact .next member
            (induction (List.cons_ne_nil _ _) linked) behind

theorem Chain.earlier {front : List (List α)} (some : layers ≠ [])
    (walked : Chain before (front ++ layers) chain) :
    ∃ rest, Chain before layers rest := by
  induction front generalizing chain with
  | nil => exact ⟨chain, walked⟩
  | cons layer front induction =>
    cases walked' : front ++ layers with
    | nil => exact absurd (List.append_eq_nil_iff.mp walked').2 some
    | cons last earlier =>
      rw [List.cons_append, walked'] at walked
      cases walked with
      | next _ chain _ =>
        rw [← walked'] at chain
        exact induction chain

variable {R : Type v} [AddCommMonoid R] [LinearOrder R] {cost : α → R}

/-- The chain costs least among those that end with its last item. -/
structure Least (before : α → α → Prop) (cost : α → R)
    (layers : List (List α)) (chain : List α) : Prop where
  walked : Chain before layers chain
  least : ∀ other, Chain before layers other → other.head? = chain.head? →
    (chain.map cost).sum ≤ (other.map cost).sum

structure Frontier (before : α → α → Prop) (cost : α → R)
    (layers : List (List α)) (kept : List α → Prop) : Prop where
  least : ∀ chain, kept chain → Least before cost layers chain
  covers : ∀ other, Chain before layers other →
    ∃ chain, kept chain ∧ chain.head? = other.head?

theorem Least.first {item : α} (member : item ∈ layer) :
    Least before cost [layer] [item] := by
  constructor
  · exact .first member
  · intro other walked same
    cases walked with
    | first _ =>
      cases same
      exact le_refl _
    | next _ chain _ => cases chain

theorem Least.next [IsOrderedAddMonoid R] {kept : List α → Prop}
    (frontier : Frontier before cost layers kept) {item last : α}
    {rest : List α} (member : item ∈ layer) (own : kept (last :: rest))
    (behind : before last item)
    (chosen : ∀ previous earlier, kept (previous :: earlier) →
      before previous item →
      ((last :: rest).map cost).sum ≤ ((previous :: earlier).map cost).sum) :
    Least before cost (layer :: layers) (item :: last :: rest) := by
  have walkedOwn := (frontier.least _ own).walked
  constructor
  · exact .next member walkedOwn behind
  · intro other walked same
    cases walked with
    | first _ => cases walkedOwn
    | @next _ _ _ previous earlier _ walked followed =>
      cases same
      obtain ⟨chain, held, ends⟩ := frontier.covers _ walked
      have cheaper := (frontier.least chain held).least _ walked ends.symm
      cases chain with
      | nil => cases ends
      | cons head tail =>
        cases ends
        rw [List.map_cons, List.sum_cons, List.map_cons, List.sum_cons]
        apply add_le_add_right
        exact le_trans (chosen previous tail held followed) cheaper

theorem Frontier.optimal {kept : List α → Prop}
    (frontier : Frontier before cost layers kept)
    (chosen : ∀ other, kept other →
      (chain.map cost).sum ≤ (other.map cost).sum)
    {other : List α} (walked : Chain before layers other) :
    (chain.map cost).sum ≤ (other.map cost).sum := by
  obtain ⟨own, held, ends⟩ := frontier.covers other walked
  exact le_trans (chosen own held)
    ((frontier.least own held).least other walked ends.symm)

end Layers
