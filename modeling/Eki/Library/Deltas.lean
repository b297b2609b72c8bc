import Eki.Library.Insertion

/-!
# Deltas of a map

A delta sets or clears one key of a map.  Replayed onto a map, a log of deltas
leaves under each key its last word on it, and what the map held where it has
none.
-/

namespace Deltas

open Insertion

universe u v

variable {κ : Type u} {α : Type v}

inductive Delta (κ : Type u) (α : Type v) where
  | upsert (key : κ) (value : α)
  | remove (key : κ)
  deriving DecidableEq

namespace Delta

def key : Delta κ α → κ
  | .upsert key _ => key
  | .remove key => key

/-- What the delta leaves under its key. -/
def value : Delta κ α → Option α
  | .upsert _ value => some value
  | .remove _ => none

variable [DecidableEq κ]

def apply (delta : Delta κ α) (map : κ → Option α) : κ → Option α :=
  Function.update map delta.key delta.value

/-- The same of a map that lists its entries. -/
def applyTo (delta : Delta κ α) (map : OrderedMap κ α) : OrderedMap κ α :=
  match delta with
  | .upsert key value => map.set key value
  | .remove key => map.delete key

theorem get_applyTo (delta : Delta κ α) (map : OrderedMap κ α) :
    (delta.applyTo map).get = delta.apply map.get := by
  funext other
  unfold apply
  cases delta with
  | upsert key value =>
    by_cases same : other = key
    · subst same
      rw [Delta.key, Delta.value, Function.update_self]
      exact OrderedMap.get_set_self
    · rw [Delta.key, Function.update_of_ne same]
      exact OrderedMap.get_set_of_ne same
  | remove key =>
    by_cases same : other = key
    · subst same
      rw [Delta.key, Delta.value, Function.update_self]
      exact OrderedMap.get_delete_self
    · rw [Delta.key, Function.update_of_ne same]
      exact OrderedMap.get_delete_of_ne same

end Delta

variable [DecidableEq κ]

def replay (deltas : List (Delta κ α)) (map : κ → Option α) : κ → Option α :=
  deltas.foldl (fun map delta => delta.apply map) map

def lastWord (key : κ) : List (Delta κ α) → Option (Option α)
  | [] => none
  | delta :: later =>
    (lastWord key later).or
      (if delta.key = key then some delta.value else none)

theorem replay_apply (deltas : List (Delta κ α)) (map : κ → Option α)
    (key : κ) :
    replay deltas map key = (lastWord key deltas).getD (map key) := by
  induction deltas generalizing map with
  | nil => rfl
  | cons delta later induction =>
    have rest := induction (delta.apply map)
    unfold replay at rest ⊢
    rw [List.foldl_cons, rest, lastWord]
    cases lastWord key later with
    | some word => rfl
    | none =>
      unfold Delta.apply
      by_cases same : delta.key = key
      · simp [same]
      · simp [same, Function.update_of_ne (Ne.symm same)]

theorem lastWord_append (key : κ) (front back : List (Delta κ α)) :
    lastWord key (front ++ back) =
      (lastWord key back).or (lastWord key front) := by
  induction front with
  | nil => simp [lastWord]
  | cons delta rest induction =>
    rw [List.cons_append, lastWord, lastWord, induction, Option.or_assoc]

variable {key : κ} {deltas : List (Delta κ α)}

theorem exists_of_lastWord {word : Option α}
    (last : lastWord key deltas = some word) :
    ∃ delta ∈ deltas, delta.key = key ∧ delta.value = word := by
  induction deltas with
  | nil => cases last
  | cons delta later induction =>
    rw [lastWord] at last
    rcases Option.or_eq_some_iff.mp last with after | ⟨-, here⟩
    · obtain ⟨other, member, same⟩ := induction after
      exact ⟨other, List.mem_cons_of_mem delta member, same⟩
    · split at here
      · rename_i same
        exact ⟨delta, List.mem_cons_self, same, Option.some.inj here⟩
      · cases here

theorem lastWord_eq_none_iff :
    lastWord key deltas = none ↔ ∀ delta ∈ deltas, delta.key ≠ key := by
  induction deltas with
  | nil => simp [lastWord]
  | cons delta later induction =>
    simp [lastWord, Option.or_eq_none_iff, induction, and_comm]

theorem lastWord_of_agree {word : Option α}
    (said : ∃ delta ∈ deltas, delta.key = key)
    (agree : ∀ delta ∈ deltas, delta.key = key → delta.value = word) :
    lastWord key deltas = some word := by
  obtain ⟨delta, member, same⟩ := said
  cases last : lastWord key deltas with
  | none => exact absurd same (lastWord_eq_none_iff.mp last delta member)
  | some other =>
    obtain ⟨found, inside, own, value⟩ := exists_of_lastWord last
    rw [← value, agree found inside own]

end Deltas
