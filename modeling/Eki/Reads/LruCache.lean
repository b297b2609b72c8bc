import Eki.Library.Insertion

/-!
# Caches by least recent use

Reads and overwrites put an entry last; once there are too many entries, the
first ones go.
-/

namespace Eki.Reads

open Insertion

variable {κ α : Type} [DecidableEq κ]

namespace LruCache

/-- What `get` leaves: a hit counts as a use. -/
def touch (key : κ) (cache : OrderedMap κ α) : OrderedMap κ α :=
  match cache.get key with
  | none => cache
  | some value => (cache.delete key).set key value

omit [DecidableEq κ] in
/-- The oldest entries go while there are too many. -/
def evict (maxSize : Nat) (cache : OrderedMap κ α) : OrderedMap κ α where
  entries := cache.entries.drop (cache.size - maxSize)
  unique := cache.unique.sublist ((List.drop_sublist _ _).map Prod.fst)

def set (maxSize : Nat) (key : κ) (value : α) (cache : OrderedMap κ α) :
    OrderedMap κ α :=
  evict maxSize ((cache.delete key).set key value)

variable {cache : OrderedMap κ α} {key other : κ} {value found : α}

theorem get_reinserted (same : cache.get key = some value) :
    ((cache.delete key).set key value).get other = cache.get other := by
  by_cases own : other = key
  · subst own
    rw [OrderedMap.get_set_self, same]
  · rw [OrderedMap.get_set_of_ne own, OrderedMap.get_delete_of_ne own]

/-- A use changes the order only. -/
@[simp] theorem get_touch : (touch key cache).get other = cache.get other := by
  unfold touch
  split
  · rfl
  · rename_i value stored
    exact get_reinserted stored

theorem get_of_get_evict {maxSize : Nat}
    (stored : (evict maxSize cache).get key = some value) :
    cache.get key = some value := by
  rw [← OrderedMap.mem_entries_iff] at stored ⊢
  exact List.mem_of_mem_drop stored

theorem get_of_get_set {maxSize : Nat}
    (stored : (set maxSize key value cache).get other = some found) :
    other = key ∧ found = value ∨ cache.get other = some found := by
  have held := get_of_get_evict stored
  by_cases own : other = key
  · subst own
    rw [OrderedMap.get_set_self] at held
    exact .inl ⟨rfl, (Option.some.inj held).symm⟩
  · rw [OrderedMap.get_set_of_ne own, OrderedMap.get_delete_of_ne own] at held
    exact .inr held

theorem get_of_get_set_self {maxSize : Nat}
    (stored : (set maxSize key value cache).get key = some found) :
    found = value := by
  have held := get_of_get_evict stored
  rw [OrderedMap.get_set_self] at held
  exact (Option.some.inj held).symm

end LruCache

end Eki.Reads
