import Eki.Library.Insertion

/-!
# The entries of an ordered map

Up to their order, the entries of a map are the entry of one key and those of
the others.  What is collected over all the entries changes with the entry of
one key only.
-/

namespace Insertion.OrderedMap

universe u v w

variable {κ : Type u} {α : Type v} {β : Type w} [DecidableEq κ]
  {map : OrderedMap κ α} {key : κ} {value : α}

theorem delete_of_get_none (absent : map.get key = none) :
    (map.delete key).entries = map.entries := by
  have missing := get_eq_none_iff.mp absent
  unfold delete keep
  rw [List.filter_eq_self]
  intro entry member
  have different := List.any_eq_false.mp missing entry member
  simpa using different

theorem perm_focus {items : List β} (keyOf : β → κ)
    (nodup : (items.map keyOf).Nodup) {item : β} (member : item ∈ items) :
    items.Perm
      (item :: items.filter fun other => keyOf other ≠ keyOf item) := by
  induction items with
  | nil => cases member
  | cons head rest induction =>
    rw [List.map_cons, List.nodup_cons] at nodup
    rcases List.mem_cons.mp member with same | later
    · subst same
      rw [List.filter_cons_of_neg (by simp)]
      apply List.Perm.cons
      apply List.Perm.of_eq
      symm
      rw [List.filter_eq_self]
      intro other found
      apply decide_eq_true
      intro same
      apply nodup.1
      rw [← same]
      exact List.mem_map_of_mem found
    · have different : keyOf head ≠ keyOf item := by
        intro same
        apply nodup.1
        rw [same]
        exact List.mem_map_of_mem later
      rw [List.filter_cons_of_pos (by simpa using different)]
      exact ((induction nodup.2 later).cons head).trans
        (List.Perm.swap _ _ _)

theorem perm_of_get (stored : map.get key = some value) :
    map.entries.Perm ((key, value) :: (map.delete key).entries) :=
  perm_focus Prod.fst map.unique (mem_entries_iff.mpr stored)

theorem delete_set (map : OrderedMap κ α) (key : κ) (value : α) :
    ((map.set key value).delete key).entries = (map.delete key).entries := by
  unfold delete keep set
  split
  · simp only
    rw [List.filter_map]
    have unchanged : ((fun entry : κ × α => decide (entry.1 ≠ key)) ∘
        replaced key value) = fun entry => decide (entry.1 ≠ key) := by
      funext entry
      simp only [Function.comp, replaced_fst]
    rw [unchanged]
    have kept : ∀ entry ∈ map.entries.filter fun entry => entry.1 ≠ key,
        replaced key value entry = id entry := by
      intro entry member
      have different := (List.mem_filter.mp member).2
      unfold replaced
      rw [if_neg (of_decide_eq_true different)]
      rfl
    exact (List.map_congr_left kept).trans (List.map_id _)
  · simp

theorem perm_set (map : OrderedMap κ α) (key : κ) (value : α) :
    (map.set key value).entries.Perm
      ((key, value) :: (map.delete key).entries) := by
  have stored : (map.set key value).get key = some value := get_set_self
  have whole := perm_of_get stored
  rw [delete_set] at whole
  exact whole

/-! ## What is collected over the entries -/

def collect (map : OrderedMap κ α) (items : α → List β) : List β :=
  map.entries.flatMap fun entry => items entry.2

variable (items : α → List β)

theorem collect_of_get (stored : map.get key = some value) :
    (map.collect items).Perm
      (items value ++ (map.delete key).collect items) :=
  (perm_of_get stored).flatMap_right _

theorem collect_of_get_none (absent : map.get key = none) :
    map.collect items = (map.delete key).collect items := by
  unfold collect
  rw [delete_of_get_none absent]

theorem collect_set (map : OrderedMap κ α) (key : κ) (value : α) :
    ((map.set key value).collect items).Perm
      (items value ++ (map.delete key).collect items) :=
  (perm_set map key value).flatMap_right _

theorem mem_collect {items : α → List β} {item : β} :
    item ∈ map.collect items ↔
      ∃ key value, map.get key = some value ∧ item ∈ items value := by
  unfold collect
  rw [List.mem_flatMap]
  constructor
  · rintro ⟨⟨key, value⟩, member, inside⟩
    exact ⟨key, value, mem_entries_iff.mp member, inside⟩
  · rintro ⟨key, value, stored, inside⟩
    exact ⟨(key, value), mem_entries_iff.mpr stored, inside⟩

/-! ## One key -/

/-- What one key holds afterwards, if anything. -/
def put (map : OrderedMap κ α) (key : κ) (value : Option α) :
    OrderedMap κ α :=
  value.elim (map.delete key) (map.set key)

theorem get_put (map : OrderedMap κ α) (key other : κ) (value : Option α) :
    (map.put key value).get other =
      if other = key then value else map.get other := by
  split
  · rename_i same
    subst same
    cases value with
    | none => exact get_delete_self
    | some value => exact get_set_self
  · rename_i different
    cases value with
    | none => exact get_delete_of_ne different
    | some value => exact get_set_of_ne different

/-- The items of an entry that may be missing. -/
def itemsOf (items : α → List β) (value : Option α) : List β :=
  (value.map items).getD []

theorem collect_put (map : OrderedMap κ α) (key : κ) (value : Option α) :
    ((map.put key value).collect items).Perm
      (itemsOf items value ++ (map.delete key).collect items) := by
  cases value with
  | none => exact List.Perm.refl _
  | some value => exact collect_set items map key value

theorem collect_get (map : OrderedMap κ α) (key : κ) :
    (map.collect items).Perm
      (itemsOf items (map.get key) ++ (map.delete key).collect items) := by
  cases found : map.get key with
  | none => exact List.Perm.of_eq (collect_of_get_none items found)
  | some value => exact collect_of_get items found

theorem perm_of_get_eq {other : OrderedMap κ α}
    (same : ∀ key, map.get key = other.get key) :
    map.entries.Perm other.entries := by
  rw [List.perm_ext_iff_of_nodup map.unique.of_map other.unique.of_map]
  rintro ⟨key, value⟩
  rw [mem_entries_iff, mem_entries_iff, same]

end Insertion.OrderedMap
