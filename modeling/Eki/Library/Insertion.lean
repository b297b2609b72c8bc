import Mathlib.Data.List.Nodup

/-!
# Maps in the order of insertion

A map lists its entries in the order in which their keys were first set.  A
bounded insertion makes room for a new key by deleting the oldest one.
-/

namespace Insertion

universe u v

structure OrderedMap (κ : Type u) (α : Type v) where
  entries : List (κ × α)
  unique : (entries.map Prod.fst).Nodup

namespace OrderedMap

variable {κ : Type u} {α : Type v}

def empty : OrderedMap κ α where
  entries := []
  unique := List.nodup_nil

def size (map : OrderedMap κ α) : Nat :=
  map.entries.length

def oldest (map : OrderedMap κ α) : Option κ :=
  map.entries.head?.map Prod.fst

/-- The entries whose key is to stay. -/
def keep (map : OrderedMap κ α) (stays : κ → Bool) : OrderedMap κ α where
  entries := map.entries.filter fun entry => stays entry.1
  unique := map.unique.sublist (List.filter_sublist.map Prod.fst)

variable [DecidableEq κ]

def get (map : OrderedMap κ α) (key : κ) : Option α :=
  (map.entries.find? fun entry => entry.1 = key).map Prod.snd

def has (map : OrderedMap κ α) (key : κ) : Bool :=
  map.entries.any fun entry => entry.1 = key

def delete (map : OrderedMap κ α) (key : κ) : OrderedMap κ α :=
  map.keep fun other => other ≠ key

def replaced (key : κ) (value : α) (entry : κ × α) : κ × α :=
  if entry.1 = key then (entry.1, value) else entry

theorem replaced_fst (key : κ) (value : α) (entry : κ × α) :
    (replaced key value entry).1 = entry.1 := by
  unfold replaced
  split <;> rfl

theorem map_fst_replaced (key : κ) (value : α) (entries : List (κ × α)) :
    (entries.map (replaced key value)).map Prod.fst =
      entries.map Prod.fst := by
  rw [List.map_map]
  apply List.map_congr_left
  intro entry _
  exact replaced_fst key value entry

theorem not_mem_of_has {map : OrderedMap κ α} {key : κ}
    (absent : map.has key = false) : key ∉ map.entries.map Prod.fst := by
  intro member
  obtain ⟨entry, stored, same⟩ := List.mem_map.mp member
  have different := List.any_eq_false.mp absent entry stored
  exact different (decide_eq_true same)

theorem unique_append {map : OrderedMap κ α} {key : κ} (value : α)
    (absent : map.has key = false) :
    ((map.entries ++ [(key, value)]).map Prod.fst).Nodup := by
  have longer := List.Nodup.concat (not_mem_of_has absent) map.unique
  rw [List.concat_eq_append] at longer
  rw [List.map_append]
  exact longer

/-- A key that is there keeps its place. -/
def set (map : OrderedMap κ α) (key : κ) (value : α) : OrderedMap κ α :=
  if present : map.has key then
    { entries := map.entries.map (replaced key value)
      unique := (map_fst_replaced key value map.entries).symm ▸ map.unique }
  else
    { entries := map.entries ++ [(key, value)]
      unique := unique_append value (Bool.not_eq_true _ ▸ present) }

/-- Where a new key finds the map full, it takes the place of the oldest. -/
def makeRoom (map : OrderedMap κ α) (limit : Nat) (key : κ) :
    OrderedMap κ α :=
  if !map.has key && decide (limit ≤ map.size) then
    map.oldest.elim map map.delete
  else map

def setWithin (map : OrderedMap κ α) (limit : Nat) (key : κ) (value : α) :
    OrderedMap κ α :=
  (map.makeRoom limit key).set key value

/-! ## What a key holds -/

variable {map : OrderedMap κ α} {key other : κ} {value found : α}

theorem get_keep (stays : κ → Bool) :
    (map.keep stays).get key = if stays key then map.get key else none := by
  unfold get keep
  rw [List.find?_filter]
  by_cases kept : stays key = true
  · rw [if_pos kept]
    congr 2
    funext entry
    by_cases same : entry.1 = key
    · simp [same, kept]
    · simp [same]
  · rw [if_neg kept, Option.map_eq_none_iff, List.find?_eq_none]
    intro entry _ chosen
    simp only [decide_eq_true_eq] at chosen
    rw [chosen.2] at chosen
    exact kept chosen.1

theorem get_of_get_keep {stays : κ → Bool}
    (stored : (map.keep stays).get key = some found) :
    map.get key = some found ∧ stays key = true := by
  rw [get_keep] at stored
  split at stored
  · rename_i kept
    exact ⟨stored, kept⟩
  · cases stored

theorem get_delete_self : (map.delete key).get key = none := by
  unfold delete
  rw [get_keep, if_neg]
  simp

theorem get_delete_of_ne (different : other ≠ key) :
    (map.delete key).get other = map.get other := by
  unfold delete
  rw [get_keep, if_pos (decide_eq_true different)]

theorem get_of_get_delete (stored : (map.delete key).get other = some found) :
    map.get other = some found :=
  (get_of_get_keep stored).1

theorem get_eq_none_iff : map.get key = none ↔ map.has key = false := by
  unfold get has
  rw [Option.map_eq_none_iff, List.find?_eq_none, List.any_eq_false]

theorem mem_entries_iff :
    (key, value) ∈ map.entries ↔ map.get key = some value := by
  unfold get
  constructor
  · intro member
    have some_of : (map.entries.find?
        fun entry => decide (entry.1 = key)).isSome = true :=
      List.find?_isSome.mpr ⟨(key, value), member, decide_eq_true rfl⟩
    obtain ⟨entry, chosen⟩ := Option.isSome_iff_exists.mp some_of
    have matched := List.find?_some chosen
    have same := of_decide_eq_true matched
    have equal : entry = (key, value) :=
      List.inj_on_of_nodup_map map.unique (List.mem_of_find?_eq_some chosen)
        member same
    rw [chosen, equal]
    rfl
  · intro stored
    obtain ⟨entry, chosen, rfl⟩ := Option.map_eq_some_iff.mp stored
    have matched := List.find?_some chosen
    rw [← of_decide_eq_true matched]
    exact List.mem_of_find?_eq_some chosen

theorem get_set_self : (map.set key value).get key = some value := by
  unfold set
  split
  · rename_i present
    obtain ⟨entry, stored, same⟩ := List.any_eq_true.mp present
    have some_of : ∃ first, map.entries.find?
        (fun entry => decide (entry.1 = key)) = some first := by
      apply Option.isSome_iff_exists.mp
      exact List.find?_isSome.mpr ⟨entry, stored, same⟩
    obtain ⟨first, chosen⟩ := some_of
    have match_first := List.find?_some chosen
    unfold get
    simp only
    rw [List.find?_map]
    have unchanged : (fun entry : κ × α => decide (entry.1 = key)) ∘
        replaced key value = fun entry => decide (entry.1 = key) := by
      funext entry
      simp only [Function.comp, replaced_fst]
    rw [unchanged, chosen]
    unfold replaced
    simp only [Option.map_some, if_pos (of_decide_eq_true match_first)]
  · rename_i absent
    have before : map.entries.find? (fun entry => decide (entry.1 = key)) =
        none := by
      apply Option.map_eq_none_iff.mp
      exact get_eq_none_iff.mpr (Bool.not_eq_true _ ▸ absent)
    unfold get
    simp only
    rw [List.find?_append, before]
    simp

theorem get_set_of_ne (different : other ≠ key) :
    (map.set key value).get other = map.get other := by
  unfold set
  split
  · unfold get
    simp only
    rw [List.find?_map]
    have unchanged : (fun entry : κ × α => decide (entry.1 = other)) ∘
        replaced key value = fun entry => decide (entry.1 = other) := by
      funext entry
      simp only [Function.comp, replaced_fst]
    rw [unchanged, Option.map_map]
    cases chosen : map.entries.find? fun entry => decide (entry.1 = other) with
    | none => rfl
    | some entry =>
      have same := List.find?_some chosen
      have untouched : entry.1 ≠ key := by
        rw [of_decide_eq_true same]
        exact different
      simp only [Option.map_some, Function.comp, replaced, if_neg untouched]
  · unfold get
    simp only
    rw [List.find?_append]
    have skipped : [(key, value)].find?
        (fun entry => decide (entry.1 = other)) = none := by
      simp [Ne.symm different]
    rw [skipped, Option.or_none]

theorem oldest_set_ne (absent : map.get key = none) (several : 0 < map.size)
    (oldest : (map.set key value).oldest = some other) : other ≠ key := by
  have missing := get_eq_none_iff.mp absent
  have entries : (map.set key value).entries =
      map.entries ++ [(key, value)] := by
    unfold set
    rw [dif_neg (by simp [missing])]
  unfold OrderedMap.oldest at oldest
  rw [entries] at oldest
  cases listed : map.entries with
  | nil =>
    unfold size at several
    rw [listed] at several
    cases several
  | cons entry rest =>
    rw [listed] at oldest
    cases oldest
    have different := List.any_eq_false.mp missing entry
      (by rw [listed]; exact List.mem_cons_self)
    simpa using different


theorem get_of_get_makeRoom {limit : Nat}
    (stored : (map.makeRoom limit key).get other = some found) :
    map.get other = some found := by
  unfold makeRoom at stored
  split at stored
  · cases first : map.oldest with
    | none =>
      rw [first] at stored
      exact stored
    | some oldest =>
      rw [first] at stored
      exact get_of_get_delete stored
  · exact stored

/-- What a bounded insertion leaves under a key is the new value, or was there
before. -/
theorem get_of_get_setWithin {limit : Nat}
    (stored : (map.setWithin limit key value).get other = some found) :
    (other = key ∧ found = value) ∨ map.get other = some found := by
  unfold setWithin at stored
  by_cases same : other = key
  · left
    rw [same, get_set_self] at stored
    exact ⟨same, (Option.some.inj stored).symm⟩
  · right
    rw [get_set_of_ne same] at stored
    exact get_of_get_makeRoom stored

theorem get_setWithin_of_ne {limit : Nat} (different : other ≠ key) :
    (map.setWithin limit key value).get other = map.get other ∨
      (map.get key = none ∧ limit ≤ map.size ∧ map.oldest = some other) := by
  unfold setWithin
  rw [get_set_of_ne different]
  unfold makeRoom
  split
  · rename_i full
    rw [Bool.and_eq_true, Bool.not_eq_true', decide_eq_true_eq] at full
    cases first : map.oldest with
    | none => exact Or.inl rfl
    | some oldest =>
      by_cases evicted : other = oldest
      · right
        rw [evicted]
        exact ⟨get_eq_none_iff.mpr full.1, full.2, rfl⟩
      · left
        exact get_delete_of_ne evicted
  · exact Or.inl rfl

end OrderedMap

end Insertion
