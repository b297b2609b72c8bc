import Mathlib.Data.List.Basic
import Mathlib.Data.List.GetD
import Mathlib.Logic.Function.Basic

/-!
# Ring buffers

A ring keeps a list in an array: its head is the place of the oldest item, and
the others follow it around the end of the array.
-/

namespace Ring

open Function (update update_of_ne update_self)

universe u

variable {α : Type u} {capacity head count : Nat}

/-- The place of the item with this index. -/
def slot (capacity head index : Nat) : Nat :=
  (head + index) % capacity

/-- The list that the ring keeps, oldest first. -/
def contents (cells : Nat → α) (capacity head count : Nat) : List α :=
  (List.range count).map fun index => cells (slot capacity head index)

theorem slot_lt (positive : 0 < capacity) (head index : Nat) :
    slot capacity head index < capacity :=
  Nat.mod_lt _ positive

variable {index : Nat}

/-- The place without a remainder. -/
theorem slot_eq (start : head < capacity) (bound : index ≤ capacity) :
    slot capacity head index =
      if head + index < capacity then head + index
      else head + index - capacity := by
  unfold slot
  split
  · rename_i inside
    exact Nat.mod_eq_of_lt inside
  · rename_i outside
    rw [Nat.mod_eq_sub_mod (by omega), Nat.mod_eq_of_lt (by omega)]

theorem slot_inj {first second : Nat} (start : head < capacity)
    (left : first < capacity) (right : second < capacity)
    (same : slot capacity head first = slot capacity head second) :
    first = second := by
  rw [slot_eq start (Nat.le_of_lt left), slot_eq start (Nat.le_of_lt right)]
    at same
  split at same <;> split at same <;> omega

/-- From the place of a later item the others are closer. -/
theorem slot_slot (offset index : Nat) :
    slot capacity (slot capacity head offset) index =
      slot capacity head (offset + index) := by
  unfold slot
  rw [Nat.mod_add_mod, Nat.add_assoc]

theorem slot_capacity (start : head < capacity) :
    slot capacity head capacity = head := by
  unfold slot
  rw [Nat.add_mod_right]
  exact Nat.mod_eq_of_lt start

@[simp] theorem length_contents (cells : Nat → α) :
    (contents cells capacity head count).length = count := by
  simp [contents]

@[simp] theorem getElem_contents (cells : Nat → α) (index : Nat)
    (bound : index < (contents cells capacity head count).length) :
    (contents cells capacity head count)[index] =
      cells (slot capacity head index) := by
  simp [contents]

theorem contents_succ (cells : Nat → α) :
    contents cells capacity head (count + 1) =
      contents cells capacity head count ++
        [cells (slot capacity head count)] := by
  unfold contents
  rw [List.range_succ, List.map_append, List.map_singleton]

variable {first second : Nat → α}

/-- Only the places of the items matter. -/
theorem contents_congr (same : ∀ index < count,
      first (slot capacity head index) = second (slot capacity head index)) :
    contents first capacity head count =
      contents second capacity head count := by
  unfold contents
  apply List.map_congr_left
  intro index member
  exact same index (List.mem_range.mp member)

section

variable (cells : Nat → α)

include cells

theorem contents_update (value : α) (start : head < capacity)
    (outside : count ≤ index) (bound : index < capacity) :
    contents (update cells (slot capacity head index) value) capacity
        head count =
      contents cells capacity head count := by
  apply contents_congr
  intro other inside
  apply update_of_ne
  intro same
  have equal := slot_inj start (by omega) bound same
  omega

/-- An item is written behind the others. -/
theorem contents_push (value : α) (start : head < capacity)
    (room : count < capacity) :
    contents (update cells (slot capacity head count) value) capacity
        head (count + 1) =
      contents cells capacity head count ++ [value] := by
  rw [contents_succ, contents_update cells value start (Nat.le_refl count) room,
    update_self]

theorem contents_drop (capacity head count dropped : Nat) :
    contents cells capacity (slot capacity head dropped) (count - dropped) =
      (contents cells capacity head count).drop dropped := by
  apply List.ext_getElem
  · simp
  · intro index left right
    simp [slot_slot]

/-- The oldest item of a full ring is replaced by the newest. -/
theorem contents_evict (value : α) (start : head < capacity) :
    contents (update cells head value) capacity
        (slot capacity head 1) capacity =
      (contents cells capacity head capacity).tail ++ [value] := by
  have positive : 0 < capacity := Nat.lt_of_le_of_lt (Nat.zero_le head) start
  obtain ⟨rest, rfl⟩ : ∃ rest, capacity = rest + 1 :=
    ⟨capacity - 1, by omega⟩
  have last : slot (rest + 1) (slot (rest + 1) head 1) rest = head := by
    rw [slot_slot, Nat.add_comm 1 rest]
    exact slot_capacity start
  have dropped : contents cells (rest + 1) (slot (rest + 1) head 1) rest =
      (contents cells (rest + 1) head (rest + 1)).tail := by
    have all : contents cells (rest + 1) (slot (rest + 1) head 1)
        (rest + 1 - 1) =
        (contents cells (rest + 1) head (rest + 1)).drop 1 :=
      contents_drop cells (rest + 1) head (rest + 1) 1
    rw [← List.drop_one]
    exact all
  have written := contents_push cells value
    (slot_lt (Nat.succ_pos rest) head 1) (Nat.lt_succ_self rest)
  rw [last, dropped] at written
  exact written

theorem getLast?_contents (capacity head count : Nat) :
    (contents cells capacity head count).getLast? =
      if count = 0 then none
      else some (cells (slot capacity head (count - 1))) := by
  cases count with
  | zero => rfl
  | succ count => rw [contents_succ, List.getLast?_concat]; rfl

theorem find?_contents (capacity head count : Nat) (meets : α → Bool) :
    ((List.range count).find? fun index =>
        meets (cells (slot capacity head index))) =
      (contents cells capacity head count).findIdx? meets := by
  apply Option.ext
  intro index
  rw [List.find?_range_eq_some, List.findIdx?_eq_some_iff_getElem]
  constructor
  · rintro ⟨here, member, before⟩
    refine ⟨?_, ?_, ?_⟩
    · rw [length_contents]
      exact List.mem_range.mp member
    · rw [getElem_contents]
      exact here
    · intro other earlier
      rw [getElem_contents]
      have free := before other earlier
      simpa using free
  · rintro ⟨bound, here, before⟩
    rw [getElem_contents] at here
    refine ⟨here, ?_, ?_⟩
    · rw [length_contents] at bound
      exact List.mem_range.mpr bound
    · intro other earlier
      have free := before other earlier
      rw [getElem_contents] at free
      simpa using free

end

/-! ## Loops -/

/-- The items behind an index move one place forward, one after another. -/
def shift (capacity head : Nat) :
    (index remaining : Nat) → (Nat → α) → Nat → α
  | _, 0, cells => cells
  | index, remaining + 1, cells =>
    shift capacity head (index + 1) remaining
      (update cells (slot capacity head index)
        (cells (slot capacity head (index + 1))))

theorem shift_apply (index remaining : Nat) {other : Nat} (cells : Nat → α)
    (start : head < capacity) (bound : index + remaining < capacity)
    (inside : other < capacity) :
    shift capacity head index remaining cells (slot capacity head other) =
      if index ≤ other ∧ other < index + remaining then
        cells (slot capacity head (other + 1))
      else cells (slot capacity head other) := by
  induction remaining generalizing index cells with
  | zero =>
    rw [if_neg (by omega)]
    rfl
  | succ remaining induction =>
    have later := induction (index + 1)
      (update cells (slot capacity head index)
        (cells (slot capacity head (index + 1)))) (by omega)
    have untouched : ∀ place, place < capacity → place ≠ index →
        update cells (slot capacity head index)
            (cells (slot capacity head (index + 1)))
            (slot capacity head place) =
          cells (slot capacity head place) := by
      intro place below apart
      apply update_of_ne
      intro same
      exact apart (slot_inj start below (by omega) same)
    unfold shift
    rw [later]
    by_cases here : other = index
    · subst here
      rw [if_neg (by omega), if_pos (by omega), update_self]
    · by_cases moved : index + 1 ≤ other ∧ other < index + 1 + remaining
      · rw [if_pos moved, if_pos (by omega), untouched _ (by omega) (by omega)]
      · rw [if_neg moved, if_neg (by omega), untouched _ inside here]

theorem contents_shift (cells : Nat → α) (start : head < capacity)
    (inside : index < count) (bound : count ≤ capacity) :
    contents (shift capacity head index (count - 1 - index) cells) capacity
        head (count - 1) =
      (contents cells capacity head count).eraseIdx index := by
  apply List.ext_getElem
  · rw [length_contents, List.length_eraseIdx, length_contents, if_pos inside]
  · intro other left right
    rw [length_contents] at left
    rw [getElem_contents, shift_apply _ _ cells start (by omega) (by omega),
      List.getElem_eraseIdx]
    split
    · rw [dif_neg (by omega), getElem_contents]
    · rw [dif_pos (by omega), getElem_contents]

/-- The items that are kept move together, one after another; the loop ends
with their number. -/
def compact (capacity head : Nat) (keep : α → Bool) :
    (index remaining retained : Nat) → (Nat → α) → (Nat → α) × Nat
  | _, 0, retained, cells => (cells, retained)
  | index, remaining + 1, retained, cells =>
    let item := cells (slot capacity head index)
    if keep item then
      compact capacity head keep (index + 1) remaining (retained + 1)
        (if retained = index then cells
        else update cells (slot capacity head retained) item)
    else compact capacity head keep (index + 1) remaining retained cells

def itemsFrom (cells : Nat → α) (capacity head : Nat) :
    (index remaining : Nat) → List α
  | _, 0 => []
  | index, remaining + 1 =>
    cells (slot capacity head index) ::
      itemsFrom cells capacity head (index + 1) remaining

variable {remaining : Nat}

theorem itemsFrom_congr
    (same : ∀ other, index ≤ other → other < index + remaining →
      first (slot capacity head other) = second (slot capacity head other)) :
    itemsFrom first capacity head index remaining =
      itemsFrom second capacity head index remaining := by
  induction remaining generalizing index with
  | zero => rfl
  | succ remaining induction =>
    unfold itemsFrom
    rw [same index (Nat.le_refl index) (by omega),
      induction fun other after below =>
        same other (by omega) (by omega)]

theorem contents_append_itemsFrom (cells : Nat → α)
    (capacity head index remaining : Nat) :
    contents cells capacity head index ++
        itemsFrom cells capacity head index remaining =
      contents cells capacity head (index + remaining) := by
  induction remaining generalizing index with
  | zero => exact List.append_nil _
  | succ remaining induction =>
    have later := induction (index + 1)
    rw [contents_succ, List.append_assoc, List.singleton_append] at later
    unfold itemsFrom
    rw [later]
    congr 1
    omega

theorem contents_compact {keep : α → Bool} {retained : Nat} (cells : Nat → α)
    (start : head < capacity) (behind : retained ≤ index)
    (bound : index + remaining ≤ capacity) :
    contents
        (compact capacity head keep index remaining retained cells).1 capacity
        head (compact capacity head keep index remaining retained cells).2 =
      contents cells capacity head retained ++
        (itemsFrom cells capacity head index remaining).filter keep := by
  induction remaining generalizing index retained cells with
  | zero => exact (List.append_nil _).symm
  | succ remaining induction =>
    unfold compact itemsFrom
    simp only
    by_cases kept : keep (cells (slot capacity head index)) = true
    · rw [if_pos kept, List.filter_cons_of_pos kept,
        induction _ (by omega) (by omega)]
      split
      · rename_i same
        subst same
        rw [contents_succ, List.append_assoc, List.singleton_append]
      · rename_i apart
        -- The item moves to a place that the loop has passed.
        have rest : itemsFrom
            (update cells (slot capacity head retained)
              (cells (slot capacity head index))) capacity head (index + 1)
            remaining =
            itemsFrom cells capacity head (index + 1) remaining := by
          apply itemsFrom_congr
          intro other after below
          apply update_of_ne
          intro same
          have equal := slot_inj start (by omega) (by omega) same
          omega
        rw [rest, contents_push cells _ start (by omega),
          List.append_assoc, List.singleton_append]
    · rw [if_neg kept, List.filter_cons_of_neg kept,
        induction _ (by omega) (by omega)]

theorem contents_filter (keep : α → Bool) (cells : Nat → α)
    (start : head < capacity) (bound : count ≤ capacity) :
    contents (compact capacity head keep 0 count 0 cells).1 capacity head
        (compact capacity head keep 0 count 0 cells).2 =
      (contents cells capacity head count).filter keep := by
  rw [contents_compact cells start (Nat.le_refl 0) (by omega)]
  have all := contents_append_itemsFrom cells capacity head 0 count
  rw [Nat.zero_add] at all
  rw [← all]
  rfl

end Ring
