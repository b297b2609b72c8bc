/-!
# Versioned cells

A store that serializes its transactions lets one commit only if what it read
has not been written since.  A cell counts its writes; a snapshot remembers the
count, so a commit that is let through was computed from the present value.
-/

namespace Versioned

universe u

variable {Value : Type u}

structure Cell (Value : Type u) where
  value : Value
  version : Nat

structure Snapshot (Value : Type u) where
  value : Value
  version : Nat

namespace Cell

def read (cell : Cell Value) : Snapshot Value :=
  ⟨cell.value, cell.version⟩

def write (cell : Cell Value) (value : Value) : Cell Value :=
  ⟨value, cell.version + 1⟩

@[simp] theorem write_value (cell : Cell Value) (value : Value) :
    (cell.write value).value = value := rfl

@[simp] theorem write_version (cell : Cell Value) (value : Value) :
    (cell.write value).version = cell.version + 1 := rfl

/-- The write of a transaction that read the given version. -/
def commit (cell : Cell Value) (base : Nat) (value : Value) :
    Option (Cell Value) :=
  if base = cell.version then some (cell.write value) else none

theorem commit_eq_some {cell next : Cell Value} {base : Nat} {value : Value} :
    cell.commit base value = some next ↔
      base = cell.version ∧ next = cell.write value := by
  unfold commit
  split
  · rename_i same
    constructor
    · intro committed
      cases committed
      exact ⟨same, rfl⟩
    · rintro ⟨-, rfl⟩
      rfl
  · rename_i changed
    constructor
    · intro committed
      cases committed
    · rintro ⟨same, -⟩
      exact absurd same changed

end Cell

/-- What was computed from a version holds of the cell while that version
lasts. -/
structure Current (cell : Cell Value) (base : Nat) (holds : Value → Prop) :
    Prop where
  base_le : base ≤ cell.version
  of_same : base = cell.version → holds cell.value

namespace Current

variable {cell : Cell Value} {base : Nat} {holds : Value → Prop}

/-- A write makes everything computed before it void. -/
theorem write (current : Current cell base holds) (value : Value)
    (later : Value → Prop) : Current (cell.write value) base later where
  base_le := Nat.le_succ_of_le current.base_le
  of_same := by
    intro same
    have older := current.base_le
    rw [Cell.write_version] at same
    omega

theorem mono {weaker : Value → Prop} (current : Current cell base holds)
    (implies : ∀ value, holds value → weaker value) :
    Current cell base weaker where
  base_le := current.base_le
  of_same := fun same => implies _ (current.of_same same)

end Current

theorem current_read (cell : Cell Value) :
    Current cell cell.read.version (· = cell.read.value) :=
  ⟨Nat.le_refl _, fun _ => rfl⟩

end Versioned
