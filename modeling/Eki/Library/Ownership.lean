import Mathlib.Logic.Function.Basic

/-!
# Exclusive ownership

A ledger says which owner a key is locked for and which key an owner holds.
The two sides agree when each names the other.  Acquiring a free key for an
idle owner, and releasing the key of an owner, keep them in agreement.
-/

namespace Ownership

open Function (update update_of_ne)

variable {Key Owner : Type*}

structure Ledger (Key Owner : Type*) where
  lock : Key → Option Owner
  held : Owner → Option Key

namespace Ledger

def Agrees (ledger : Ledger Key Owner) : Prop :=
  ∀ key owner, ledger.lock key = some owner ↔ ledger.held owner = some key

namespace Agrees

variable {ledger : Ledger Key Owner}

variable {key : Key}

theorem held_unique (agrees : ledger.Agrees) {owner other : Owner}
    (holds : ledger.held owner = some key)
    (otherHolds : ledger.held other = some key) : owner = other := by
  have locked := (agrees key owner).mpr holds
  rw [(agrees key other).mpr otherHolds] at locked
  exact (Option.some.inj locked).symm

theorem idle_of_free (agrees : ledger.Agrees) (free : ledger.lock key = none)
    (owner : Owner) : ledger.held owner ≠ some key := by
  intro holds
  rw [(agrees key owner).mpr holds] at free
  cases free

theorem locked_iff (agrees : ledger.Agrees) (key : Key) :
    (ledger.lock key).isSome = true ↔
      ∃ owner, ledger.held owner = some key := by
  rw [Option.isSome_iff_exists]
  exact exists_congr fun owner => agrees key owner

end Agrees

variable [DecidableEq Key] [DecidableEq Owner]

/-- What one transaction may do to a ledger. -/
inductive Move (before after : Ledger Key Owner) : Prop where
  | keep (lock : after.lock = before.lock) (held : after.held = before.held)
  | acquire (key : Key) (owner : Owner)
      (free : before.lock key = none) (idle : before.held owner = none)
      (lock : after.lock = update before.lock key (some owner))
      (held : after.held = update before.held owner (some key))
  | release (key : Key) (owner : Owner)
      (own : ∀ other, before.held owner = some other → other = key)
      (lock : after.lock =
        if before.lock key = some owner then
          update before.lock key none
        else before.lock)
      (held : after.held = update before.held owner none)

variable {owner : Owner} {before after : Ledger Key Owner}

private theorem agrees_of_acquire (agrees : before.Agrees) {key : Key}
    (free : before.lock key = none) (idle : before.held owner = none)
    (lock : after.lock = update before.lock key (some owner))
    (held : after.held = update before.held owner (some key)) :
    after.Agrees := by
  intro other someone
  rw [lock, held]
  by_cases sameKey : other = key
  · subst sameKey
    by_cases sameOwner : someone = owner
    · subst sameOwner
      simp
    · have idle' := agrees.idle_of_free free someone
      simp [update_of_ne sameOwner, idle', Ne.symm sameOwner]
  · by_cases sameOwner : someone = owner
    · subst sameOwner
      have unlocked : before.lock other ≠ some someone := by
        intro locked
        rw [(agrees other someone).mp locked] at idle
        cases idle
      simp [update_of_ne sameKey, unlocked, Ne.symm sameKey]
    · simpa [update_of_ne sameKey, update_of_ne sameOwner]
        using agrees other someone

private theorem agrees_of_release (agrees : before.Agrees) {key : Key}
    (own : ∀ other, before.held owner = some other → other = key)
    (lock : after.lock =
      if before.lock key = some owner then
        update before.lock key none
      else before.lock)
    (held : after.held = update before.held owner none) :
    after.Agrees := by
  have unlocked : ∀ other, after.lock other ≠ some owner := by
    intro other locked
    rw [lock] at locked
    split at locked
    · by_cases sameKey : other = key
      · subst sameKey
        simp at locked
      · rw [update_of_ne sameKey] at locked
        exact sameKey (own other ((agrees other owner).mp locked))
    · rename_i notOwn
      have sameKey := own other ((agrees other owner).mp locked)
      subst sameKey
      exact notOwn locked
  intro other someone
  by_cases sameOwner : someone = owner
  · subst sameOwner
    simp [held, unlocked other]
  · rw [held, update_of_ne sameOwner, ← agrees other someone, lock]
    split
    · rename_i ownLock
      by_cases sameKey : other = key
      · subst sameKey
        simp [ownLock, Ne.symm sameOwner]
      · rw [update_of_ne sameKey]
    · exact Iff.rfl

theorem Agrees.move (agrees : before.Agrees) (move : Move before after) :
    after.Agrees := by
  cases move with
  | keep lock held =>
    intro key owner
    rw [lock, held]
    exact agrees key owner
  | acquire key owner free idle lock held =>
    exact agrees_of_acquire agrees free idle lock held
  | release key owner own lock held =>
    exact agrees_of_release agrees own lock held

end Ledger

end Ownership
