import Eki.Library.Tally

/-!
# Fixed windows

A counter is charged in windows of a fixed span.  Where every window opens after
the one before it has passed, what is charged within the span of a window is
what is charged to it.
-/

namespace Windows

open Tally

structure Charge where
  start : Int
  time : Int
  amount : Nat
  deriving DecidableEq, Repr

/-- The windows opened so far, latest first, and the charges. -/
structure Ledger where
  windows : List Int
  charges : List Charge

namespace Ledger

variable (ledger : Ledger)

def charged (start : Int) : Nat :=
  total (fun charge => if charge.start = start then charge.amount else 0)
    ledger.charges

def within (span start : Int) : Nat :=
  total
    (fun charge =>
      if start ≤ charge.time ∧ charge.time < start + span then charge.amount
      else 0)
    ledger.charges

def opened (start : Int) : Ledger :=
  { ledger with windows := start :: ledger.windows }

def charge (charge : Charge) : Ledger :=
  { ledger with charges := charge :: ledger.charges }

theorem charged_charge (charge : Charge) (start : Int) :
    (ledger.charge charge).charged start =
      (if charge.start = start then charge.amount else 0) +
        ledger.charged start :=
  rfl

/-- Every window opens after the one before it, and is charged while it is
open. -/
structure Kept (span : Int) : Prop where
  spaced : ledger.windows.Pairwise fun newer older => older + span ≤ newer
  opened : ∀ charge ∈ ledger.charges, charge.start ∈ ledger.windows
  inside : ∀ charge ∈ ledger.charges,
    charge.start ≤ charge.time ∧ charge.time < charge.start + span

namespace Kept

variable {ledger : Ledger} {span : Int}

variable (kept : ledger.Kept span)

include kept

theorem opens {start : Int}
    (passed : ∀ older ∈ ledger.windows, older + span ≤ start) :
    (ledger.opened start).Kept span := by
  refine ⟨List.pairwise_cons.mpr ⟨passed, kept.spaced⟩, ?_, kept.inside⟩
  intro charge member
  exact List.mem_cons_of_mem _ (kept.opened charge member)

theorem charges {charge : Charge} (opened : charge.start ∈ ledger.windows)
    (inside : charge.start ≤ charge.time ∧ charge.time < charge.start + span) :
    (ledger.charge charge).Kept span := by
  refine ⟨kept.spaced, ?_, ?_⟩
  · intro other member
    rcases List.mem_cons.mp member with rfl | earlier
    · exact opened
    · exact kept.opened other earlier
  · intro other member
    rcases List.mem_cons.mp member with rfl | earlier
    · exact inside
    · exact kept.inside other earlier

theorem apart {start other : Int} (opened : start ∈ ledger.windows)
    (otherOpened : other ∈ ledger.windows) :
    start = other ∨ start + span ≤ other ∨ other + span ≤ start := by
  have spaced := kept.spaced
  generalize ledger.windows = windows at spaced opened otherOpened
  induction windows with
  | nil => cases opened
  | cons newest older induction =>
    obtain ⟨before, spaced⟩ := List.pairwise_cons.mp spaced
    rcases List.mem_cons.mp opened with first | opened
    · rcases List.mem_cons.mp otherOpened with second | otherOpened
      · exact .inl (first.trans second.symm)
      · rw [first]
        exact .inr (.inr (before other otherOpened))
    · rcases List.mem_cons.mp otherOpened with second | otherOpened
      · rw [second]
        exact .inr (.inl (before start opened))
      · exact induction spaced opened otherOpened

theorem within_le {start : Int} (opened : start ∈ ledger.windows) :
    ledger.within span start ≤ ledger.charged start := by
  apply List.sum_le_sum
  intro charge member
  have lies := kept.inside charge member
  rcases kept.apart opened (kept.opened charge member) with
    same | before | after
  · rw [if_pos same.symm]
    split <;> omega
  · rw [if_neg (by omega)]
    exact Nat.zero_le _
  · rw [if_neg (by omega)]
    exact Nat.zero_le _

end Kept

end Ledger

end Windows
