import Eki.Firmware.CheckpointSurvives

/-!
# Slots are written once

While the journal runs, the slots from its next one to the end of the page have
not been programmed since the page was erased.  A boot goes on behind the newest
record that decodes; it does not see a torn slot there, which the next append
then writes once more.
-/

namespace Eki.Firmware

open Transition

variable {Record Sample Nonce : Type}

/-- No slot that has been programmed lies behind the newest record on its
page. -/
def Device.endsProgrammed (geometry : Geometry)
    (codec : Codec Record Sample Nonce) (device : Device Record Sample) :
    Bool :=
  (scan codec device.flash geometry.recordCount).latest.all fun latest =>
    (List.range geometry.recordCount).all fun index =>
      decide (index ≤ latest.index) ||
        geometry.page index != geometry.page latest.index ||
        !device.programmed index

/-- Every boot finds the newest record behind all slots of its page that have
been programmed. -/
def Device.bootsBehind (geometry : Geometry)
    (codec : Codec Record Sample Nonce) (device : Device Record Sample) :
    DeviceLabel Record Sample Nonce → Bool
  | .boot _ => device.endsProgrammed geometry codec
  | .append _ _ _ _ => true

/-- The next slot starts a page, or nothing from it to the end of its page has
been programmed. -/
structure Unprogrammed (geometry : Geometry) (programmed : Nat → Bool)
    (writeIndex : Nat) : Prop where
  whole : geometry.whole = true
  bound : writeIndex < geometry.recordCount
  ahead : geometry.startsPage writeIndex = false →
    ∀ index < geometry.recordCount,
      geometry.page index = geometry.page writeIndex → writeIndex ≤ index →
      programmed index = false

structure Device.WrittenOnce (geometry : Geometry)
    (device : Device Record Sample) : Prop where
  once : ∀ programming ∈ device.programmings, programming.programmed = false
  next : device.journal.ready = true →
    Unprogrammed geometry device.programmed device.journal.writeIndex

theorem index_lt_of_scan {codec : Codec Record Sample Nonce}
    {flash : Nat → Record} {count : Nat} {latest : Committed Sample}
    (found : (scan codec flash count).latest = some latest) :
    latest.index < count := by
  induction count with
  | zero => cases found
  | succ count induction =>
    unfold scan at found induction
    rw [List.range_succ, List.foldl_concat] at found
    unfold observe at found
    split at found
    · exact Nat.lt_succ_of_lt (induction found)
    · split at found
      · cases found
        exact Nat.lt_succ_self count
      · exact Nat.lt_succ_of_lt (induction found)

namespace Device.WrittenOnce

variable {geometry : Geometry} {codec : Codec Record Sample Nonce}
  {device : Device Record Sample}

theorem start (flash : Nat → Record) (programmed : Nat → Bool) :
    WrittenOnce geometry
      (Device.start flash programmed : Device Record Sample) where
  once := by rintro programming ⟨⟩
  next := by rintro ⟨⟩

theorem unprogrammed_of_scan (whole : geometry.whole = true)
    (behind : device.endsProgrammed geometry codec = true) :
    Unprogrammed geometry device.programmed
      (match (scan codec device.flash geometry.recordCount).latest with
        | none => 0
        | some latest => (latest.index + 1) % geometry.recordCount) := by
  have positive := Geometry.recordCount_pos whole
  unfold endsProgrammed at behind
  cases found : (scan codec device.flash geometry.recordCount).latest with
  | none =>
    refine ⟨whole, positive, ?_⟩
    intro inside
    have starts : geometry.startsPage 0 = true := by
      unfold Geometry.startsPage
      rw [Nat.zero_mod]
      rfl
    rw [starts] at inside
    cases inside
  | some latest =>
    have bound := index_lt_of_scan found
    rw [found, Option.all_some, List.all_eq_true] at behind
    refine ⟨whole, Nat.mod_lt _ positive, ?_⟩
    intro inside index below same ahead
    simp only at inside same ahead
    rcases Geometry.next_index bound with next | starts
    · rw [next] at inside same ahead
      rw [Geometry.page_succ inside] at same
      have free := behind index (List.mem_range.mpr below)
      simp only [same, bne_self_eq_false, Bool.or_false, Bool.or_eq_true,
        decide_eq_true_eq, Bool.not_eq_true'] at free
      rcases free with before | free
      · omega
      · exact free
    · rw [starts] at inside
      cases inside

theorem reboot (once : device.WrittenOnce geometry)
    (behind : device.endsProgrammed geometry codec = true)
    (readFailure : Option Nat) :
    (device.reboot geometry codec readFailure).WrittenOnce geometry := by
  refine ⟨once.once, ?_⟩
  unfold Device.reboot initializeJournal
  intro ready
  simp only at ready ⊢
  cases whole : geometry.whole with
  | false => simp [whole] at ready
  | true =>
    cases failure : readFailure.filter (· < geometry.recordCount) with
    | some index => simp [whole, failure, scan_ready] at ready
    | none =>
      simp only [Bool.not_true, Bool.false_eq_true, if_false]
      exact unprogrammed_of_scan whole behind

theorem skipPage (once : device.WrittenOnce geometry)
    (ready : device.journal.ready = true)
    (starts : geometry.startsPage device.journal.writeIndex = true) :
    (device.skipPage geometry).WrittenOnce geometry := by
  have next := once.next ready
  refine ⟨once.once, fun _ => ⟨next.whole,
    Nat.mod_lt _ (Geometry.recordCount_pos next.whole), ?_⟩⟩
  intro inside
  have starts := Geometry.startsPage_skip next.whole starts
  have inside : geometry.startsPage
      ((device.journal.writeIndex + geometry.recordsPerPage) %
        geometry.recordCount) = false := inside
  rw [starts] at inside
  cases inside

/-- An erasure that fails leaves what has been programmed. -/
theorem erasePage_torn (once : device.WrittenOnce geometry)
    (left : Nat → Record) :
    (device.erasePage geometry codec (.torn left)).WrittenOnce geometry :=
  ⟨once.once, fun ready =>
    ⟨(once.next ready).whole, (once.next ready).bound,
      (once.next ready).ahead⟩⟩

theorem writeRecord (earlier : ∀ programming ∈ device.programmings,
      programming.programmed = false)
    (whole : geometry.whole = true)
    (bound : device.journal.writeIndex < geometry.recordCount)
    (ahead : ∀ index < geometry.recordCount,
      geometry.page index = geometry.page device.journal.writeIndex →
      device.journal.writeIndex ≤ index → device.programmed index = false)
    (sample : Sample) (nonce : Nonce) (outcome : WriteOutcome Record) :
    (device.writeRecord geometry codec sample nonce outcome).WrittenOnce
      geometry := by
  constructor
  · intro programming member
    rcases List.mem_cons.mp member with rfl | before
    · exact ahead _ bound rfl (Nat.le_refl _)
    · exact earlier programming before
  · intro _
    refine ⟨whole, Nat.mod_lt _ (Geometry.recordCount_pos whole), ?_⟩
    unfold Device.writeRecord
    intro inside index below same after
    simp only at inside same after ⊢
    rcases Geometry.next_index bound with next | starts
    · rw [next] at inside same after
      rw [Geometry.page_succ inside] at same
      have free := ahead index below same (by omega)
      have apart : index ≠ device.journal.writeIndex := by omega
      cases outcome with
      | stored | torn => exact (Function.update_of_ne apart _ _).trans free
      | refused => exact free
    · rw [starts] at inside
      cases inside

theorem append (once : device.WrittenOnce geometry) (sample : Sample)
    (nonce : Option Nonce) (erase : EraseOutcome Record)
    (write : WriteOutcome Record) :
    (device.append geometry codec sample nonce erase write).WrittenOnce
      geometry := by
  unfold Device.append
  cases ready : device.journal.ready with
  | false => exact once
  | true =>
    have next := once.next ready
    cases nonce with
    | none => exact once
    | some nonce =>
      simp only [Bool.not_true, Bool.false_eq_true, if_false]
      cases starts : geometry.startsPage device.journal.writeIndex with
      | false =>
        simp only [Bool.false_eq_true, if_false]
        exact writeRecord once.once next.whole next.bound
          (next.ahead starts) sample nonce write
      | true =>
        simp only [if_true]
        split
        · exact once.skipPage ready starts
        · cases erase with
          | torn left =>
            have torn : (device.erasePage geometry codec
                (.torn left)).WrittenOnce geometry :=
              once.erasePage_torn left
            exact torn.skipPage ready starts
          | erased =>
            have earlier : ∀ programming ∈
                (device.erasePage geometry codec .erased).programmings,
                programming.programmed = false := once.once
            apply writeRecord earlier next.whole next.bound
            -- The whole page has just been erased.
            intro index below same _
            unfold Device.erasePage at same ⊢
            simp only at same ⊢
            rw [same, bne_self_eq_false, Bool.false_and]

theorem step (once : device.WrittenOnce geometry)
    {label : DeviceLabel Record Sample Nonce} {next : Device Record Sample}
    (behind : device.bootsBehind geometry codec label = true)
    (taken : Device.step geometry codec device label = some next) :
    next.WrittenOnce geometry := by
  cases label with
  | boot readFailure =>
    cases taken
    exact once.reboot behind readFailure
  | append sample nonce erase write =>
    cases taken
    exact once.append sample nonce erase write

end Device.WrittenOnce

/-- **Slots are written once per erasure** in a run whose boots find the newest
record behind all programmed slots of its page. -/
theorem slots_are_written_once (geometry : Geometry)
    (codec : Codec Record Sample Nonce) (flash : Nat → Record)
    (programmed : Nat → Bool) {last : Device Record Sample}
    (steps : System.Steps (Device.step geometry codec)
      (fun device label => device.bootsBehind geometry codec label = true)
      (.start flash programmed) last) :
    ∀ programming ∈ last.programmings, programming.programmed = false := by
  have once : last.WrittenOnce geometry := by
    apply steps.invariant (Device.WrittenOnce.start flash programmed)
    intro device label next holds behind taken
    exact holds.step behind taken
  exact once.once

/-- No slot is programmed twice before it is erased. -/
def SlotsAreWrittenOnce [DecidableEq Record] (geometry : Geometry)
    (codec : Codec Record Sample Nonce) : Prop :=
  ∀ (flash : Nat → Record) (programmed : Nat → Bool)
    (last : Device Record Sample),
    System.Steps (Device.step geometry codec)
      (fun device label => device.authentic geometry codec label = true)
      (.start flash programmed) last →
    ∀ programming ∈ last.programmings, programming.programmed = false

def twoByTwo : Geometry where
  recordCount := 4
  recordsPerPage := 2
  positive := by decide

def tornAppend : List (DeviceLabel (Option (Serial.Number × Nat)) Nat Unit) :=
  [.boot none, .append 1 (some ()) .erased .stored,
    .append 2 (some ()) .erased (.torn (some (0, 2)))]

theorem slots_are_written_once_torn :
    ∃ last : Device (Option (Serial.Number × Nat)) Nat,
      last.programmings.map Programming.index = [3, 2, 1, 0] ∧
        ∀ programming ∈ last.programmings,
          programming.programmed = false := by
  have decided :
      ((Device.step twoByTwo plainCodec).run
        (fun device label => device.bootsBehind twoByTwo plainCodec label)
        (.start (fun _ => none) fun _ => false)
        (tornAppend ++ [.append 3 (some ()) .erased .stored, .boot none,
          .append 4 (some ()) .erased .stored])).any
        (fun last =>
          last.programmings.map Programming.index == [3, 2, 1, 0]) = true := by
    decide +kernel
  obtain ⟨last, steps, ends⟩ := System.exists_of_run decided
  rw [beq_iff_eq] at ends
  exact ⟨last, ends, slots_are_written_once twoByTwo plainCodec _ _ steps⟩

/-- After a boot the torn slot is written again. -/
theorem torn_slot_is_written_again :
    ¬ SlotsAreWrittenOnce twoByTwo plainCodec := by
  intro once
  have decided :
      ((Device.step twoByTwo plainCodec).run
        (fun device label => device.authentic twoByTwo plainCodec label)
        (.start (fun _ => none) fun _ => false)
        (tornAppend ++ [.boot none, .append 3 (some ()) .erased .refused])).any
        (fun last => last.programmings.any Programming.programmed) = true := by
    decide +kernel
  obtain ⟨last, steps, ends⟩ := System.exists_of_run decided
  obtain ⟨programming, member, programmed⟩ := List.any_eq_true.mp ends
  rw [once _ _ last steps programming member] at programmed
  cases programmed

end Eki.Firmware
