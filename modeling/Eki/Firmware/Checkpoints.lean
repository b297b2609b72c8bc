import Eki.Library.Serial
import Eki.Library.Transition
import Mathlib.Data.List.Basic

/-!
# The checkpoint journal

The firmware appends its newest fix to a ring of flash pages.  Every record is
authenticated and carries a generation; after a reboot the journal looks for
the newest record that decodes and goes on behind it.  Storage may fail at any
point and leave torn slots.  A power cut is a failure after which the journal
in memory is lost, so that the next step is a boot.
-/

namespace Eki.Firmware

open Transition

structure Geometry where
  recordCount : Nat
  recordsPerPage : Nat
  positive : 0 < recordsPerPage

/-- The storage has at least two pages, and whole ones. -/
def Geometry.whole (geometry : Geometry) : Bool :=
  decide (2 * geometry.recordsPerPage ≤ geometry.recordCount) &&
    geometry.recordCount % geometry.recordsPerPage == 0

def Geometry.page (geometry : Geometry) (index : Nat) : Nat :=
  index / geometry.recordsPerPage

def Geometry.startsPage (geometry : Geometry) (index : Nat) : Bool :=
  index % geometry.recordsPerPage == 0

namespace Geometry

variable {geometry : Geometry} {index : Nat}

theorem whole_iff :
    geometry.whole = true ↔
      2 * geometry.recordsPerPage ≤ geometry.recordCount ∧
        geometry.recordCount % geometry.recordsPerPage = 0 := by
  unfold whole
  rw [Bool.and_eq_true, decide_eq_true_eq, beq_iff_eq]

theorem recordCount_pos (whole : geometry.whole = true) :
    0 < geometry.recordCount := by
  have two := (whole_iff.mp whole).1
  have positive := geometry.positive
  omega

theorem startsPage_skip (whole : geometry.whole = true)
    (starts : geometry.startsPage index = true) :
    geometry.startsPage
      ((index + geometry.recordsPerPage) % geometry.recordCount) = true := by
  unfold startsPage at starts ⊢
  rw [beq_iff_eq] at starts ⊢
  have divides := Nat.dvd_of_mod_eq_zero (whole_iff.mp whole).2
  rw [Nat.mod_mod_of_dvd _ divides, Nat.add_mod_right]
  exact starts

theorem page_succ (inside : geometry.startsPage (index + 1) = false) :
    geometry.page (index + 1) = geometry.page index := by
  unfold startsPage at inside
  rw [beq_eq_false_iff_ne] at inside
  unfold page
  rw [Nat.succ_div, if_neg]
  · rfl
  · intro divides
    exact inside (Nat.mod_eq_zero_of_dvd divides)

theorem next_index (bound : index < geometry.recordCount) :
    (index + 1) % geometry.recordCount = index + 1 ∨
      geometry.startsPage ((index + 1) % geometry.recordCount) = true := by
  by_cases last : index + 1 = geometry.recordCount
  · right
    rw [last, Nat.mod_self]
    unfold startsPage
    rw [Nat.zero_mod]
    rfl
  · left
    exact Nat.mod_eq_of_lt (by omega)

end Geometry

/-- An authenticated encoding, for every nonce; what erased flash holds is no
record. -/
structure Codec (Record Sample Nonce : Type) where
  sealRecord : Serial.Number → Sample → Nonce → Record
  openRecord : Record → Option (Serial.Number × Sample)
  blank : Record
  open_seal : ∀ generation sample nonce, generation ≠ 0 →
    openRecord (sealRecord generation sample nonce) = some (generation, sample)
  ne_zero_of_open : ∀ record generation sample,
    openRecord record = some (generation, sample) → generation ≠ 0
  open_blank : openRecord blank = none

variable {Record Sample Nonce : Type}

/-- The record that the journal holds as its latest. -/
structure Committed (Sample : Type) where
  index : Nat
  sample : Sample
  deriving DecidableEq

/-- The journal in memory, as before its first `initialize`. -/
structure Journal (Sample : Type) where
  generation : Serial.Number := 0
  writeIndex : Nat := 0
  latest : Option (Committed Sample) := none
  ready : Bool := false

section Scan

variable (geometry : Geometry) (codec : Codec Record Sample Nonce)

/-- One slot of the scan. -/
def observe (flash : Nat → Record) (journal : Journal Sample) (index : Nat) :
    Journal Sample :=
  match codec.openRecord (flash index) with
  | none => journal
  | some (generation, sample) =>
    if journal.latest.isNone ||
        Serial.isNewer generation journal.generation then
      { journal with generation, latest := some { index, sample } }
    else journal

def scan (flash : Nat → Record) (count : Nat) : Journal Sample :=
  (List.range count).foldl (observe codec flash) { }

theorem observe_ready (flash : Nat → Record) (journal : Journal Sample)
    (index : Nat) :
    (observe codec flash journal index).ready = journal.ready := by
  unfold observe
  split
  · rfl
  · split <;> rfl

theorem scan_ready (flash : Nat → Record) (count : Nat) :
    (scan codec flash count).ready = false := by
  induction count with
  | zero => rfl
  | succ count induction =>
    unfold scan at induction ⊢
    rw [List.range_succ, List.foldl_concat, observe_ready]
    exact induction

/-- `readFailure` is the first slot that cannot be read, if any. -/
def initializeJournal (flash : Nat → Record) (readFailure : Option Nat) :
    Journal Sample :=
  if !geometry.whole then { }
  else
    match readFailure.filter (· < geometry.recordCount) with
    | some index => { scan codec flash index with latest := none }
    | none =>
      let scanned := scan codec flash geometry.recordCount
      { scanned with
        ready := true
        writeIndex :=
          match scanned.latest with
          | none => 0
          | some latest => (latest.index + 1) % geometry.recordCount }

end Scan

/-- How an erasure of a page ends.  One that fails may have begun. -/
inductive EraseOutcome (Record : Type) where
  | erased
  | torn (left : Nat → Record)

/-- How a write of a slot ends.  One that fails may have programmed nothing or
any part of the slot. -/
inductive WriteOutcome (Record : Type) where
  | stored
  | refused
  | torn (left : Record)

/-- What the storage's `write` returns. -/
def WriteOutcome.returned : WriteOutcome Record → Bool
  | .stored => true
  | .refused => false
  | .torn _ => false

/-- A record that was passed to the storage, whether its append returned true,
and after how many boots. -/
structure Attempt (Record Sample : Type) where
  record : Record
  generation : Serial.Number
  sample : Sample
  confirmed : Bool
  boot : Nat

/-- What a boot with a readable storage recovered, after these attempts. -/
structure Recovery (Record Sample : Type) where
  newest : Option Sample
  attempts : List (Attempt Record Sample)

/-- An erasure that was issued, with the journal and the flash before it. -/
structure Erasure (Record Sample : Type) where
  page : Nat
  flash : Nat → Record
  latest : Option (Committed Sample)
  attempts : List (Attempt Record Sample)
  boot : Nat

/-- A write that was issued, and whether its slot had been programmed since its
page was last erased. -/
structure Programming where
  index : Nat
  programmed : Bool
  deriving DecidableEq

/-- The flash and the journal in memory, with what has been issued so far,
newest first. -/
structure Device (Record Sample : Type) where
  flash : Nat → Record
  /-- Slots that have been programmed, fully or in part, since their page was
  last erased. -/
  programmed : Nat → Bool
  journal : Journal Sample
  boots : Nat
  attempts : List (Attempt Record Sample)
  recoveries : List (Recovery Record Sample)
  erasures : List (Erasure Record Sample)
  programmings : List Programming

inductive DeviceLabel (Record Sample Nonce : Type) where
  | boot (readFailure : Option Nat)
  /-- `nonce` is `none` when the codec fails. -/
  | append (sample : Sample) (nonce : Option Nonce)
    (erase : EraseOutcome Record) (write : WriteOutcome Record)

namespace Device

def start (flash : Nat → Record) (programmed : Nat → Bool) :
    Device Record Sample where
  flash := flash
  programmed := programmed
  journal := { }
  boots := 0
  attempts := []
  recoveries := []
  erasures := []
  programmings := []

variable (geometry : Geometry) (codec : Codec Record Sample Nonce)
  (device : Device Record Sample)

def reboot (readFailure : Option Nat) : Device Record Sample :=
  let journal := initializeJournal geometry codec device.flash readFailure
  { device with
    journal := journal
    boots := device.boots + 1
    recoveries :=
      if journal.ready then
        { newest := journal.latest.map Committed.sample
          attempts := device.attempts } :: device.recoveries
      else device.recoveries }

def skipPage : Device Record Sample :=
  { device with
    journal :=
      { device.journal with
        writeIndex :=
          (device.journal.writeIndex + geometry.recordsPerPage) %
            geometry.recordCount } }

/-- The storage's `erasePage` is called for the page of the next slot. -/
def erasePage (outcome : EraseOutcome Record) : Device Record Sample :=
  let page := geometry.page device.journal.writeIndex
  { device with
    flash := fun index =>
      if geometry.page index = page then
        match outcome with
        | .erased => codec.blank
        | .torn left => left index
      else device.flash index
    programmed := fun index =>
      match outcome with
      | .erased => geometry.page index != page && device.programmed index
      | .torn _ => device.programmed index
    erasures :=
      { page
        flash := device.flash
        latest := device.journal.latest
        attempts := device.attempts
        boot := device.boots } :: device.erasures }

/-- The storage's `write` is called, and the append returns what it returns. -/
def writeRecord (sample : Sample) (nonce : Nonce)
    (outcome : WriteOutcome Record) : Device Record Sample :=
  let index := device.journal.writeIndex
  let generation := Serial.next device.journal.generation
  let record := codec.sealRecord generation sample nonce
  { device with
    flash :=
      match outcome with
      | .stored => Function.update device.flash index record
      | .refused => device.flash
      | .torn left => Function.update device.flash index left
    programmed :=
      match outcome with
      | .refused => device.programmed
      | _ => Function.update device.programmed index true
    journal :=
      { device.journal with
        generation
        writeIndex := (index + 1) % geometry.recordCount
        latest :=
          if outcome.returned then some { index, sample }
          else device.journal.latest }
    attempts :=
      { record
        generation
        sample
        confirmed := outcome.returned
        boot := device.boots } :: device.attempts
    programmings :=
      { index, programmed := device.programmed index } ::
        device.programmings }

def holdsLatest : Bool :=
  device.journal.latest.any fun latest =>
    geometry.page device.journal.writeIndex == geometry.page latest.index

def append (sample : Sample) (nonce : Option Nonce)
    (erase : EraseOutcome Record) (write : WriteOutcome Record) :
    Device Record Sample :=
  if !device.journal.ready then device
  else
    match nonce with
    | none => device
    | some nonce =>
      if geometry.startsPage device.journal.writeIndex then
        if device.holdsLatest geometry then device.skipPage geometry
        else
          match erase with
          | .torn _ =>
            (device.erasePage geometry codec erase).skipPage geometry
          | .erased =>
            (device.erasePage geometry codec erase).writeRecord geometry
              codec sample nonce write
      else device.writeRecord geometry codec sample nonce write

def step : System (Device Record Sample) (DeviceLabel Record Sample Nonce) :=
  fun device label =>
    match label with
    | .boot readFailure => some (device.reboot geometry codec readFailure)
    | .append sample nonce erase write =>
      some (device.append geometry codec sample nonce erase write)

end Device

end Eki.Firmware
