import Eki.Firmware.Checkpoints

/-!
# The last confirmed checkpoint survives

Whatever decodes is at most as new as the journal's generation, and only later
attempts are newer than the record that the journal holds as its latest.  The
journal neither writes that record's slot nor erases its page, so the scan after
a reboot finds it or a later attempt.  Which of the two the journal holds is
what a boot has decided: an attempt that it recovers takes the place of the
confirmed record, whose page may then be erased.
-/

namespace Eki.Firmware

open Transition

variable {Record Sample Nonce : Type}

/-! ## What a boot may recover -/

/-- The attempts back to the last one whose append returned true. -/
def candidates : List (Attempt Record Sample) → List (Attempt Record Sample)
  | [] => []
  | attempt :: earlier =>
    if attempt.confirmed then [attempt] else attempt :: candidates earlier

def lastConfirmed (attempts : List (Attempt Record Sample)) :
    Option (Attempt Record Sample) :=
  attempts.find? Attempt.confirmed

/-- The record is that of the last append that returned true or of a later
attempt, and of the former unless there has been a boot since. -/
structure Latest (attempts : List (Attempt Record Sample)) (boot : Nat)
    (attempt : Attempt Record Sample) : Prop where
  candidate : attempt ∈ candidates attempts
  confirmed : ∀ last, lastConfirmed attempts = some last → last.boot = boot →
    attempt = last

/-- A boot recovers the record of the last append that returned true or of a
later attempt. -/
def Recovery.Recovers (recovery : Recovery Record Sample) : Prop :=
  (lastConfirmed recovery.attempts).isSome = true →
    ∃ attempt ∈ candidates recovery.attempts,
      recovery.newest = some attempt.sample

/-- The page does not hold the record that the journal has as its latest, which
is whole on another page. -/
structure Erasure.Spares (geometry : Geometry)
    (erasure : Erasure Record Sample) : Prop where
  apart : ∀ latest, erasure.latest = some latest →
    geometry.page latest.index ≠ erasure.page
  kept : (lastConfirmed erasure.attempts).isSome = true →
    ∃ latest attempt, erasure.latest = some latest ∧
      Latest erasure.attempts erasure.boot attempt ∧
      erasure.flash latest.index = attempt.record ∧
      latest.sample = attempt.sample

structure Device.Lawful (geometry : Geometry)
    (device : Device Record Sample) : Prop where
  recovers : ∀ recovery ∈ device.recoveries, recovery.Recovers
  spares : ∀ erasure ∈ device.erasures, erasure.Spares geometry

/-- A slot of a torn page decodes only if it is as it was. -/
def EraseOutcome.authentic [DecidableEq Record] (geometry : Geometry)
    (codec : Codec Record Sample Nonce) (flash : Nat → Record) :
    EraseOutcome Record → Bool
  | .erased => true
  | .torn left =>
    (List.range geometry.recordCount).all fun index =>
      (codec.openRecord (left index)).isNone || left index == flash index

/-- A torn slot decodes only if it is as it was, or as it was to be. -/
def WriteOutcome.authentic [DecidableEq Record]
    (codec : Codec Record Sample Nonce) (held record : Record) :
    WriteOutcome Record → Bool
  | .torn left =>
    (codec.openRecord left).isNone || left == held || left == record
  | _ => true

/-- What storage and codec promise: only what was encoded decodes. -/
def Device.authentic [DecidableEq Record] (geometry : Geometry)
    (codec : Codec Record Sample Nonce) (device : Device Record Sample) :
    DeviceLabel Record Sample Nonce → Bool
  | .boot _ => true
  | .append sample nonce erase write =>
    let index := device.journal.writeIndex
    let held :=
      if geometry.startsPage index then codec.blank else device.flash index
    erase.authentic geometry codec device.flash &&
      nonce.all fun nonce =>
        write.authentic codec held
          (codec.sealRecord (Serial.next device.journal.generation) sample
            nonce)

def Spans (geometry : Geometry) (codec : Codec Record Sample Nonce)
    (flash : Nat → Record) (span : Nat) : Prop :=
  ∃ top, ∀ index < geometry.recordCount, ∀ generation sample,
    codec.openRecord (flash index) = some (generation, sample) →
    Serial.age top generation < span

/-! ## The scan -/

section Scan

variable {codec : Codec Record Sample Nonce} {flash : Nat → Record}

/-- What the scan of the first slots has found. -/
inductive Scanned (codec : Codec Record Sample Nonce) (flash : Nat → Record)
    (top : Serial.Number) (count : Nat) : Journal Sample → Prop where
  | nothing {journal : Journal Sample} (none : journal.latest = none)
      (closed : ∀ index < count, codec.openRecord (flash index) = .none) :
      Scanned codec flash top count journal
  | newest {journal : Journal Sample} {latest : Committed Sample}
      (found : journal.latest = some latest) (bound : latest.index < count)
      (opens : codec.openRecord (flash latest.index) =
        some (journal.generation, latest.sample))
      (newest : ∀ index < count, ∀ generation sample,
        codec.openRecord (flash index) = some (generation, sample) →
        Serial.age top journal.generation ≤ Serial.age top generation) :
      Scanned codec flash top count journal

variable {top : Serial.Number} {count : Nat}

theorem Scanned.observe {journal : Journal Sample}
    (scanned : Scanned codec flash top count journal)
    (young : ∀ index ≤ count, ∀ generation sample,
      codec.openRecord (flash index) = some (generation, sample) →
      Serial.age top generation < 2147483647) :
    Scanned codec flash top (count + 1) (observe codec flash journal count) := by
  unfold Firmware.observe
  cases opened : codec.openRecord (flash count) with
  | none =>
    cases scanned with
    | nothing none closed =>
      apply Scanned.nothing none
      intro index below
      rcases Nat.lt_succ_iff_lt_or_eq.mp below with earlier | rfl
      · exact closed index earlier
      · exact opened
    | newest found bound opens newest =>
      apply Scanned.newest found (by omega) opens
      intro index below generation sample opensToo
      rcases Nat.lt_succ_iff_lt_or_eq.mp below with earlier | rfl
      · exact newest index earlier generation sample opensToo
      · rw [opened] at opensToo
        cases opensToo
  | some pair =>
    obtain ⟨generation, sample⟩ := pair
    cases scanned with
    | nothing none closed =>
      have first : (journal.latest.isNone ||
          Serial.isNewer generation journal.generation) = true := by
        rw [none]
        rfl
      simp only [first, if_true]
      apply Scanned.newest rfl (Nat.lt_succ_self count) opened
      intro index below other otherSample opensToo
      rcases Nat.lt_succ_iff_lt_or_eq.mp below with earlier | rfl
      · rw [closed index earlier] at opensToo
        cases opensToo
      · rw [opened] at opensToo
        cases opensToo
        exact Nat.le_refl _
    | newest found bound opens newest =>
      have compares := Serial.isNewer_iff
        (codec.ne_zero_of_open _ _ _ opened)
        (codec.ne_zero_of_open _ _ _ opens)
        (young count (Nat.le_refl count) _ _ opened)
        (young _ (Nat.le_of_lt bound) _ _ opens)
      simp only [found, Option.isNone_some, Bool.false_or]
      split
      · rename_i newer
        rw [compares] at newer
        apply Scanned.newest rfl (Nat.lt_succ_self count) opened
        intro index below other otherSample opensToo
        rcases Nat.lt_succ_iff_lt_or_eq.mp below with earlier | rfl
        · have older := newest index earlier other otherSample opensToo
          exact Nat.le_trans (Nat.le_of_lt newer) older
        · rw [opened] at opensToo
          cases opensToo
          exact Nat.le_refl _
      · rename_i older
        rw [compares] at older
        apply Scanned.newest found (by omega) opens
        intro index below other otherSample opensToo
        rcases Nat.lt_succ_iff_lt_or_eq.mp below with earlier | rfl
        · exact newest index earlier other otherSample opensToo
        · rw [opened] at opensToo
          cases opensToo
          exact Nat.le_of_not_lt older

theorem scan_finds_newest (young : ∀ index < count, ∀ generation sample,
      codec.openRecord (flash index) = some (generation, sample) →
      Serial.age top generation < 2147483647) :
    Scanned codec flash top count (scan codec flash count) := by
  induction count with
  | zero =>
    apply Scanned.nothing rfl
    intro index below
    omega
  | succ count induction =>
    have earlier := induction fun index below =>
      young index (Nat.lt_succ_of_lt below)
    have next := earlier.observe fun index below =>
      young index (Nat.lt_succ_of_le below)
    unfold scan at next ⊢
    rw [List.range_succ, List.foldl_concat]
    exact next

end Scan

/-! ## The invariant -/

/-- A slot that the journal spares holds the latest record, and whatever
decodes and is not older is a later attempt. -/
structure Survives (geometry : Geometry) (codec : Codec Record Sample Nonce)
    (top : Serial.Number) (device : Device Record Sample) (slot : Nat)
    (attempt : Attempt Record Sample) : Prop where
  bound : slot < geometry.recordCount
  latest : Latest device.attempts device.boots attempt
  stored : device.flash slot = attempt.record
  newest : ∀ index < geometry.recordCount, ∀ generation sample,
    codec.openRecord (device.flash index) = some (generation, sample) →
    Serial.age top generation ≤ Serial.age top attempt.generation →
    ∃ later ∈ candidates device.attempts, device.flash index = later.record
  held : device.journal.ready = true →
    device.journal.latest = some { index := slot, sample := attempt.sample }

structure Placed (geometry : Geometry) (journal : Journal Sample) :
    Prop where
  whole : geometry.whole = true
  bound : journal.writeIndex < geometry.recordCount
  behind : ∀ latest, journal.latest = some latest →
    geometry.startsPage journal.writeIndex = false →
    geometry.page journal.writeIndex = geometry.page latest.index →
    latest.index < journal.writeIndex

structure Device.Sound (geometry : Geometry)
    (codec : Codec Record Sample Nonce) (span : Nat) (top : Serial.Number)
    (device : Device Record Sample) : Prop extends device.Lawful geometry where
  current : device.journal.ready = true → top = device.journal.generation
  placed : device.journal.ready = true → Placed geometry device.journal
  young : ∀ index < geometry.recordCount, ∀ generation sample,
    codec.openRecord (device.flash index) = some (generation, sample) →
    Serial.age top generation < span + device.attempts.length
  seals : ∀ attempt ∈ device.attempts,
    codec.openRecord attempt.record = some (attempt.generation, attempt.sample)
  boots : ∀ attempt ∈ device.attempts, attempt.boot ≤ device.boots
  survives : (lastConfirmed device.attempts).isSome = true →
    ∃ slot attempt, Survives geometry codec top device slot attempt

variable {attempt : Attempt Record Sample}

variable {attempts : List (Attempt Record Sample)}

theorem mem_of_mem_candidates (member : attempt ∈ candidates attempts) :
    attempt ∈ attempts := by
  induction attempts with
  | nil => cases member
  | cons first earlier induction =>
    unfold candidates at member
    split at member
    · cases List.mem_singleton.mp member
      exact List.mem_cons_self
    · rcases List.mem_cons.mp member with rfl | member
      · exact List.mem_cons_self
      · exact List.mem_cons_of_mem _ (induction member)

theorem Latest.reboot {boot : Nat}
    (boots : ∀ attempt ∈ attempts, attempt.boot ≤ boot)
    (candidate : attempt ∈ candidates attempts) :
    Latest attempts (boot + 1) attempt := by
  refine ⟨candidate, ?_⟩
  intro last found since
  have earlier := boots last (List.mem_of_find?_eq_some found)
  omega

namespace Device.Sound

variable {geometry : Geometry} {codec : Codec Record Sample Nonce}
  {span : Nat} {top : Serial.Number} {device : Device Record Sample}

theorem start {flash : Nat → Record} {programmed : Nat → Bool}
    (young : ∀ index < geometry.recordCount, ∀ generation sample,
      codec.openRecord (flash index) = some (generation, sample) →
      Serial.age top generation < span) :
    Sound geometry codec span top (Device.start flash programmed) where
  recovers := by rintro recovery ⟨⟩
  spares := by rintro erasure ⟨⟩
  current := by rintro ⟨⟩
  placed := by rintro ⟨⟩
  young := young
  seals := by rintro attempt ⟨⟩
  boots := by rintro attempt ⟨⟩
  survives := by rintro ⟨⟩

variable {journal : Journal Sample}

theorem reboot_unready (sound : device.Sound geometry codec span top)
    (unready : journal.ready = false) :
    Sound geometry codec span top
      { device with journal := journal, boots := device.boots + 1 } where
  recovers := sound.recovers
  spares := sound.spares
  current := by
    intro ready
    rw [unready] at ready
    cases ready
  placed := by
    intro ready
    rw [unready] at ready
    cases ready
  young := sound.young
  seals := sound.seals
  boots := fun attempt member =>
    Nat.le_succ_of_le (sound.boots attempt member)
  survives := by
    intro confirmed
    obtain ⟨slot, attempt, survives⟩ := sound.survives confirmed
    refine ⟨slot, attempt, survives.bound,
      .reboot sound.boots survives.latest.candidate, survives.stored,
      survives.newest, ?_⟩
    intro ready
    rw [unready] at ready
    cases ready

theorem placed_of_scan (whole : geometry.whole = true)
    (scanned : Scanned codec device.flash top geometry.recordCount journal) :
    Placed geometry
      { journal with
        ready := true
        writeIndex :=
          match journal.latest with
          | none => 0
          | some latest => (latest.index + 1) % geometry.recordCount } := by
  have positive := Geometry.recordCount_pos whole
  cases scanned with
  | nothing none closed =>
    refine ⟨whole, ?_, ?_⟩
    · simp only [none]
      exact positive
    · intro latest found
      rw [none] at found
      cases found
  | newest found bound opens newest =>
    refine ⟨whole, ?_, ?_⟩
    · simp only [found]
      exact Nat.mod_lt _ positive
    · intro latest same inside _
      rw [found] at same
      cases same
      simp only [found] at inside ⊢
      rcases Geometry.next_index bound with next | starts
      · rw [next]
        exact Nat.lt_succ_self _
      · rw [starts] at inside
        cases inside

section

variable (sound : device.Sound geometry codec span top)

include sound

theorem survives_of_scan
    (scanned : Scanned codec device.flash top geometry.recordCount journal)
    (next : Journal Sample) (generation : next.generation = journal.generation)
    (latest : next.latest = journal.latest)
    (confirmed : (lastConfirmed device.attempts).isSome = true) :
    ∃ slot attempt,
      Survives geometry codec next.generation
        { device with journal := next, boots := device.boots + 1 } slot
        attempt := by
  obtain ⟨slot, attempt, survives⟩ := sound.survives confirmed
  have seals := sound.seals attempt
    (mem_of_mem_candidates survives.latest.candidate)
  have slotOpens : codec.openRecord (device.flash slot) =
      some (attempt.generation, attempt.sample) := by
    rw [survives.stored]
    exact seals
  cases scanned with
  | nothing none closed =>
    rw [closed slot survives.bound] at slotOpens
    cases slotOpens
  | newest found bound opens newest =>
    have younger := newest slot survives.bound _ _ slotOpens
    obtain ⟨later, candidate, stored⟩ :=
      survives.newest _ bound _ _ opens younger
    have laterSeals := sound.seals later (mem_of_mem_candidates candidate)
    rw [stored, laterSeals] at opens
    obtain ⟨sameGeneration, sameSample⟩ :=
      Prod.mk.inj (Option.some.inj opens)
    refine ⟨_, later, bound, .reboot sound.boots candidate, stored, ?_, ?_⟩
    · intro index below other sample opensToo older
      apply survives.newest index below other sample opensToo
      rw [sameGeneration, generation, Serial.age_self] at older
      have notOlder := newest index below other sample opensToo
      rw [Serial.age_sub notOlder] at older
      omega
    · intro _
      rw [latest, found, sameSample]

theorem reboot_ready (fits : span + device.attempts.length < 2147483648)
    (whole : geometry.whole = true) {readFailure : Option Nat}
    (readable : readFailure.filter (· < geometry.recordCount) = none) :
    ∃ next, (device.reboot geometry codec readFailure).Sound geometry codec
      span next := by
  have scanned : Scanned codec device.flash top geometry.recordCount
      (scan codec device.flash geometry.recordCount) := by
    apply scan_finds_newest
    intro index below generation sample opens
    have young := sound.young index below generation sample opens
    omega
  have placed := placed_of_scan whole scanned
  have survives := sound.survives_of_scan scanned
    (initializeJournal geometry codec device.flash readFailure)
  simp only [initializeJournal, whole, readable, Bool.not_true,
    Bool.false_eq_true, if_false, forall_true_left] at survives
  refine ⟨(scan codec device.flash geometry.recordCount).generation, ?_⟩
  unfold Device.reboot
  simp only [initializeJournal, whole, readable, Bool.not_true,
    Bool.false_eq_true, if_false, if_true]
  constructor
  · constructor
    · intro recovery member
      rcases List.mem_cons.mp member with rfl | earlier
      · intro confirmed
        obtain ⟨slot, attempt, survives⟩ := survives confirmed
        refine ⟨attempt, survives.latest.candidate, ?_⟩
        have held := survives.held rfl
        simp only at held ⊢
        rw [held]
        rfl
      · exact sound.recovers recovery earlier
    · exact sound.spares
  · exact fun _ => rfl
  · exact fun _ => placed
  · intro index below generation sample opens
    have young := sound.young index below generation sample opens
    cases scanned with
    | nothing none closed =>
      rw [closed index below] at opens
      cases opens
    | newest found bound opensToo newest =>
      rw [Serial.age_sub (newest index below generation sample opens)]
      exact Nat.lt_of_le_of_lt (Nat.sub_le _ _) young
  · exact sound.seals
  · exact fun attempt member =>
      Nat.le_succ_of_le (sound.boots attempt member)
  · intro confirmed
    obtain ⟨slot, attempt, survives⟩ := survives confirmed
    exact ⟨slot, attempt, survives.bound, survives.latest, survives.stored,
      survives.newest, survives.held⟩

theorem reboot (fits : span + device.attempts.length < 2147483648)
    (readFailure : Option Nat) :
    ∃ next, (device.reboot geometry codec readFailure).Sound geometry codec
      span next := by
  have unreadable : ∀ journal : Journal Sample, journal.ready = false →
      initializeJournal geometry codec device.flash readFailure = journal →
      ∃ next, (device.reboot geometry codec readFailure).Sound geometry codec
        span next := by
    intro journal unready same
    refine ⟨top, ?_⟩
    unfold Device.reboot
    simp only [same, unready]
    exact sound.reboot_unready unready
  cases whole : geometry.whole with
  | false =>
    apply unreadable { } rfl
    simp [initializeJournal, whole]
  | true =>
    cases failure : readFailure.filter (· < geometry.recordCount) with
    | some index =>
      apply unreadable
        { scan codec device.flash index with latest := none }
      · exact scan_ready codec device.flash index
      · simp [initializeJournal, whole, failure]
    | none => exact sound.reboot_ready fits whole failure

theorem skipPage (ready : device.journal.ready = true)
    (starts : geometry.startsPage device.journal.writeIndex = true) :
    (device.skipPage geometry).Sound geometry codec span top := by
  have placed := sound.placed ready
  refine ⟨⟨sound.recovers, sound.spares⟩, sound.current, ?_, sound.young,
    sound.seals, sound.boots, ?_⟩
  · intro _
    refine ⟨placed.whole, Nat.mod_lt _ (Geometry.recordCount_pos placed.whole),
      ?_⟩
    intro latest _ inside _
    have starts := Geometry.startsPage_skip placed.whole starts
    have inside : geometry.startsPage
        ((device.journal.writeIndex + geometry.recordsPerPage) %
          geometry.recordCount) = false := inside
    rw [starts] at inside
    cases inside
  · intro confirmed
    obtain ⟨slot, attempt, survives⟩ := sound.survives confirmed
    exact ⟨slot, attempt, survives.bound, survives.latest, survives.stored,
      survives.newest, survives.held⟩

end

variable {latest : Committed Sample}

theorem page_ne_of_holdsLatest (free : device.holdsLatest geometry = false)
    (found : device.journal.latest = some latest) :
    geometry.page latest.index ≠ geometry.page device.journal.writeIndex := by
  unfold Device.holdsLatest at free
  rw [found, Option.any_some, beq_eq_false_iff_ne] at free
  exact Ne.symm free

section

variable (sound : device.Sound geometry codec span top)
  (ready : device.journal.ready = true)
  (clear : geometry.startsPage device.journal.writeIndex = true →
    device.holdsLatest geometry = false)

include sound ready clear

theorem writeIndex_ne (found : device.journal.latest = some latest) :
    latest.index ≠ device.journal.writeIndex := by
  intro same
  cases starts : geometry.startsPage device.journal.writeIndex with
  | true =>
    apply page_ne_of_holdsLatest (clear starts) found
    rw [same]
  | false =>
    have behind := (sound.placed ready).behind latest found starts
      (congrArg geometry.page same).symm
    omega

/-- Behind the slot that is written the journal stays behind its latest
record. -/
theorem placed_of_writeRecord (sample : Sample) (nonce : Nonce)
    (outcome : WriteOutcome Record) :
    Placed geometry
      (device.writeRecord geometry codec sample nonce outcome).journal := by
  have placed := sound.placed ready
  refine ⟨placed.whole, Nat.mod_lt _ (Geometry.recordCount_pos placed.whole),
    ?_⟩
  unfold Device.writeRecord
  intro latest found inside same
  simp only at found inside same ⊢
  rcases Geometry.next_index placed.bound with next | starts
  · rw [next] at inside same ⊢
    rw [Geometry.page_succ inside] at same
    -- The latest record is the new one, or stays behind the slot before.
    split at found
    · cases found
      exact Nat.lt_succ_self _
    · cases starts : geometry.startsPage device.journal.writeIndex with
      | true =>
        have apart := page_ne_of_holdsLatest (clear starts) found
        exact absurd same.symm apart
      | false =>
        have behind := placed.behind latest found starts same
        omega
  · rw [starts] at inside
    cases inside

end

section Append

variable [DecidableEq Record]

variable {sample : Sample}

variable {outcome : EraseOutcome Record} {index : Nat}
  {generation : Serial.Number}

/-- What decodes after an erasure is as it was. -/
theorem opens_of_erasePage
    (authentic : outcome.authentic geometry codec device.flash = true)
    (below : index < geometry.recordCount) (opens : codec.openRecord
      ((device.erasePage geometry codec outcome).flash index) =
        some (generation, sample)) :
    codec.openRecord (device.flash index) = some (generation, sample) ∧
      (device.erasePage geometry codec outcome).flash index =
        device.flash index := by
  unfold Device.erasePage at opens ⊢
  simp only at opens ⊢
  split at opens
  · rename_i same
    rw [if_pos same]
    cases outcome with
    | erased =>
      rw [codec.open_blank] at opens
      cases opens
    | torn left =>
      have faithful := List.all_eq_true.mp authentic index
        (List.mem_range.mpr below)
      simp only at opens ⊢
      rw [opens, Option.isNone_some, Bool.false_or, beq_iff_eq] at faithful
      rw [faithful] at opens ⊢
      exact ⟨opens, rfl⟩
  · rename_i other
    rw [if_neg other]
    exact ⟨opens, rfl⟩

theorem erasePage (sound : device.Sound geometry codec span top)
    (ready : device.journal.ready = true)
    (free : device.holdsLatest geometry = false)
    (authentic : outcome.authentic geometry codec device.flash = true) :
    (device.erasePage geometry codec outcome).Sound geometry codec span
      top := by
  refine ⟨⟨sound.recovers, ?_⟩, sound.current, ?_, ?_, sound.seals,
    sound.boots, ?_⟩
  · intro erasure member
    rcases List.mem_cons.mp member with rfl | earlier
    · constructor
      · intro latest found
        exact page_ne_of_holdsLatest free found
      · intro confirmed
        obtain ⟨slot, attempt, survives⟩ := sound.survives confirmed
        exact ⟨_, attempt, survives.held ready, survives.latest,
          survives.stored, rfl⟩
    · exact sound.spares erasure earlier
  · intro _
    have placed := sound.placed ready
    exact ⟨placed.whole, placed.bound, placed.behind⟩
  · intro index below generation sample opens
    have before := (opens_of_erasePage authentic below opens).1
    exact sound.young index below generation sample before
  · intro confirmed
    obtain ⟨slot, attempt, survives⟩ := sound.survives confirmed
    refine ⟨slot, attempt, survives.bound, survives.latest, ?_, ?_,
      survives.held⟩
    · have apart := page_ne_of_holdsLatest free (survives.held ready)
      unfold Device.erasePage
      simp only
      rw [if_neg apart]
      exact survives.stored
    · intro index below generation sample opens older
      obtain ⟨before, same⟩ := opens_of_erasePage authentic below opens
      rw [same]
      exact survives.newest index below generation sample before older

variable {nonce : Nonce} {outcome : WriteOutcome Record}

theorem opens_of_writeRecord (authentic : outcome.authentic codec
      (device.flash device.journal.writeIndex)
      (codec.sealRecord (Serial.next device.journal.generation) sample
        nonce) = true) {held : Sample} (opens : codec.openRecord
      ((device.writeRecord geometry codec sample nonce outcome).flash index) =
        some (generation, held)) :
    (device.writeRecord geometry codec sample nonce outcome).flash index =
        codec.sealRecord (Serial.next device.journal.generation) sample
          nonce ∨
      codec.openRecord (device.flash index) = some (generation, held) ∧
        (device.writeRecord geometry codec sample nonce outcome).flash index =
          device.flash index := by
  unfold Device.writeRecord at opens ⊢
  simp only at opens ⊢
  by_cases next : index = device.journal.writeIndex
  · subst next
    cases outcome with
    | stored => exact .inl (Function.update_self ..)
    | refused => exact .inr ⟨opens, rfl⟩
    | torn left =>
      simp only [Function.update_self] at opens ⊢
      simp only [WriteOutcome.authentic, opens, Option.isNone_some,
        Bool.false_or, Bool.or_eq_true, beq_iff_eq] at authentic
      rcases authentic with old | new
      · rw [old] at opens ⊢
        exact .inr ⟨opens, rfl⟩
      · exact .inl new
  · right
    cases outcome with
    | stored | torn =>
      simp only [Function.update_of_ne next] at opens ⊢
      exact ⟨opens, trivial⟩
    | refused => exact ⟨opens, rfl⟩

section

variable (sound : device.Sound geometry codec span top)
  (fits : span + device.attempts.length + 1 < 2147483648)
  (ready : device.journal.ready = true)

include sound fits ready

theorem survives_of_failedWrite
    (clear : geometry.startsPage device.journal.writeIndex = true →
      device.holdsLatest geometry = false) (failed : outcome ≠ .stored)
    (authentic : outcome.authentic codec
      (device.flash device.journal.writeIndex)
      (codec.sealRecord (Serial.next device.journal.generation) sample
        nonce) = true) {slot : Nat}
    (survives : Survives geometry codec top device slot attempt) :
    Survives geometry codec (Serial.next device.journal.generation)
      (device.writeRecord geometry codec sample nonce outcome) slot
      attempt := by
  have apart := sound.writeIndex_ne ready clear (survives.held ready)
  have current := sound.current ready
  have opens : codec.openRecord (device.flash slot) =
      some (attempt.generation, attempt.sample) := by
    rw [survives.stored]
    exact sound.seals attempt
      (mem_of_mem_candidates survives.latest.candidate)
  have young := sound.young slot survives.bound _ _ opens
  have unconfirmed : outcome.returned = false := by
    cases outcome with
    | stored => exact absurd rfl failed
    | refused | torn => rfl
  refine ⟨survives.bound, ⟨?_, ?_⟩, ?_, ?_, ?_⟩
  · unfold Device.writeRecord
    simp only [unconfirmed, candidates, Bool.false_eq_true, if_false]
    exact List.mem_cons_of_mem _ survives.latest.candidate
  · unfold Device.writeRecord
    simp only [unconfirmed, lastConfirmed, List.find?_cons]
    exact survives.latest.confirmed
  · rw [← survives.stored]
    unfold Device.writeRecord
    cases outcome with
    | stored => exact absurd rfl failed
    | refused => rfl
    | torn left => exact Function.update_of_ne apart _ _
  · intro index below generation held opensToo older
    have stays : ∀ later ∈ candidates device.attempts, later ∈ candidates
        (device.writeRecord geometry codec sample nonce outcome).attempts := by
      intro later member
      unfold Device.writeRecord
      simp only [unconfirmed, candidates, Bool.false_eq_true, if_false]
      exact List.mem_cons_of_mem _ member
    rcases opens_of_writeRecord authentic opensToo with new | ⟨before, same⟩
    · have first : ∀ attempt : Attempt Record Sample,
          attempt.confirmed = false →
          attempt ∈ candidates (attempt :: device.attempts) := by
        intro attempt failed
        simp only [candidates, failed, Bool.false_eq_true, if_false]
        exact List.mem_cons_self
      exact ⟨_, first _ unconfirmed, new⟩
    · have youngToo := sound.young index below _ _ before
      rw [← current] at older
      have bound : Serial.period = 4294967295 := rfl
      rw [Serial.age_next (by omega), Serial.age_next (by omega)] at older
      obtain ⟨later, member, stored⟩ :=
        survives.newest index below _ _ before (by omega)
      exact ⟨later, stays later member, same.trans stored⟩
  · intro _
    unfold Device.writeRecord
    simp only [unconfirmed, Bool.false_eq_true, if_false]
    exact survives.held ready

theorem survives_of_storedWrite (sample : Sample) (nonce : Nonce) :
    ∃ attempt,
      Survives geometry codec (Serial.next device.journal.generation)
        (device.writeRecord geometry codec sample nonce .stored)
        device.journal.writeIndex attempt := by
  have current := sound.current ready
  refine ⟨_, (sound.placed ready).bound, ⟨List.mem_singleton_self _, ?_⟩,
    Function.update_self .., ?_, fun _ => rfl⟩
  · intro last found _
    exact Option.some.inj found
  · intro index below generation held opens older
    refine ⟨_, List.mem_singleton_self _, ?_⟩
    have stored : (WriteOutcome.stored : WriteOutcome Record).authentic codec
        (device.flash device.journal.writeIndex)
        (codec.sealRecord (Serial.next device.journal.generation) sample
          nonce) = true := rfl
    rcases opens_of_writeRecord stored opens with new | ⟨before, _⟩
    · exact new
    · -- Whatever was there before is older.
      have young := sound.young index below _ _ before
      have bound : Serial.period = 4294967295 := rfl
      simp only [Serial.age_self] at older
      rw [← current, Serial.age_next (by omega)] at older
      omega

theorem writeRecord
    (clear : geometry.startsPage device.journal.writeIndex = true →
      device.holdsLatest geometry = false) (authentic : outcome.authentic codec
      (device.flash device.journal.writeIndex)
      (codec.sealRecord (Serial.next device.journal.generation) sample
        nonce) = true) :
    (device.writeRecord geometry codec sample nonce outcome).Sound geometry
      codec span (Serial.next device.journal.generation) := by
  have current := sound.current ready
  have sealed := codec.open_seal (Serial.next device.journal.generation)
    sample nonce (Serial.next_ne_zero _)
  refine ⟨⟨sound.recovers, sound.spares⟩, fun _ => rfl, ?_, ?_, ?_, ?_, ?_⟩
  · intro _
    exact sound.placed_of_writeRecord ready clear sample nonce outcome
  · intro index below generation held opens
    have counted : (device.writeRecord geometry codec sample nonce
        outcome).attempts.length = device.attempts.length + 1 := rfl
    rw [counted]
    rcases opens_of_writeRecord authentic opens with new | ⟨before, _⟩
    · rw [new, sealed] at opens
      cases opens
      rw [Serial.age_self]
      omega
    · have young := sound.young index below _ _ before
      have bound : Serial.period = 4294967295 := rfl
      rw [← current, Serial.age_next (by omega)]
      omega
  · intro attempt member
    rcases List.mem_cons.mp member with rfl | earlier
    · exact sealed
    · exact sound.seals attempt earlier
  · intro attempt member
    rcases List.mem_cons.mp member with rfl | earlier
    · exact Nat.le_refl _
    · exact sound.boots attempt earlier
  · intro confirmed
    by_cases stored : outcome = .stored
    · subst stored
      exact ⟨_, sound.survives_of_storedWrite fits ready sample nonce⟩
    · have before : (lastConfirmed device.attempts).isSome = true := by
        cases outcome with
        | stored => exact absurd rfl stored
        | refused | torn => exact confirmed
      obtain ⟨slot, attempt, survives⟩ := sound.survives before
      exact ⟨slot, attempt,
        sound.survives_of_failedWrite fits ready clear stored authentic
          survives⟩

end

theorem append (sound : device.Sound geometry codec span top)
    {nonce : Option Nonce} {erase : EraseOutcome Record}
    {write : WriteOutcome Record}
    (fits : span + (device.append geometry codec sample nonce erase
      write).attempts.length < 2147483648)
    (authentic : device.authentic geometry codec
      (.append sample nonce erase write) = true) :
    ∃ next, (device.append geometry codec sample nonce erase write).Sound
      geometry codec span next := by
  unfold Device.append at fits ⊢
  unfold Device.authentic at authentic
  rw [Bool.and_eq_true] at authentic
  obtain ⟨erases, writes⟩ := authentic
  cases ready : device.journal.ready with
  | false => exact ⟨top, by simpa [ready] using sound⟩
  | true =>
    simp only [ready, Bool.not_true, Bool.false_eq_true, if_false] at fits ⊢
    cases nonce with
    | none => exact ⟨top, sound⟩
    | some nonce =>
      simp only [Option.all_some] at writes
      simp only at fits ⊢
      cases starts : geometry.startsPage device.journal.writeIndex with
      | false =>
        simp only [starts, Bool.false_eq_true, if_false] at writes fits ⊢
        refine ⟨_, sound.writeRecord fits ready ?_ writes⟩
        intro other
        rw [starts] at other
        cases other
      | true =>
        simp only [starts, if_true] at writes fits ⊢
        cases free : device.holdsLatest geometry with
        | true =>
          simp only [if_true]
          exact ⟨top, sound.skipPage ready starts⟩
        | false =>
          simp only [free, Bool.false_eq_true, if_false] at fits ⊢
          cases erase with
          | torn left =>
            have torn := sound.erasePage ready free erases
            exact ⟨top, torn.skipPage ready starts⟩
          | erased =>
            have erased := sound.erasePage ready free erases
            refine ⟨_, erased.writeRecord fits ready ?_ ?_⟩
            · intro _
              exact free
            · have blank : (device.erasePage geometry codec
                  .erased).flash device.journal.writeIndex =
                  codec.blank := if_pos rfl
              have blank : (device.erasePage geometry codec
                  .erased).flash
                  (device.erasePage geometry codec
                    .erased).journal.writeIndex =
                  codec.blank := blank
              rw [blank]
              exact writes

theorem step (sound : device.Sound geometry codec span top)
    {label : DeviceLabel Record Sample Nonce} {next : Device Record Sample}
    (fits : span + next.attempts.length < 2147483648)
    (authentic : device.authentic geometry codec label = true)
    (taken : Device.step geometry codec device label = some next) :
    ∃ newest, next.Sound geometry codec span newest := by
  cases label with
  | boot readFailure =>
    cases taken
    exact sound.reboot fits readFailure
  | append sample nonce erase write =>
    cases taken
    exact sound.append fits authentic

end Append

end Device.Sound

theorem attempts_le_of_step {geometry : Geometry}
    {codec : Codec Record Sample Nonce} {device next : Device Record Sample}
    {label : DeviceLabel Record Sample Nonce}
    (taken : Device.step geometry codec device label = some next) :
    device.attempts.length ≤ next.attempts.length := by
  cases label with
  | boot readFailure =>
    cases taken
    exact Nat.le_refl _
  | append sample nonce erase write =>
    cases taken
    unfold Device.append
    split
    · exact Nat.le_refl _
    · split
      · exact Nat.le_refl _
      · split
        · split
          · exact Nat.le_refl _
          · split
            · exact Nat.le_refl _
            · exact Nat.le_succ _
        · exact Nat.le_succ _

/-- **The last confirmed checkpoint survives**: every boot that reads the
storage recovers it or a later attempt, and no page is erased that holds the
record which the journal has as its latest. -/
theorem last_confirmed_checkpoint_survives [DecidableEq Record]
    (geometry : Geometry) (codec : Codec Record Sample Nonce)
    {flash : Nat → Record} {programmed : Nat → Bool} {span : Nat}
    (spans : Spans geometry codec flash span) {last : Device Record Sample}
    (steps : System.Steps (Device.step geometry codec)
      (fun device label => device.authentic geometry codec label = true)
      (.start flash programmed) last)
    (fits : span + last.attempts.length < 2147483648) :
    last.Lawful geometry := by
  have sound : span + last.attempts.length < 2147483648 →
      ∃ top, last.Sound geometry codec span top := by
    apply steps.invariant
    · intro _
      obtain ⟨top, young⟩ := spans
      exact ⟨top, .start young⟩
    · intro device label next holds authentic taken fits
      have fewer := attempts_le_of_step taken
      obtain ⟨top, sound⟩ := holds (by omega)
      exact sound.step fits authentic taken
  obtain ⟨top, sound⟩ := sound fits
  exact sound.toLawful

/-- The page does not hold the only copy of the record of the last append that
returned true. -/
def Erasure.SparesConfirmed (geometry : Geometry)
    (erasure : Erasure Record Sample) : Prop :=
  ∀ confirmed, lastConfirmed erasure.attempts = some confirmed →
    (∃ index < geometry.recordCount,
      erasure.flash index = confirmed.record ∧
        geometry.page index = erasure.page) →
    ∃ index < geometry.recordCount,
      erasure.flash index = confirmed.record ∧
        geometry.page index ≠ erasure.page

def ConfirmedCheckpointSurvives [DecidableEq Record] (geometry : Geometry)
    (codec : Codec Record Sample Nonce) : Prop :=
  ∀ (flash : Nat → Record) (programmed : Nat → Bool) (span : Nat)
    (last : Device Record Sample),
    Spans geometry codec flash span →
    System.Steps (Device.step geometry codec)
      (fun device label => device.authentic geometry codec label = true)
      (.start flash programmed) last →
    span + last.attempts.length < 2147483648 →
    (∀ recovery ∈ last.recoveries, recovery.Recovers) ∧
      ∀ erasure ∈ last.erasures, erasure.SparesConfirmed geometry

/-- Records that carry what they encode. -/
def plainCodec : Codec (Option (Serial.Number × Nat)) Nat Unit where
  sealRecord generation sample _ := some (generation, sample)
  openRecord record := record.filter fun pair => pair.1 != 0
  blank := none
  open_seal := by
    intro generation sample nonce some
    rw [Option.filter_some, if_pos]
    simpa using some
  ne_zero_of_open := by
    intro record generation sample opens
    have valid := (Option.filter_eq_some_iff.mp opens).2
    simpa using valid
  open_blank := rfl

def twoPages : Geometry where
  recordCount := 2
  recordsPerPage := 1
  positive := by decide

theorem spans_blank (geometry : Geometry) :
    Spans geometry plainCodec (fun _ => none) 0 := by
  refine ⟨0, ?_⟩
  rintro index _ generation sample ⟨⟩

/-- A confirmed append, an append whose record is stored although its write
fails, a boot, and a third append. -/
def unknownOutcome :
    List (DeviceLabel (Option (Serial.Number × Nat)) Nat Unit) :=
  [.boot none, .append 1 (some ()) .erased .stored,
    .append 2 (some ()) .erased (.torn (some (2, 2))), .boot none,
    .append 3 (some ()) .erased .stored]

theorem last_confirmed_checkpoint_survives_unknown :
    ∃ last : Device (Option (Serial.Number × Nat)) Nat,
      last.recoveries.map Recovery.newest = [some 2, none] ∧
        last.erasures.map Erasure.page = [0, 1, 0] ∧
        last.Lawful twoPages := by
  have decided :
      ((Device.step twoPages plainCodec).run
        (fun device label => device.authentic twoPages plainCodec label)
        (.start (fun _ => none) fun _ => false) unknownOutcome).any
        (fun last =>
          last.recoveries.map Recovery.newest == [some 2, none] &&
            last.erasures.map Erasure.page == [0, 1, 0] &&
            last.attempts.length == 3) = true := by
    decide +kernel
  obtain ⟨last, steps, ends⟩ := System.exists_of_run decided
  rw [Bool.and_eq_true, Bool.and_eq_true, beq_iff_eq, beq_iff_eq,
    beq_iff_eq] at ends
  obtain ⟨⟨recovers, erases⟩, attempts⟩ := ends
  refine ⟨last, recovers, erases, ?_⟩
  apply last_confirmed_checkpoint_survives twoPages plainCodec
    (spans_blank twoPages) steps
  rw [attempts]
  decide

/-- The boot has recovered the second record, and the page of the confirmed one
is erased. -/
theorem recovered_checkpoint_replaces_confirmed :
    ¬ ConfirmedCheckpointSurvives twoPages plainCodec := by
  intro survives
  have decided :
      ((Device.step twoPages plainCodec).run
        (fun device label => device.authentic twoPages plainCodec label)
        (.start (fun _ => none) fun _ => false) unknownOutcome).any
        (fun last =>
          (last.erasures.head?.any fun erasure =>
            (lastConfirmed erasure.attempts).any fun confirmed =>
              erasure.page == 0 && confirmed.record == some (1, 1) &&
                erasure.flash 0 == some (1, 1) &&
                erasure.flash 1 == some (2, 2)) &&
            last.attempts.length == 3) = true := by
    decide +kernel
  obtain ⟨last, steps, ends⟩ := System.exists_of_run decided
  rw [Bool.and_eq_true, beq_iff_eq] at ends
  obtain ⟨found, attempts⟩ := ends
  obtain ⟨erasure, first, found⟩ := (Option.any_eq_true _ _).mp found
  obtain ⟨confirmed, latest, found⟩ := (Option.any_eq_true _ _).mp found
  simp only [Bool.and_eq_true, beq_iff_eq] at found
  obtain ⟨⟨⟨page, record⟩, zero⟩, one⟩ := found
  have fits : 0 + last.attempts.length < 2147483648 := by
    rw [attempts]
    decide
  have spares := (survives _ _ 0 last (spans_blank twoPages) steps fits).2
    erasure (List.mem_of_head? first) confirmed latest
    ⟨0, by decide, by rw [zero, record], by rw [page]; rfl⟩
  obtain ⟨index, below, copy, apart⟩ := spares
  have cases : index = 0 ∨ index = 1 := by
    have below : index < 2 := below
    omega
  rcases cases with rfl | rfl
  · rw [page] at apart
    exact apart rfl
  · rw [one, record] at copy
    cases copy

end Eki.Firmware
