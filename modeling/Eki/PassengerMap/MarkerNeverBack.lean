import Mathlib.Algebra.Order.Group.Unbundled.Basic
import Mathlib.Data.Prod.Lex
import Mathlib.Order.WithBot
import Eki.PassengerMap.MarkerPosition

/-!
# A marker does not go back

The marker of a ride never shows an older sample than before, and it holds a
match for a moment only.
-/

namespace Eki.PassengerMap

open Segments (LatLng)
open Transition
open Option (filter_eq_some_iff mem_def)

variable {R : Type}

/-! ## The order of the samples -/

/-- A missing number comes first. -/
def rank : Option R → WithBot R
  | none => ⊥
  | some value => value

/-- Samples are ordered by their times, then by their numbers. -/
def SampleIdentity.key (sample : SampleIdentity R) :
    WithBot R ×ₗ WithBot R :=
  toLex (rank sample.sampledAt, rank sample.seq)

theorem rank_injective {left right : Option R}
    (same : rank left = rank right) : left = right := by
  cases left <;> cases right <;> simp_all [rank]

variable {sample : SampleIdentity R}

theorem SampleIdentity.key_injective {other : SampleIdentity R}
    (same : sample.key = other.key) : sample = other := by
  have parts := congrArg ofLex same
  simp only [SampleIdentity.key, ofLex_toLex, Prod.mk.injEq] at parts
  cases sample
  cases other
  cases rank_injective parts.1
  cases rank_injective parts.2
  rfl

/-! ## What a selection shows -/

namespace LiveBusMarkerSelection

variable [LinearOrder R]

structure Sound (shown : LiveBusMarkerSelection R) : Prop where
  held : shown.decision = .matchPending →
    ∃ retained pendingUntil, shown.retainedMatch = some retained ∧
      shown.pendingUntil = some pendingUntil ∧
      shown.position = some retained.position ∧
      retained.sample.key < shown.latestSample.key
  settled : shown.decision ≠ .matchPending →
    (shown.retainedMatch = none ∧ shown.position = shown.rawPosition) ∨
      ∃ retained, shown.retainedMatch = some retained ∧
        shown.position = some retained.position ∧
        retained.sample = shown.latestSample

/-- The sample that the position belongs to. -/
def shownSample (shown : LiveBusMarkerSelection R) : SampleIdentity R :=
  (shown.retainedMatch.map RetainedMatch.sample).getD shown.latestSample

variable {shown : LiveBusMarkerSelection R}

theorem Sound.shownSample_le (sound : shown.Sound) :
    shown.shownSample.key ≤ shown.latestSample.key := by
  by_cases pending : shown.decision = .matchPending
  · obtain ⟨retained, pendingUntil, held, -, -, earlier⟩ := sound.held pending
    simpa [shownSample, held] using earlier.le
  · obtain ⟨free, -⟩ | ⟨retained, held, -, own⟩ := sound.settled pending
    · simp [shownSample, free]
    · simp [shownSample, held, own]

theorem Sound.shownSample_eq (sound : shown.Sound)
    (settled : shown.decision ≠ .matchPending) :
    shown.shownSample = shown.latestSample := by
  obtain ⟨free, -⟩ | ⟨retained, held, -, own⟩ := sound.settled settled
  · simp [shownSample, free]
  · simp [shownSample, held, own]

theorem Sound.shownSample_lt (sound : shown.Sound)
    (pending : shown.decision = .matchPending) :
    shown.shownSample.key < shown.latestSample.key := by
  obtain ⟨retained, pendingUntil, held, -, -, earlier⟩ := sound.held pending
  simpa [shownSample, held] using earlier

/-- What a later selection keeps of an earlier one. -/
structure Follows (before after : LiveBusMarkerSelection R) : Prop where
  latest : before.latestSample.key ≤ after.latestSample.key
  sample : before.shownSample.key ≤ after.shownSample.key
  timer : before.decision = .matchPending → after.decision = .matchPending →
    before.shownSample = after.shownSample →
      before.pendingUntil = after.pendingUntil

variable {first second third : LiveBusMarkerSelection R}

/-- A match whose hold has ended is not held again. -/
theorem Follows.trans (sound : first.Sound) (second_sound : second.Sound)
    (front : first.Follows second) (back : second.Follows third) :
    first.Follows third where
  latest := front.latest.trans back.latest
  sample := front.sample.trans back.sample
  timer pending again same := by
    have equal : first.shownSample = second.shownSample :=
      SampleIdentity.key_injective
        (le_antisymm front.sample (same ▸ back.sample))
    have holding : second.decision = .matchPending := by
      by_contra settled
      have own := second_sound.shownSample_eq settled
      have later := sound.shownSample_lt pending
      rw [equal, own] at later
      exact absurd front.latest (not_le.mpr later)
    exact (front.timer pending holding equal).trans
      (back.timer holding again (equal ▸ same))

/-- A version stays known, and is not lowered. -/
def KeepsVersion (before after : LiveBusMarkerSelection R) : Prop :=
  ∀ version ∈ before.routeVersion,
    ∃ later ∈ after.routeVersion, version ≤ later

theorem KeepsVersion.trans (front : first.KeepsVersion second)
    (back : second.KeepsVersion third) : first.KeepsVersion third := by
  intro version known
  obtain ⟨middle, kept, below⟩ := front version known
  obtain ⟨last, keeps, above⟩ := back middle kept
  exact ⟨last, keeps, below.trans above⟩

end LiveBusMarkerSelection

/-! ## One selection -/

section Selected

variable [Field R] [LinearOrder R] {settings : MarkerSettings R}
  {input : LiveBusPositionInput R}
  {previous : Option (LiveBusMarkerSelection R)} {now : R}

/-- How a selection comes about. -/
inductive Selected (settings : MarkerSettings R)
    (input : LiveBusPositionInput R)
    (previous : Option (LiveBusMarkerSelection R)) (now : R) :
    LiveBusMarkerSelection R → Prop where
  | kept {last : LiveBusMarkerSelection R} (before : previous = some last)
      (lasts : holdLasts last now = true) :
      Selected settings input previous now
        { last with reason := .olderSnapshot }
  | expired {last : LiveBusMarkerSelection R} (before : previous = some last)
      (ended : holdLasts last now = false) :
      Selected settings input previous now (expiredSelection last now)
  | settled (decision : MarkerDecision) (reason : MarkerReason)
      (uncertain : Bool) (released : decision ≠ .matchPending)
      (current : previous.any (isOlder settings input) = false) :
      Selected settings input previous now
        (selection settings input decision reason (acceptedRawPosition input)
          uncertain (sampleIdentity settings input)
          (acceptedRawPosition input) none none)
  | matched {found : RetainedMatch R} (valid : validMatch input = some found)
      (own : found.sample = sampleIdentity settings input)
      (current : previous.any (isOlder settings input) = false) :
      Selected settings input previous now
        (selection settings input .matched .currentMatch
          (some found.position) false (sampleIdentity settings input)
          (acceptedRawPosition input) (some found) none)
  | held {retained : RetainedMatch R} {sameContext : Bool}
      (same : previous.isSome = true → sameContext = true)
      (source : retainedMatchForPending input (sampleIdentity settings input)
        previous sameContext = some retained)
      (earlier : compareSamples retained.sample
        (sampleIdentity settings input) < 0)
      (lasts : now < pendingEnd previous retained now)
      (current : previous.any (isOlder settings input) = false) :
      Selected settings input previous now
        (selection settings input .matchPending .awaitingMatch
          (some retained.position) true (sampleIdentity settings input)
          (acceptedRawPosition input) (some retained)
          (some (pendingEnd previous retained now)))

theorem selected (settings : MarkerSettings R)
    (input : LiveBusPositionInput R)
    (previous : Option (LiveBusMarkerSelection R)) (now : R) :
    Selected settings input previous now
      (selectLiveBusMarkerPosition settings input previous now) := by
  simp only [selectLiveBusMarkerPosition]
  split
  · rename_i last guarded
    have before := (filter_eq_some_iff.mp guarded).1
    split
    · rename_i lasts
      exact .kept before lasts
    · rename_i ended
      exact .expired before (by simpa using ended)
  · rename_i guarded
    have current : previous.any (isOlder settings input) = false := by
      cases previous <;> simp_all [Option.filter]
    split
    · exact .settled _ _ _ (by split <;> simp) current
    · split
      · rename_i found taken
        have matching := (filter_eq_some_iff.mp taken).1
        obtain ⟨valid, own⟩ := filter_eq_some_iff.mp matching
        simp only [Bool.and_eq_true, decide_eq_true_eq] at own
        exact .matched valid own.2 current
      · split
        · rename_i retained holding
          split at holding
          · rename_i free
            obtain ⟨source, waits⟩ := filter_eq_some_iff.mp holding
            simp only [Bool.and_eq_true, decide_eq_true_eq] at waits
            refine .held ?_ source waits.1 waits.2 current
            intro known
            simp only [Bool.and_eq_true, Bool.not_eq_true', known,
              Bool.true_and] at free
            simpa using free.1.1.1.1.1
          · cases holding
        · rename_i missing
          rw [← missing]
          exact .settled _ _ _ (by simp) current
        · rename_i position shown
          rw [← shown]
          exact .settled _ _ _ (by simp) current

variable [IsStrictOrderedRing R]

theorem compareSamples_neg (sample other : SampleIdentity R) :
    compareSamples sample other < 0 ↔ sample.key < other.key := by
  obtain ⟨seq, sampledAt⟩ := sample
  obtain ⟨otherSeq, otherAt⟩ := other
  rw [SampleIdentity.key, SampleIdentity.key, Prod.Lex.toLex_lt_toLex]
  by_cases same : sampledAt = otherAt
  · cases same
    cases seq <;> cases otherSeq <;> simp [compareSamples, rank]
  · cases sampledAt <;> cases otherAt <;> simp_all [compareSamples, rank]

omit [IsStrictOrderedRing R] in
theorem compareSamples_swap (sample other : SampleIdentity R) :
    compareSamples other sample = -compareSamples sample other := by
  obtain ⟨seq, sampledAt⟩ := sample
  obtain ⟨otherSeq, otherAt⟩ := other
  by_cases same : sampledAt = otherAt
  · cases same
    cases seq <;> cases otherSeq <;> simp [compareSamples]
  · have different : ¬ otherAt = sampledAt := fun equal => same equal.symm
    cases sampledAt <;> cases otherAt <;> simp_all [compareSamples]

theorem retainedMatchForPending_cases {sameContext : Bool}
    {retained : RetainedMatch R}
    (same : previous.isSome = true → sameContext = true)
    (source : retainedMatchForPending input sample previous sameContext =
      some retained) :
    (∃ last, previous = some last ∧ last.retainedMatch = some retained) ∨
      validMatch input = some retained ∧ ∀ last ∈ previous,
        last.shownSample.key ≤ retained.sample.key := by
  cases previous with
  | none =>
    exact .inr ⟨(filter_eq_some_iff.mp source).1,
      fun _ missing => nomatch missing⟩
  | some last =>
    cases same rfl
    simp only [retainedMatchForPending, Bool.not_true, Bool.false_eq_true,
      if_false] at source
    split at source
    · exact .inl ⟨last, rfl, source⟩
    · rename_i fromInput before stale held
      have valid := (filter_eq_some_iff.mp stale).1
      split at source
      · rename_i newer
        cases source
        have earlier := (compareSamples_neg before.sample retained.sample).mp
          (by rw [compareSamples_swap]; exact neg_lt_zero.mpr newer)
        refine .inr ⟨valid, fun _ given => ?_⟩
        cases given
        simpa [LiveBusMarkerSelection.shownSample, held] using earlier.le
      · exact .inl ⟨last, rfl, held.trans source⟩
    · rename_i fromInput stale free
      have valid := (filter_eq_some_iff.mp stale).1
      split at source
      · rename_i own
        cases source
        refine .inr ⟨valid, fun _ given => ?_⟩
        cases given
        simp [LiveBusMarkerSelection.shownSample, free, own]
      · cases source

def namesVersion (settings : MarkerSettings R)
    (input : LiveBusPositionInput R) (last : LiveBusMarkerSelection R) :
    Bool :=
  last.routeVersion.isNone || input.routeVersion.isSome ||
    decide (compareSamples (sampleIdentity settings input)
      last.latestSample < 0)

variable {last : LiveBusMarkerSelection R}

theorem current_of_not_isOlder (current : isOlder settings input last = false)
    (ride : last.identityKey = rideIdentityKey input) :
    last.latestSample.key ≤ (sampleIdentity settings input).key := by
  simp only [isOlder, ride, decide_true, Bool.true_and,
    Bool.or_eq_false_iff, decide_eq_false_iff_not] at current
  exact not_lt.mp fun older => current.1 ((compareSamples_neg _ _).mpr older)

/-- A selection is shown at this time of the client. -/
structure Timely (shown : LiveBusMarkerSelection R) (now : R) : Prop where
  lasts : holdLasts shown now = true
  brief : ∀ pendingUntil ∈ shown.pendingUntil,
    pendingUntil ≤ now + matchPendingHoldMs

namespace Selected

variable {next : LiveBusMarkerSelection R}

theorem sound (selected : Selected settings input previous now next)
    (before : ∀ last ∈ previous, last.Sound) : next.Sound := by
  cases selected with
  | kept known lasts =>
    have sound := before _ known
    exact ⟨sound.held, sound.settled⟩
  | @expired last known ended =>
    rw [expiredSelection, if_neg (by simp [ended])]
    refine ⟨?_, fun _ => .inl ⟨rfl, rfl⟩⟩
    intro pending
    simp only at pending
    split at pending <;> cases pending
  | settled decision reason uncertain released current =>
    exact ⟨fun pending => absurd pending released, fun _ => .inl ⟨rfl, rfl⟩⟩
  | @matched found valid own current =>
    exact ⟨fun pending => (nomatch pending),
      fun _ => .inr ⟨found, rfl, rfl, own⟩⟩
  | @held retained sameContext same source earlier lasts current =>
    exact ⟨fun _ => ⟨retained, _, rfl, rfl, rfl,
      (compareSamples_neg _ _).mp earlier⟩, fun settled => absurd rfl settled⟩

/-- A hold ends where it was to end, and a new one after the longest time. -/
theorem timely (selected : Selected settings input previous now next)
    (before : ∀ last ∈ previous, ∃ shownAt ≤ now, Timely last shownAt) :
    Timely next now := by
  cases selected with
  | kept known lasts =>
    obtain ⟨shownAt, sooner, timely⟩ := before _ known
    exact ⟨lasts, fun pendingUntil waits =>
      (timely.brief pendingUntil waits).trans (by simpa using sooner)⟩
  | @expired last known ended =>
    rw [expiredSelection, if_neg (by simp [ended])]
    refine ⟨?_, fun _ waits => nomatch waits⟩
    simp [holdLasts]
  | settled decision reason uncertain released current =>
    exact ⟨by simp [holdLasts, selection, released],
      fun _ waits => nomatch waits⟩
  | matched valid own current =>
    exact ⟨by simp [holdLasts, selection], fun _ waits => nomatch waits⟩
  | @held retained sameContext same source earlier lasts current =>
    refine ⟨by simpa [holdLasts, selection] using lasts, ?_⟩
    intro pendingUntil waits
    cases waits
    unfold pendingEnd
    cases bound : previous.bind _ with
    | none => exact le_refl _
    | some pendingUntil =>
      obtain ⟨last, known, carried⟩ := Option.bind_eq_some_iff.mp bound
      obtain ⟨shownAt, sooner, timely⟩ := before _ known
      split at carried
      · exact (timely.brief pendingUntil carried).trans (by simpa using sooner)
      · cases carried

variable (selected : Selected settings input previous now next)
  (known : previous = some last)

include selected known

theorem follows (sound : last.Sound)
    (ride : last.identityKey = rideIdentityKey input) : last.Follows next := by
  cases selected with
  | kept before lasts =>
    cases known.symm.trans before
    exact ⟨le_refl _, le_refl _, fun _ _ _ => rfl⟩
  | expired before ended =>
    cases known.symm.trans before
    rw [expiredSelection, if_neg (by simp [ended])]
    refine ⟨le_refl _, sound.shownSample_le, fun _ pending => ?_⟩
    simp only at pending
    split at pending <;> cases pending
  | settled decision reason uncertain released current =>
    rw [known] at current
    have latest := current_of_not_isOlder current ride
    exact ⟨latest, sound.shownSample_le.trans latest,
      fun _ pending => absurd pending released⟩
  | @matched found valid own current =>
    rw [known] at current
    have latest := current_of_not_isOlder current ride
    refine ⟨latest, ?_, fun _ pending => nomatch pending⟩
    have reached := sound.shownSample_le.trans latest
    rw [← own] at reached
    exact reached
  | @held retained sameContext same source earlier lasts current =>
    subst known
    refine ⟨current_of_not_isOlder current ride, ?_, ?_⟩
    · rcases retainedMatchForPending_cases same source with
        ⟨_, known, carried⟩ | ⟨-, later⟩
      · cases known
        simp [LiveBusMarkerSelection.shownSample, carried, selection]
      · exact later last rfl
    · intro pending _ equal
      obtain ⟨before, pendingUntil, holding, waits, -⟩ := sound.held pending
      simp only [LiveBusMarkerSelection.shownSample, selection, holding,
        Option.map_some, Option.getD_some] at equal
      simp [selection, pendingEnd, pending, holding, equal, waits]

omit [IsStrictOrderedRing R] in
/-- The guard compares with the last selection only: where that one knows a
version and the sample has none, the version is forgotten. -/
theorem keepsVersion (ride : last.identityKey = rideIdentityKey input)
    (keeps : namesVersion settings input last = true) :
    last.KeepsVersion next := by
  have accepted : isOlder settings input last = false →
      ∀ version ∈ last.routeVersion,
        ∃ later ∈ input.routeVersion, version ≤ later := by
    intro current version named
    simp only [isOlder, ride, decide_true, Bool.true_and,
      Bool.or_eq_false_iff, decide_eq_false_iff_not] at current
    obtain ⟨order, versions⟩ := current
    obtain ⟨later, given⟩ : ∃ later, input.routeVersion = some later := by
      simpa [namesVersion, mem_def.mp named, order,
        Option.isSome_iff_exists] using keeps
    refine ⟨later, given, not_lt.mp fun below => ?_⟩
    simp [given, mem_def.mp named, below] at versions
  cases selected with
  | kept before lasts =>
    cases known.symm.trans before
    exact fun version named => ⟨version, named, le_refl _⟩
  | expired before ended =>
    cases known.symm.trans before
    rw [expiredSelection, if_neg (by simp [ended])]
    exact fun version named => ⟨version, named, le_refl _⟩
  | settled decision reason uncertain released current
  | matched valid own current | held same source earlier lasts current =>
    rw [known] at current
    exact accepted current

end Selected

end Selected

/-! ## The samples of a ride -/

structure Received (R : Type) where
  input : LiveBusPositionInput R
  now : R

structure Displayed (R : Type) where
  received : Received R
  selection : LiveBusMarkerSelection R

section Display

variable [Field R] [LinearOrder R] {settings : MarkerSettings R}
  {ride : String}

/-- The samples of a ride go through the selection in the order of the
client's clock; what was displayed last is first. -/
def display (settings : MarkerSettings R) (ride : String) :
    System (List (Displayed R)) (Received R) :=
  fun history received =>
    if rideIdentityKey received.input = ride ∧
        ∀ last ∈ history.head?, last.received.now ≤ received.now then
      some
        ({ received
           selection := selectLiveBusMarkerPosition settings received.input
            (history.head?.map Displayed.selection) received.now } :: history)
    else none

/-- The condition on the sample that comes next. -/
def versionsNamed (settings : MarkerSettings R)
    (history : List (Displayed R)) (received : Received R) : Bool :=
  history.head?.all fun last =>
    namesVersion settings received.input last.selection

def BelongsTo (settings : MarkerSettings R) (input : LiveBusPositionInput R)
    (position : LatLng R) (sample : SampleIdentity R) : Prop :=
  (acceptedRawPosition input = some position ∧
    sampleIdentity settings input = sample) ∨
    ∃ found, validMatch input = some found ∧ found.position = position ∧
      found.sample = sample

/-- The marker does not go back to an older sample, and it holds a match for
less than the longest time. -/
structure NeverOlder (settings : MarkerSettings R)
    (history : List (Displayed R)) : Prop where
  belongs : ∀ shown ∈ history, ∀ position ∈ shown.selection.position,
    ∃ source ∈ history, BelongsTo settings source.received.input position
      shown.selection.shownSample
  samples : history.Pairwise fun later earlier =>
    later.selection.position.isSome → earlier.selection.position.isSome →
      ¬ compareSamples later.selection.shownSample
        earlier.selection.shownSample < 0
  brief : history.Pairwise fun later earlier =>
    later.selection.decision = .matchPending →
      earlier.selection.decision = .matchPending →
        later.selection.shownSample = earlier.selection.shownSample →
          later.selection.pendingUntil = earlier.selection.pendingUntil ∧
            later.received.now - earlier.received.now < matchPendingHoldMs

/-- The marker does not go back to a lower version. -/
def NeverLower (history : List (Displayed R)) : Prop :=
  history.Pairwise fun later earlier =>
    later.selection.position.isSome → earlier.selection.position.isSome →
      ∀ version ∈ later.selection.routeVersion,
        ∀ before ∈ earlier.selection.routeVersion, ¬ version < before

structure Traced (settings : MarkerSettings R) (history : List (Displayed R))
    (shown : LiveBusMarkerSelection R) : Prop where
  raw : ∀ position ∈ shown.rawPosition, ∃ source ∈ history,
    acceptedRawPosition source.received.input = some position ∧
      sampleIdentity settings source.received.input = shown.latestSample
  matched : ∀ retained ∈ shown.retainedMatch, ∃ source ∈ history,
    validMatch source.received.input = some retained

variable {history : List (Displayed R)}

variable {shown : LiveBusMarkerSelection R}

theorem Traced.grow (traced : Traced settings history shown)
    (latest : Displayed R) :
    Traced settings (latest :: history) shown where
  raw position given := by
    obtain ⟨source, member, found⟩ := traced.raw position given
    exact ⟨source, List.mem_cons_of_mem _ member, found⟩
  matched retained held := by
    obtain ⟨source, member, found⟩ := traced.matched retained held
    exact ⟨source, List.mem_cons_of_mem _ member, found⟩

theorem Traced.belongs (traced : Traced settings history shown)
    (sound : shown.Sound) {position : LatLng R}
    (given : shown.position = some position) :
    ∃ source ∈ history, BelongsTo settings source.received.input position
      shown.shownSample := by
  have of_match : ∀ retained, shown.retainedMatch = some retained →
      shown.position = some retained.position →
      ∃ source ∈ history, BelongsTo settings source.received.input position
        shown.shownSample := by
    intro retained held displayed
    obtain ⟨source, member, valid⟩ := traced.matched retained held
    refine ⟨source, member, .inr ⟨retained, valid, ?_, ?_⟩⟩
    · exact Option.some.inj (displayed.symm.trans given)
    · simp [LiveBusMarkerSelection.shownSample, held]
  by_cases pending : shown.decision = .matchPending
  · obtain ⟨retained, pendingUntil, held, -, displayed, -⟩ :=
      sound.held pending
    exact of_match retained held displayed
  · rcases sound.settled pending with
      ⟨free, raw⟩ | ⟨retained, held, displayed, -⟩
    · obtain ⟨source, member, found⟩ :=
        traced.raw position (raw.symm.trans given)
      rw [sound.shownSample_eq pending]
      exact ⟨source, member, .inl found⟩
    · exact of_match retained held displayed

variable [IsStrictOrderedRing R]

variable {received : Received R}

theorem Selected.traced {next : LiveBusMarkerSelection R}
    (selected : Selected settings received.input
      (history.head?.map Displayed.selection) received.now next)
    (before : ∀ shown ∈ history, Traced settings history shown.selection) :
    Traced settings (⟨received, next⟩ :: history) next := by
  have carried : ∀ {last : LiveBusMarkerSelection R},
      history.head?.map Displayed.selection = some last →
      Traced settings (⟨received, next⟩ :: history) last := by
    intro last known
    obtain ⟨shown, head, rfl⟩ := Option.map_eq_some_iff.mp known
    exact (before shown (List.mem_of_mem_head? head)).grow _
  have raw : ∀ position ∈ acceptedRawPosition received.input,
      ∃ source ∈ (⟨received, next⟩ : Displayed R) :: history,
        acceptedRawPosition source.received.input = some position ∧
          sampleIdentity settings source.received.input =
            sampleIdentity settings received.input :=
    fun position given => ⟨_, List.mem_cons_self, given, rfl⟩
  cases selected with
  | kept known lasts => exact ⟨(carried known).raw, (carried known).matched⟩
  | expired known ended =>
    have traced := carried known
    rw [expiredSelection, if_neg (by simp [ended])] at traced ⊢
    exact ⟨traced.raw, fun _ held => nomatch held⟩
  | settled => exact ⟨raw, fun _ held => nomatch held⟩
  | matched valid =>
    refine ⟨raw, fun retained held => ?_⟩
    cases held
    exact ⟨_, List.mem_cons_self, valid⟩
  | @held retained sameContext same source =>
    refine ⟨raw, fun _ held => ?_⟩
    cases held
    rcases retainedMatchForPending_cases same source with
      ⟨last, known, held⟩ | ⟨valid, -⟩
    · exact (carried known).matched _ held
    · exact ⟨_, List.mem_cons_self, valid⟩

structure Coherent (settings : MarkerSettings R) (ride : String)
    (history : List (Displayed R)) : Prop where
  ride : ∀ shown ∈ history, shown.selection.identityKey = ride
  sound : ∀ shown ∈ history, shown.selection.Sound
  timely : ∀ shown ∈ history, Timely shown.selection shown.received.now
  traced : ∀ shown ∈ history, Traced settings history shown.selection
  follows : history.Pairwise fun later earlier =>
    earlier.selection.Follows later.selection

omit [IsStrictOrderedRing R] in
theorem display_eq_some {after : List (Displayed R)}
    (taken : display settings ride history received = some after) :
    rideIdentityKey received.input = ride ∧
      (∀ last ∈ history.head?, last.received.now ≤ received.now) ∧
      ∃ next, Selected settings received.input
          (history.head?.map Displayed.selection) received.now next ∧
        after = ⟨received, next⟩ :: history := by
  unfold display at taken
  split at taken
  · rename_i admitted
    cases taken
    exact ⟨admitted.1, admitted.2, _, selected _ _ _ _, rfl⟩
  · cases taken

theorem Coherent.step (coherent : Coherent settings ride history)
    {received : Received R} {after : List (Displayed R)}
    (taken : display settings ride history received = some after) :
    Coherent settings ride after := by
  obtain ⟨own, clock, next, selected, rfl⟩ := display_eq_some taken
  have before : ∀ last ∈ history.head?.map Displayed.selection,
      ∃ shown ∈ history, history.head? = some shown ∧
        shown.selection = last := by
    intro last known
    obtain ⟨shown, head, same⟩ := Option.map_eq_some_iff.mp known
    exact ⟨shown, List.mem_of_mem_head? head, head, same⟩
  have sound := selected.sound fun last known => by
    obtain ⟨shown, member, -, rfl⟩ := before last known
    exact coherent.sound shown member
  have follows : ∀ shown ∈ history.head?,
      shown.selection.Follows next := by
    intro shown head
    have member := List.mem_of_mem_head? head
    exact selected.follows (by rw [mem_def.mp head]; rfl)
      (coherent.sound shown member)
      ((coherent.ride shown member).trans own.symm)
  refine ⟨?_, ?_, ?_, ?_, ?_⟩
  · refine List.forall_mem_cons.mpr ⟨?_, coherent.ride⟩
    cases selected with
    | kept known lasts =>
      obtain ⟨shown, member, -, rfl⟩ := before _ known
      exact coherent.ride shown member
    | expired known ended =>
      obtain ⟨shown, member, -, rfl⟩ := before _ known
      rw [expiredSelection, if_neg (by simp [ended])]
      exact coherent.ride shown member
    | settled | matched | held => exact own
  · exact List.forall_mem_cons.mpr ⟨sound, coherent.sound⟩
  · refine List.forall_mem_cons.mpr ⟨selected.timely ?_, coherent.timely⟩
    intro last known
    obtain ⟨shown, member, head, rfl⟩ := before last known
    exact ⟨_, clock shown head, coherent.timely shown member⟩
  · exact List.forall_mem_cons.mpr ⟨selected.traced coherent.traced,
      fun shown member => (coherent.traced shown member).grow _⟩
  · refine List.pairwise_cons.mpr ⟨?_, coherent.follows⟩
    cases history with
    | nil => simp
    | cons last earlier =>
      have front := (List.pairwise_cons.mp coherent.follows).1
      refine List.forall_mem_cons.mpr ⟨follows last rfl, fun shown member => ?_⟩
      exact (front shown member).trans
        (coherent.sound shown (List.mem_cons_of_mem _ member))
        (coherent.sound last List.mem_cons_self) (follows last rfl)

omit [IsStrictOrderedRing R] in
theorem Coherent.nil : Coherent settings ride [] := by
  constructor <;> simp

theorem coherent_of_steps
    {allowed : List (Displayed R) → Received R → Prop}
    (steps : System.Steps (display settings ride) allowed [] history) :
    Coherent settings ride history :=
  steps.invariant .nil fun _ _ _ coherent _ taken => coherent.step taken

theorem Coherent.neverOlder (coherent : Coherent settings ride history) :
    NeverOlder settings history where
  belongs shown member position given :=
    (coherent.traced shown member).belongs (coherent.sound shown member) given
  samples := coherent.follows.imp fun follows _ _ older =>
    absurd ((compareSamples_neg _ _).mp older) (not_lt.mpr follows.sample)
  brief := by
    refine coherent.follows.imp_of_mem ?_
    intro later earlier member before follows pending was same
    have timer := follows.timer was pending same.symm
    refine ⟨timer.symm, ?_⟩
    obtain ⟨-, pendingUntil, -, waits, -⟩ :=
      (coherent.sound later member).held pending
    have ends := (coherent.timely later member).lasts
    have begins := (coherent.timely earlier before).brief pendingUntil
      (timer.trans waits)
    simp only [holdLasts, pending, waits, ne_eq, not_true_eq_false,
      decide_false, Bool.false_or, Option.all_some,
      decide_eq_true_eq] at ends
    exact sub_left_lt_of_lt_add (ends.trans_le begins)

def VersionsKept (history : List (Displayed R)) : Prop :=
  history.Pairwise fun later earlier =>
    earlier.selection.KeepsVersion later.selection

omit [IsStrictOrderedRing R] in
theorem VersionsKept.step (kept : VersionsKept history)
    (coherent : Coherent settings ride history) {received : Received R}
    {after : List (Displayed R)}
    (names : versionsNamed settings history received = true)
    (taken : display settings ride history received = some after) :
    VersionsKept after := by
  obtain ⟨own, -, next, selected, rfl⟩ := display_eq_some taken
  refine List.pairwise_cons.mpr ⟨?_, kept⟩
  cases history with
  | nil => simp
  | cons last earlier =>
    have keeps : last.selection.KeepsVersion next :=
      selected.keepsVersion rfl
        ((coherent.ride last List.mem_cons_self).trans own.symm) names
    exact List.forall_mem_cons.mpr ⟨keeps, fun shown member =>
      ((List.pairwise_cons.mp kept).1 shown member).trans keeps⟩

theorem versionsKept_of_steps
    (steps : System.Steps (display settings ride)
      (fun history received => versionsNamed settings history received = true)
      [] history) :
    VersionsKept history := by
  have both := @System.Steps.invariant _ _ _ _
    (fun history => Coherent settings ride history ∧ VersionsKept history)
    _ _ steps ⟨.nil, .nil⟩ fun _ _ _ holds names taken =>
      ⟨holds.1.step taken, holds.2.step holds.1 names taken⟩
  exact both.2

omit [Field R] [IsStrictOrderedRing R] in
theorem VersionsKept.neverLower (kept : VersionsKept history) :
    NeverLower history := by
  refine kept.imp fun keeps _ _ version named before known lower => ?_
  obtain ⟨later, given, above⟩ := keeps before known
  cases named.symm.trans given
  exact absurd lower (not_lt.mpr above)

/-- **A marker does not go back**: to an older sample never, and to a lower
version not while the samples name theirs. -/
theorem marker_never_goes_back (settings : MarkerSettings R) (ride : String)
    (history : List (Displayed R)) :
    (System.Steps (display settings ride) (fun _ _ => True) [] history →
      NeverOlder settings history) ∧
    (System.Steps (display settings ride)
        (fun history received =>
          versionsNamed settings history received = true) [] history →
      NeverLower history) :=
  ⟨fun steps => (coherent_of_steps steps).neverOlder,
    fun steps => (versionsKept_of_steps steps).neverLower⟩

end Display

instance (history : List (Displayed ℚ)) : Decidable (NeverLower history) :=
  inferInstanceAs (Decidable (List.Pairwise _ _))

def browser : MarkerSettings ℚ where
  isSafeInteger value :=
    decide (value.den = 1) && decide (value.num.natAbs < 2 ^ 53)
  text value := toString value.num
  signalLostMs := 30000

def sampleOf (seq : ℚ) (routeVersion : Option ℚ)
    (matchedLocation : Option (MatchedLiveLocation ℚ)) : Received ℚ where
  input :=
    { busId := some "b"
      routeId := some "r"
      sessionId := some "s"
      lat := some seq
      lng := some seq
      timestamp := some (1000 * seq)
      deviceState := some .online
      motionState := none
      direction := some (.text "forward")
      rawLocation :=
        some { seq := some seq, sampledAt := some (1000 * seq) }
      matchedLocation
      mapMatchSeq := none
      mapMatchSampledAt := none
      activeRouteId := some "r"
      routeState := some .onRoute
      routeVersion
      routeDirection := some (.text "forward") }
  now := 1000 * seq

def matchOf (seq routeVersion : ℚ) : MatchedLiveLocation ℚ where
  lat := some seq
  lng := some seq
  matchConfidence := some 1
  seq := some seq
  sampledAt := some (1000 * seq)
  routeVersion := some routeVersion

/-- A match is held over the next two samples, until one time. -/
theorem marker_never_goes_back_of_held :
    ∃ history : List (Displayed ℚ),
      history.map (fun shown => shown.selection.pendingUntil) =
        [some 4000, some 4000, none] ∧
      NeverOlder browser history ∧ NeverLower history := by
  have decided :
      ((display browser "b|r|s").run
        (fun history received => versionsNamed browser history received) []
        [sampleOf 1 (some 5) (some (matchOf 1 5)), sampleOf 2 (some 5) none,
          sampleOf 3 (some 5) none]).any (fun history =>
            decide (history.map (fun shown => shown.selection.pendingUntil) =
              [some 4000, some 4000, none])) = true := by
    decide +kernel
  obtain ⟨history, steps, holds⟩ := System.exists_of_run decided
  have told := marker_never_goes_back browser "b|r|s" history
  exact ⟨history, of_decide_eq_true holds,
    told.1 (steps.mono fun _ _ _ => trivial), told.2 steps⟩

/-- The second sample has no version, and the third is shown under a lower one
than the first. -/
theorem marker_version_goes_back :
    ∃ history : List (Displayed ℚ),
      System.Steps (display browser "b|r|s") (fun _ _ => True) [] history ∧
        ¬ NeverLower history := by
  have decided :
      ((display browser "b|r|s").run (fun _ _ => true) []
        [sampleOf 1 (some 5) none, sampleOf 2 none none,
          sampleOf 3 (some 4) none]).any (fun history =>
            decide (¬ NeverLower history)) = true := by
    decide +kernel
  obtain ⟨history, steps, holds⟩ := System.exists_of_run decided
  exact ⟨history, steps.mono fun _ _ _ => trivial, of_decide_eq_true holds⟩

end Eki.PassengerMap
