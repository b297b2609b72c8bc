import Eki.Firmware.Reacquisition

/-!
# Three fixes that agree

The candidate says yes at the third of three fixes in a row that pass their own
checks and follow each other, and at no other one.
-/

namespace Eki.Firmware

open Transition

variable {R : Type} [JsNumber R]

section Chains

variable (haversineMeters : R → R → R → R → R)

def RejectedFix.follows (previous fix : RejectedFix R) : Bool :=
  let spacingMs := fix.nowMs - previous.nowMs
  decide (spacingMs ≥ gnssReanchorMinSpacingMs) &&
    decide (spacingMs ≤ gnssReanchorMaxSpacingMs) &&
    locationTransitionIsPlausible haversineMeters true spacingMs fix.lat
      fix.lng previous.lat previous.lng fix.speedKmh previous.speedKmh true
      fix.hdop true previous.hdop

/-- The last of these fixes is held unless it failed its own checks. -/
def Retained (held : RejectedFix R) (fixes : List (RejectedFix R)) : Prop :=
  fixes.head? = some held ∧ held.passes haversineMeters = true

def Repeats (fix : RejectedFix R) (fixes : List (RejectedFix R)) : Prop :=
  ∃ held, Retained haversineMeters held fixes ∧ fix.nowMs = held.nowMs

instance (fix : RejectedFix R) (fixes : List (RejectedFix R)) :
    Decidable (Repeats haversineMeters fix fixes) :=
  match fixes with
  | [] => isFalse (by simp [Repeats, Retained])
  | held :: _ =>
    decidable_of_iff
      (held.passes haversineMeters = true ∧ fix.nowMs = held.nowMs)
      (by simp [Repeats, Retained])

/-- The fixes since the last reset or success, without repeats, the last one
first. -/
def counted : List (CandidateEvent R) → List (RejectedFix R)
  | [] => []
  | .reset :: _ => []
  | .observed fix reanchored :: earlier =>
    if reanchored then []
    else if Repeats haversineMeters fix (counted earlier) then
      counted earlier
    else fix :: counted earlier

/-- The fix and the two before it pass their own checks and follow each
other. -/
def Completes (fix : RejectedFix R) (fixes : List (RejectedFix R)) : Prop :=
  ∃ second first earlier, fixes = second :: first :: earlier ∧
    first.passes haversineMeters = true ∧
    second.passes haversineMeters = true ∧
    fix.passes haversineMeters = true ∧
    first.follows haversineMeters second = true ∧
    second.follows haversineMeters fix = true

/-- The candidate holds a fix, as the only one of its chain or with one
before it. -/
structure Holds (candidate : ReacquisitionCandidate R)
    (fix : RejectedFix R) : Prop where
  has : candidate.has = true
  lat : candidate.lat = fix.lat
  lng : candidate.lng = fix.lng
  speed : candidate.speed = fix.speedKmh
  hdop : candidate.hdop = fix.hdop
  capturedAt : candidate.capturedAt = fix.nowMs

/-- Which calls re-anchor, and what the others do to the candidate. -/
structure ThreeAgree (reacquisition : Reacquisition R) : Prop where
  reanchors : ∀ fix reanchored before,
    .observed fix reanchored :: before <:+ reacquisition.history →
      (reanchored = true ↔
        ¬ Repeats haversineMeters fix (counted haversineMeters before) ∧
          Completes haversineMeters fix (counted haversineMeters before))
  ignores : ∀ fix,
    Repeats haversineMeters fix
        (counted haversineMeters reacquisition.history) →
      reacquisition.candidate.observeRejected haversineMeters fix =
        (false, reacquisition.candidate)
  clears : ∀ fix,
    ¬ Repeats haversineMeters fix
        (counted haversineMeters reacquisition.history) →
    fix.passes haversineMeters = false →
      reacquisition.candidate.observeRejected haversineMeters fix =
        (false, reacquisition.candidate.reset)
  restarts : ∀ fix,
    ¬ Repeats haversineMeters fix
        (counted haversineMeters reacquisition.history) →
    fix.passes haversineMeters = true →
    (∀ held,
      Retained haversineMeters held
          (counted haversineMeters reacquisition.history) →
        held.follows haversineMeters fix = false) →
      ∃ next,
        reacquisition.candidate.observeRejected haversineMeters fix =
            (false, next) ∧
          Holds next fix ∧ next.count = 1

end Chains

/-! ## One call -/

section Calls

variable {haversineMeters : R → R → R → R → R}
  {candidate : ReacquisitionCandidate R} {fix held : RejectedFix R}

theorem Holds.agrees (holds : Holds candidate held) (fix : RejectedFix R) :
    candidate.agrees haversineMeters fix =
      held.follows haversineMeters fix := by
  simp [ReacquisitionCandidate.agrees, RejectedFix.follows, holds.has,
    holds.lat, holds.lng, holds.speed, holds.hdop, holds.capturedAt]

def ReacquisitionCandidate.taking (fix : RejectedFix R) (count : BitVec 8) :
    ReacquisitionCandidate R where
  has := true
  lat := fix.lat
  lng := fix.lng
  speed := fix.speedKmh
  hdop := fix.hdop
  capturedAt := fix.nowMs
  count := count

omit [JsNumber R] in
theorem holds_taking (fix : RejectedFix R) (count : BitVec 8) :
    Holds (ReacquisitionCandidate.taking fix count) fix where
  has := rfl
  lat := rfl
  lng := rfl
  speed := rfl
  hdop := rfl
  capturedAt := rfl

theorem ReacquisitionCandidate.observe_repeat
    (holds : Holds candidate held) (same : fix.nowMs = held.nowMs) :
    candidate.observeRejected haversineMeters fix = (false, candidate) := by
  rw [observeRejected, if_pos]
  exact ⟨holds.has, same.trans holds.capturedAt.symm⟩

theorem ReacquisitionCandidate.observe_failing
    (fresh : ¬ (candidate.has = true ∧ fix.nowMs = candidate.capturedAt))
    (fails : fix.passes haversineMeters = false) :
    candidate.observeRejected haversineMeters fix =
      (false, candidate.reset) := by
  rw [observeRejected, if_neg fresh, if_pos]
  simp [fails]

variable (fresh : ¬ (candidate.has = true ∧ fix.nowMs = candidate.capturedAt))
  (passes : fix.passes haversineMeters = true)

include fresh passes

theorem ReacquisitionCandidate.observe_first
    (apart : candidate.agrees haversineMeters fix = false) :
    candidate.observeRejected haversineMeters fix = (false, taking fix 1) := by
  rw [observeRejected, if_neg fresh, if_neg (by simp [passes])]
  simp only [apart]
  rfl

theorem ReacquisitionCandidate.observe_second
    (agrees : candidate.agrees haversineMeters fix = true)
    (one : candidate.count = 1) :
    candidate.observeRejected haversineMeters fix = (false, taking fix 2) := by
  rw [observeRejected, if_neg fresh, if_neg (by simp [passes])]
  simp only [agrees, one]
  rfl

theorem ReacquisitionCandidate.observe_third
    (agrees : candidate.agrees haversineMeters fix = true)
    (two : candidate.count = 2) :
    candidate.observeRejected haversineMeters fix =
      (true, (taking fix 3).reset) := by
  rw [observeRejected, if_neg fresh, if_neg (by simp [passes])]
  simp only [agrees, two]
  rfl

end Calls

/-! ## The candidate and the fixes since its last reset -/

/-- The last two fixes pass and the second follows the first. -/
def Paired (haversineMeters : R → R → R → R → R) (fix : RejectedFix R)
    (earlier : List (RejectedFix R)) : Prop :=
  ∃ first, Retained haversineMeters first earlier ∧
    first.follows haversineMeters fix = true

inductive Stands (haversineMeters : R → R → R → R → R)
    (candidate : ReacquisitionCandidate R) :
    List (RejectedFix R) → Prop where
  | empty {fixes : List (RejectedFix R)} (has : candidate.has = false)
      (none : ∀ held, ¬ Retained haversineMeters held fixes) :
      Stands haversineMeters candidate fixes
  | one {fix : RejectedFix R} {earlier : List (RejectedFix R)}
      (holds : Holds candidate fix)
      (passes : fix.passes haversineMeters = true)
      (count : candidate.count = 1)
      (alone : ¬ Paired haversineMeters fix earlier) :
      Stands haversineMeters candidate (fix :: earlier)
  | two {fix : RejectedFix R} {earlier : List (RejectedFix R)}
      (holds : Holds candidate fix)
      (passes : fix.passes haversineMeters = true)
      (count : candidate.count = 2)
      (paired : Paired haversineMeters fix earlier) :
      Stands haversineMeters candidate (fix :: earlier)

section Standing

variable {haversineMeters : R → R → R → R → R}
  {candidate : ReacquisitionCandidate R} {fix : RejectedFix R}
  {fixes : List (RejectedFix R)}

theorem retained_cons_iff {held : RejectedFix R} :
    Retained haversineMeters held (fix :: fixes) ↔
      held = fix ∧ fix.passes haversineMeters = true := by
  constructor
  · rintro ⟨head, passes⟩
    cases head
    exact ⟨rfl, passes⟩
  · rintro ⟨rfl, passes⟩
    exact ⟨rfl, passes⟩

theorem completes_cons_iff {last : RejectedFix R} :
    Completes haversineMeters fix (last :: fixes) ↔
      last.passes haversineMeters = true ∧
        Paired haversineMeters last fixes ∧
        fix.passes haversineMeters = true ∧
        last.follows haversineMeters fix = true := by
  constructor
  · rintro ⟨second, first, earlier, same, before, passes, sound, pair, after⟩
    cases same
    exact ⟨passes, ⟨first, ⟨rfl, before⟩, pair⟩, sound, after⟩
  · rintro ⟨passes, ⟨first, ⟨head, before⟩, pair⟩, sound, after⟩
    cases fixes with
    | nil => cases head
    | cons second earlier =>
      cases head
      exact ⟨last, first, earlier, rfl, before, passes, sound, pair, after⟩

namespace Stands

variable (stands : Stands haversineMeters candidate fixes)

include stands

theorem holds_of_retained {held : RejectedFix R}
    (retained : Retained haversineMeters held fixes) :
    Holds candidate held := by
  cases stands with
  | empty has none => exact absurd retained (none held)
  | one holds | two holds =>
    obtain ⟨rfl, _⟩ := retained_cons_iff.mp retained
    exact holds

theorem exists_retained (has : candidate.has = true) :
    ∃ held, Retained haversineMeters held fixes := by
  cases stands with
  | empty none => rw [none] at has; cases has
  | one holds passes | two holds passes => exact ⟨_, rfl, passes⟩

theorem repeats_iff :
    Repeats haversineMeters fix fixes ↔
      candidate.has = true ∧ fix.nowMs = candidate.capturedAt := by
  constructor
  · rintro ⟨held, retained, same⟩
    have holds := stands.holds_of_retained retained
    exact ⟨holds.has, same.trans holds.capturedAt.symm⟩
  · rintro ⟨has, same⟩
    obtain ⟨held, retained⟩ := stands.exists_retained has
    have holds := stands.holds_of_retained retained
    exact ⟨held, retained, same.trans holds.capturedAt⟩

theorem agrees_iff :
    candidate.agrees haversineMeters fix = true ↔
      Paired haversineMeters fix fixes := by
  constructor
  · intro agrees
    have has : candidate.has = true := by
      simp only [ReacquisitionCandidate.agrees, Bool.and_eq_true] at agrees
      exact agrees.1.1.1
    obtain ⟨held, retained⟩ := stands.exists_retained has
    rw [(stands.holds_of_retained retained).agrees] at agrees
    exact ⟨held, retained, agrees⟩
  · rintro ⟨held, retained, follows⟩
    rw [(stands.holds_of_retained retained).agrees]
    exact follows

theorem observe (fresh : ¬ Repeats haversineMeters fix fixes) :
    ((candidate.observeRejected haversineMeters fix).1 = true ↔
        Completes haversineMeters fix fixes) ∧
      Stands haversineMeters
        (candidate.observeRejected haversineMeters fix).2
        (if (candidate.observeRejected haversineMeters fix).1 then []
          else fix :: fixes) := by
  have first := fresh
  rw [stands.repeats_iff] at first
  cases passes : fix.passes haversineMeters with
  | false =>
    rw [candidate.observe_failing first passes]
    constructor
    · simp [Completes, passes]
    · refine .empty rfl ?_
      intro held retained
      rw [(retained_cons_iff.mp retained).2] at passes
      cases passes
  | true =>
    cases agrees : candidate.agrees haversineMeters fix with
    | false =>
      have alone : ¬ Paired haversineMeters fix fixes := by
        rw [← stands.agrees_iff, agrees]
        exact Bool.false_ne_true
      rw [candidate.observe_first first passes agrees]
      constructor
      · constructor
        · intro impossible
          cases impossible
        · rintro ⟨second, _, _, rfl, _, sound, _, _, after⟩
          exact absurd ⟨second, ⟨rfl, sound⟩, after⟩ alone
      · exact .one (holds_taking fix 1) passes rfl alone
    | true =>
      have paired := stands.agrees_iff.mp agrees
      cases stands with
      | empty has none =>
        obtain ⟨held, retained, _⟩ := paired
        exact absurd retained (none held)
      | one holds sound count alone =>
        rw [candidate.observe_second first passes agrees count]
        constructor
        · rw [completes_cons_iff]
          constructor
          · intro impossible
            cases impossible
          · intro completes
            exact absurd completes.2.1 alone
        · exact .two (holds_taking fix 2) passes rfl paired
      | two holds sound count before =>
        rw [candidate.observe_third first passes agrees count]
        constructor
        · rw [completes_cons_iff]
          rw [holds.agrees] at agrees
          constructor
          · intro _
            exact ⟨sound, before, passes, agrees⟩
          · intro _
            rfl
        · refine .empty rfl ?_
          intro held retained
          cases retained.1

end Stands

end Standing

/-! ## Runs -/

section Runs

variable {haversineMeters : R → R → R → R → R}
  {reacquisition : Reacquisition R}

/-- What every reachable state meets. -/
structure Chained (haversineMeters : R → R → R → R → R)
    (reacquisition : Reacquisition R) : Prop where
  stands : Stands haversineMeters reacquisition.candidate
    (counted haversineMeters reacquisition.history)
  reanchors : ∀ fix reanchored before,
    .observed fix reanchored :: before <:+ reacquisition.history →
      (reanchored = true ↔
        ¬ Repeats haversineMeters fix (counted haversineMeters before) ∧
          Completes haversineMeters fix (counted haversineMeters before))

theorem Chained.initial :
    Chained haversineMeters Reacquisition.initial where
  stands := by
    refine .empty rfl ?_
    intro held retained
    cases retained.1
  reanchors := by
    intro fix reanchored before suffix
    exact absurd (List.suffix_nil.mp suffix) (List.cons_ne_nil _ _)

theorem Chained.observe (chained : Chained haversineMeters reacquisition)
    (fix : RejectedFix R) :
    Chained haversineMeters
      (reacquisition.called haversineMeters (.observeRejected fix)) := by
  have stands := chained.stands
  simp only [Reacquisition.called]
  by_cases again : Repeats haversineMeters fix
      (counted haversineMeters reacquisition.history)
  · obtain ⟨held, retained, same⟩ := again
    have again : Repeats haversineMeters fix
        (counted haversineMeters reacquisition.history) :=
      ⟨held, retained, same⟩
    rw [ReacquisitionCandidate.observe_repeat
      (stands.holds_of_retained retained) same]
    constructor
    · rw [counted, if_neg Bool.false_ne_true, if_pos again]
      exact stands
    · intro other reanchored before suffix
      rcases List.suffix_cons_iff.mp suffix with head | tail
      · cases head
        constructor
        · intro impossible
          cases impossible
        · intro both
          exact absurd again both.1
      · exact chained.reanchors other reanchored before tail
  · obtain ⟨exact, after⟩ := stands.observe again
    constructor
    · rw [counted, if_neg again]
      exact after
    · intro other reanchored before suffix
      rcases List.suffix_cons_iff.mp suffix with head | tail
      · cases head
        rw [exact]
        constructor
        · intro completes
          exact ⟨again, completes⟩
        · exact And.right
      · exact chained.reanchors other reanchored before tail

theorem Chained.reset (chained : Chained haversineMeters reacquisition) :
    Chained haversineMeters
      (reacquisition.called haversineMeters .reset) := by
  constructor
  · refine .empty rfl ?_
    intro held retained
    cases retained.1
  · intro other reanchored before suffix
    rcases List.suffix_cons_iff.mp suffix with head | tail
    · cases head
    · exact chained.reanchors other reanchored before tail

theorem chained_of_steps
    {allowed : Reacquisition R → CandidateCall R → Prop}
    (steps : System.Steps (Reacquisition.step haversineMeters) allowed
      Reacquisition.initial reacquisition) :
    Chained haversineMeters reacquisition := by
  apply steps.invariant Chained.initial
  intro state call next chained _ taken
  cases taken
  cases call with
  | observeRejected fix => exact chained.observe fix
  | reset => exact chained.reset

/-- A chain of three is counted as such in every run. -/
theorem threeAgree_of_steps
    {allowed : Reacquisition R → CandidateCall R → Prop}
    (steps : System.Steps (Reacquisition.step haversineMeters) allowed
      Reacquisition.initial reacquisition) :
    ThreeAgree haversineMeters reacquisition := by
  have chained := chained_of_steps steps
  have stands := chained.stands
  constructor
  · exact chained.reanchors
  · rintro fix ⟨held, retained, same⟩
    exact ReacquisitionCandidate.observe_repeat
      (stands.holds_of_retained retained) same
  · intro fix fresh fails
    rw [stands.repeats_iff] at fresh
    exact ReacquisitionCandidate.observe_failing fresh fails
  · intro fix fresh passes apart
    rw [stands.repeats_iff] at fresh
    have alone : reacquisition.candidate.agrees haversineMeters fix =
        false := by
      apply Bool.eq_false_iff.mpr
      intro agrees
      obtain ⟨held, retained, follows⟩ := stands.agrees_iff.mp agrees
      rw [apart held retained] at follows
      cases follows
    exact ⟨_, ReacquisitionCandidate.observe_first fresh passes alone,
      holds_taking fix 1, rfl⟩

end Runs

/-- The call returned true. -/
def CandidateEvent.reanchored : CandidateEvent R → Bool
  | .observed _ reanchored => reanchored
  | .reset => false

/-- The distance of two places of one longitude. -/
def meridianMeters (lat _ otherLat _ : ℚ) : ℚ :=
  if lat < otherLat then (otherLat - lat) * 111195
  else (lat - otherLat) * 111195

/-- Three fixes at one place, one of them seen twice. -/
theorem threeAgree_of_repeated_sentence :
    ∃ reacquisition : Reacquisition ℚ,
      System.Steps (Reacquisition.step meridianMeters)
        (fun _ _ => True) Reacquisition.initial reacquisition ∧
      reacquisition.history.map CandidateEvent.reanchored =
        [true, false, false, false] ∧
      ThreeAgree meridianMeters reacquisition := by
  let seen : BitVec 32 → BitVec 32 → CandidateCall ℚ := fun nowMs elapsed =>
    .observeRejected
      { nowMs := nowMs
        lat := 23001 / 1000
        lng := 725 / 10
        speedKmh := 0
        hdopValid := true
        hdop := 1
        hasReference := true
        referenceElapsedMs := elapsed
        referenceLat := 23
        referenceLng := 725 / 10 }
  let calls : List (CandidateCall ℚ) :=
    [seen 4294966000 10000, seen 4294967000 11000, seen 4294967000 12000,
      seen 704 13000]
  have decided :
      (System.run (Reacquisition.step meridianMeters) (fun _ _ => true)
        Reacquisition.initial calls).any
        (fun reacquisition =>
          decide (reacquisition.history.map CandidateEvent.reanchored =
            [true, false, false, false])) = true := by
    decide +kernel
  obtain ⟨reacquisition, ran, holds⟩ := System.exists_of_run decided
  have steps : System.Steps (Reacquisition.step meridianMeters)
      (fun _ _ => True) _ reacquisition :=
    ran.mono fun _ _ _ => trivial
  exact ⟨reacquisition, steps, of_decide_eq_true holds,
    threeAgree_of_steps steps⟩

end Eki.Firmware
