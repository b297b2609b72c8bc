import Eki.Live.PagedReplay

/-!
# No request of the replay is lost

While nothing asks for another pass, the log since then is a pass from the first
page to where the cursor stands, with every item admitted.
-/

namespace Eki.Replay

open Transition

variable {C T : Type}

/-- An event after which everything has to be looked at again. -/
def Event.disturbs : Event C T → Bool
  | .request => true
  | .refused => true
  | .failed => true
  | .noCapacity => true
  | _ => false

/-- What happened after the last disturbance. -/
def recent (log : List (Event C T)) : List (Event C T) :=
  log.takeWhile fun event => !event.disturbs

def Scan.Whole (scan : Scan C T) : Prop :=
  scan.admitted = scan.items

/-- A pass that began with a read of the first page has admitted every page
before this cursor. -/
inductive Passing : List (Event C T) → Option C → Prop where
  | first (older : List (Event C T)) : Passing (.read none :: older) none
  | read {events : List (Event C T)} {cursor : Option C} (page : Option C)
      (before : Passing events cursor) :
      Passing (.read page :: events) cursor
  | abandoned {events : List (Event C T)} {cursor : Option C}
      (before : Passing events cursor) :
      Passing (.abandoned :: events) cursor
  | scanned {events : List (Event C T)} {scan : Scan C T} {next : C}
      (before : Passing events scan.cursor) (whole : scan.Whole)
      (onward : scan.nextCursor = some next) :
      Passing (.scanned scan :: events) (some next)

/-- A pass has come to its last page. -/
def FullPass (events : List (Event C T)) : Prop :=
  ∃ newer scan older, events = newer ++ .scanned scan :: older ∧
    Passing older scan.cursor ∧ scan.Whole ∧ scan.nextCursor = none

theorem recent_cons {event : Event C T} {log : List (Event C T)}
    (calm : event.disturbs = false) :
    recent (event :: log) = event :: recent log := by
  unfold recent
  rw [List.takeWhile_cons, calm]
  rfl

/-! ## The invariant -/

namespace PagedReplay

variable {replay : PagedReplay C T}

inductive Single (replay : PagedReplay C T) : Prop where
  | none (runs : replay.runs = []) (inFlight : replay.inFlight = none)
  | one (run : Run C T) (runs : replay.runs = [run])
    (inFlight : replay.inFlight = some run.id)

/-- What a stage says about the pass, unless it is to be repeated. -/
def Sound (replay : PagedReplay C T) : Stage C T → Prop
  | .reading cursor => cursor = replay.cursor ∧
      (replay.again = false → Passing (recent replay.log) cursor)
  | .admitting scan item rest => scan.cursor = replay.cursor ∧
      (replay.again = false → Passing (recent replay.log) scan.cursor ∧
        scan.admitted ++ item :: rest = scan.items)
  | .settled => True

def Resting (replay : PagedReplay C T) : Prop :=
  ∀ run ∈ replay.runs, run.stage = .settled

structure Traced (replay : PagedReplay C T) : Prop where
  single : Single replay
  stages : ∀ run ∈ replay.runs, Sound replay run.stage
  idle : replay.requested = false →
    replay.again = false ∧ replay.cursor = none ∧ Resting replay ∧
      (FullPass (recent replay.log) ∨
        ∀ event ∈ replay.log, event.disturbs = false)
  /-- Between two pages. -/
  onward : replay.again = false → Resting replay →
    ∀ cursor, replay.cursor = some cursor →
      Passing (recent replay.log) (some cursor)

theorem traced_new : Traced (new : PagedReplay C T) := by
  constructor
  · exact .none rfl rfl
  · intro run member
    cases member
  · intro _
    refine ⟨rfl, rfl, ?_, Or.inr ?_⟩
    · intro run member
      cases member
    · intro event member
      cases member
  · intro _ _ cursor some
    cases some

variable {id : Nat} {stage : Stage C T}

theorem Single.of_stageOf (single : Single replay)
    (found : replay.stageOf id = some stage) :
    replay.runs =
        [{ id
           stage }] ∧ replay.inFlight = some id := by
  obtain ⟨run, known, rfl⟩ := Option.map_eq_some_iff.mp found
  have member := List.mem_of_find?_eq_some known
  have named := List.find?_some known
  have named : run.id = id := eq_of_beq named
  cases single with
  | none runs =>
    rw [runs] at member
    cases member
  | one only runs inFlight =>
    rw [runs, List.mem_singleton] at member
    subst member
    subst named
    exact ⟨runs, inFlight⟩

structure Working (replay : PagedReplay C T) (id : Nat) (scan : Scan C T)
    (rest : List T) : Prop where
  runs : ∃ stage, replay.runs =
    [{ id
       stage }]
  inFlight : replay.inFlight = some id
  requested : replay.requested = true
  cursor : scan.cursor = replay.cursor
  passing : replay.again = false →
    Passing (recent replay.log) scan.cursor ∧
      scan.admitted ++ rest = scan.items

theorem runs_setStage {before : Stage C T} (runs : replay.runs =
      [{ id
         stage := before }]) (stage : Stage C T) :
    (replay.setStage id stage).runs =
      [{ id
         stage }] := by
  unfold setStage
  simp only [runs, List.map_cons, List.map_nil, beq_self_eq_true, if_true]

theorem resting_of_runs (runs : replay.runs =
      [{ id
         stage := .settled }]) : Resting replay := by
  intro run member
  rw [runs, List.mem_singleton] at member
  rw [member]

theorem traced_of_settled (id : Nat)
    (runs : replay.runs =
      [{ id
         stage := .settled }])
    (inFlight : replay.inFlight = some id)
    (idle : replay.requested = false → replay.again = false ∧
      replay.cursor = none ∧ FullPass (recent replay.log))
    (onward : replay.again = false → ∀ cursor, replay.cursor = some cursor →
      Passing (recent replay.log) (some cursor)) : Traced replay := by
  constructor
  · exact .one _ runs inFlight
  · intro run member
    rw [resting_of_runs runs run member]
    trivial
  · intro quiet
    obtain ⟨once, first, full⟩ := idle quiet
    exact ⟨once, first, resting_of_runs runs, Or.inl full⟩
  · intro once _ cursor some
    exact onward once cursor some

theorem traced_abandon (runs : replay.runs =
      [{ id
         stage }]) (inFlight : replay.inFlight = some id)
    (requested : replay.requested = true) (passing : replay.again = false →
      Passing (recent replay.log) replay.cursor) :
    Traced (replay.abandon id) := by
  apply traced_of_settled id
  · exact runs_setStage runs .settled
  · exact inFlight
  · intro quiet
    have busy : (replay.abandon id).requested = true := requested
    rw [busy] at quiet
    cases quiet
  · intro once cursor some
    have before := passing once
    have same : replay.cursor = .some cursor := some
    rw [same] at before
    show Passing (recent (.abandoned :: replay.log)) (.some cursor)
    rw [recent_cons rfl]
    exact .abandoned before

variable {scan : Scan C T} {rest : List T}

section

variable (working : Working replay id scan rest)

include working

theorem Working.abandon : Traced (replay.abandon id) := by
  obtain ⟨stage, runs⟩ := working.runs
  apply traced_abandon runs working.inFlight working.requested
  intro once
  rw [← working.cursor]
  exact (working.passing once).1

theorem Working.finishPage (ended : replay.again = false → rest = []) :
    Traced (replay.finishPage id scan) := by
  obtain ⟨stage, runs⟩ := working.runs
  have whole : replay.again = false →
      Passing (recent replay.log) scan.cursor ∧ scan.Whole := by
    intro once
    obtain ⟨passing, items⟩ := working.passing once
    rw [ended once, List.append_nil] at items
    exact ⟨passing, items⟩
  have logged : recent (.scanned scan :: replay.log) =
      .scanned scan :: recent replay.log := recent_cons rfl
  unfold PagedReplay.finishPage
  cases last : scan.nextCursor with
  | none =>
    simp only [Option.isNone_none, if_true]
    apply traced_of_settled id
    · exact runs_setStage runs .settled
    · exact working.inFlight
    · intro once
      obtain ⟨passing, admitted⟩ := whole once
      refine ⟨rfl, rfl, ?_⟩
      show FullPass (recent (.scanned scan :: replay.log))
      rw [logged]
      exact ⟨[], scan, recent replay.log, rfl, passing, admitted, last⟩
    · intro _ cursor some
      cases some
  | some next =>
    simp only [Option.isNone_some, Bool.false_eq_true, if_false]
    apply traced_of_settled id
    · exact runs_setStage runs .settled
    · exact working.inFlight
    · intro quiet
      have busy := working.requested
      have quiet : replay.requested = false := quiet
      rw [busy] at quiet
      cases quiet
    · intro once cursor some
      obtain ⟨passing, admitted⟩ := whole once
      cases some
      show Passing (recent (.scanned scan :: replay.log)) (.some next)
      rw [logged]
      exact .scanned passing admitted last

/-- After something was not admitted there is nothing left to show. -/
theorem Working.repeatAfter (event : Event C T) (scan' : Scan C T)
    (cursor : scan'.cursor = scan.cursor) (rest' : List T) :
    Working (replay.repeatAfter event) id scan' rest' :=
  { runs := working.runs
    inFlight := working.inFlight
    requested := working.requested
    cursor := cursor.trans working.cursor
    passing := by
      intro once
      cases once }

theorem Working.advance (hasCapacity : Bool) :
    Traced (replay.advance id scan hasCapacity rest) := by
  cases rest with
  | nil =>
    apply working.finishPage
    intro _
    rfl
  | cons item rest =>
    simp only [PagedReplay.advance]
    split
    · exact working.abandon
    · split
      · have again := working.repeatAfter .noCapacity scan rfl []
        apply again.finishPage
        intro _
        rfl
      · obtain ⟨stage, runs⟩ := working.runs
        have after := runs_setStage runs (.admitting scan item rest)
        constructor
        · exact .one _ after working.inFlight
        · intro run member
          rw [after, List.mem_singleton] at member
          rw [member]
          exact ⟨working.cursor, working.passing⟩
        · intro quiet
          have quiet : replay.requested = false := quiet
          rw [working.requested] at quiet
          cases quiet
        · intro _ resting
          have settled := resting _ (by
            rw [after]
            exact List.mem_singleton_self _)
          cases settled

end

/-! ## Every step -/

theorem Traced.requested (traced : Traced replay)
    (found : replay.stageOf id = some stage) (busy : stage ≠ .settled) :
    replay.requested = true := by
  obtain ⟨runs, -⟩ := traced.single.of_stageOf found
  cases requested : replay.requested with
  | true => rfl
  | false =>
    have resting := (traced.idle requested).2.2.1
    have settled := resting _ (by
      rw [runs]
      exact List.mem_singleton_self _)
    exact absurd settled busy

theorem Traced.sound (traced : Traced replay)
    (found : replay.stageOf id = some stage) : Sound replay stage := by
  obtain ⟨runs, -⟩ := traced.single.of_stageOf found
  exact traced.stages _ (by
    rw [runs]
    exact List.mem_singleton_self _)

theorem Traced.request (traced : Traced replay) : Traced replay.request := by
  unfold PagedReplay.request
  cases requested : replay.requested with
  | true =>
    rw [if_pos rfl]
    constructor
    · cases traced.single with
      | none runs inFlight => exact .none runs inFlight
      | one run runs inFlight => exact .one run runs inFlight
    · intro run member
      have before := traced.stages run member
      cases stage : run.stage with
      | reading | admitting =>
        rw [stage] at before
        refine ⟨before.1, ?_⟩
        intro once
        cases once
      | settled => trivial
    · intro quiet
      have quiet : replay.requested = false := quiet
      rw [requested] at quiet
      cases quiet
    · intro once
      cases once
  | false =>
    obtain ⟨once, first, resting, -⟩ := traced.idle requested
    rw [if_neg (by decide)]
    constructor
    · cases traced.single with
      | none runs inFlight => exact .none runs inFlight
      | one run runs inFlight => exact .one run runs inFlight
    · intro run member
      rw [resting run member]
      trivial
    · intro quiet
      cases quiet
    · intro _ _ cursor some
      have some : replay.cursor = .some cursor := some
      rw [first] at some
      cases some

theorem Traced.tick (traced : Traced replay) (hasCapacity : Bool) :
    Traced (replay.tick hasCapacity) := by
  unfold PagedReplay.tick
  split
  · exact traced
  · rename_i free
    simp only [Bool.or_eq_true, Bool.not_eq_true', not_or,
      Bool.not_eq_false, Bool.not_eq_true] at free
    obtain ⟨⟨⟨-, requested⟩, vacant⟩, -⟩ := free
    have none : replay.runs = [] := by
      cases traced.single with
      | none runs => exact runs
      | one run _ inFlight =>
        rw [inFlight] at vacant
        cases vacant
    have resting : Resting replay := by
      intro run member
      rw [none] at member
      cases member
    constructor
    · refine .one
        { id := replay.nextRun
          stage := .reading replay.cursor } ?_ rfl
      show replay.runs ++ _ = _
      rw [none]
      rfl
    · intro run member
      have member : run ∈ replay.runs ++
          [{ id := replay.nextRun
             stage := Stage.reading replay.cursor }] := member
      rw [none, List.nil_append, List.mem_singleton] at member
      rw [member]
      refine ⟨rfl, ?_⟩
      intro once
      have once : replay.again = false := once
      show Passing (recent (.read replay.cursor :: replay.log)) replay.cursor
      rw [recent_cons rfl]
      cases cursor : replay.cursor with
      | none => exact .first _
      | some cursor' => exact .read _ (traced.onward once resting _ cursor)
    · intro quiet
      have quiet : replay.requested = false := quiet
      rw [requested] at quiet
      cases quiet
    · intro _ settled
      have busy := settled
        { id := replay.nextRun
          stage := .reading replay.cursor }
        (List.mem_append_right _ (List.mem_singleton_self _))
      cases busy

variable {next : PagedReplay C T}

theorem Traced.page (traced : Traced replay) {items : List T}
    {nextCursor : Option C} {hasCapacity : Bool}
    (taken : replay.page id items nextCursor hasCapacity = some next) :
    Traced next := by
  unfold PagedReplay.page at taken
  split at taken
  · rename_i cursor found
    obtain ⟨runs, inFlight⟩ := traced.single.of_stageOf found
    obtain ⟨same, passing⟩ := traced.sound found
    have requested := traced.requested found (by
      intro settled
      cases settled)
    split at taken
    · cases taken
      apply traced_abandon runs inFlight requested
      rw [← same]
      exact passing
    · cases taken
      apply Working.advance
      exact
        { runs := ⟨_, runs⟩
          inFlight
          requested
          cursor := same
          passing := fun once => ⟨passing once, List.nil_append items⟩ }
  · cases taken

theorem Traced.offer (traced : Traced replay) {admission : Admission}
    {hasCapacity : Bool}
    (taken : replay.offer id admission hasCapacity = some next) :
    Traced next := by
  unfold PagedReplay.offer at taken
  split at taken
  · rename_i scan item rest found
    obtain ⟨runs, inFlight⟩ := traced.single.of_stageOf found
    obtain ⟨same, passing⟩ := traced.sound found
    have requested := traced.requested found (by
      intro settled
      cases settled)
    have working : Working replay id
        { scan with admitted := scan.admitted ++ [item] } rest :=
      { runs := ⟨_, runs⟩
        inFlight
        requested
        cursor := same
        passing := by
          intro once
          obtain ⟨before, items⟩ := passing once
          refine ⟨before, ?_⟩
          show (scan.admitted ++ [item]) ++ rest = scan.items
          rw [List.append_assoc]
          exact items }
    cases admission with
    | admitted =>
      cases taken
      exact working.advance hasCapacity
    | refused =>
      cases taken
      exact (working.repeatAfter .refused scan rfl rest).advance hasCapacity
    | failed =>
      cases taken
      exact (working.repeatAfter .failed scan rfl rest).advance hasCapacity
  · cases taken

theorem Traced.fail (traced : Traced replay)
    (taken : replay.fail id = some next) : Traced next := by
  unfold PagedReplay.fail at taken
  split at taken
  · rename_i cursor found
    obtain ⟨runs, inFlight⟩ := traced.single.of_stageOf found
    obtain ⟨same, passing⟩ := traced.sound found
    cases taken
    apply traced_abandon runs inFlight
    · apply traced.requested found
      intro settled
      cases settled
    · rw [← same]
      exact passing
  · rename_i scan item rest found
    obtain ⟨runs, inFlight⟩ := traced.single.of_stageOf found
    obtain ⟨same, passing⟩ := traced.sound found
    cases taken
    apply traced_abandon runs inFlight
    · apply traced.requested found
      intro settled
      cases settled
    · intro once
      rw [← same]
      exact (passing once).1
  · cases taken

theorem Traced.land (traced : Traced replay)
    (taken : replay.land id = some next) : Traced next := by
  unfold PagedReplay.land at taken
  split at taken
  · rename_i found
    obtain ⟨runs, inFlight⟩ := traced.single.of_stageOf found
    have resting := resting_of_runs runs
    have empty : (replay.runs.filter fun run => run.id != id) = [] := by
      rw [runs]
      simp
    cases taken
    constructor
    · exact .none empty (if_pos inFlight)
    · intro run member
      exact absurd member (empty ▸ List.not_mem_nil)
    · intro quiet
      obtain ⟨once, first, -, full⟩ := traced.idle quiet
      refine ⟨once, first, ?_, full⟩
      intro run member
      exact absurd member (empty ▸ List.not_mem_nil)
    · intro once _ cursor some
      exact traced.onward once resting cursor some
  · cases taken

theorem Traced.step {label : ReplayLabel C T} {next : PagedReplay C T}
    (traced : Traced replay)
    (taken : PagedReplay.step replay label = some next) : Traced next := by
  cases label with
  | request =>
    cases taken
    exact traced.request
  | tick hasCapacity =>
    cases taken
    exact traced.tick hasCapacity
  | page id items nextCursor hasCapacity => exact traced.page taken
  | offer id admission hasCapacity => exact traced.offer taken
  | fail id => exact traced.fail taken
  | land id => exact traced.land taken
  | stop =>
    cases taken
    constructor
    · cases traced.single with
      | none runs inFlight => exact .none runs inFlight
      | one run runs inFlight => exact .one run runs inFlight
    · intro run member
      have before := traced.stages run member
      cases stage : run.stage with
      | reading | admitting =>
        rw [stage] at before
        exact before
      | settled => trivial
    · exact traced.idle
    · exact traced.onward

/-! ## Whole runs -/

/-- What the replay promises whenever it rests. -/
structure Recovered (replay : PagedReplay C T) : Prop where
  /-- At most one page is processed at a time. -/
  onePage : replay.runs.length ≤ 1
  inFlight_iff : replay.inFlight.isSome = true ↔ replay.runs ≠ []
  /-- Without a request and a page in flight, a full pass came after all that
  asked for one. -/
  recovered : replay.requested = false → replay.inFlight = none →
    ∀ event ∈ replay.log, event.disturbs = true →
    FullPass (recent replay.log)

/-- After any requests, ticks, pages and failures, no request is lost. -/
theorem recovered_of_steps
    (steps : System.Steps (PagedReplay.step (C := C) (T := T))
      (fun _ _ => True) new replay) : Recovered replay := by
  have traced : Traced replay := by
    apply System.Steps.invariant steps traced_new
    intro state label next traced _ taken
    exact traced.step taken
  constructor
  · cases traced.single with
    | none runs =>
      rw [runs]
      exact Nat.zero_le _
    | one run runs =>
      rw [runs]
      exact Nat.le_refl _
  · cases traced.single with
    | none runs inFlight | one run runs inFlight =>
      rw [runs, inFlight]
      simp
  · intro quiet _ event member disturbs
    obtain ⟨-, -, -, full | calm⟩ := traced.idle quiet
    · exact full
    · rw [calm event member] at disturbs
      cases disturbs

/-- A refusal on the last page, and the pass that follows it. -/
theorem recovered_of_refusal :
    ∃ replay : PagedReplay Nat Nat, Recovered replay ∧
      replay.requested = false ∧ replay.inFlight = none ∧
      replay.log.length = 10 := by
  have decided :
      (System.run (PagedReplay.step (C := Nat) (T := Nat))
        (fun _ _ => true) new
        [.request, .tick true, .page 0 [1] (some 1) true,
          .offer 0 .admitted true, .land 0, .tick true,
          .page 1 [2] none true, .offer 1 .refused true, .land 1, .tick true,
          .page 2 [1] (some 1) true, .offer 2 .admitted true, .land 2,
          .tick true, .page 3 [] none true, .land 3]).any (fun replay =>
            !replay.requested && replay.inFlight = none &&
              replay.log.length = 10) = true := by
    decide +kernel
  obtain ⟨replay, steps, ended⟩ := System.exists_of_run decided
  simp only [Bool.and_eq_true, Bool.not_eq_true', decide_eq_true_eq] at ended
  refine ⟨replay, ?_, ended.1.1, ended.1.2, ended.2⟩
  exact recovered_of_steps (steps.mono fun _ _ _ => trivial)

end PagedReplay

end Eki.Replay
