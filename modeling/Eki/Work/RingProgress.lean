import Eki.Work.TaskHistory

/-!
# A task that waits moves up

The first task of a key in the ring keeps its place or comes nearer to the
head, until it is taken up or expires; whenever a slot is given back it comes
nearer.  A task that was taken up stays so until its promise settles.
-/

namespace Eki.Work

open Insertion Transition
open List (append_assoc append_nil idxOf_cons_ne map_append map_cons mem_append
  mem_append_left mem_append_right mem_cons_self mem_map mem_map_of_mem
  mem_singleton mem_singleton_self nodup_append)

variable {K R V E : Type} [DecidableEq K] [JsNumber R]

/-- The work of a task was called. -/
def Stage.begun : Stage V E → Bool
  | .dispatched => false
  | .overdue => false
  | .running => true
  | .finished _ => true

namespace Executor

variable {budgets : ExecutionBudgets R} {executor after : Executor K R V E}
  {key : K} {id : Nat}

/-- A task of the key was taken up, and its promise has not settled. -/
def Aboard (executor : Executor K R V E) (key : K) (id : Nat) : Prop :=
  ∃ flight ∈ executor.inFlight, flight.task.id = id ∧ flight.task.key = key

/-- The work behind a promise was called. -/
def Begun (executor : Executor K R V E) (id : Nat) : Prop :=
  (∃ flight ∈ executor.inFlight,
      flight.task.id = id ∧ flight.stage.begun = true) ∨
    ∃ result, (id, Outcome.own result) ∈ executor.settled

/-- A task is the first of its key, with fewer than so many keys ahead of
it. -/
structure NextWithin (executor : Executor K R V E) (bound : Nat) (key : K)
    (id : Nat) : Prop where
  turn : key ∈ executor.ready
  near : executor.ready.idxOf key < bound
  first : ∃ rest, executor.pendingIds key = id :: rest

/-- Where a promise is on its way to settle. -/
def Lives (executor : Executor K R V E) (bound : Nat) (key : K) (id : Nat) :
    Prop :=
  id ∈ executor.settledIds ∨ executor.Aboard key id ∨
    executor.NextWithin bound key id

/-! ## Flights -/

variable {flight : Flight K R V E}

omit [DecidableEq K] [JsNumber R] in
theorem TakesUp.mem (takesUp : TakesUp executor after)
    (member : flight ∈ executor.inFlight) : flight ∈ after.inFlight := by
  obtain ⟨more, inFlight, -⟩ := takesUp
  rw [inFlight]
  exact mem_append_left _ member

omit [DecidableEq K] [JsNumber R] in
theorem mem_setStage_of_ne {other : Nat} (member : flight ∈ executor.inFlight)
    (different : flight.task.id ≠ other) (stage : Stage V E) :
    flight ∈ (executor.setStage other stage).inFlight :=
  mem_map.mpr ⟨flight, member, if_neg (by simpa using different)⟩

theorem mem_settle_of_ne {task : Task K R}
    (member : flight ∈ executor.inFlight)
    (different : flight.task.id ≠ task.id) (outcome : Outcome V E) :
    flight ∈ (executor.settle budgets task outcome).inFlight := by
  obtain ⟨more, inFlight, -⟩ := takesUp_settle budgets executor task outcome
  rw [inFlight]
  apply mem_append_left
  exact List.mem_filter.mpr ⟨member, bne_iff_ne.mpr different⟩

omit [DecidableEq K] [JsNumber R] in
theorem Aboard.takesUp (aboard : executor.Aboard key id)
    (takesUp : TakesUp executor after) : after.Aboard key id := by
  obtain ⟨flight, member, named⟩ := aboard
  exact ⟨flight, takesUp.mem member, named⟩

omit [DecidableEq K] [JsNumber R] in
theorem Aboard.setStage (aboard : executor.Aboard key id) (other : Nat)
    (stage : Stage V E) : (executor.setStage other stage).Aboard key id := by
  obtain ⟨flight, member, named⟩ := aboard
  by_cases touched : (flight.task.id == other) = true
  · exact ⟨{ flight with stage },
      mem_map.mpr ⟨flight, member, if_pos touched⟩, named⟩
  · exact ⟨flight, mem_map.mpr ⟨flight, member, if_neg touched⟩, named⟩

theorem Aboard.settle (aboard : executor.Aboard key id) (task : Task K R)
    (outcome : Outcome V E) :
    (executor.settle budgets task outcome).Aboard key id ∨
      task.id = id ∧ id ∈ (executor.settle budgets task outcome).settledIds := by
  obtain ⟨flight, member, named, keyed⟩ := aboard
  by_cases own : task.id = id
  · right
    refine ⟨own, ?_⟩
    rw [settledIds, (settle_frame budgets executor task outcome).2,
      map_append, ← own]
    exact mem_append_right _ (mem_singleton_self _)
  · left
    refine ⟨flight, mem_settle_of_ne member ?_ outcome, named, keyed⟩
    rw [named]
    exact Ne.symm own

theorem Aboard.step {label : ExecutorLabel K R V E}
    (aboard : executor.Aboard key id)
    (taken : Executor.step budgets executor label = some after) :
    after.Aboard key id ∨ label = .complete id ∧ id ∈ after.settledIds := by
  cases stepped_of_step taken with
  | run other now =>
    exact Or.inl
      (aboard.takesUp (extends_run budgets executor other now).takesUp)
  | @overdue other => exact Or.inl (aboard.setStage other .overdue)
  | @calls other => exact Or.inl (aboard.setStage other .running)
  | @finishes other result =>
    exact Or.inl (aboard.setStage other (.finished result))
  | @settles other flight outcome found =>
    have own : flight.task.id = other := flight_id found
    rcases aboard.settle flight.task outcome with stays | ⟨same, settled⟩
    · exact Or.inl stays
    · right
      rw [← own, same]
      exact ⟨rfl, settled⟩
  | expire other task =>
    exact Or.inl
      (aboard.takesUp (extends_expire executor other task).takesUp)
  | refreshPending other task now =>
    exact Or.inl
      (aboard.takesUp (extends_refreshPending executor other task now).takesUp)

/-- A work that runs does so until its promise settles. -/
theorem Kept.running_step (kept : Kept budgets executor)
    (member : flight ∈ executor.inFlight) (running : flight.stage = .running)
    {label : ExecutorLabel K R V E}
    (taken : Executor.step budgets executor label = some after)
    (goes_on : ∀ result, label ≠ .finish flight.task.id result) :
    flight ∈ after.inFlight := by
  have differs : ∀ other found, executor.flight other = some found →
      found.stage ≠ .running → flight.task.id ≠ other := by
    intro other found flown idle same
    have one := kept.one_flight member (mem_of_flight flown)
      (same.trans (flight_id flown).symm)
    rw [← one] at idle
    exact idle running
  cases stepped_of_step taken with
  | run other now =>
    exact (extends_run budgets executor other now).takesUp.mem member
  | overdue found | calls found =>
    have different := differs _ _ found (by intro same; cases same)
    exact mem_setStage_of_ne member different _
  | @finishes other result =>
    have different : flight.task.id ≠ other := by
      intro same
      apply goes_on result
      rw [same]
    exact mem_setStage_of_ne member different (.finished result)
  | @settles other found outcome flown ends =>
    have different := differs other _ flown (by
      intro same
      rw [same] at ends
      cases ends)
    rw [← flight_id flown] at different
    exact mem_settle_of_ne member different outcome
  | expire other task =>
    exact (extends_expire executor other task).takesUp.mem member
  | refreshPending other task now =>
    exact (extends_refreshPending executor other task now).takesUp.mem member

/-! ## Works that were called -/

omit [DecidableEq K] [JsNumber R] in
/-- What is taken up was not called yet. -/
theorem begun_takesUp (takesUp : TakesUp executor after)
    (settled : ∀ result, (id, Outcome.own result) ∈ after.settled ↔
      (id, Outcome.own result) ∈ executor.settled) :
    after.Begun id ↔ executor.Begun id := by
  obtain ⟨more, inFlight, fresh⟩ := takesUp
  constructor
  · rintro (⟨flight, member, named, begun⟩ | ⟨result, own⟩)
    · rw [inFlight] at member
      rcases mem_append.mp member with before | later
      · exact Or.inl ⟨flight, before, named, begun⟩
      · rw [fresh flight later] at begun
        cases begun
    · exact Or.inr ⟨result, (settled result).mp own⟩
  · rintro (⟨flight, member, named, begun⟩ | ⟨result, own⟩)
    · left
      refine ⟨flight, ?_, named, begun⟩
      rw [inFlight]
      exact mem_append_left _ member
    · exact Or.inr ⟨result, (settled result).mpr own⟩

omit [DecidableEq K] [JsNumber R] in
theorem begun_setStage {flight : Flight K R V E} {other : Nat}
    (found : executor.flight other = some flight) (stage : Stage V E) :
    (executor.setStage other stage).Begun id ↔
      if id = other then
        stage.begun = true ∨ ∃ result, (id, Outcome.own result) ∈
          executor.settled
      else executor.Begun id := by
  have named := flight_id found
  have member := mem_of_flight found
  split
  · rename_i same
    subst same
    constructor
    · rintro (⟨changed, inside, own, begun⟩ | settled)
      · obtain ⟨before, flew, rfl⟩ := mem_map.mp inside
        split at begun
        · exact Or.inl begun
        · rename_i different
          rw [if_neg different] at own
          exact absurd (beq_iff_eq.mpr own) different
      · exact Or.inr settled
    · rintro (begun | settled)
      · left
        exact ⟨{ flight with stage },
          mem_map.mpr ⟨flight, member, if_pos (beq_iff_eq.mpr named)⟩,
          named, begun⟩
      · exact Or.inr settled
  · rename_i different
    constructor
    · rintro (⟨changed, inside, own, begun⟩ | settled)
      · obtain ⟨before, flew, rfl⟩ := mem_map.mp inside
        split at own
        · rename_i touched
          exact absurd (own.symm.trans (eq_of_beq touched)) different
        · rename_i untouched
          rw [if_neg untouched] at begun
          exact Or.inl ⟨before, flew, own, begun⟩
      · exact Or.inr settled
    · rintro (⟨before, flew, own, begun⟩ | settled)
      · left
        have untouched : ¬ (before.task.id == other) = true := by
          intro touched
          exact different (own.symm.trans (eq_of_beq touched))
        exact ⟨before, mem_map.mpr ⟨before, flew, if_neg untouched⟩, own,
          begun⟩
      · exact Or.inr settled

section

variable (kept : Kept budgets executor)

include kept

theorem Kept.unsettled_of_flying (member : flight ∈ executor.inFlight) :
    flight.task.id ∉ executor.settledIds := by
  intro settled
  have apart := (nodup_append.mp (nodup_append.mp kept.nodup).1).2.2
  exact apart _ settled _ (mem_map_of_mem (mem_map_of_mem member))
    rfl

theorem Kept.begun_iff_stage (member : flight ∈ executor.inFlight) :
    executor.Begun flight.task.id ↔ flight.stage.begun = true := by
  constructor
  · rintro (⟨other, flew, same, begun⟩ | ⟨result, settled⟩)
    · rw [← kept.one_flight flew member same]
      exact begun
    · exact absurd (mem_map_of_mem settled)
        (kept.unsettled_of_flying member)
  · intro begun
    exact Or.inl ⟨flight, member, rfl, begun⟩

/-- A promise that has settled tells whether its work was called. -/
theorem Kept.begun_iff_outcome {outcome : Outcome V E}
    (settled : (id, outcome) ∈ executor.settled) :
    executor.Begun id ↔ ∃ result, outcome = .own result := by
  have once : executor.settledIds.Nodup :=
    (nodup_append.mp (nodup_append.mp kept.nodup).1).1
  constructor
  · rintro (⟨flight, member, same, -⟩ | ⟨result, own⟩)
    · have landed : id ∈ executor.settledIds := mem_map_of_mem settled
      rw [← same] at landed
      exact absurd landed (kept.unsettled_of_flying member)
    · have one := List.inj_on_of_nodup_map once settled own rfl
      exact ⟨result, congrArg Prod.snd one⟩
  · rintro ⟨result, rfl⟩
    exact Or.inr ⟨result, settled⟩

theorem Kept.begun_setStage_iff {other : Nat}
    (found : executor.flight other = some flight) {stage : Stage V E}
    (lasts : flight.stage.begun = true → stage.begun = true) :
    (executor.setStage other stage).Begun id ↔
      executor.Begun id ∨ id = other ∧ stage.begun = true := by
  have staged := @begun_setStage K R V E executor id flight other found stage
  rw [staged]
  split
  · rename_i same
    have named : flight.task.id = id := (flight_id found).trans same.symm
    have before := kept.begun_iff_stage (mem_of_flight found)
    rw [named] at before
    constructor
    · rintro (begun | settled)
      · exact Or.inr ⟨same, begun⟩
      · exact Or.inl (Or.inr settled)
    · rintro (begun | ⟨-, begun⟩)
      · exact Or.inl (lasts (before.mp begun))
      · exact Or.inl begun
  · rename_i different
    constructor
    · exact Or.inl
    · rintro (begun | ⟨same, -⟩)
      · exact begun
      · exact absurd same different

theorem Kept.begun_settle (member : flight ∈ executor.inFlight)
    (outcome : Outcome V E)
    (agrees : flight.stage.begun = true ↔ ∃ result, outcome = .own result) :
    (executor.settle budgets flight.task outcome).Begun id ↔
      executor.Begun id := by
  have settled := (settle_frame budgets executor flight.task outcome).2
  by_cases own : id = flight.task.id
  · subst own
    have landed : (flight.task.id, outcome) ∈
        (executor.settle budgets flight.task outcome).settled := by
      rw [settled]
      exact mem_append_right _ (mem_singleton_self _)
    obtain ⟨more, inFlight, fresh⟩ :=
      takesUp_settle budgets executor flight.task outcome
    rw [kept.begun_iff_stage member, agrees]
    constructor
    · rintro (⟨other, flew, same, begun⟩ | ⟨result, told⟩)
      · rw [inFlight] at flew
        rcases mem_append.mp flew with before | later
        · have different := (List.mem_filter.mp before).2
          exact absurd same (bne_iff_ne.mp different)
        · rw [fresh other later] at begun
          cases begun
      · rw [settled] at told
        rcases mem_append.mp told with before | last
        · exact absurd (mem_map_of_mem before)
            (kept.unsettled_of_flying member)
        · have pair := mem_singleton.mp last
          exact ⟨result, (congrArg Prod.snd pair).symm⟩
    · rintro ⟨result, rfl⟩
      exact Or.inr ⟨result, landed⟩
  · obtain ⟨more, inFlight, fresh⟩ :=
      takesUp_settle budgets executor flight.task outcome
    constructor
    · rintro (⟨other, flew, same, begun⟩ | ⟨result, told⟩)
      · rw [inFlight] at flew
        rcases mem_append.mp flew with before | later
        · exact Or.inl ⟨other, List.mem_of_mem_filter before, same, begun⟩
        · rw [fresh other later] at begun
          cases begun
      · rw [settled] at told
        rcases mem_append.mp told with before | last
        · exact Or.inr ⟨result, before⟩
        · have pair := mem_singleton.mp last
          exact absurd (congrArg Prod.fst pair) own
    · rintro (⟨other, flew, same, begun⟩ | ⟨result, told⟩)
      · left
        refine ⟨other, mem_settle_of_ne flew ?_ outcome, same, begun⟩
        rw [same]
        exact own
      · right
        refine ⟨result, ?_⟩
        rw [settled]
        exact mem_append_left _ told

end

omit [JsNumber R] in
theorem expire_settled (executor : Executor K R V E) (other : K)
    (task : Nat) :
    (executor.expire other task).settled = executor.settled ∨
      (executor.expire other task).settled =
        executor.settled ++ [(task, .expired)] := by
  rw [Executor.expire]
  split
  · exact Or.inl rfl
  · simp only
    split
    · exact Or.inl rfl
    · split
      · exact Or.inr rfl
      · exact Or.inr rfl

theorem Kept.begun_step (kept : Kept budgets executor)
    {label : ExecutorLabel K R V E}
    (taken : Executor.step budgets executor label = some after) :
    after.Begun id ↔ executor.Begun id ∨
      (∃ now, label = .start id now) ∧
        ∃ task, after.flight id =
          some
            { task
              stage := .running } := by
  have quiet : (after.Begun id ↔ executor.Begun id) →
      (∀ now, label ≠ .start id now) →
      (after.Begun id ↔ executor.Begun id ∨
        (∃ now, label = .start id now) ∧
          ∃ task, after.flight id =
            some
              { task
                stage := .running }) := by
    intro same other
    rw [same]
    constructor
    · exact Or.inl
    · rintro (begun | ⟨⟨now, started⟩, -⟩)
      · exact begun
      · exact absurd started (other now)
  cases stepped_of_step taken with
  | run other now =>
    refine quiet ?_ (by intro now started; cases started)
    apply begun_takesUp (extends_run budgets executor other now).takesUp
    intro result
    rw [(run_frame budgets executor other now).2]
  | @overdue other now task found =>
    have staged : (executor.setStage other .overdue).Begun id ↔
        executor.Begun id ∨ id = other ∧ false = true :=
      kept.begun_setStage_iff found fun begun => begun
    have flown : (executor.setStage other .overdue).flight other =
        some
          { task
            stage := .overdue } :=
      flight_setStage found .overdue
    constructor
    · intro begun
      exact (staged.mp begun).imp_right fun called => by
        cases called.2
    · rintro (begun | ⟨⟨now, started⟩, running, flies⟩)
      · exact staged.mpr (Or.inl begun)
      · cases started
        cases flown.symm.trans flies
  | @calls other now task found =>
    have staged : (executor.setStage other .running).Begun id ↔
        executor.Begun id ∨ id = other ∧ true = true :=
      kept.begun_setStage_iff found fun _ => rfl
    rw [staged]
    constructor
    · rintro (begun | ⟨same, -⟩)
      · exact Or.inl begun
      · subst same
        exact Or.inr ⟨⟨now, rfl⟩, task, flight_setStage found .running⟩
    · rintro (begun | ⟨⟨now, started⟩, -⟩)
      · exact Or.inl begun
      · cases started
        exact Or.inr ⟨rfl, rfl⟩
  | @finishes other result task found =>
    refine quiet ?_ (by intro now started; cases started)
    have staged : (executor.setStage other (.finished result)).Begun id ↔
        executor.Begun id ∨ id = other ∧ true = true :=
      kept.begun_setStage_iff found fun _ => rfl
    have named : task.id = other := flight_id found
    have running : executor.Begun task.id :=
      (kept.begun_iff_stage (mem_of_flight found)).mpr rfl
    constructor
    · intro begun
      rcases staged.mp begun with before | ⟨same, -⟩
      · exact before
      · rw [same, ← named]
        exact running
    · intro begun
      exact staged.mpr (Or.inl begun)
  | @settles other flight outcome found ends =>
    refine quiet ?_ (by intro now started; cases started)
    apply kept.begun_settle (mem_of_flight found) outcome
    cases stage : flight.stage <;> rw [stage] at ends <;> cases ends <;>
      simp [Stage.begun]
  | expire other task =>
    refine quiet ?_ (by intro now started; cases started)
    apply begun_takesUp (extends_expire executor other task).takesUp
    intro result
    rcases expire_settled executor other task with same | more
    · rw [same]
    · rw [more, mem_append]
      constructor
      · rintro (before | last)
        · exact before
        · cases mem_singleton.mp last
      · exact Or.inl
  | refreshPending other task now =>
    refine quiet ?_ (by intro now started; cases started)
    apply begun_takesUp (extends_refreshPending executor other task now).takesUp
    intro result
    rw [Executor.refreshPending]
    split
    · rfl
    · rfl

/-! ## Tasks that wait -/

omit [JsNumber R] in
theorem NextWithin.mono {bound wider : Nat}
    (next : executor.NextWithin bound key id) (more : bound ≤ wider) :
    executor.NextWithin wider key id :=
  { next with near := Nat.lt_of_lt_of_le next.near more }

variable {bound : Nat}

section

omit [JsNumber R]

/-- Operations that keep the queue of the key, and add to the ring at its
end. -/
theorem NextWithin.frame (next : executor.NextWithin bound key id)
    (ready : ∃ more, after.ready = executor.ready ++ more)
    (queue : ∃ more, after.pendingIds key = executor.pendingIds key ++ more) :
    after.NextWithin bound key id := by
  obtain ⟨turns, ready⟩ := ready
  obtain ⟨more, queue⟩ := queue
  obtain ⟨rest, first⟩ := next.first
  constructor
  · rw [ready]
    exact mem_append_left _ next.turn
  · rw [ready, List.idxOf_append_of_mem next.turn]
    exact next.near
  · refine ⟨rest ++ more, ?_⟩
    rw [queue, first, List.cons_append]

theorem NextWithin.same (next : executor.NextWithin bound key id)
    (ready : after.ready = executor.ready)
    (queue : after.pendingIds key = executor.pendingIds key) :
    after.NextWithin bound key id := by
  apply next.frame
  · exact ⟨[], by rw [ready, append_nil]⟩
  · exact ⟨[], by rw [queue, append_nil]⟩

theorem NextWithin.markReady (next : executor.NextWithin bound key id)
    (other : K) : (executor.markReady other).NextWithin bound key id := by
  apply next.frame
  · rw [Executor.markReady]
    split
    · exact ⟨[], (append_nil _).symm⟩
    · exact ⟨[other], rfl⟩
  · refine ⟨[], ?_⟩
    rw [append_nil, Executor.markReady]
    split
    · rfl
    · rfl

theorem pendingIds_of_ne {other : K} {state : Option (KeyState K R)}
    (states : after.states = executor.states.put other state)
    (different : key ≠ other) :
    after.pendingIds key = executor.pendingIds key := by
  rw [pendingIds_put states, if_neg different]

end

section

variable (kept : Kept budgets executor)

include kept

/-- A turn of `pump` takes the task up, or brings it one place nearer. -/
theorem NextWithin.serve (next : executor.NextWithin (bound + 1) key id)
    {head : K} {rest : List K} (ready : executor.ready = head :: rest) :
    (executor.serve head rest).Aboard key id ∨
      (executor.serve head rest).NextWithin bound key id := by
  obtain ⟨task, pending, stored⟩ := kept.head_idle ready
  obtain ⟨others, first⟩ := next.first
  rw [serve_eq stored]
  by_cases own : head = key
  · subst own
    left
    rw [pendingIds_stored stored, map_cons, List.cons.injEq] at first
    have keyed := (kept.fits head _ stored).pendingKeyed task
      (mem_cons_self ..)
    exact ⟨_, mem_append_right _ (mem_singleton_self _), first.1, keyed⟩
  · right
    have turn := next.turn
    have near := next.near
    rw [ready] at turn near
    rw [idxOf_cons_ne _ own] at near
    constructor
    · exact (List.mem_cons.mp turn).resolve_left (Ne.symm own)
    · exact Nat.lt_of_succ_lt_succ near
    · refine ⟨others, ?_⟩
      rw [← first]
      exact @pendingIds_of_ne _ _ _ _ _ executor _ _ _
        (some
          { active := some task
            pending }) rfl (Ne.symm own)

theorem NextWithin.pumpTurns
    (next : executor.Aboard key id ∨ executor.NextWithin bound key id)
    (turns : Nat) :
    (pumpTurns budgets turns executor).Aboard key id ∨
      (Executor.pumpTurns budgets turns executor).NextWithin bound key id := by
  have turn : ∀ (middle : Executor K R V E) head rest,
      (middle.Aboard key id ∨ middle.NextWithin bound key id) ∧
        Kept budgets middle →
      middle.ready = head :: rest →
      middle.active < budgets.maxConcurrent →
      ((middle.serve head rest).Aboard key id ∨
        (middle.serve head rest).NextWithin bound key id) ∧
        Kept budgets (middle.serve head rest) := by
    rintro middle head rest ⟨next, kept⟩ ready free
    refine ⟨?_, kept.serve ready free⟩
    rcases next with aboard | next
    · exact Or.inl (aboard.takesUp (extends_serve middle head rest).takesUp)
    · exact (next.mono (Nat.le_succ bound)).serve kept ready
  exact (pumpTurns_keeps turn turns ⟨next, kept⟩).1

theorem NextWithin.pump (next : executor.NextWithin bound key id) :
    (executor.pump budgets).Aboard key id ∨
      (executor.pump budgets).NextWithin bound key id :=
  NextWithin.pumpTurns kept (Or.inr next) executor.ready.length

theorem NextWithin.pump_free (next : executor.NextWithin (bound + 1) key id)
    (free : executor.active < budgets.maxConcurrent) :
    (executor.pump budgets).Aboard key id ∨
      (executor.pump budgets).NextWithin bound key id := by
  cases ready : executor.ready with
  | nil =>
    have turn := next.turn
    rw [ready] at turn
    cases turn
  | cons head rest =>
    have served := next.serve kept ready
    have later := NextWithin.pumpTurns (kept.serve ready free) served
      rest.length
    rw [Executor.pump, ready, List.length_cons, Executor.pumpTurns,
      if_pos free]
    simp only [ready]
    exact later

end

theorem NextWithin.run (kept : Kept budgets executor) {bound : Nat}
    (next : executor.NextWithin bound key id) (other : K) (now : R) :
    (executor.run budgets other now).Aboard key id ∨
      (executor.run budgets other now).NextWithin bound key id := by
  cases admitted : executor.canRun budgets other with
  | false =>
    rw [run_refused admitted]
    exact Or.inr (next.same rfl rfl)
  | true =>
    have room : (executor.pendingOf other).length <
        budgets.maxPendingPerKey := by
      rw [canRun, Bool.and_eq_true] at admitted
      exact of_decide_eq_true admitted.2
    have queued : (executor.queued other now).NextWithin bound key id := by
      apply next.frame
      · exact ⟨[], (append_nil _).symm⟩
      · exact ⟨_, queued_pendingIds executor other now key⟩
    have enqueued : (executor.enqueue other now).NextWithin bound key
        id := by
      rw [enqueue_eq]
      split
      · exact queued.markReady other
      · exact queued
    have pumped := enqueued.pump (kept.enqueue other now room)
    rw [Executor.run, admitted, if_neg (by simp)]
    exact pumped.imp_right fun next => next.same rfl rfl

/-- A slot that is given back brings the task nearer. -/
theorem NextWithin.settle (kept : Kept budgets executor)
    (next : executor.NextWithin (bound + 1) key id) {flight : Flight K R V E}
    (member : flight ∈ executor.inFlight) (outcome : Outcome V E) :
    (executor.settle budgets flight.task outcome).Aboard key id ∨
      (executor.settle budgets flight.task outcome).NextWithin bound key
        id := by
  obtain ⟨pending, stored⟩ := kept.active_of_flying member
  have different : key ≠ flight.task.key := by
    intro same
    obtain ⟨state, found, idle⟩ := (kept.ready_iff key).mp next.turn
    rw [same, stored] at found
    cases found
    cases idle
  have landed : (executor.landed flight.task outcome).NextWithin (bound + 1)
      key id := by
    have released : (executor.release flight.task).NextWithin (bound + 1) key
        id := by
      rw [release, stored]
      simp only
      split
      · refine next.same rfl ?_
        exact @pendingIds_of_ne _ _ _ _ _ executor _ _ _ none rfl different
      · apply NextWithin.markReady
        refine next.same rfl ?_
        exact @pendingIds_of_ne _ _ _ _ _ executor _ _ _
          (some
            { active := none
              pending }) rfl different
    exact released.same rfl rfl
  have active : (executor.landed flight.task outcome).active <
      budgets.maxConcurrent := by
    have fewer : (executor.release flight.task).active =
        executor.active - 1 := by
      rw [release, stored]
      simp only
      split
      · rfl
      · rw [Executor.markReady]
        split
        · rfl
        · rfl
    have some_fly : 0 < executor.active := by
      rw [kept.active_eq]
      exact List.length_pos_of_mem member
    have most := kept.capacity
    have same : (executor.landed flight.task outcome).active =
        (executor.release flight.task).active := rfl
    rw [same, fewer]
    omega
  exact landed.pump_free (kept.landed member outcome) active

theorem idxOf_erase_le {other : K} (different : key ≠ other) (ring : List K) :
    (ring.erase other).idxOf key ≤ ring.idxOf key := by
  induction ring with
  | nil => exact Nat.le_refl _
  | cons head rest induction =>
    by_cases gone : head = other
    · subst gone
      rw [List.erase_cons_head, idxOf_cons_ne _ (Ne.symm different)]
      exact Nat.le_succ _
    · rw [List.erase_cons_tail (by simpa using gone)]
      by_cases own : head = key
      · subst own
        rw [List.idxOf_cons_self, List.idxOf_cons_self]
      · rw [idxOf_cons_ne _ own, idxOf_cons_ne _ own]
        exact Nat.succ_le_succ induction

omit [JsNumber R] in
theorem NextWithin.expire (next : executor.NextWithin bound key id) (other : K)
    (task : Nat) :
    id ∈ (executor.expire other task).settledIds ∨
      (executor.expire other task).NextWithin bound key id := by
  obtain ⟨others, first⟩ := next.first
  rw [Executor.expire]
  cases stored : executor.states.get other with
  | none => exact Or.inr next
  | some state =>
    simp only
    split
    · exact Or.inr next
    · by_cases own : key = other
      · subst own
        rw [pendingIds_stored stored] at first
        cases pending : state.pending with
        | nil =>
          rw [pending] at first
          cases first
        | cons head rest =>
          rw [pending, map_cons, List.cons.injEq] at first
          by_cases same : head.id = task
          · left
            have settled : id ∈ executor.settledIds ++ [task] := by
              rw [← first.1, same]
              exact mem_append_right _ (mem_singleton_self _)
            split
            · rw [settledIds, map_append]
              exact settled
            · rw [settledIds, map_append]
              exact settled
          · right
            rw [List.eraseP_cons_of_neg (by simpa using same)]
            simp only [List.isEmpty_cons, Bool.and_false,
              Bool.false_eq_true, if_false]
            constructor
            · exact next.turn
            · exact next.near
            · refine ⟨(rest.eraseP fun waits => waits.id == task).map
                Task.id, ?_⟩
              rw [← first.1]
              exact (@pendingIds_put K R V E _ executor _ key
                (some
                  { state with
                    pending := head :: rest.eraseP fun waits =>
                      waits.id == task }) rfl key).trans (if_pos rfl)
      · right
        split
        · constructor
          · exact (List.mem_erase_of_ne own).mpr next.turn
          · exact Nat.lt_of_le_of_lt (idxOf_erase_le own _) next.near
          · refine ⟨others, ?_⟩
            rw [← first]
            exact @pendingIds_of_ne _ _ _ _ _ executor _ _ _ none rfl own
        · refine next.same rfl ?_
          exact @pendingIds_of_ne _ _ _ _ _ executor _ _ _ (some _) rfl own

omit [JsNumber R] in
theorem NextWithin.refreshPending (next : executor.NextWithin bound key id)
    (other : K) (task : Nat) (now : R) :
    (executor.refreshPending other task now).NextWithin bound key id := by
  refine next.same ?_ (refreshPending_pendingIds executor other task now key)
  rw [Executor.refreshPending]
  split
  · rfl
  · rfl

/-- Whatever happens, the task comes no further from the head. -/
theorem NextWithin.step (kept : Kept budgets executor) {bound : Nat}
    (next : executor.NextWithin bound key id)
    {label : ExecutorLabel K R V E}
    (taken : Executor.step budgets executor label = some after) :
    after.Lives bound key id := by
  cases stepped_of_step taken with
  | run other now => exact Or.inr (next.run kept other now)
  | overdue | calls | finishes =>
    exact Or.inr (Or.inr (next.same rfl rfl))
  | settles found =>
    have farther := next.mono (Nat.le_succ bound)
    exact Or.inr (farther.settle kept (mem_of_flight found) _)
  | expire other task =>
    rcases next.expire other task with settled | waits
    · exact Or.inl settled
    · exact Or.inr (Or.inr waits)
  | refreshPending other task now =>
    exact Or.inr (Or.inr (next.refreshPending other task now))

/-- A completion brings it nearer. -/
theorem NextWithin.complete (kept : Kept budgets executor) {bound : Nat}
    (next : executor.NextWithin (bound + 1) key id) {other : Nat}
    (taken : executor.complete budgets other = some after) :
    after.Lives bound key id := by
  have step : Executor.step budgets executor (.complete other) =
      some after := taken
  cases stepped_of_step step with
  | settles found =>
    exact Or.inr (next.settle kept (mem_of_flight found) _)

/-- A promise that is on its way stays on it. -/
theorem Lives.step (kept : Kept budgets executor) {bound : Nat}
    (lives : executor.Lives bound key id) {label : ExecutorLabel K R V E}
    (taken : Executor.step budgets executor label = some after) :
    after.Lives bound key id := by
  rcases lives with settled | aboard | next
  · left
    obtain ⟨entry, member, same⟩ := mem_map.mp settled
    exact mem_map.mpr ⟨entry, step_settled taken entry member, same⟩
  · rcases aboard.step taken with stays | ⟨-, settled⟩
    · exact Or.inr (Or.inl stays)
    · exact Or.inl settled
  · exact next.step kept taken

/-! ## Where a promise is -/

def Located (executor : Executor K R V E) (key : K) (id : Nat) : Prop :=
  ∃ task ∈ executor.flying ++ executor.waitingTasks,
    task.id = id ∧ task.key = key

omit [DecidableEq K] [JsNumber R] in
theorem Aboard.located (aboard : executor.Aboard key id) :
    executor.Located key id := by
  obtain ⟨flight, member, named, keyed⟩ := aboard
  exact ⟨flight.task, mem_append_left _ (mem_map_of_mem member), named, keyed⟩

variable (kept : Kept budgets executor)

include kept

theorem Kept.located_of_pending (pending : id ∈ executor.pendingIds key) :
    executor.Located key id := by
  obtain ⟨task, member, named⟩ := mem_map.mp pending
  cases stored : executor.states.get key with
  | none =>
    rw [pendingOf, stored] at member
    cases member
  | some state =>
    rw [pendingOf, stored] at member
    refine ⟨task, mem_append_right _ ?_, named,
      (kept.fits key state stored).pendingKeyed task member⟩
    exact OrderedMap.mem_collect.mpr ⟨key, state, stored, member⟩

theorem Kept.located_of_lives (lives : executor.Lives bound key id) :
    id ∈ executor.settledIds ∨ executor.Located key id := by
  rcases lives with settled | aboard | next
  · exact Or.inl settled
  · exact Or.inr aboard.located
  · right
    obtain ⟨rest, first⟩ := next.first
    apply kept.located_of_pending
    rw [first]
    exact mem_cons_self ..

theorem Kept.lt_of_settled (settled : id ∈ executor.settledIds) :
    id < executor.nextId := by
  apply List.mem_range.mp
  apply kept.ids.mem_iff.mp
  exact mem_append_left _ (mem_append_left _ settled)

theorem Kept.lt_of_located (located : executor.Located key id) :
    id < executor.nextId ∧ id ∉ executor.settledIds := by
  obtain ⟨task, member, named, -⟩ := located
  have inside : id ∈ executor.flying.map Task.id ++
      executor.waitingTasks.map Task.id := by
    rw [← map_append, ← named]
    exact mem_map_of_mem member
  constructor
  · apply List.mem_range.mp
    apply kept.ids.mem_iff.mp
    rw [append_assoc]
    exact mem_append_right _ inside
  · intro settled
    have nodup := kept.nodup
    rw [append_assoc] at nodup
    exact (nodup_append.mp nodup).2.2 id settled id inside rfl

theorem Kept.key_of_located {other : K} (first : executor.Located key id)
    (second : executor.Located other id) : key = other := by
  obtain ⟨left, leftIn, leftId, leftKey⟩ := first
  obtain ⟨right, rightIn, rightId, rightKey⟩ := second
  have nodup := kept.nodup
  rw [append_assoc, ← map_append] at nodup
  have once := (nodup_append.mp nodup).2.1
  have same := List.inj_on_of_nodup_map once leftIn rightIn
    (leftId.trans rightId.symm)
  rw [← leftKey, ← rightKey, same]

theorem Kept.lt_of_begun (begun : executor.Begun id) :
    id < executor.nextId := by
  rcases begun with ⟨flight, member, same, -⟩ | ⟨result, settled⟩
  · rw [← same]
    exact (kept.lt_of_located (Aboard.located ⟨flight, member, rfl, rfl⟩)).1
  · exact kept.lt_of_settled (mem_map_of_mem settled)

theorem Kept.exists_located {state : KeyState K R}
    (stored : executor.states.get key = some state) :
    ∃ id, executor.Located key id := by
  have fits := kept.fits key state stored
  cases active : state.active with
  | none =>
    cases pending : state.pending with
    | nil => exact absurd pending (fits.busy active)
    | cons task rest =>
      refine ⟨task.id, kept.located_of_pending ?_⟩
      rw [pendingIds_stored stored, pending]
      exact mem_cons_self ..
  | some task =>
    refine ⟨task.id, task, mem_append_left _ ?_, rfl,
      fits.activeKeyed task active⟩
    apply kept.flights.mem_iff.mpr
    refine OrderedMap.mem_collect.mpr ⟨key, state, stored, ?_⟩
    rw [activeTasks, active]
    exact mem_cons_self ..

theorem Kept.lives_run (vacant : executor.states.get key = none)
    (admitted : executor.canRun budgets key = true) (now : R) :
    ∃ bound, (executor.run budgets key now).Lives bound key
      executor.nextId := by
  have idle : executor.pendingIds key = [] := by
    rw [pendingIds, pendingOf, vacant]
    rfl
  have room : (executor.pendingOf key).length < budgets.maxPendingPerKey := by
    rw [canRun, Bool.and_eq_true] at admitted
    exact of_decide_eq_true admitted.2
  have enqueued : executor.enqueue key now =
      (executor.queued key now).markReady key := by
    rw [enqueue_eq, vacant]
    rfl
  have absent : key ∉ executor.readySet := by
    intro member
    obtain ⟨state, stored, -⟩ :=
      (kept.ready_iff key).mp ((kept.readySet_iff key).mp member)
    rw [vacant] at stored
    cases stored
  have marked : (executor.queued key now).markReady key =
      { executor.queued key now with
        readySet := key :: executor.readySet
        ready := executor.ready ++ [key]
        turns := executor.turns ++ [.ready key] } := by
    rw [markReady, if_neg]
    · rfl
    · intro inside
      exact absent (List.contains_iff_mem.mp inside)
  have next : (executor.enqueue key now).NextWithin
      (executor.ready.length + 1) key executor.nextId := by
    rw [enqueued, marked]
    constructor
    · exact mem_append_right _ (mem_singleton_self _)
    · have place := List.idxOf_lt_length_of_mem
        (mem_append_right executor.ready (mem_singleton_self key))
      rw [List.length_append, List.length_singleton] at place
      exact place
    · refine ⟨[], ?_⟩
      have tail := queued_pendingIds executor key now key
      rw [idle, if_pos rfl] at tail
      exact tail
  have pumped := next.pump (kept.enqueue key now room)
  refine ⟨executor.ready.length + 1, Or.inr ?_⟩
  rw [Executor.run, admitted, if_neg (by simp)]
  exact pumped.imp_right fun next => next.same rfl rfl

end Executor

end Eki.Work
