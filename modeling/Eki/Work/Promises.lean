import Eki.Work.ExecutorAccounts

/-!
# The promises of the executor

A promise that was handed out settles once, with the result of its own work or
because the task expired.  When all of them have settled the executor is empty.
-/

namespace Eki.Work

open Insertion Transition
open List (map_append mem_append mem_append_left mem_append_right mem_cons_self
  mem_map mem_map_of_mem mem_singleton nodup_append)
open OrderedMap (collect mem_collect mem_entries_iff)

variable {K R V E : Type} [DecidableEq K] [JsNumber R]

namespace Executor

variable {budgets : ExecutionBudgets R} {executor : Executor K R V E}

structure Honest (executor : Executor K R V E) : Prop where
  own : ∀ id result, (id, Outcome.own result) ∈ executor.settled →
    (id, result) ∈ executor.results
  flying : ∀ flight ∈ executor.inFlight, ∀ result,
    flight.stage = .finished result →
    (flight.task.id, result) ∈ executor.results
  once : (executor.results.map Prod.fst).Nodup
  known : ∀ id ∈ executor.results.map Prod.fst,
    id ∈ executor.settledIds ∨ ∃ flight ∈ executor.inFlight,
      flight.task.id = id ∧ ∃ result, flight.stage = .finished result

omit [DecidableEq K] [JsNumber R] in
theorem honest_new : Honest (new : Executor K R V E) := by
  constructor
  · intro id result member
    cases member
  · intro flight member
    cases member
  · exact List.nodup_nil
  · intro id member
    cases member

section

variable (honest : Honest executor)

include honest

omit [DecidableEq K] [JsNumber R] in
theorem Honest.frame {after : Executor K R V E}
    (results : after.results = executor.results)
    (settled : ∀ id outcome, (id, outcome) ∈ after.settled →
      (id, outcome) ∈ executor.settled ∨ outcome = .expired)
    (kept : ∀ id, id ∈ executor.settledIds → id ∈ after.settledIds)
    (flights : ∀ flight ∈ after.inFlight, flight ∈ executor.inFlight ∨
      ∀ result, flight.stage ≠ .finished result)
    (finished : ∀ flight ∈ executor.inFlight, ∀ result,
      flight.stage = .finished result → flight ∈ after.inFlight) :
    Honest after := by
  constructor
  · intro id result member
    rw [results]
    rcases settled id _ member with before | expired
    · exact honest.own id result before
    · cases expired
  · intro flight member result stage
    rw [results]
    rcases flights flight member with before | unfinished
    · exact honest.flying flight before result stage
    · exact absurd stage (unfinished result)
  · rw [results]
    exact honest.once
  · intro id member
    rw [results] at member
    rcases honest.known id member with before | ⟨flight, flies, same, stage⟩
    · exact Or.inl (kept id before)
    · obtain ⟨result, stage⟩ := stage
      exact Or.inr ⟨flight, finished flight flies result stage, same,
        result, stage⟩

omit [JsNumber R] in
theorem Honest.serve (key : K) (rest : List K) :
    Honest (executor.serve key rest) := by
  have shape : (executor.serve key rest).results = executor.results ∧
      (executor.serve key rest).settled = executor.settled ∧
      ((executor.serve key rest).inFlight = executor.inFlight ∨
        ∃ task, (executor.serve key rest).inFlight =
          executor.inFlight ++
            [{ task
               stage := .dispatched }]) := by
    unfold Executor.serve
    simp only
    split
    · exact ⟨rfl, rfl, Or.inl rfl⟩
    · split
      · exact ⟨rfl, rfl, Or.inl rfl⟩
      · split
        · exact ⟨rfl, rfl, Or.inl rfl⟩
        · exact ⟨rfl, rfl, Or.inr ⟨_, rfl⟩⟩
  obtain ⟨results, settled, flights⟩ := shape
  apply honest.frame results
  · intro id outcome member
    rw [settled] at member
    exact Or.inl member
  · intro id member
    unfold settledIds
    rw [settled]
    exact member
  · intro flight member
    rcases flights with same | ⟨task, more⟩
    · rw [same] at member
      exact Or.inl member
    · rw [more] at member
      rcases mem_append.mp member with before | last
      · exact Or.inl before
      · right
        intro result stage
        rw [mem_singleton.mp last] at stage
        cases stage
  · intro flight member result stage
    rcases flights with same | ⟨task, more⟩
    · rw [same]
      exact member
    · rw [more]
      exact mem_append_left _ member

theorem Honest.pump : Honest (executor.pump budgets) := by
  apply pumpTurns_keeps
  · intro executor key rest honest _ _
    exact honest.serve key rest
  · exact honest

omit [DecidableEq K] [JsNumber R] in
theorem Honest.same {after : Executor K R V E}
    (results : after.results = executor.results)
    (settled : after.settled = executor.settled)
    (inFlight : after.inFlight = executor.inFlight) : Honest after := by
  apply honest.frame results
  · intro id outcome member
    rw [settled] at member
    exact Or.inl member
  · intro id member
    unfold settledIds
    rw [settled]
    exact member
  · intro flight member
    rw [inFlight] at member
    exact Or.inl member
  · intro flight member _ _
    rw [inFlight]
    exact member

end

variable {flight : Flight K R V E} {id : Nat}

omit [DecidableEq K] [JsNumber R] in
theorem flight_id (found : executor.flight id = some flight) :
    flight.task.id = id := by
  have own := List.find?_some found
  exact eq_of_beq own

theorem Kept.one_flight (kept : Kept budgets executor)
    {first second : Flight K R V E} (left : first ∈ executor.inFlight)
    (right : second ∈ executor.inFlight)
    (same : first.task.id = second.task.id) : first = second :=
  List.inj_on_of_nodup_map kept.flying_nodup left right same

theorem Kept.mem_setStage (kept : Kept budgets executor)
    (found : executor.flight id = some flight) {stage : Stage V E}
    {other : Flight K R V E} :
    other ∈ (executor.setStage id stage).inFlight ↔
      other = { flight with stage } ∨
        other ∈ executor.inFlight ∧ other ≠ flight := by
  have named := flight_id found
  constructor
  · intro member
    obtain ⟨before, flew, rfl⟩ := mem_map.mp member
    split
    · rename_i same
      have one := kept.one_flight flew (mem_of_flight found)
        ((eq_of_beq same).trans named.symm)
      exact .inl (by rw [one])
    · rename_i different
      refine .inr ⟨flew, ?_⟩
      rintro rfl
      exact different (beq_iff_eq.mpr named)
  · rintro (rfl | ⟨member, different⟩)
    · exact mem_map.mpr ⟨flight, mem_of_flight found,
        if_pos (beq_iff_eq.mpr named)⟩
    · refine mem_map.mpr ⟨other, member, if_neg ?_⟩
      intro same
      exact different (kept.one_flight member (mem_of_flight found)
        ((eq_of_beq same).trans named.symm))

omit [JsNumber R] in
theorem markReady_frame (executor : Executor K R V E) (key : K) :
    (executor.markReady key).results = executor.results ∧
      (executor.markReady key).settled = executor.settled ∧
      (executor.markReady key).inFlight = executor.inFlight := by
  unfold markReady
  split
  · exact ⟨rfl, rfl, rfl⟩
  · exact ⟨rfl, rfl, rfl⟩

omit [JsNumber R] in
theorem release_frame (executor : Executor K R V E) (task : Task K R) :
    (executor.release task).results = executor.results ∧
      (executor.release task).settled = executor.settled ∧
      (executor.release task).inFlight =
        executor.inFlight.filter fun flight => flight.task.id != task.id := by
  unfold release
  simp only
  split
  · exact ⟨rfl, rfl, rfl⟩
  · split
    · exact ⟨rfl, rfl, rfl⟩
    · exact markReady_frame _ _

theorem Honest.run (honest : Honest executor) (key : K) (now : R) :
    Honest (executor.run budgets key now) := by
  unfold Executor.run
  split
  · exact honest.same rfl rfl rfl
  · have enqueued : Honest (executor.enqueue key now) := by
      rw [enqueue_eq]
      split
      · obtain ⟨results, settled, inFlight⟩ :=
          markReady_frame (executor.queued key now) key
        exact honest.same results settled inFlight
      · exact honest.same rfl rfl rfl
    have pumped : Honest ((executor.enqueue key now).pump budgets) :=
      enqueued.pump
    exact pumped.same rfl rfl rfl

omit [JsNumber R] in
theorem Honest.expire (honest : Honest executor) (key : K) (id : Nat) :
    Honest (executor.expire key id) := by
  have shape : (executor.expire key id).results = executor.results ∧
      (executor.expire key id).inFlight = executor.inFlight ∧
      ((executor.expire key id).settled = executor.settled ∨
        (executor.expire key id).settled =
          executor.settled ++ [(id, .expired)]) := by
    unfold Executor.expire
    split
    · exact ⟨rfl, rfl, Or.inl rfl⟩
    · simp only
      split
      · exact ⟨rfl, rfl, Or.inl rfl⟩
      · split
        · exact ⟨rfl, rfl, Or.inr rfl⟩
        · exact ⟨rfl, rfl, Or.inr rfl⟩
  obtain ⟨results, inFlight, settled⟩ := shape
  rcases settled with same | more
  · exact honest.same results same inFlight
  · apply honest.frame results
    · intro other outcome member
      rw [more] at member
      rcases mem_append.mp member with before | last
      · exact Or.inl before
      · right
        have pair := mem_singleton.mp last
        exact congrArg Prod.snd pair
    · intro other member
      unfold settledIds
      rw [more, map_append]
      exact mem_append_left _ member
    · intro flight member
      rw [inFlight] at member
      exact Or.inl member
    · intro flight member _ _
      rw [inFlight]
      exact member

section

variable (honest : Honest executor) (kept : Kept budgets executor)
  (found : executor.flight id = some flight)

include honest kept found

theorem Honest.setStage
    (unfinished : ∀ result, flight.stage ≠ .finished result)
    (stage : Stage V E) (without : ∀ result, stage ≠ .finished result) :
    Honest (executor.setStage id stage) := by
  have results : (executor.setStage id stage).results = executor.results :=
    rfl
  apply honest.frame results
  · intro other outcome member
    exact Or.inl member
  · intro other member
    exact member
  · intro after member
    rcases (kept.mem_setStage found).mp member with rfl | ⟨flies, -⟩
    · exact Or.inr without
    · exact Or.inl flies
  · intro before member result finished
    refine (kept.mem_setStage found).mpr (.inr ⟨member, ?_⟩)
    rintro rfl
    exact unfinished result finished

/-- The work of a running task settles for the first time. -/
theorem Honest.finish (running : flight.stage = .running)
    (result : Except E V) :
    Honest
      { executor.setStage id (.finished result) with
        results := executor.results ++ [(id, result)] } := by
  have flies := mem_of_flight found
  have own : flight.task.id = id := flight_id found
  have fresh : id ∉ executor.results.map Prod.fst := by
    intro member
    rcases honest.known id member with settled | ⟨other, later, same, stage⟩
    · have apart := (nodup_append.mp (nodup_append.mp kept.nodup).1).2.2
      refine apart id settled id ?_ rfl
      rw [← own]
      exact mem_map_of_mem (mem_map_of_mem flies)
    · obtain ⟨earlier, finished⟩ := stage
      have one := kept.one_flight later flies (same.trans own.symm)
      rw [one, running] at finished
      cases finished
  constructor
  · intro other outcome member
    exact mem_append_left _ (honest.own other outcome member)
  · intro after member outcome finished
    rcases (kept.mem_setStage found).mp member with rfl | ⟨flew, -⟩
    · cases finished
      rw [own]
      exact mem_append_right _ (List.mem_singleton_self _)
    · exact mem_append_left _ (honest.flying after flew outcome finished)
  · rw [map_append]
    refine List.Nodup.append honest.once (List.nodup_singleton _) ?_
    rw [List.map_singleton, List.disjoint_singleton]
    exact fresh
  · intro other member
    rw [map_append] at member
    rcases mem_append.mp member with before | last
    · rcases honest.known other before with settled | ⟨after, flew, same, stage⟩
      · exact Or.inl settled
      · right
        by_cases touched : (after.task.id == id) = true
        · refine ⟨{ after with stage := .finished result },
            mem_map.mpr ⟨after, flew, if_pos touched⟩, same, result, rfl⟩
        · exact ⟨after, mem_map.mpr ⟨after, flew, if_neg touched⟩, same, stage⟩
    · right
      rw [mem_singleton.mp last]
      exact ⟨{ flight with stage := .finished result },
        mem_map.mpr ⟨flight, flies, if_pos (beq_iff_eq.mpr own)⟩, own,
        result, rfl⟩

end

section

variable (honest : Honest executor) (member : flight ∈ executor.inFlight)
  (outcome : Outcome V E)
  (own : ∀ result, outcome = .own result → flight.stage = .finished result)

include honest member outcome own

omit [JsNumber R] in
/-- A slot is given back, and the promise settles with what its flight
says. -/
theorem Honest.landed : Honest (executor.landed flight.task outcome) := by
  obtain ⟨results, settled, inFlight⟩ :=
    release_frame executor flight.task
  constructor
  · intro id result known
    unfold Executor.landed at known ⊢
    simp only [settled] at known
    simp only [results]
    rcases mem_append.mp known with before | last
    · exact honest.own id result before
    · have pair := mem_singleton.mp last
      have same := congrArg Prod.fst pair
      have told := congrArg Prod.snd pair
      simp only at same told
      rw [same]
      exact honest.flying flight member result (own result told.symm)
  · intro other flies result stage
    unfold Executor.landed at flies ⊢
    simp only [inFlight] at flies
    simp only [results]
    exact honest.flying other (List.mem_of_mem_filter flies) result stage
  · unfold Executor.landed
    simp only [results]
    exact honest.once
  · intro id known
    unfold Executor.landed settledIds at *
    simp only [results] at known
    simp only [settled, inFlight, map_append]
    rcases honest.known id known with before | ⟨other, flies, same, stage⟩
    · exact Or.inl (mem_append_left _ before)
    · by_cases this_one : other.task.id = flight.task.id
      · left
        apply mem_append_right
        rw [← same, this_one]
        exact List.mem_singleton_self _
      · right
        refine ⟨other, List.mem_filter.mpr ⟨flies, ?_⟩, same, stage⟩
        exact bne_iff_ne.mpr this_one

theorem Honest.settle : Honest (executor.settle budgets flight.task outcome) :=
  (honest.landed member outcome own).pump

end

theorem Honest.step {label : ExecutorLabel K R V E}
    {next : Executor K R V E} (honest : Honest executor)
    (kept : Kept budgets executor)
    (taken : Executor.step budgets executor label = some next) :
    Honest next := by
  have unfinished : ∀ result : Except E V,
      (Stage.dispatched : Stage V E) ≠ .finished result := by
    intro result same
    cases same
  cases stepped_of_step taken with
  | run key now => exact honest.run key now
  | overdue found =>
    have staged := honest.setStage kept found unfinished .overdue
      (by intro result same; cases same)
    exact staged.same rfl rfl rfl
  | calls found =>
    exact honest.setStage kept found unfinished .running
      (by intro result same; cases same)
  | finishes found => exact honest.finish kept found rfl _
  | @settles id flight outcome found ends =>
    apply honest.settle (mem_of_flight found) outcome
    intro result same
    rw [same] at ends
    cases stage : flight.stage <;> rw [stage] at ends <;> cases ends
    rfl
  | expire key id => exact honest.expire key id
  | refreshPending key id now =>
    unfold Executor.refreshPending
    split
    · exact honest
    · exact honest.same rfl rfl rfl

/-! ## Whole runs -/

/-- The length of all the queues together. -/
def pendingTotal (executor : Executor K R V E) : Nat :=
  executor.states.entries.foldr
    (fun entry total => entry.2.pending.length + total) 0

structure Accounted (budgets : ExecutionBudgets R)
    (executor : Executor K R V E) : Prop where
  capacity : executor.active ≤ budgets.maxConcurrent
  active_eq : executor.active = executor.inFlight.length
  /-- No key has two tasks in flight. -/
  onePerKey : (executor.flying.map Task.key).Nodup
  waiting_eq : executor.waiting = executor.pendingTotal
  waiting_le : executor.waiting ≤ budgets.maxPending
  perKey : ∀ key,
    (executor.pendingOf key).length ≤ budgets.maxPendingPerKey
  /-- A promise settles at most once, and only one that was handed out. -/
  once : executor.settledIds.Nodup
  accepted : ∀ id ∈ executor.settledIds, id < executor.nextId
  resultsOnce : (executor.results.map Prod.fst).Nodup
  ownOrExpired : ∀ id outcome, (id, outcome) ∈ executor.settled →
    outcome = .expired ∨
      ∃ result, outcome = .own result ∧ (id, result) ∈ executor.results
  /-- A refused submission is counted. -/
  refusal : ∀ key now, executor.canRun budgets key = false →
    executor.run budgets key now =
      { executor with rejected := executor.rejected + 1 }
  /-- With every promise settled nothing is left. -/
  emptied : (∀ id, id < executor.nextId → id ∈ executor.settledIds) →
    executor.states.entries = [] ∧ executor.ready = [] ∧
      executor.readySet = [] ∧ executor.active = 0 ∧ executor.waiting = 0

section

variable (kept : Kept budgets executor)

include kept

theorem Kept.onePerKey : (executor.flying.map Task.key).Nodup := by
  rw [(kept.flights.map Task.key).nodup_iff]
  have keyed : ∀ entry ∈ executor.states.entries,
      (activeTasks entry.2).map Task.key =
        if entry.2.active.isSome then [entry.1] else [] := by
    rintro ⟨key, state⟩ member
    have fits := kept.fits key state (mem_entries_iff.mp member)
    unfold activeTasks
    cases active : state.active with
    | none => simp
    | some task =>
      have own := fits.activeKeyed task active
      simp [own]
  have shape : (executor.states.collect activeTasks).map Task.key =
      (executor.states.entries.filter fun entry =>
        entry.2.active.isSome).map Prod.fst := by
    unfold collect
    rw [List.map_flatMap]
    generalize executor.states.entries = entries at keyed
    induction entries with
    | nil => rfl
    | cons entry rest induction =>
      have own := keyed entry (mem_cons_self ..)
      have later := induction fun other member =>
        keyed other (List.mem_cons_of_mem _ member)
      rw [List.flatMap_cons, own, later, List.filter_cons]
      split
      · rfl
      · rfl
  rw [shape]
  exact executor.states.unique.sublist (List.filter_sublist.map _)

theorem Kept.waiting_total : executor.waiting = executor.pendingTotal := by
  rw [kept.waiting_eq]
  unfold waitingTasks pendingTotal collect
  induction executor.states.entries with
  | nil => rfl
  | cons entry rest induction =>
    rw [List.flatMap_cons, List.length_append, induction, List.foldr_cons]

theorem Kept.perKey (key : K) :
    (executor.pendingOf key).length ≤ budgets.maxPendingPerKey := by
  unfold pendingOf
  cases stored : executor.states.get key with
  | none => exact Nat.zero_le _
  | some state => exact (kept.fits key state stored).perKey

theorem Kept.emptied
    (all : ∀ id, id < executor.nextId → id ∈ executor.settledIds) :
    executor.states.entries = [] ∧ executor.ready = [] ∧
      executor.readySet = [] ∧ executor.active = 0 ∧
      executor.waiting = 0 := by
  have nodup := kept.nodup
  have handed : ∀ id, id ∈ executor.flying.map Task.id ∨
      id ∈ executor.waitingTasks.map Task.id → id < executor.nextId := by
    intro id member
    apply List.mem_range.mp
    apply kept.ids.mem_iff.mp
    rcases member with flies | waits
    · exact mem_append_left _ (mem_append_right _ flies)
    · exact mem_append_right _ waits
  have noFlight : executor.flying = [] := by
    rw [List.eq_nil_iff_forall_not_mem]
    intro task member
    have flies : task.id ∈ executor.flying.map Task.id :=
      mem_map_of_mem member
    have settled := all task.id (handed task.id (Or.inl flies))
    exact (nodup_append.mp (nodup_append.mp nodup).1).2.2 task.id
      settled task.id flies rfl
  have noneWaits : executor.waitingTasks = [] := by
    rw [List.eq_nil_iff_forall_not_mem]
    intro task member
    have waits : task.id ∈ executor.waitingTasks.map Task.id :=
      mem_map_of_mem member
    have settled := all task.id (handed task.id (Or.inr waits))
    exact (nodup_append.mp nodup).2.2 task.id
      (mem_append_left _ settled) task.id waits rfl
  have noEntry : executor.states.entries = [] := by
    rw [List.eq_nil_iff_forall_not_mem]
    rintro ⟨key, state⟩ member
    have stored := mem_entries_iff.mp member
    have fits := kept.fits key state stored
    cases active : state.active with
    | none =>
      cases pending : state.pending with
      | nil => exact fits.busy active pending
      | cons task rest =>
        have waits : task ∈ executor.waitingTasks :=
          mem_collect.mpr ⟨key, state, stored, by
            rw [pending]
            exact mem_cons_self ..⟩
        rw [noneWaits] at waits
        cases waits
    | some task =>
      have flies : task ∈ executor.flying :=
        kept.flights.mem_iff.mpr
          (mem_collect.mpr ⟨key, state, stored, by
            unfold activeTasks
            rw [active]
            exact mem_cons_self ..⟩)
      rw [noFlight] at flies
      cases flies
  have noTurn : executor.ready = [] := by
    rw [List.eq_nil_iff_forall_not_mem]
    intro key member
    obtain ⟨state, stored, -⟩ := (kept.ready_iff key).mp member
    have entry := mem_entries_iff.mpr stored
    rw [noEntry] at entry
    cases entry
  refine ⟨noEntry, noTurn, ?_, ?_, ?_⟩
  · rw [List.eq_nil_iff_forall_not_mem]
    intro key member
    have turn := (kept.readySet_iff key).mp member
    rw [noTurn] at turn
    cases turn
  · rw [kept.active_eq]
    have none := congrArg List.length noFlight
    unfold flying at none
    rw [List.length_map] at none
    exact none
  · rw [kept.waiting_eq, noneWaits]
    rfl

end

/-- After any operations the accounts are right. -/
theorem sound_of_steps
    (steps : System.Steps (Executor.step budgets) (fun _ _ => True)
      (Executor.new : Executor K R V E) executor) :
    Sound budgets executor ∧ Honest executor := by
  apply System.Steps.invariant steps ⟨sound_new, honest_new⟩
  rintro state label next ⟨sound, honest⟩ _ taken
  exact ⟨sound.step taken, honest.step sound.toKept taken⟩

theorem accounted_of_steps
    (steps : System.Steps (Executor.step budgets) (fun _ _ => True)
      (Executor.new : Executor K R V E) executor) :
    Accounted budgets executor := by
  obtain ⟨sound, honest⟩ := sound_of_steps steps
  have kept := sound.toKept
  exact
    { capacity := kept.capacity
      active_eq := kept.active_eq
      onePerKey := kept.onePerKey
      waiting_eq := kept.waiting_total
      waiting_le := sound.bounded
      perKey := kept.perKey
      once :=
        (nodup_append.mp (nodup_append.mp kept.nodup).1).1
      accepted := by
        intro id settled
        apply List.mem_range.mp
        apply kept.ids.mem_iff.mp
        exact mem_append_left _ (mem_append_left _ settled)
      resultsOnce := honest.once
      ownOrExpired := by
        intro id outcome member
        cases outcome with
        | own result => exact Or.inr ⟨result, rfl, honest.own id result member⟩
        | expired => exact Or.inl rfl
      refusal := by
        intro key now refused
        unfold Executor.run
        rw [refused]
        rfl
      emptied := kept.emptied }

/-- A task fails, one expires in its queue and one at its dispatch; a fourth
was refused. -/
theorem accounted_of_mixed_run :
    ∃ (budgets : ExecutionBudgets ℚ) (executor : Executor Nat ℚ Nat Nat),
      Accounted budgets executor ∧ executor.settled.length = 3 ∧
        executor.rejected = 1 ∧ executor.states.entries.length = 0 := by
  let budgets := ExecutionBudgets.oneSlot 2 2 5 (by decide) (by decide)
  have decided :
      (System.run (Executor.step budgets) (fun _ _ => true)
        (Executor.new : Executor Nat ℚ Nat Nat)
        [.run 0 0, .run 0 1, .run 1 1, .run 1 2, .start 0 3,
          .finish 0 (.error 7), .expire 0 1, .complete 0, .start 2 9,
          .complete 2]).any (fun executor =>
            executor.settled.length = 3 && executor.rejected = 1 &&
              executor.states.entries.length = 0) = true := by
    decide +kernel
  obtain ⟨executor, steps, ended⟩ := System.exists_of_run decided
  simp only [Bool.and_eq_true, decide_eq_true_eq] at ended
  refine ⟨budgets, executor, ?_, ended.1.1, ended.1.2, ended.2⟩
  exact accounted_of_steps (steps.mono fun _ _ _ => trivial)

end Executor

end Eki.Work
