import Eki.Work.ChangeWriter
import Eki.Work.TaskHistory

/-!
# Writes run one after another

The events of one key are those of writes that began and ended, in the order
of their submission, and perhaps one that has begun.
-/

namespace Eki.Work

open Insertion Transition
open List (append_nil mem_append mem_append_left mem_append_right
  mem_singleton)

variable {K R V E : Type} [DecidableEq K] [JsNumber R]

def runs (key : K) (done : List (Nat × Except E V)) :
    List (WriteEvent K V E) :=
  done.flatMap fun entry => [.began key entry.1, .ended key entry.1 entry.2]

def eventsOf (key : K) (events : List (WriteEvent K V E)) :
    List (WriteEvent K V E) :=
  events.filter fun event => event.key = key

theorem eventsOf_append (key : K) (front back : List (WriteEvent K V E)) :
    eventsOf key (front ++ back) = eventsOf key front ++ eventsOf key back :=
  List.filter_append ..

namespace Executor

variable {budgets : ExecutionBudgets R} {executor : Executor K R V E}
  {events : List (WriteEvent K V E)}

structure Serial (executor : Executor K R V E)
    (events : List (WriteEvent K V E)) (key : K)
    (done : List (Nat × Except E V)) (running : Option Nat) : Prop where
  log : eventsOf key events =
    runs key done ++ running.toList.map (WriteEvent.began key)
  taken : ∀ id ∈ done.map Prod.fst ++ running.toList,
    id ∈ executor.dispatchedOf key
  ordered : (done.map Prod.fst ++ running.toList).Pairwise (· < ·)
  running_iff : ∀ id, running = some id ↔
    ∃ flight ∈ executor.inFlight, flight.task.key = key ∧
      flight.task.id = id ∧ flight.stage = .running
  results : ∀ entry ∈ done, entry ∈ executor.results
  complete : ∀ entry ∈ executor.results,
    entry.1 ∈ executor.tasksOf key → entry ∈ done

variable {after : Executor K R V E}

omit [JsNumber R] in
/-- Operations that call no write and settle none. -/
theorem Serial.frame {key : K} {done : List (Nat × Except E V)}
    {running : Option Nat} (serial : Serial executor events key done running)
    (continues : Continues executor after)
    (results : after.results = executor.results)
    (tasks : ∀ entry ∈ executor.results, entry.1 ∈ after.tasksOf key →
      entry.1 ∈ executor.tasksOf key)
    (flights : ∀ flight : Flight K R V E, flight.stage = .running →
      (flight ∈ after.inFlight ↔ flight ∈ executor.inFlight)) :
    Serial after events key done running := by
  constructor
  · exact serial.log
  · intro id member
    obtain ⟨more, dispatched⟩ := continues.dispatchedOf key
    rw [dispatched]
    exact mem_append_left _ (serial.taken id member)
  · exact serial.ordered
  · intro id
    rw [serial.running_iff]
    constructor
    · rintro ⟨flight, member, keyed, named, stage⟩
      exact ⟨flight, (flights flight stage).mpr member, keyed, named, stage⟩
    · rintro ⟨flight, member, keyed, named, stage⟩
      exact ⟨flight, (flights flight stage).mp member, keyed, named, stage⟩
  · rw [results]
    exact serial.results
  · intro entry member taken
    rw [results] at member
    exact serial.complete entry member (tasks entry member taken)

/-- The log of an executor and what it rests on. -/
structure Logged (budgets : ExecutionBudgets R) (executor : Executor K R V E)
    (events : List (WriteEvent K V E)) : Prop where
  sound : Sound budgets executor
  honest : Honest executor
  fair : Fair executor
  last : LastTaken executor
  serial : ∀ key, ∃ done running, Serial executor events key done running
  apart : ∀ id key other, id ∈ executor.tasksOf key →
    id ∈ executor.tasksOf other → key = other
  resultTaken : ∀ entry ∈ executor.results,
    ∃ key, entry.1 ∈ executor.dispatchedOf key

theorem logged_new : Logged budgets (new : Executor K R V E) [] := by
  constructor
  · exact sound_new
  · exact honest_new
  · exact fair_new
  · exact lastTaken_new
  · intro key
    refine ⟨[], none, ?_⟩
    constructor
    · rfl
    · intro id member
      cases member
    · exact List.Pairwise.nil
    · intro id
      constructor
      · intro same
        cases same
      · rintro ⟨flight, member, -⟩
        cases member
    · intro entry member
      cases member
    · intro entry member
      cases member
  · intro id key other member
    cases member
  · intro entry member
    cases member

theorem Logged.result_lt (logged : Logged budgets executor events)
    {entry : Nat × Except E V} (member : entry ∈ executor.results) :
    entry.1 < executor.nextId := by
  obtain ⟨key, taken⟩ := logged.resultTaken entry member
  exact logged.fair.below key entry.1 (mem_append_left _ taken)

theorem Logged.frame (logged : Logged budgets executor events)
    (sound : Sound budgets after) (honest : Honest after) (fair : Fair after)
    (last : LastTaken after) (continues : Continues executor after)
    (results : after.results = executor.results) (tasks : ∀ key,
      (after.tasksOf key).Sublist (executor.tasksOf key))
    (flights : ∀ flight : Flight K R V E, flight.stage = .running →
      (flight ∈ after.inFlight ↔ flight ∈ executor.inFlight)) :
    Logged budgets after events := by
  constructor
  · exact sound
  · exact honest
  · exact fair
  · exact last
  · intro key
    obtain ⟨done, running, serial⟩ := logged.serial key
    refine ⟨done, running, serial.frame continues results ?_ flights⟩
    intro entry _ taken
    exact (tasks key).subset taken
  · intro id key other here there
    exact logged.apart id key other ((tasks key).subset here)
      ((tasks other).subset there)
  · intro entry member
    rw [results] at member
    obtain ⟨key, taken⟩ := logged.resultTaken entry member
    obtain ⟨more, dispatched⟩ := continues.dispatchedOf key
    refine ⟨key, ?_⟩
    rw [dispatched]
    exact mem_append_left _ taken

variable {flight : Flight K R V E}

omit [DecidableEq K] [JsNumber R] in
theorem TakesUp.running_iff (takesUp : TakesUp executor after)
    (stage : flight.stage = .running) :
    flight ∈ after.inFlight ↔ flight ∈ executor.inFlight := by
  obtain ⟨more, inFlight, fresh⟩ := takesUp
  rw [inFlight]
  constructor
  · intro member
    rcases mem_append.mp member with before | added
    · exact before
    · have looked := fresh flight added
      rw [stage] at looked
      cases looked
  · intro member
    exact mem_append_left _ member

theorem Logged.run (logged : Logged budgets executor events) (key : K)
    (now : R) : Logged budgets (executor.run budgets key now) events := by
  have kept := logged.sound.toKept
  have continues := (extends_run budgets executor key now).continues
  have results := (run_frame budgets executor key now).1
  have flights : ∀ flight : Flight K R V E, flight.stage = .running →
      (flight ∈ (executor.run budgets key now).inFlight ↔
        flight ∈ executor.inFlight) := by
    intro flight stage
    exact (extends_run budgets executor key now).takesUp.running_iff stage
  cases admitted : executor.canRun budgets key with
  | false =>
    apply logged.frame (logged.sound.run key now) (logged.honest.run key now)
      (logged.fair.run kept key now) (logged.last.run kept key now) continues
      results
    · intro other
      rw [run_refused admitted]
      exact List.Sublist.refl _
    · exact flights
  | true =>
    have tasks := kept.run_tasksOf admitted now
    have old : ∀ id other, id < executor.nextId →
        id ∈ (executor.run budgets key now).tasksOf other →
        id ∈ executor.tasksOf other := by
      intro id other lower member
      rw [tasks other] at member
      rcases mem_append.mp member with before | latest
      · exact before
      · split at latest
        · rw [mem_singleton.mp latest] at lower
          exact absurd lower (Nat.lt_irrefl _)
        · cases latest
    have fresh : ∀ id other, id = executor.nextId →
        id ∈ (executor.run budgets key now).tasksOf other →
        other = key := by
      intro id other latest member
      rw [tasks other] at member
      rcases mem_append.mp member with before | joined
      · have lower := logged.fair.below other id before
        rw [latest] at lower
        exact absurd lower (Nat.lt_irrefl _)
      · split at joined
        · assumption
        · cases joined
    have known : ∀ id other,
        id ∈ (executor.run budgets key now).tasksOf other →
        id < executor.nextId ∨ id = executor.nextId := by
      intro id other member
      rw [tasks other] at member
      rcases mem_append.mp member with before | joined
      · exact Or.inl (logged.fair.below other id before)
      · split at joined
        · exact Or.inr (mem_singleton.mp joined)
        · cases joined
    constructor
    · exact logged.sound.run key now
    · exact logged.honest.run key now
    · exact logged.fair.run kept key now
    · exact logged.last.run kept key now
    · intro other
      obtain ⟨done, running, serial⟩ := logged.serial other
      refine ⟨done, running, serial.frame continues results ?_ flights⟩
      intro entry member taken
      exact old entry.1 other (logged.result_lt member) taken
    · intro id first second here there
      rcases known id first here with lower | latest
      · exact logged.apart id first second (old id first lower here)
          (old id second lower there)
      · rw [fresh id first latest here, fresh id second latest there]
    · intro entry member
      rw [results] at member
      obtain ⟨other, taken⟩ := logged.resultTaken entry member
      obtain ⟨more, dispatched⟩ := continues.dispatchedOf other
      refine ⟨other, ?_⟩
      rw [dispatched]
      exact mem_append_left _ taken

section

variable (logged : Logged budgets executor events)

include logged

theorem Logged.expire (key : K) (id : Nat) :
    Logged budgets (executor.expire key id) events := by
  apply logged.frame (logged.sound.expire key id) (logged.honest.expire key id)
    (logged.fair.expire key id) (logged.last.expire key id)
    (extends_expire executor key id).continues
  · unfold Executor.expire
    split
    · rfl
    · simp only
      split
      · rfl
      · split <;> rfl
  · exact expire_tasksOf executor key id
  · intro flight stage
    exact (extends_expire executor key id).takesUp.running_iff stage

theorem Logged.refreshPending (key : K) (id : Nat) (now : R) :
    Logged budgets (executor.refreshPending key id now) events := by
  have sound : Sound budgets (executor.refreshPending key id now) :=
    @Sound.step K R V E _ _ budgets executor (.refreshPending key id now) _
      logged.sound rfl
  have honest : Honest (executor.refreshPending key id now) :=
    @Honest.step K R V E _ _ budgets executor (.refreshPending key id now) _
      logged.honest logged.sound.toKept rfl
  apply logged.frame sound honest (logged.fair.refreshPending key id now)
    (logged.last.refreshPending key id now)
    (extends_refreshPending executor key id now).continues
  · unfold Executor.refreshPending
    split <;> rfl
  · exact refreshPending_tasksOf executor key id now
  · intro flight stage
    exact (extends_refreshPending executor key id now).takesUp.running_iff stage

/-- The slot of a flight that does not run is given back. -/
theorem Logged.settle (member : flight ∈ executor.inFlight)
    (idle : flight.stage ≠ .running) (outcome : Outcome V E)
    (own : ∀ result, outcome = .own result → flight.stage = .finished result) :
    Logged budgets (executor.settle budgets flight.task outcome) events := by
  have kept := logged.sound.toKept
  apply logged.frame (logged.sound.settle member outcome)
    (logged.honest.settle member outcome own)
    (logged.fair.settle kept member outcome)
    (logged.last.settle kept member outcome)
    (continues_settle budgets executor flight.task outcome)
    (settle_frame budgets executor flight.task outcome).1
  · exact kept.settle_tasksOf member outcome
  · intro other stage
    obtain ⟨more, inFlight, fresh⟩ :=
      takesUp_settle budgets executor flight.task outcome
    rw [inFlight]
    constructor
    · intro found
      rcases mem_append.mp found with before | added
      · exact List.mem_of_mem_filter before
      · have looked := fresh other added
        rw [stage] at looked
        cases looked
    · intro found
      apply mem_append_left
      refine List.mem_filter.mpr ⟨found, bne_iff_ne.mpr ?_⟩
      intro same
      have one := kept.one_flight found member same
      rw [one] at stage
      exact idle stage

end

/-! ## A write is called -/

variable {id : Nat}

theorem Kept.setStage_running_iff (kept : Kept budgets executor)
    (found : executor.flight id = some flight) (idle : flight.stage ≠ .running)
    {stage : Stage V E} (still : stage ≠ .running) (other : Flight K R V E)
    (runs : other.stage = .running) :
    other ∈ (executor.setStage id stage).inFlight ↔
      other ∈ executor.inFlight := by
  rw [kept.mem_setStage found]
  constructor
  · rintro (rfl | ⟨member, -⟩)
    · exact absurd runs still
    · exact member
  · intro member
    refine .inr ⟨member, ?_⟩
    rintro rfl
    exact idle runs

theorem Logged.flight_last (logged : Logged budgets executor events)
    (member : flight ∈ executor.inFlight) :
    ∃ front, executor.dispatchedOf flight.task.key =
      front ++ [flight.task.id] := by
  obtain ⟨pending, stored⟩ := logged.sound.toKept.active_of_flying member
  exact logged.last _ _ _ stored rfl

theorem Logged.unresolved (logged : Logged budgets executor events)
    (member : flight ∈ executor.inFlight)
    (unfinished : ∀ result, flight.stage ≠ .finished result) :
    flight.task.id ∉ executor.results.map Prod.fst := by
  intro known
  rcases logged.honest.known _ known with settled | ⟨other, flew, same, stage⟩
  · have apart := (List.nodup_append.mp
      (List.nodup_append.mp logged.sound.toKept.nodup).1).2.2
    exact apart _ settled _
      (List.mem_map_of_mem (List.mem_map_of_mem member)) rfl
  · obtain ⟨result, finished⟩ := stage
    have one := logged.sound.toKept.one_flight flew member same
    rw [one] at finished
    exact unfinished result finished

omit [DecidableEq K] [JsNumber R] in
theorem one_of_key (once : (executor.flying.map Task.key).Nodup)
    {first second : Flight K R V E} (left : first ∈ executor.inFlight)
    (right : second ∈ executor.inFlight)
    (same : first.task.key = second.task.key) : first = second := by
  unfold flying at once
  rw [List.map_map] at once
  exact List.inj_on_of_nodup_map once left right same

theorem Kept.setStage_others (kept : Kept budgets executor)
    (found : executor.flight id = some flight) (stage : Stage V E) {key : K}
    (own : flight.task.key ≠ key) (other : Nat) :
    (∃ next ∈ (executor.setStage id stage).inFlight, next.task.key = key ∧
        next.task.id = other ∧ next.stage = .running) ↔
      ∃ next ∈ executor.inFlight, next.task.key = key ∧
        next.task.id = other ∧ next.stage = .running := by
  constructor
  · rintro ⟨next, flew, keyed, rest⟩
    rcases (kept.mem_setStage found).mp flew with rfl | ⟨before, -⟩
    · exact absurd keyed own
    · exact ⟨next, before, keyed, rest⟩
  · rintro ⟨next, flew, keyed, rest⟩
    refine ⟨next, (kept.mem_setStage found).mpr (.inr ⟨flew, ?_⟩), keyed, rest⟩
    rintro rfl
    exact own keyed

theorem Logged.begin_write (logged : Logged budgets executor events)
    (found : executor.flight id = some flight)
    (waits : flight.stage = .dispatched) :
    Logged budgets (executor.setStage id .running)
      (events ++ [.began flight.task.key id]) := by
  have kept := logged.sound.toKept
  have member := mem_of_flight found
  have named : flight.task.id = id := flight_id found
  have unfinished : ∀ result, flight.stage ≠ .finished result := by
    intro result same
    rw [waits] at same
    cases same
  constructor
  · exact logged.sound.frame (kept.setStage id .running) rfl rfl
      (Nat.le_refl _)
  · exact logged.honest.setStage kept found unfinished .running
      (by intro result same; cases same)
  · exact logged.fair.frame rfl rfl (fun key => List.Sublist.refl _) rfl
  · exact logged.last.same rfl fun _ => rfl
  · intro key
    obtain ⟨done, running, serial⟩ := logged.serial key
    by_cases own : flight.task.key = key
    · have quiet : running = none := by
        cases running with
        | none => rfl
        | some other =>
          obtain ⟨second, flew, keyed, -, stage⟩ :=
            (serial.running_iff other).mp rfl
          have one := one_of_key kept.onePerKey flew member
            (keyed.trans own.symm)
          rw [one, waits] at stage
          cases stage
      subst quiet
      refine ⟨done, some id, ?_⟩
      obtain ⟨front, dispatched⟩ := logged.flight_last member
      rw [own, named] at dispatched
      have ordered : (executor.dispatchedOf key).Pairwise (· < ·) :=
        (List.pairwise_append.mp (logged.fair.inOrder key)).1
      rw [dispatched] at ordered
      have earlier : ∀ old ∈ done.map Prod.fst, old < id := by
        intro old inside
        have taken := serial.taken old (mem_append_left _ inside)
        rw [dispatched] at taken
        rcases mem_append.mp taken with before | latest
        · exact (List.pairwise_append.mp ordered).2.2 old before id
            (List.mem_singleton_self id)
        · have known : old ∈ executor.results.map Prod.fst := by
            obtain ⟨entry, ran, same⟩ := List.mem_map.mp inside
            rw [← same]
            exact List.mem_map_of_mem (serial.results entry ran)
          rw [mem_singleton.mp latest, ← named] at known
          exact absurd known (logged.unresolved member unfinished)
      have log := serial.log
      have before := serial.ordered
      rw [Option.toList_none, List.map_nil, append_nil] at log
      rw [Option.toList_none, append_nil] at before
      constructor
      · rw [eventsOf_append, log, own]
        have last : eventsOf key [WriteEvent.began (V := V) (E := E) key id] =
            [.began key id] := by
          simp [eventsOf, WriteEvent.key]
        rw [last]
        rfl
      · intro old inside
        rcases mem_append.mp inside with ran | latest
        · exact serial.taken old (mem_append_left _ ran)
        · have same : old = id := by
            simpa using latest
          show old ∈ executor.dispatchedOf key
          rw [dispatched, same]
          exact mem_append_right _ (List.mem_singleton_self id)
      · rw [List.pairwise_append]
        refine ⟨before, List.pairwise_singleton _ _, ?_⟩
        intro old inside latest same
        have this_one : latest = id := by
          simpa using same
        rw [this_one]
        exact earlier old inside
      · intro other
        constructor
        · intro same
          cases same
          exact ⟨{ flight with stage := .running },
            (kept.mem_setStage found).mpr (.inl rfl), own, named, rfl⟩
        · rintro ⟨after, flew, keyed, same, -⟩
          rcases (kept.mem_setStage found).mp flew with rfl | ⟨before, apart⟩
          · rw [← same]
            exact congrArg some named.symm
          · exact absurd (one_of_key kept.onePerKey before member
              (keyed.trans own.symm)) apart
      · exact serial.results
      · exact serial.complete
    · refine ⟨done, running, ?_⟩
      constructor
      · rw [eventsOf_append, serial.log]
        have other : eventsOf key
            [WriteEvent.began (V := V) (E := E) flight.task.key id] = [] := by
          simp [eventsOf, WriteEvent.key, own]
        rw [other, append_nil]
      · exact serial.taken
      · exact serial.ordered
      · intro other
        rw [serial.running_iff, kept.setStage_others found .running own]
      · exact serial.results
      · exact serial.complete
  · exact logged.apart
  · exact logged.resultTaken

omit [DecidableEq K] in
theorem runs_concat (key : K) (done : List (Nat × Except E V)) (id : Nat)
    (result : Except E V) :
    runs key (done ++ [(id, result)]) =
      runs key done ++ [.began key id, .ended key id result] := by
  unfold runs
  rw [List.flatMap_append]
  rfl

theorem Logged.flight_taken (logged : Logged budgets executor events)
    (member : flight ∈ executor.inFlight) :
    flight.task.id ∈ executor.dispatchedOf flight.task.key := by
  obtain ⟨front, dispatched⟩ := logged.flight_last member
  rw [dispatched]
  exact mem_append_right _ (List.mem_singleton_self _)

theorem Logged.end_write (logged : Logged budgets executor events)
    (found : executor.flight id = some flight)
    (runs_now : flight.stage = .running) (result : Except E V) :
    Logged budgets
      { executor.setStage id (.finished result) with
        results := executor.results ++ [(id, result)] }
      (events ++ [.ended flight.task.key id result]) := by
  have kept := logged.sound.toKept
  have member := mem_of_flight found
  have named : flight.task.id = id := flight_id found
  have taken := logged.flight_taken member
  rw [named] at taken
  constructor
  · exact logged.sound.frame ((kept.setStage id (.finished result)).frame
      rfl rfl rfl rfl rfl rfl rfl rfl) rfl rfl (Nat.le_refl _)
  · exact logged.honest.finish kept found runs_now result
  · exact logged.fair.frame rfl rfl (fun key => List.Sublist.refl _) rfl
  · exact logged.last.same rfl fun _ => rfl
  · intro key
    obtain ⟨done, running, serial⟩ := logged.serial key
    by_cases own : flight.task.key = key
    · have ran : running = some id :=
        (serial.running_iff id).mpr ⟨flight, member, own, named, runs_now⟩
      subst ran
      refine ⟨done ++ [(id, result)], none, ?_⟩
      have ids : (done ++ [(id, result)]).map Prod.fst ++
          (none : Option Nat).toList =
            done.map Prod.fst ++ (some id).toList := by
        rw [List.map_append, Option.toList_none, append_nil]
        rfl
      constructor
      · have last : eventsOf key
            [WriteEvent.ended key id result] = [.ended key id result] := by
          simp [eventsOf, WriteEvent.key]
        rw [eventsOf_append, serial.log, own, last, runs_concat]
        simp
      · rw [ids]
        exact serial.taken
      · rw [ids]
        exact serial.ordered
      · intro other
        constructor
        · intro same
          cases same
        · rintro ⟨after, flew, keyed, -, stage⟩
          rcases (kept.mem_setStage found).mp flew with rfl | ⟨before, apart⟩
          · cases stage
          · exact absurd (one_of_key kept.onePerKey before member
              (keyed.trans own.symm)) apart
      · intro entry inside
        rcases mem_append.mp inside with before | latest
        · exact mem_append_left _ (serial.results entry before)
        · exact mem_append_right _ latest
      · intro entry inside mine
        rcases mem_append.mp inside with before | latest
        · exact mem_append_left _ (serial.complete entry before mine)
        · exact mem_append_right _ latest
    · refine ⟨done, running, ?_⟩
      constructor
      · have other : eventsOf key
            [WriteEvent.ended flight.task.key id result] = [] := by
          simp [eventsOf, WriteEvent.key, own]
        rw [eventsOf_append, serial.log, other, append_nil]
      · exact serial.taken
      · exact serial.ordered
      · intro other
        rw [serial.running_iff]
        exact (kept.setStage_others found (.finished result) own other).symm
      · intro entry inside
        exact mem_append_left _ (serial.results entry inside)
      · intro entry inside mine
        rcases mem_append.mp inside with before | latest
        · exact serial.complete entry before mine
        · rw [mem_singleton.mp latest] at mine
          exact absurd (logged.apart id _ key
            (mem_append_left _ taken) mine) own
  · exact logged.apart
  · intro entry inside
    rcases mem_append.mp inside with before | latest
    · exact logged.resultTaken entry before
    · rw [mem_singleton.mp latest]
      exact ⟨flight.task.key, taken⟩

/-! ## Every operation -/

theorem Logged.start (logged : Logged budgets executor events) {now : R}
    (taken : executor.start budgets id now = some after) :
    Logged budgets after (events ++ after.observed (.start id now)) := by
  have kept := logged.sound.toKept
  unfold Executor.start at taken
  split at taken
  · rename_i task found
    have idle : (Stage.dispatched : Stage V E) ≠ .running := by
      intro same
      cases same
    split at taken
    · cases taken
      have staged := flight_setStage found (.overdue : Stage V E)
      have quiet : Executor.observed
          { executor.setStage id .overdue with
            expired := executor.expired + 1 } (.start id now) = [] := by
        have same : Executor.flight
            { executor.setStage id .overdue with
              expired := executor.expired + 1 } id =
            some { task, stage := .overdue } := staged
        simp only [Executor.observed, same]
      rw [quiet, append_nil]
      have sound : Sound budgets
          { executor.setStage id .overdue with
            expired := executor.expired + 1 } :=
        logged.sound.frame ((kept.setStage id .overdue).frame
          rfl rfl rfl rfl rfl rfl rfl rfl) rfl rfl (Nat.le_refl _)
      have unfinished : ∀ result : Except E V,
          (Stage.dispatched : Stage V E) ≠ .finished result := by
        intro result same
        cases same
      have honest := logged.honest.setStage kept found unfinished .overdue
        (by intro result same; cases same)
      apply logged.frame sound (honest.same rfl rfl rfl)
        (logged.fair.frame rfl rfl (fun key => List.Sublist.refl _) rfl)
        (logged.last.same rfl fun _ => rfl) (.same rfl) rfl
      · intro key
        exact List.Sublist.refl _
      · intro flight runs
        exact kept.setStage_running_iff found idle
          (by intro same; cases same) flight runs
    · cases taken
      have staged := flight_setStage found (.running : Stage V E)
      have begun : (executor.setStage id .running).observed (.start id now) =
          [.began task.key id] := by
        simp only [Executor.observed, staged]
      rw [begun]
      exact logged.begin_write found rfl
  · cases taken

theorem Logged.finish (logged : Logged budgets executor events)
    {result : Except E V} (taken : executor.finish id result = some after) :
    Logged budgets after (events ++ after.observed (.finish id result)) := by
  unfold Executor.finish at taken
  split at taken
  · rename_i task found
    cases taken
    have staged := flight_setStage found (.finished result : Stage V E)
    have ended : Executor.observed
        { executor.setStage id (.finished result) with
          results := executor.results ++ [(id, result)] }
        (.finish id result) = [.ended task.key id result] := by
      have same : Executor.flight
          { executor.setStage id (.finished result) with
            results := executor.results ++ [(id, result)] } id =
          some { task, stage := .finished result } := staged
      simp only [Executor.observed, same]
    rw [ended]
    exact logged.end_write found rfl result
  · cases taken

theorem Logged.complete (logged : Logged budgets executor events) {id : Nat}
    {after : Executor K R V E}
    (taken : executor.complete budgets id = some after) :
    Logged budgets after events := by
  unfold Executor.complete at taken
  split at taken
  · rename_i task found
    cases taken
    exact logged.settle (mem_of_flight found)
      (by intro same; cases same) .expired
      (by intro result same; cases same)
  · rename_i task result found
    cases taken
    apply logged.settle (mem_of_flight found)
      (by intro same; cases same) (.own result)
    intro other same
    cases same
    rfl
  · cases taken

theorem Logged.step (logged : Logged budgets executor events)
    {label : ExecutorLabel K R V E} {after : Executor K R V E}
    (taken : Executor.step budgets executor label = some after) :
    Logged budgets after (events ++ after.observed label) := by
  cases label with
  | run key now =>
    cases taken
    show Logged budgets _ (events ++ [])
    rw [append_nil]
    exact logged.run key now
  | start id now => exact logged.start taken
  | finish id result => exact logged.finish taken
  | complete id =>
    show Logged budgets _ (events ++ [])
    rw [append_nil]
    exact logged.complete taken
  | expire key id =>
    cases taken
    show Logged budgets _ (events ++ [])
    rw [append_nil]
    exact logged.expire key id
  | refreshPending key id now =>
    cases taken
    show Logged budgets _ (events ++ [])
    rw [append_nil]
    exact logged.refreshPending key id now

end Executor

end Eki.Work
