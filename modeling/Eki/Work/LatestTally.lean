import Eki.Work.LatestSteps

/-!
# The counters of the scheduler

A step adds a fate to the log and one to its counter.  The counters together
say how many values have a fate.
-/

namespace Eki.Work

open Insertion Transition

variable {K T R E : Type} [DecidableEq K] [JsNumber R]

def Fate.isProcessed : Fate E → Bool
  | .processed _ => true
  | _ => false

def Fate.isFailed : Fate E → Bool
  | .processed (.error _) => true
  | _ => false

def Fate.isCoalesced : Fate E → Bool
  | .coalesced => true
  | _ => false

def Fate.isRejected : Fate E → Bool
  | .rejected => true
  | _ => false

def Fate.isExpired : Fate E → Bool
  | .expired => true
  | _ => false

namespace LatestPending

variable {options : ExecutionBudgets R}
  {scheduler before after : LatestPending K T R E}

/-- How many fates there are of a kind. -/
def countOf (kind : Fate E → Bool) (fates : List (Nat × Fate E)) : Nat :=
  fates.countP fun entry => kind entry.2

theorem countOf_append (kind : Fate E → Bool)
    (front back : List (Nat × Fate E)) :
    countOf kind (front ++ back) = countOf kind front + countOf kind back :=
  List.countP_append

/-- The counters say what became of the values. -/
structure Tallied (scheduler : LatestPending K T R E) : Prop where
  scheduled : scheduler.scheduled = scheduler.history.length
  processed : scheduler.processed = countOf Fate.isProcessed scheduler.fates
  failed : scheduler.failed = countOf Fate.isFailed scheduler.fates
  coalesced : scheduler.coalesced = countOf Fate.isCoalesced scheduler.fates
  rejected : scheduler.rejected = countOf Fate.isRejected scheduler.fates
  expired : scheduler.expired = countOf Fate.isExpired scheduler.fates

omit [DecidableEq K] [JsNumber R] in
theorem Tallied.add (tallied : Tallied before) (values : Nat)
    (more : List (Nat × Fate E))
    (scheduled : after.scheduled = before.scheduled + values)
    (history : after.history.length = before.history.length + values)
    (fates : after.fates = before.fates ++ more)
    (processed : after.processed =
      before.processed + countOf Fate.isProcessed more)
    (failed : after.failed = before.failed + countOf Fate.isFailed more)
    (coalesced : after.coalesced =
      before.coalesced + countOf Fate.isCoalesced more)
    (rejected : after.rejected =
      before.rejected + countOf Fate.isRejected more)
    (expired : after.expired =
      before.expired + countOf Fate.isExpired more) : Tallied after := by
  constructor
  · rw [scheduled, history, tallied.scheduled]
  · rw [processed, fates, countOf_append, tallied.processed]
  · rw [failed, fates, countOf_append, tallied.failed]
  · rw [coalesced, fates, countOf_append, tallied.coalesced]
  · rw [rejected, fates, countOf_append, tallied.rejected]
  · rw [expired, fates, countOf_append, tallied.expired]

omit [DecidableEq K] [JsNumber R] in
/-- A step that changes no counter. -/
theorem Tallied.same (tallied : Tallied before)
    (scheduled : after.scheduled = before.scheduled)
    (history : after.history = before.history)
    (fates : after.fates = before.fates)
    (processed : after.processed = before.processed)
    (failed : after.failed = before.failed)
    (coalesced : after.coalesced = before.coalesced)
    (rejected : after.rejected = before.rejected)
    (expired : after.expired = before.expired) : Tallied after := by
  apply tallied.add 0 []
  · exact scheduled
  · rw [history, Nat.add_zero]
  · rw [fates, List.append_nil]
  · exact processed
  · exact failed
  · exact coalesced
  · exact rejected
  · exact expired

theorem Tallied.submit (tallied : Tallied scheduler) (key : K) (worker : Nat)
    (state : WorkerState T R) (times : SubmitTimes R) :
    Tallied (scheduler.submit options key worker state times) := by
  simp only [LatestPending.submit]
  split
  · exact tallied.add 0 [(state.submitted.seq, .expired)] rfl rfl rfl rfl rfl
      rfl rfl rfl
  · split
    · exact tallied.same rfl rfl rfl rfl rfl rfl rfl rfl
    · exact tallied.add 0 [(state.submitted.seq, .rejected)] rfl rfl rfl rfl
        rfl rfl rfl rfl

theorem Tallied.schedule (tallied : Tallied scheduler) (key : K) (value : T)
    (now : R) (times : SubmitTimes R) :
    Tallied (scheduler.schedule options key value now times) := by
  have longer : (scheduler.history ++ [(key, value)]).length =
      scheduler.history.length + 1 := by
    rw [List.length_append, List.length_singleton]
  simp only [LatestPending.schedule]
  split
  · apply Tallied.submit
    exact tallied.add 1 [] rfl longer (List.append_nil _).symm rfl rfl rfl rfl
      rfl
  · split
    · exact tallied.add 1 [] rfl longer (List.append_nil _).symm rfl rfl rfl
        rfl rfl
    · split
      · rename_i state _ _
        refine tallied.add 1 _ rfl longer rfl ?_ ?_ ?_ ?_ ?_
        · cases state.next <;> rfl
        · cases state.next <;> rfl
        · cases state.next <;> rfl
        · cases state.next <;> rfl
        · cases state.next <;> rfl
      · exact tallied.add 1 [_] rfl longer rfl rfl rfl rfl rfl rfl

theorem Tallied.handled (tallied : Tallied scheduler) (closure : Closure K)
    (state : WorkerState T R) (outcome : Outcome Unit Empty)
    (times : SubmitTimes R) :
    Tallied (scheduler.handled options closure state outcome times) := by
  have detached : Tallied (scheduler.detach closure) := by
    rw [detach]
    split
    · exact tallied.same rfl rfl rfl rfl rfl rfl rfl rfl
    · exact tallied
  cases outcome with
  | own result =>
    simp only [LatestPending.handled]
    split
    · exact tallied.submit _ _ _ _
    · exact detached
  | expired =>
    have kept : (scheduler.detach closure).fates = scheduler.fates ∧
        (scheduler.detach closure).expired = scheduler.expired := by
      rw [detach]
      split
      · exact ⟨rfl, rfl⟩
      · exact ⟨rfl, rfl⟩
    simp only [LatestPending.handled]
    refine detached.add 0 [(state.submitted.seq, .expired)] rfl rfl ?_ rfl rfl
      rfl rfl ?_
    · rw [kept.1]
    · rw [kept.2]
      rfl

theorem Tallied.step (tallied : Tallied before)
    {label : SchedulerLabel K T R E}
    (taken : step options before label = some after) : Tallied after := by
  cases label with
  | schedule key value now times =>
    cases taken
    exact tallied.schedule key value now times
  | start id now startedAt =>
    obtain ⟨moved, -, rest⟩ := Option.bind_eq_some_iff.mp taken
    simp only at rest
    split at rest
    · obtain ⟨state, -, called⟩ := Option.bind_eq_some_iff.mp rest
      simp only at called
      split at called
      · obtain ⟨last, -, same⟩ := Option.map_eq_some_iff.mp called
        subst same
        exact tallied.add 0 [(state.submitted.seq, .expired)] rfl rfl rfl
          rfl rfl rfl rfl rfl
      · cases called
        exact tallied.same rfl rfl rfl rfl rfl rfl rfl rfl
    · cases rest
      exact tallied.same rfl rfl rfl rfl rfl rfl rfl rfl
  | settle id result =>
    obtain ⟨task, -, rest⟩ := Option.bind_eq_some_iff.mp taken
    obtain ⟨last, -, same⟩ := Option.map_eq_some_iff.mp rest
    subst same
    refine tallied.add 0 [(task.seq, .processed result)] rfl rfl rfl rfl ?_
      rfl rfl rfl
    cases result <;> rfl
  | complete id =>
    obtain ⟨last, -, same⟩ := Option.map_eq_some_iff.mp taken
    subst same
    exact tallied.same rfl rfl rfl rfl rfl rfl rfl rfl
  | expire key id =>
    cases taken
    exact tallied.same rfl rfl rfl rfl rfl rfl rfl rfl
  | handle id times =>
    obtain ⟨outcome, -, rest⟩ := Option.bind_eq_some_iff.mp taken
    obtain ⟨closure, -, more⟩ := Option.bind_eq_some_iff.mp rest
    obtain ⟨state, -, same⟩ := Option.map_eq_some_iff.mp more
    subst same
    apply Tallied.handled
    exact tallied.same rfl rfl rfl rfl rfl rfl rfl rfl

theorem length_fates (fates : List (Nat × Fate E)) :
    fates.length = countOf Fate.isProcessed fates +
      countOf Fate.isCoalesced fates + countOf Fate.isRejected fates +
        countOf Fate.isExpired fates := by
  induction fates with
  | nil => rfl
  | cons entry rest induction =>
    obtain ⟨seq, fate⟩ := entry
    rw [List.length_cons, induction]
    simp only [countOf, List.countP_cons]
    cases fate <;>
      simp only [Fate.isProcessed, Fate.isCoalesced, Fate.isRejected,
        Fate.isExpired, if_true, Bool.false_eq_true, if_false] <;>
      omega

end LatestPending

end Eki.Work
