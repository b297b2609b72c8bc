import Eki.Reads.ReadSteps

/-!
# Budgets are kept

In every run of a read cache, a flight that has not settled has the slot of its
key, and its waiters are the callers who have not gone on yet.
-/

namespace Eki.Reads

open Insertion SingleFlight Tally Transition

variable {Value : Type} {reads : ReadCache Value}

/-! ## Waiters -/

structure Counts (budgets : Budgets) (fills : SingleFlight Value)
    (callers : List (Caller Value)) : Prop where
  counted : ∀ (id : Nat) (flight : Flight Value),
    fills.heap[id]? = some flight →
      flight.waiters = total (Caller.waitsFor id) callers
  bounded : ∀ (id : Nat) (flight : Flight Value),
    fills.heap[id]? = some flight → flight.waiters ≤ budgets.maxWaitersPerFill
  unborn : ∀ id : Nat, fills.heap[id]? = none →
    total (Caller.waitsFor id) callers = 0

namespace Counts

variable {budgets : Budgets} {before after : SingleFlight Value}
  {callers others : List (Caller Value)}

theorem congr (counts : Counts budgets before callers)
    (same : ∀ id, total (Caller.waitsFor id) others =
      total (Caller.waitsFor id) callers) : Counts budgets before others where
  counted := by
    intro id flight found
    rw [same]
    exact counts.counted id flight found
  bounded := counts.bounded
  unborn := by
    intro id missing
    rw [same]
    exact counts.unborn id missing

theorem changed {change : Nat → Flight Value → Flight Value}
    (changed : Changed change before after)
    (keeps : ∀ id flight, (change id flight).waiters = flight.waiters)
    (counts : Counts budgets before callers) :
    Counts budgets after callers where
  counted := by
    intro id flight found
    rw [changed.heap] at found
    obtain ⟨old, stored, rfl⟩ := Option.map_eq_some_iff.mp found
    rw [keeps]
    exact counts.counted id old stored
  bounded := by
    intro id flight found
    rw [changed.heap] at found
    obtain ⟨old, stored, rfl⟩ := Option.map_eq_some_iff.mp found
    rw [keeps]
    exact counts.bounded id old stored
  unborn := by
    intro id missing
    rw [changed.heap] at missing
    exact counts.unborn id (Option.map_eq_none_iff.mp missing)

theorem restage (id : Nat) (stage : Stage Value)
    (counts : Counts budgets before callers) :
    Counts budgets (before.modify id fun flight =>
      { flight with stage := stage }) callers := by
  refine counts.changed (changed_modify id _ before) ?_
  intro other flight
  split
  · rfl
  · rfl

theorem opened {now id : Nat} {key scope : String}
    (call : Opened budgets now key scope before id after)
    (counts : Counts budgets before callers) :
    Counts budgets after callers := by
  cases call with
  | found => exact counts
  | made =>
    constructor
    · intro index flight stored
      rcases getElem?_append_singleton _ index stored with
        found | ⟨rfl, rfl⟩
      · exact counts.counted index flight found
      · exact (counts.unborn _ (List.getElem?_length _)).symm
    · intro index flight stored
      rcases getElem?_append_singleton _ index stored with
        found | ⟨rfl, rfl⟩
      · exact counts.bounded index flight found
      · exact Nat.zero_le _
    · intro index missing
      rw [List.getElem?_append] at missing
      split at missing
      · exact counts.unborn index missing
      · rename_i beyond
        apply counts.unborn
        exact List.getElem?_eq_none (Nat.le_of_not_lt beyond)

theorem waiters_append (id : Nat) (callers : List (Caller Value))
    (caller : Caller Value) :
    total (Caller.waitsFor id) (callers ++ [caller]) =
      total (Caller.waitsFor id) callers + caller.waitsFor id := by
  simp [total]

theorem answered {caller : Caller Value}
    (idle : ∀ id, caller.waitsFor id = 0)
    (counts : Counts budgets before callers) :
    Counts budgets before (callers ++ [caller]) := by
  apply counts.congr
  intro id
  rw [waiters_append, idle id, Nat.add_zero]

theorem joined {id : Nat} {flight : Flight Value} {caller : Caller Value}
    (waits : ∀ other, caller.waitsFor other = if id = other then 1 else 0)
    (found : before.heap[id]? = some flight)
    (room : flight.waiters < budgets.maxWaitersPerFill)
    (counts : Counts budgets before callers) :
    Counts budgets (before.modify id fun flight =>
      { flight with waiters := flight.waiters + 1 })
      (callers ++ [caller]) := by
  have changed := changed_modify id (fun flight : Flight Value =>
    { flight with waiters := flight.waiters + 1 }) before
  constructor
  · intro other new stored
    rw [changed.heap] at stored
    obtain ⟨old, oldStored, rfl⟩ := Option.map_eq_some_iff.mp stored
    have was := counts.counted other old oldStored
    rw [waiters_append, waits other]
    split
    · show old.waiters + 1 = _
      omega
    · omega
  · intro other new stored
    rw [changed.heap] at stored
    obtain ⟨old, oldStored, rfl⟩ := Option.map_eq_some_iff.mp stored
    split
    · rename_i same
      subst same
      rw [found] at oldStored
      cases oldStored
      exact room
    · exact counts.bounded other old oldStored
  · intro other missing
    rw [changed.heap] at missing
    have absent := Option.map_eq_none_iff.mp missing
    have different : ¬ id = other := by
      rintro rfl
      rw [found] at absent
      cases absent
    rw [waiters_append, waits other, if_neg different]
    exact counts.unborn other absent

theorem restate {index : Nat} {old new : Caller Value}
    (found : callers[index]? = some old)
    (same : ∀ id, new.waitsFor id = old.waitsFor id)
    (counts : Counts budgets before callers) :
    Counts budgets before (callers.set index new) := by
  apply counts.congr
  intro id
  have balance := total_set (Caller.waitsFor id) new found
  rw [same id] at balance
  omega

theorem left {index id : Nat} {old new : Caller Value}
    (found : callers[index]? = some old)
    (waited : ∀ other, old.waitsFor other = if id = other then 1 else 0)
    (idle : ∀ other, new.waitsFor other = 0)
    (counts : Counts budgets before callers) :
    Counts budgets (before.modify id fun flight =>
      { flight with waiters := flight.waiters - 1 })
      (callers.set index new) := by
  have changed := changed_modify id (fun flight : Flight Value =>
    { flight with waiters := flight.waiters - 1 }) before
  have balance : ∀ other, total (Caller.waitsFor other)
      (callers.set index new) + (if id = other then 1 else 0) =
        total (Caller.waitsFor other) callers := by
    intro other
    have set := total_set (Caller.waitsFor other) new found
    rw [waited other, idle other] at set
    exact set
  constructor
  · intro other flight stored
    rw [changed.heap] at stored
    obtain ⟨before, beforeStored, rfl⟩ := Option.map_eq_some_iff.mp stored
    have was := counts.counted other before beforeStored
    have now := balance other
    split
    · rename_i same
      rw [if_pos same] at now
      show before.waiters - 1 = _
      omega
    · rename_i different
      rw [if_neg different] at now
      omega
  · intro other flight stored
    rw [changed.heap] at stored
    obtain ⟨before, beforeStored, rfl⟩ := Option.map_eq_some_iff.mp stored
    have most := counts.bounded other before beforeStored
    split
    · exact Nat.le_trans (Nat.sub_le _ _) most
    · exact most
  · intro other missing
    rw [changed.heap] at missing
    have none := counts.unborn other (Option.map_eq_none_iff.mp missing)
    have now := balance other
    omega

end Counts

/-! ## Slots and waiters in a run -/

structure Budgeted (reads : ReadCache Value) (world : World Value) :
    Prop where
  sound : Sound reads.budgets world.fills
  counts : Counts reads.budgets world.fills world.callers

theorem budgeted_empty (reads : ReadCache Value) :
    Budgeted reads ({} : World Value) where
  sound := sound_empty reads.budgets
  counts := by
    constructor
    · intro id flight found
      cases found
    · intro id flight found
      cases found
    · intro id _
      rfl

theorem sound_modify {budgets : Budgets} {fills : SingleFlight Value}
    {id : Nat} {change : Flight Value → Flight Value}
    (keeps : ∀ flight, fills.heap[id]? = some flight →
      (change flight).key = flight.key ∧
      (change flight).stage.isSettled = flight.stage.isSettled)
    (sound : Sound budgets fills) : Sound budgets (fills.modify id change) := by
  refine (changed_modify id change fills).sound ?_ sound
  intro other flight found
  split
  · rename_i same
    subst same
    exact keeps flight found
  · exact ⟨rfl, rfl⟩

variable {world next : World Value} {label : Label Value}

variable (budgeted : Budgeted reads world)

include budgeted

theorem Budgeted.restage {id : Nat} {flight : Flight Value}
    {stage : Stage Value} (found : world.fills.heap[id]? = some flight)
    (same : stage.isSettled = flight.stage.isSettled) :
    Budgeted reads { world with
      fills := world.fills.modify id fun flight =>
        { flight with stage := stage } } where
  sound := by
    refine sound_modify ?_ budgeted.sound
    intro other stored
    rw [found] at stored
    cases stored
    exact ⟨rfl, same⟩
  counts := budgeted.counts.restage id stage

theorem budgeted_read {key : String}
    (call : ReadCache.Read reads key world next) : Budgeted reads next := by
  cases call with
  | hit | full =>
    exact ⟨budgeted.sound, budgeted.counts.answered fun _ => rfl⟩
  | refused _ call =>
    have counts := budgeted.counts.opened call
    exact ⟨call.sound budgeted.sound, counts.answered fun _ => rfl⟩
  | joined _ call found room =>
    have counts := budgeted.counts.opened call
    constructor
    · refine sound_modify ?_ (call.sound budgeted.sound)
      intro flight _
      exact ⟨rfl, rfl⟩
    · exact counts.joined (fun _ => rfl) found room

theorem budgeted_advance {id : Nat} {flight : Flight Value}
    (found : world.fills.heap[id]? = some flight)
    (moved : ReadCache.Advance reads id flight world label next) :
    Budgeted reads next := by
  cases moved with
  | work queued =>
    apply budgeted.restage found
    rw [queued]
    rfl
  | settle loading =>
    apply budgeted.restage found
    rw [loading]
    rfl
  | @resume began outcome loaded =>
    have same : (Stage.returned
        (reads.published flight began outcome world).1).isSettled =
          flight.stage.isSettled := by
      rw [loaded]
      rfl
    have restaged := budgeted.restage found same
    exact ⟨restaged.sound, restaged.counts⟩
  | finish returned =>
    constructor
    · apply budgeted.sound.finish found
      rw [returned]
      rfl
    · apply Counts.restage
      unfold release
      split
      · exact ⟨budgeted.counts.counted, budgeted.counts.bounded,
          budgeted.counts.unborn⟩
      · exact budgeted.counts

theorem budgeted_proceed {index : Nat} {caller : Caller Value}
    (found : world.callers[index]? = some caller)
    (moved : ReadCache.Proceed reads index caller world label next) :
    Budgeted reads next := by
  cases moved with
  | race waits | timeout waits =>
    refine ⟨budgeted.sound, budgeted.counts.restate found ?_⟩
    intro id
    unfold Caller.waitsFor
    rw [waits]
  | answer raced =>
    constructor
    · refine sound_modify ?_ budgeted.sound
      intro flight _
      exact ⟨rfl, rfl⟩
    · refine budgeted.counts.left found ?_ fun _ => rfl
      intro id
      unfold Caller.waitsFor
      rw [raced]

theorem budgeted_acts (acted : ReadCache.Acts reads world label next) :
    Budgeted reads next := by
  cases acted with
  | read call => exact budgeted_read budgeted call
  | advance found moved => exact budgeted_advance budgeted found moved
  | proceed found moved => exact budgeted_proceed budgeted found moved
  | @invalidate key allowed =>
    have changed := changed_invalidate key world.fills
    constructor
    · refine changed.sound ?_ budgeted.sound
      intro id flight _
      split
      · exact ⟨rfl, rfl⟩
      · exact ⟨rfl, rfl⟩
    · refine budgeted.counts.changed changed ?_
      intro id flight
      split
      · rfl
      · rfl
  | wait => exact ⟨budgeted.sound, budgeted.counts⟩

theorem budgeted_step (taken : reads.step world label = some next) :
    Budgeted reads next := by
  obtain ⟨after, acted, rfl⟩ := ReadCache.acts_of_step taken
  have kept := budgeted_acts budgeted acted
  exact ⟨kept.sound, kept.counts⟩

end Eki.Reads
