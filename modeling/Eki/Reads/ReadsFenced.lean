import Eki.Reads.BudgetsKept

/-!
# Reads respect budgets and invalidations

Slots and waiters are counted in every run.  Invalidations are respected as
long as no read joins a flight that was invalidated between the return of its
work and the end of its slot: the work was current when it returned, and
nothing asks again.
-/

namespace Eki.Reads

open Insertion SingleFlight Transition

variable {Value : Type} {reads : ReadCache Value}

/-! ## Loads and invalidations -/

/-- When the load of a flight began, while the flight has its slot. -/
def Stage.began : Stage Value → Option Nat
  | .loading began => some began
  | .loaded began _ => some began
  | .returned (.ok result) => some result.began
  | _ => none

def Stage.result : Stage Value → Option (Loaded Value)
  | .returned (.ok result) => some result
  | .settled (.ok result) => some result
  | _ => none

abbrev Invalidations := List (Nat × Option String)

def Fresh (invalidations : Invalidations) (key : String) (began : Nat) :
    Prop :=
  ∀ moment invalidated, (moment, invalidated) ∈ invalidations →
    Covers invalidated key → moment < began

def Fence (invalidations : Invalidations) (caller : Caller Value)
    (result : Loaded Value) : Prop :=
  ∀ moment invalidated, (moment, invalidated) ∈ invalidations →
    Covers invalidated caller.key →
    ¬ (result.began < moment ∧ moment < caller.calledAt)

variable {caller : Caller Value} {result : Loaded Value}

theorem Fresh.fence {invalidations : Invalidations}
    (fresh : Fresh invalidations caller.key result.began) :
    Fence invalidations caller result := by
  intro moment invalidated member covers between
  have before := fresh moment invalidated member covers
  omega

/-- What a flight goes over to: it stays with its key, it is not current again,
and it has no other value than a fresh one. -/
structure Follows (invalidations : Invalidations) (old new : Flight Value) :
    Prop where
  key : new.key = old.key
  scope : new.scope = old.scope
  current : new.current = true → old.current = true
  began : ∀ began, new.stage.began = some began →
    old.stage.began = some began ∨ Fresh invalidations old.key began
  result : ∀ result, new.stage.result = some result →
    old.stage.result = some result ∨ Fresh invalidations old.key result.began

theorem Follows.refl (invalidations : Invalidations) (flight : Flight Value) :
    Follows invalidations flight flight where
  key := rfl
  scope := rfl
  current := id
  began := fun _ same => .inl same
  result := fun _ same => .inl same

structure Later (reads : ReadCache Value) (invalidations : Invalidations)
    (before after : SingleFlight Value) : Prop where
  forth : ∀ (id : Nat) (old : Flight Value), before.heap[id]? = some old →
    ∃ new, after.heap[id]? = some new ∧ Follows invalidations old new
  back : ∀ (id : Nat) (new : Flight Value), after.heap[id]? = some new →
    (∃ old, before.heap[id]? = some old ∧ Follows invalidations old new) ∨
      new.stage = .queued ∧ new.scope = reads.scope new.key

variable {invalidations : Invalidations} {before after : SingleFlight Value}

theorem later_of_changed {change : Nat → Flight Value → Flight Value}
    (changed : Changed change before after)
    (follows : ∀ id flight, before.heap[id]? = some flight →
      Follows invalidations flight (change id flight)) :
    Later reads invalidations before after where
  forth := by
    intro id old found
    refine ⟨change id old, ?_, follows id old found⟩
    rw [changed.heap, found]
    rfl
  back := by
    intro id new found
    rw [changed.heap] at found
    obtain ⟨old, stored, rfl⟩ := Option.map_eq_some_iff.mp found
    exact .inl ⟨old, stored, follows id old stored⟩

variable {id : Nat}

theorem later_modify {change : Flight Value → Flight Value}
    (follows : ∀ flight, before.heap[id]? = some flight →
      Follows invalidations flight (change flight)) :
    Later reads invalidations before (before.modify id change) := by
  apply later_of_changed (changed_modify id change before)
  intro other flight found
  split
  · rename_i same
    subst same
    exact follows flight found
  · exact Follows.refl invalidations flight

variable {key : String}

theorem later_opened {now : Nat}
    (call : Opened reads.budgets now key (reads.scope key) before id after) :
    Later reads invalidations before after where
  forth := fun _ old found =>
    ⟨old, call.heap found, Follows.refl invalidations old⟩
  back := by
    intro index new found
    cases call with
    | found => exact .inl ⟨new, found, Follows.refl invalidations new⟩
    | made =>
      rcases getElem?_append_singleton _ index found with old | ⟨-, rfl⟩
      · exact .inl ⟨new, old, Follows.refl invalidations new⟩
      · exact .inr ⟨rfl, rfl⟩

/-! ## The invariant -/

structure CallerFenced (fills : SingleFlight Value)
    (invalidations : Invalidations) (caller : Caller Value) : Prop where
  waiting : ∀ id, caller.state = .waiting id →
    ∃ flight, fills.heap[id]? = some flight ∧ flight.key = caller.key ∧
      ∀ result, flight.stage.result = some result →
        Fence invalidations caller result
  raced : ∀ id result, caller.state = .raced id (.ok result) →
    Fence invalidations caller result
  answered : ∀ result, caller.state = .answered (.ok result) →
    Fence invalidations caller result

structure FillsFenced (reads : ReadCache Value) (fills : SingleFlight Value)
    (callers : List (Caller Value)) (invalidations : Invalidations) :
    Prop where
  scopes : ∀ (id : Nat) (flight : Flight Value),
    fills.heap[id]? = some flight → flight.scope = reads.scope flight.key
  current : ∀ (id : Nat) (flight : Flight Value),
    fills.heap[id]? = some flight → flight.current = true →
    ∀ began, flight.stage.began = some began →
      Fresh invalidations flight.key began
  callers : ∀ caller ∈ callers, CallerFenced fills invalidations caller

theorem CallerFenced.later (later : Later reads invalidations before after)
    (fenced : CallerFenced before invalidations caller) :
    CallerFenced after invalidations caller where
  waiting := by
    intro id waits
    obtain ⟨old, found, own, values⟩ := fenced.waiting id waits
    obtain ⟨new, newFound, follows⟩ := later.forth id old found
    refine ⟨new, newFound, ?_, ?_⟩
    · rw [follows.key, own]
    · intro result told
      rcases follows.result result told with same | fresh
      · exact values result same
      · rw [own] at fresh
        exact fresh.fence
  raced := fenced.raced
  answered := fenced.answered

variable {callers : List (Caller Value)}

theorem FillsFenced.later (later : Later reads invalidations before after)
    (fenced : FillsFenced reads before callers invalidations) :
    FillsFenced reads after callers invalidations where
  scopes := by
    intro id new found
    rcases later.back id new found with ⟨old, stored, follows⟩ | ⟨-, own⟩
    · rw [follows.scope, follows.key]
      exact fenced.scopes id old stored
    · exact own
  current := by
    intro id new found current began told
    rcases later.back id new found with ⟨old, stored, follows⟩ | ⟨queued, -⟩
    · rw [follows.key]
      rcases follows.began began told with same | fresh
      · exact fenced.current id old stored (follows.current current) began same
      · exact fresh
    · rw [queued] at told
      cases told
  callers := fun caller member => (fenced.callers caller member).later later

theorem FillsFenced.append (own : CallerFenced before invalidations caller)
    (fenced : FillsFenced reads before callers invalidations) :
    FillsFenced reads before (callers ++ [caller]) invalidations where
  scopes := fenced.scopes
  current := fenced.current
  callers := by
    intro other member
    rcases List.mem_append.mp member with old | new
    · exact fenced.callers other old
    · rw [List.mem_singleton.mp new]
      exact own

variable {index : Nat}

theorem FillsFenced.set (own : CallerFenced before invalidations caller)
    (fenced : FillsFenced reads before callers invalidations) :
    FillsFenced reads before (callers.set index caller) invalidations where
  scopes := fenced.scopes
  current := fenced.current
  callers := by
    intro other member
    rcases List.mem_or_eq_of_mem_set member with old | rfl
    · exact fenced.callers other old
    · exact own

theorem callerFenced_error {calledAt : Nat} {error : ReadError} :
    CallerFenced before invalidations
      ⟨key, calledAt, .answered (.error error)⟩ where
  waiting := by
    intro id waits
    cases waits
  raced := by
    intro id result raced
    cases raced
  answered := by
    intro result answered
    cases answered

def CacheFenced (cache : OrderedMap String (Entry Value))
    (invalidations : Invalidations) : Prop :=
  ∀ key entry, cache.get key = some entry →
    Fresh invalidations key entry.result.began

structure Fenced (reads : ReadCache Value) (world : World Value) :
    Prop where
  past : ∀ moment invalidated,
    (moment, invalidated) ∈ world.invalidations → moment < world.moment
  called : ∀ caller ∈ world.callers, caller.calledAt < world.moment
  stored : CacheFenced world.cache world.invalidations
  fills : FillsFenced reads world.fills world.callers world.invalidations

theorem fenced_empty (reads : ReadCache Value) :
    Fenced reads ({} : World Value) where
  past := by
    intro moment invalidated member
    cases member
  called := by
    intro caller member
    cases member
  stored := by
    intro key entry stored
    cases stored
  fills := by
    constructor
    · intro id flight found
      cases found
    · intro id flight found
      cases found
    · intro caller member
      cases member

/-! ## Steps -/

open ReadCache

variable {world next : World Value} {label : Label Value}

theorem fresh_of_hit (fenced : Fenced reads world)
    (stored : hit world key = some result) :
    Fresh world.invalidations key result.began := by
  obtain ⟨entry, found, live⟩ := Option.bind_eq_some_iff.mp stored
  split at live
  · cases live
    exact fenced.stored key entry found
  · cases live

variable {flight : Flight Value}

section

variable (budgeted : Budgeted reads world) (fenced : Fenced reads world)
  (apart : reads.joinsPublished world key = false)

include budgeted fenced apart

theorem callerFenced_joined {opened : SingleFlight Value}
    (miss : hit world key = none)
    (call : Opened reads.budgets world.now key (reads.scope key)
      world.fills id opened) (found : opened.heap[id]? = some flight)
    (waits : flight.waiters < reads.budgets.maxWaitersPerFill)
    (intime : world.now - flight.startedAt < reads.budgets.responseMs) :
    CallerFenced opened world.invalidations
      ⟨key, world.moment, .waiting id⟩ where
  waiting := by
    intro other waiting
    cases waiting
    obtain ⟨own, ownFound, ownKey, origin⟩ := call.own budgeted.sound
    rw [found] at ownFound
    cases ownFound
    refine ⟨flight, found, ownKey, ?_⟩
    intro result told
    rcases origin with ⟨slot, old⟩ | queued
    · obtain ⟨same, sameFound, -, unsettled⟩ :=
        budgeted.sound.slot key id slot
      rw [old] at sameFound
      cases sameFound
      have returned : flight.stage = .returned (.ok result) := by
        cases stage : flight.stage with
        | returned outcome =>
          cases outcome with
          | ok value =>
            rw [stage] at told
            cases told
            rfl
          | error error =>
            rw [stage] at told
            cases told
        | settled outcome =>
          rw [stage] at unsettled
          cases unsettled
        | _ =>
          rw [stage] at told
          cases told
      have current : flight.current = true := by
        unfold joinsPublished at apart
        rw [miss, slot, Option.bind_some, old] at apart
        simpa [returned, Stage.published, waits, intime] using apart
      have began : flight.stage.began = some result.began := by
        rw [returned]
        rfl
      have fresh := fenced.fills.current id flight old current _ began
      rw [ownKey] at fresh
      exact Fresh.fence fresh
    · rw [queued] at told
      cases told
  raced := by
    intro other result raced
    cases raced
  answered := by
    intro result answered
    cases answered

theorem fills_read (call : ReadCache.Read reads key world next) :
    FillsFenced reads next.fills next.callers world.invalidations := by
  cases call with
  | hit stored =>
    apply fenced.fills.append
    have fresh := fresh_of_hit fenced stored
    constructor
    · intro id waits
      cases waits
    · intro id result raced
      cases raced
    · intro result answered
      cases answered
      exact fresh.fence
  | full => exact fenced.fills.append callerFenced_error
  | refused _ call =>
    exact (fenced.fills.later (later_opened call)).append callerFenced_error
  | @joined id opened flight miss call found waits intime =>
    have caller := callerFenced_joined budgeted fenced apart miss call found
      waits intime
    have after := (fenced.fills.later (later_opened call)).append caller
    apply after.later
    apply later_modify
    intro other _
    exact {
      key := rfl
      scope := rfl
      current := fun same => same
      began := fun _ same => .inl same
      result := fun _ same => .inl same }

end

theorem read_frame (call : ReadCache.Read reads key world next) :
    next.cache = LruCache.touch key world.cache ∧
      next.invalidations = world.invalidations ∧
      ∃ state, next.callers =
        world.callers ++ [⟨key, world.moment, state⟩] := by
  cases call with
  | hit | full | refused | joined => exact ⟨rfl, rfl, _, rfl⟩

theorem follows_stage {invalidations : Invalidations} {stage : Stage Value}
    (began : ∀ began, stage.began = some began →
      flight.stage.began = some began ∨ Fresh invalidations flight.key began)
    (result : ∀ result, stage.result = some result →
      flight.stage.result = some result ∨
        Fresh invalidations flight.key result.began) :
    Follows invalidations flight { flight with stage := stage } where
  key := rfl
  scope := rfl
  current := id
  began := began
  result := result

theorem published_fresh {began : Nat} {outcome : Except String Value}
    (fenced : Fenced reads world) (found : world.fills.heap[id]? = some flight)
    (loaded : flight.stage = .loaded began outcome) :
    (∀ result, (reads.published flight began outcome world).1 = .ok result →
      result.began = began ∧ Fresh world.invalidations flight.key began) ∧
    CacheFenced (reads.published flight began outcome world).2
      world.invalidations := by
  have fresh : SingleFlight.isCurrent reads.budgets world.now flight = true →
      Fresh world.invalidations flight.key began := by
    intro current
    have own : flight.current = true := (Bool.and_eq_true_iff.mp current).1
    apply fenced.fills.current id flight found own
    rw [loaded]
    rfl
  have kept := fenced.stored
  have step : Published reads flight began world
      (reads.published flight began outcome world) :=
    published_cases flight began outcome world
  generalize reads.published flight began outcome world = published at step ⊢
  cases step with
  | failed error =>
    refine ⟨?_, kept⟩
    intro result returned
    cases returned
  | passed value current =>
    refine ⟨?_, kept⟩
    intro result returned
    cases returned
    exact ⟨rfl, fresh current⟩
  | cached value current =>
    constructor
    · intro result returned
      cases returned
      exact ⟨rfl, fresh current⟩
    · intro key entry stored
      rcases LruCache.get_of_get_set stored with ⟨rfl, rfl⟩ | old
      · exact fresh current
      · exact kept key entry old

theorem later_congr {other : SingleFlight Value}
    (same : other.heap = before.heap)
    (later : Later reads invalidations other after) :
    Later reads invalidations before after where
  forth := by
    rw [← same]
    exact later.forth
  back := by
    rw [← same]
    exact later.back

theorem heap_release (id : Nat) (key : String) (fills : SingleFlight Value) :
    (fills.release id key).heap = fills.heap := by
  unfold release
  split
  · rfl
  · rfl

theorem later_advance (fenced : Fenced reads world)
    (found : world.fills.heap[id]? = some flight)
    (moved : ReadCache.Advance reads id flight world label next) :
    Later reads world.invalidations world.fills next.fills := by
  cases moved with
  | work =>
    apply later_modify
    intro other _
    apply follows_stage
    · intro began told
      cases told
      exact .inr fun moment invalidated member _ =>
        fenced.past moment invalidated member
    · intro result told
      cases told
  | settle loading =>
    apply later_modify
    intro other stored
    rw [found] at stored
    cases stored
    apply follows_stage
    · intro began told
      rw [loading]
      exact .inl told
    · intro result told
      cases told
  | @resume began outcome loaded =>
    have fresh := (published_fresh fenced found loaded).1
    apply later_modify
    intro other stored
    rw [found] at stored
    cases stored
    apply follows_stage
    · intro began told
      cases returned : (reads.published flight _ outcome world).1 with
      | error error =>
        rw [returned] at told
        cases told
      | ok result =>
        rw [returned] at told
        cases told
        rw [loaded, (fresh result returned).1]
        exact .inl rfl
    · intro result told
      cases returned : (reads.published flight _ outcome world).1 with
      | error error =>
        rw [returned] at told
        cases told
      | ok value =>
        rw [returned] at told
        cases told
        rw [(fresh result returned).1]
        exact .inr (fresh result returned).2
  | finish returned =>
    apply later_congr (heap_release id flight.key world.fills)
    apply later_modify
    intro other stored
    rw [heap_release, found] at stored
    cases stored
    apply follows_stage
    · intro began told
      cases told
    · intro result told
      rw [returned]
      rename_i outcome
      cases outcome with
      | ok value => exact .inl told
      | error error => cases told

theorem fills_proceed (fenced : Fenced reads world)
    (found : world.callers[index]? = some caller)
    (moved : ReadCache.Proceed reads index caller world label next) :
    FillsFenced reads next.fills next.callers world.invalidations := by
  have own := fenced.fills.callers caller (List.mem_of_getElem? found)
  cases moved with
  | @race id flight result waits stored settled =>
    apply fenced.fills.set
    constructor
    · intro other waiting
      cases waiting
    · intro other value raced
      cases raced
      obtain ⟨same, sameFound, -, values⟩ := own.waiting id waits
      rw [stored] at sameFound
      cases sameFound
      apply values value
      rw [settled]
      rfl
    · intro value answered
      cases answered
  | timeout =>
    apply fenced.fills.set
    constructor
    · intro other waiting
      cases waiting
    · intro other value raced
      cases raced
    · intro value answered
      cases answered
  | @answer id flight result raced stored =>
    have answered : ∀ value,
        reads.answered flight result world.now = .ok value →
          result = .ok value := by
      intro value same
      unfold ReadCache.answered at same
      split at same
      · cases same
      · split at same
        · cases same
        · exact same
    have after : FillsFenced reads world.fills
        (world.callers.set index { caller with
          state := .answered (reads.answered flight result world.now) })
        world.invalidations := by
      apply fenced.fills.set
      constructor
      · intro other waiting
        cases waiting
      · intro other value again
        cases again
      · intro value told
        have same := answered value (CallerState.answered.inj told)
        subst same
        exact own.raced id value raced
    apply after.later
    apply later_modify
    intro other _
    exact {
      key := rfl
      scope := rfl
      current := fun same => same
      began := fun _ same => .inl same
      result := fun _ same => .inl same }

theorem frame_advance
    (moved : ReadCache.Advance reads id flight world label next) :
    next.callers = world.callers ∧
      next.invalidations = world.invalidations := by
  cases moved with
  | work | settle | resume | finish => exact ⟨rfl, rfl⟩

theorem cache_advance (fenced : Fenced reads world)
    (found : world.fills.heap[id]? = some flight)
    (moved : ReadCache.Advance reads id flight world label next) :
    CacheFenced next.cache world.invalidations := by
  cases moved with
  | work | settle | finish => exact fenced.stored
  | resume loaded => exact (published_fresh fenced found loaded).2

theorem frame_proceed
    (moved : ReadCache.Proceed reads index caller world label next) :
    next.cache = world.cache ∧ next.invalidations = world.invalidations ∧
      ∃ state, next.callers = world.callers.set index { caller with state } := by
  cases moved with
  | race | timeout | answer => exact ⟨rfl, rfl, _, rfl⟩

theorem registered_of_get {fills : SingleFlight Value}
    (slot : fills.flights.get key = some id) : fills.registered id = true := by
  have member := OrderedMap.mem_entries_iff.mpr slot
  unfold registered
  rw [List.any_eq_true]
  exact ⟨_, member, beq_self_eq_true id⟩

section

variable {key : Option String} (budgeted : Budgeted reads world)
  (fenced : Fenced reads world)
  (allowed : key.isSome = true → reads.byKey = true)

include budgeted fenced allowed

theorem not_covers_of_current (found : world.fills.heap[id]? = some flight)
    (unsettled : flight.stage.isSettled = false)
    (unmarked : ¬ (world.fills.registered id &&
      (key.isNone || key == some flight.scope)) = true) :
    ¬ Covers key flight.key := by
  have slot := budgeted.sound.kept id flight found unsettled
  rw [registered_of_get slot, Bool.true_and] at unmarked
  rintro (rfl | rfl)
  · exact unmarked rfl
  · apply unmarked
    rw [fenced.fills.scopes id flight found,
      reads.scope_eq (allowed rfl) flight.key]
    simp

theorem fills_invalidate :
    FillsFenced reads (world.fills.invalidate key) world.callers
      ((world.moment, key) :: world.invalidations) := by
  have changed := changed_invalidate key world.fills
  constructor
  · intro id new found
    rw [changed.heap] at found
    obtain ⟨old, stored, rfl⟩ := Option.map_eq_some_iff.mp found
    split
    · exact fenced.fills.scopes id old stored
    · exact fenced.fills.scopes id old stored
  · intro id new found current began told
    rw [changed.heap] at found
    obtain ⟨old, stored, rfl⟩ := Option.map_eq_some_iff.mp found
    split at current
    · cases current
    · rename_i unmarked
      rw [if_neg unmarked] at told ⊢
      have unsettled : old.stage.isSettled = false := by
        cases stage : old.stage with
        | settled result =>
          rw [stage] at told
          cases told
        | _ => rfl
      intro moment invalidated member covers
      rcases List.mem_cons.mp member with here | earlier
      · cases here
        exact absurd covers (not_covers_of_current budgeted fenced allowed
          stored unsettled unmarked)
      · exact fenced.fills.current id old stored current began told _ _
          earlier covers
  · intro caller member
    have own := fenced.fills.callers caller member
    have called := fenced.called caller member
    have still : ∀ result, Fence world.invalidations caller result →
        Fence ((world.moment, key) :: world.invalidations) caller result := by
      intro result fence moment invalidated inside covers
      rcases List.mem_cons.mp inside with here | earlier
      · cases here
        omega
      · exact fence moment invalidated earlier covers
    constructor
    · intro id waits
      obtain ⟨old, stored, ownKey, values⟩ := own.waiting id waits
      have new := changed.heap id
      rw [stored, Option.map_some] at new
      refine ⟨_, new, ?_, ?_⟩
      · split
        · exact ownKey
        · exact ownKey
      · intro result told
        apply still
        apply values
        split at told
        · exact told
        · exact told
    · intro id result raced
      exact still result (own.raced id result raced)
    · intro result answered
      exact still result (own.answered result answered)

end

theorem cache_invalidate {key : Option String} (fenced : Fenced reads world) :
    CacheFenced (invalidate key world).cache
      ((world.moment, key) :: world.invalidations) := by
  intro other entry stored moment invalidated member covers
  cases key with
  | none => cases stored
  | some key =>
    have held := OrderedMap.get_of_get_delete stored
    rcases List.mem_cons.mp member with here | earlier
    · cases here
      rcases covers with impossible | same
      · cases impossible
      · cases same
        have gone : (world.cache.delete other).get other = some entry :=
          stored
        rw [OrderedMap.get_delete_self] at gone
        cases gone
    · exact fenced.stored other entry held moment invalidated earlier covers

theorem fenced_step (budgeted : Budgeted reads world)
    (fenced : Fenced reads world) (apart : reads.Apart world label)
    (taken : reads.step world label = some next) : Fenced reads next := by
  obtain ⟨after, acted, rfl⟩ := acts_of_step taken
  have past : ∀ moment invalidated,
      (moment, invalidated) ∈ world.invalidations →
        moment < world.moment + 1 := fun moment invalidated member =>
    Nat.lt_succ_of_lt (fenced.past moment invalidated member)
  have called : ∀ caller ∈ world.callers,
      caller.calledAt < world.moment + 1 := fun caller member =>
    Nat.lt_succ_of_lt (fenced.called caller member)
  cases acted with
  | @read key _ call =>
    obtain ⟨cache, invalidations, state, callers⟩ := read_frame call
    have fills := fills_read budgeted fenced apart call
    constructor
    · show ∀ moment invalidated,
        (moment, invalidated) ∈ after.invalidations → _
      rw [invalidations]
      exact past
    · show ∀ caller ∈ after.callers, _
      rw [callers]
      intro caller member
      rcases List.mem_append.mp member with old | new
      · exact called caller old
      · rw [List.mem_singleton.mp new]
        exact Nat.lt_succ_self _
    · show CacheFenced after.cache after.invalidations
      rw [cache, invalidations]
      intro other entry stored
      rw [LruCache.get_touch] at stored
      exact fenced.stored other entry stored
    · rw [← invalidations] at fills
      exact fills
  | advance found moved =>
    obtain ⟨callers, invalidations⟩ := frame_advance moved
    have fills := fenced.fills.later (later_advance fenced found moved)
    have cache := cache_advance fenced found moved
    rw [← callers, ← invalidations] at fills
    rw [← invalidations] at cache
    constructor
    · show ∀ moment invalidated,
        (moment, invalidated) ∈ after.invalidations → _
      rw [invalidations]
      exact past
    · show ∀ caller ∈ after.callers, _
      rw [callers]
      exact called
    · exact cache
    · exact fills
  | proceed found moved =>
    obtain ⟨cache, invalidations, state, callers⟩ := frame_proceed moved
    have fills := fills_proceed fenced found moved
    rw [← invalidations] at fills
    constructor
    · show ∀ moment invalidated,
        (moment, invalidated) ∈ after.invalidations → _
      rw [invalidations]
      exact past
    · show ∀ caller ∈ after.callers, _
      rw [callers]
      intro caller member
      rcases List.mem_or_eq_of_mem_set member with old | rfl
      · exact called caller old
      · have was := called _ (List.mem_of_getElem? found)
        exact was
    · show CacheFenced after.cache after.invalidations
      rw [cache, invalidations]
      exact fenced.stored
    · exact fills
  | invalidate allowed =>
    constructor
    · intro moment invalidated member
      rcases List.mem_cons.mp member with here | earlier
      · cases here
        exact Nat.lt_succ_self _
      · exact past moment invalidated earlier
    · exact called
    · exact cache_invalidate fenced
    · exact fills_invalidate budgeted fenced allowed
  | wait => exact ⟨past, called, fenced.stored, fenced.fills⟩

/-! ## Slots are held until the work has settled -/

theorem slot_read {other : String} (call : ReadCache.Read reads key world next)
    (slot : world.fills.flights.get other = some id) :
    next.fills.flights.get other = some id := by
  cases call with
  | hit | full => exact slot
  | refused _ call | joined _ call => exact call.slot slot

theorem slot_advance {own : Nat} {other : Flight Value}
    (budgeted : Budgeted reads world)
    (found : world.fills.heap[id]? = some flight)
    (moved : ReadCache.Advance reads id flight world label next)
    (slot : world.fills.flights.get other.key = some own) :
    next.fills.flights.get other.key ≠ some own ↔ label = .finish own := by
  cases moved with
  | work | settle | resume => simp [slot]
  | finish returned =>
    have mine := budgeted.sound.kept id flight found
      (by rw [returned]; rfl)
    have released : (world.fills.release id flight.key).flights =
        world.fills.flights.delete flight.key := by
      unfold release
      rw [if_pos mine]
    show (world.fills.release id flight.key).flights.get other.key ≠ _ ↔ _
    rw [released]
    by_cases same : id = own
    · subst same
      have ownKey : other.key = flight.key := by
        obtain ⟨_, stored, key, -⟩ := budgeted.sound.slot _ _ slot
        rw [found] at stored
        cases stored
        exact key.symm
      rw [ownKey, OrderedMap.get_delete_self]
      simp
    · have different : other.key ≠ flight.key := by
        intro ownKey
        rw [ownKey, mine] at slot
        exact same (Option.some.inj slot)
      rw [OrderedMap.get_delete_of_ne different, slot]
      simp [same]

theorem slot_step (budgeted : Budgeted reads world)
    (taken : reads.step world label = some next)
    (slot : world.fills.flights.get flight.key = some id) :
    next.fills.flights.get flight.key ≠ some id ↔ label = .finish id := by
  obtain ⟨after, acted, rfl⟩ := acts_of_step taken
  show after.fills.flights.get flight.key ≠ some id ↔ _
  cases acted with
  | read call => simp [slot_read call slot]
  | advance found moved => exact slot_advance budgeted found moved slot
  | proceed _ moved =>
    cases moved with
    | race | timeout | answer => simp [setState, slot]
  | invalidate => simp [ReadCache.invalidate, slot]
  | wait => simp [slot]

/-! ## Runs -/

theorem respects_of_invariants (budgeted : Budgeted reads world)
    (fenced : Fenced reads world) : world.Respects reads where
  bounded := by
    intro ids distinct loading
    have slots : ids ⊆ world.fills.flights.entries.map Prod.snd := by
      intro id member
      obtain ⟨flight, found, loads⟩ := loading id member
      have unsettled : flight.stage.isSettled = false := by
        cases stage : flight.stage with
        | settled result =>
          rw [stage] at loads
          cases loads
        | _ => rfl
      have slot := budgeted.sound.kept id flight found unsettled
      have entry := OrderedMap.mem_entries_iff.mpr slot
      exact List.mem_map.mpr ⟨_, entry, rfl⟩
    have fewer := List.Nodup.length_le_of_subset distinct slots
    rw [List.length_map] at fewer
    exact Nat.le_trans fewer budgeted.sound.room
  single := by
    intro first second one other firstFound secondFound oneLoads otherLoads
      same
    have unsettled : ∀ flight : Flight Value, flight.stage.isLoading = true →
        flight.stage.isSettled = false := by
      intro flight loads
      cases stage : flight.stage with
      | settled result =>
        rw [stage] at loads
        cases loads
      | _ => rfl
    have firstSlot := budgeted.sound.kept first one firstFound
      (unsettled one oneLoads)
    have secondSlot := budgeted.sound.kept second other secondFound
      (unsettled other otherLoads)
    rw [same, secondSlot] at firstSlot
    exact (Option.some.inj firstSlot).symm
  slots := by
    intro id flight found
    constructor
    · intro slot
      obtain ⟨same, stored, -, unsettled⟩ := budgeted.sound.slot _ _ slot
      rw [found] at stored
      cases stored
      exact unsettled
    · exact budgeted.sound.kept id flight found
  released := by
    intro label next id flight taken _ slot
    exact slot_step budgeted taken slot
  waiting := fun id flight found =>
    ⟨budgeted.counts.counted id flight found,
      budgeted.counts.bounded id flight found⟩
  stored := by
    intro key entry stored moment invalidated member covers
    exact fenced.stored key entry stored moment invalidated member covers
  returned := by
    intro caller member result answered moment invalidated inside covers
    exact (fenced.fills.callers caller member).answered result answered moment
      invalidated inside covers

/-- **Reads respect budgets and invalidations** in every run in which no read
joins a flight that was invalidated after its work had returned. -/
theorem reads_respect_budgets_and_invalidations
    (run : System.Steps reads.step reads.Apart {} world) :
    world.Respects reads := by
  have both : Budgeted reads world ∧ Fenced reads world := by
    induction run with
    | refl => exact ⟨budgeted_empty reads, fenced_empty reads⟩
    | step _ apart taken induction =>
      obtain ⟨budgeted, fenced⟩ := induction
      exact ⟨budgeted_step budgeted taken,
        fenced_step budgeted fenced apart taken⟩
  exact respects_of_invariants both.1 both.2

/-- A catalog whose entries live five seconds. -/
def routeList : ReadCache Nat :=
  apiReadCache "routeCatalog" 5000 16 fun _ => .ok 2

def apartFrom (world : World Nat) : Label Nat → Bool
  | .read key => !routeList.joinsPublished world key
  | _ => true

theorem apart_of_apartFrom (world : World Nat) (label : Label Nat)
    (passes : apartFrom world label = true) :
    routeList.Apart world label := by
  cases label with
  | read key => simpa [apartFrom, ReadCache.Apart] using passes
  | _ => trivial

/-- A page is loaded and cached, invalidated after its slot is free, and loaded
and cached again. -/
theorem reads_respect_budgets_and_invalidations_reloaded :
    ∃ world : World Nat,
      System.Steps routeList.step routeList.Apart {} world ∧
      (world.cache.get "page").map Entry.result = some ⟨2, 9⟩ ∧
      world.Respects routeList := by
  have decided : (routeList.step.run apartFrom {}
      [.read "page", .work 0, .settle 0 (.ok 1), .resume 0, .finish 0,
        .race 0, .answer 0, .invalidate none, .read "page", .work 1,
        .settle 1 (.ok 2), .resume 1]).any (fun world => decide
          ((world.cache.get "page").map Entry.result = some ⟨2, 9⟩)) =
            true := by
    decide +kernel
  obtain ⟨world, steps, cached⟩ := System.exists_of_run decided
  have run := steps.mono apart_of_apartFrom
  exact ⟨world, run, of_decide_eq_true cached,
    reads_respect_budgets_and_invalidations run⟩

def Caller.given (caller : Caller Value) : Option (Loaded Value) :=
  match caller.state with
  | .answered (.ok result) => some result
  | _ => none

theorem answered_of_given (given : caller.given = some result) :
    caller.state = .answered (.ok result) := by
  unfold Caller.given at given
  split at given
  · rename_i value state
    rw [state, Option.some.inj given]
  · cases given

/-- A read that comes after an invalidation joins the flight of a page that was
published before, and is given the old page. -/
theorem invalidated_page_is_returned :
    ¬ ∀ world : World Nat,
      System.Steps routeList.step (fun _ _ => True) {} world →
        world.Respects routeList := by
  intro claimed
  have decided : (routeList.step.run (fun _ _ => true) {}
      [.read "page", .work 0, .settle 0 (.ok 1), .resume 0, .invalidate none,
        .read "page", .finish 0, .race 1, .answer 1]).any (fun world =>
          world.callers.any (fun caller => decide
            (caller.given = some ⟨1, 1⟩ ∧ caller.calledAt = 5)) &&
          decide ((4, none) ∈ world.invalidations)) = true := by
    decide +kernel
  obtain ⟨world, steps, shown⟩ := System.exists_of_run decided
  obtain ⟨returned, invalidated⟩ := Bool.and_eq_true_iff.mp shown
  obtain ⟨caller, member, stale⟩ := List.any_eq_true.mp returned
  obtain ⟨given, calledAt⟩ := of_decide_eq_true stale
  have respects := claimed world (steps.mono fun _ _ _ => trivial)
  apply respects.returned caller member ⟨1, 1⟩ (answered_of_given given) 4 none
    (of_decide_eq_true invalidated) (.inl rfl)
  rw [calledAt]
  decide

end Eki.Reads
