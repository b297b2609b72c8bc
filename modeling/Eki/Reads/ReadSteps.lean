import Eki.Reads.ReadCaches
import Eki.Reads.Slots

/-!
# Steps of the read caches

The cases of each step, with what it takes and what it leaves.
-/

namespace Eki.Reads

open Insertion Transition
open Option (bind_eq_some_iff)

variable {Value : Type} {reads : ReadCache Value}

namespace ReadCache

open SingleFlight

inductive Read (reads : ReadCache Value) (key : String) (world : World Value) :
    World Value → Prop where
  | hit {result : Loaded Value} (stored : hit world key = some result) :
      Read reads key world { world with
        cache := LruCache.touch key world.cache
        callers := world.callers ++
          [⟨key, world.moment, .answered (.ok result)⟩] }
  | full (error : ReadError) :
      Read reads key world { world with
        cache := LruCache.touch key world.cache
        callers := world.callers ++
          [⟨key, world.moment, .answered (.error error)⟩] }
  | refused {id : Nat} {opened : SingleFlight Value} (error : ReadError)
      (call : Opened reads.budgets world.now key (reads.scope key)
        world.fills id opened) :
      Read reads key world { world with
        cache := LruCache.touch key world.cache
        fills := opened
        callers := world.callers ++
          [⟨key, world.moment, .answered (.error error)⟩] }
  | joined {id : Nat} {opened : SingleFlight Value} {flight : Flight Value}
      (miss : hit world key = none)
      (call : Opened reads.budgets world.now key (reads.scope key)
        world.fills id opened)
      (found : opened.heap[id]? = some flight)
      (waits : flight.waiters < reads.budgets.maxWaitersPerFill)
      (intime : world.now - flight.startedAt < reads.budgets.responseMs) :
      Read reads key world { world with
        cache := LruCache.touch key world.cache
        fills := opened.modify id fun flight =>
          { flight with waiters := flight.waiters + 1 }
        callers := world.callers ++ [⟨key, world.moment, .waiting id⟩] }

theorem read_cases (key : String) (world : World Value) :
    Read reads key world (reads.read key world) := by
  unfold ReadCache.read
  cases stored : hit world key with
  | some result => exact .hit stored
  | none =>
    simp only
    unfold SingleFlight.run
    cases call : world.fills.flightFor reads.budgets world.now key
        (reads.scope key) with
    | none => exact .full .capacity
    | some made =>
      obtain ⟨id, opened⟩ := made
      have call := opened_of_flightFor call
      simp only
      cases joins : opened.join reads.budgets world.now id with
      | error error => exact .refused error call
      | ok fills =>
        obtain ⟨flight, found, waits, intime, rfl⟩ := join_ok joins
        exact .joined stored call found waits intime

inductive Advance (reads : ReadCache Value) (id : Nat) (flight : Flight Value)
    (world : World Value) : Label Value → World Value → Prop where
  | work (queued : flight.stage = .queued) :
      Advance reads id flight world (.work id) { world with
        fills := world.fills.modify id fun flight =>
          { flight with stage := .loading world.moment } }
  | settle {began : Nat} {outcome : Except String Value}
      (loading : flight.stage = .loading began) :
      Advance reads id flight world (.settle id outcome) { world with
        fills := world.fills.modify id fun flight =>
          { flight with stage := .loaded began outcome } }
  | resume {began : Nat} {outcome : Except String Value}
      (loaded : flight.stage = .loaded began outcome) :
      Advance reads id flight world (.resume id) { world with
        cache := (reads.published flight began outcome world).2
        fills := world.fills.modify id fun other =>
          { other with
            stage :=
              .returned (reads.published flight began outcome world).1 } }
  | finish {result : Result Value} (returned : flight.stage = .returned result) :
      Advance reads id flight world (.finish id) { world with
        fills := (world.fills.release id flight.key).modify id fun flight =>
          { flight with stage := .settled result } }

inductive Proceed (reads : ReadCache Value) (index : Nat)
    (caller : Caller Value) (world : World Value) :
    Label Value → World Value → Prop where
  | race {id : Nat} {flight : Flight Value} {result : Result Value}
      (waits : caller.state = .waiting id)
      (found : world.fills.heap[id]? = some flight)
      (settled : flight.stage = .settled result) :
      Proceed reads index caller world (.race index)
        (setState index caller (.raced id result) world)
  | timeout {id : Nat} (waits : caller.state = .waiting id) :
      Proceed reads index caller world (.timeout index)
        (setState index caller (.raced id (.error .deadline)) world)
  | answer {id : Nat} {flight : Flight Value} {result : Result Value}
      (raced : caller.state = .raced id result)
      (found : world.fills.heap[id]? = some flight) :
      Proceed reads index caller world (.answer index)
        (setState index caller
          (.answered (reads.answered flight result world.now))
          { world with
            fills := world.fills.modify id fun flight =>
              { flight with waiters := flight.waiters - 1 } })

/-- All that a label can do, apart from the count of steps. -/
inductive Acts (reads : ReadCache Value) (world : World Value) :
    Label Value → World Value → Prop where
  | read {key : String} {next : World Value}
      (call : Read reads key world next) : Acts reads world (.read key) next
  | advance {id : Nat} {flight : Flight Value} {label : Label Value}
      {next : World Value} (found : world.fills.heap[id]? = some flight)
      (moved : Advance reads id flight world label next) :
      Acts reads world label next
  | proceed {index : Nat} {caller : Caller Value} {label : Label Value}
      {next : World Value} (found : world.callers[index]? = some caller)
      (moved : Proceed reads index caller world label next) :
      Acts reads world label next
  | invalidate {key : Option String}
      (allowed : key.isSome = true → reads.byKey = true) :
      Acts reads world (.invalidate key) (invalidate key world)
  | wait (ms : Nat) :
      Acts reads world (.wait ms) { world with now := world.now + ms }

variable {world next : World Value} {id index : Nat} {flight : Flight Value}
  {caller : Caller Value}

/-- A flight at the stage that the label waits for goes on. -/
theorem advance_of_own {label : Label Value}
    (own : label = .work id ∨ (∃ outcome, label = .settle id outcome) ∨
      label = .resume id ∨ label = .finish id)
    (taken : reads.advance id flight label world = some next) :
    Advance reads id flight world label next := by
  unfold ReadCache.advance at taken
  rcases own with rfl | ⟨outcome, rfl⟩ | rfl | rfl <;>
  cases stage : flight.stage <;>
  simp only [stage, Option.some.injEq, reduceCtorEq] at taken <;>
  subst taken
  · exact .work stage
  · exact .settle stage
  · exact .resume stage
  · exact .finish stage

theorem proceed_race
    (taken : reads.proceed index caller (.race index) world = some next) :
    Proceed reads index caller world (.race index) next := by
  unfold ReadCache.proceed at taken
  cases state : caller.state with
  | waiting id =>
    simp only [state] at taken
    obtain ⟨flight, found, moved⟩ := bind_eq_some_iff.mp taken
    cases stage : flight.stage with
    | settled result =>
      simp only [stage, Option.some.injEq] at moved
      subst moved
      exact .race state found stage
    | _ => simp [stage] at moved
  | _ => simp [state] at taken

theorem proceed_timeout
    (taken : reads.proceed index caller (.timeout index) world = some next) :
    Proceed reads index caller world (.timeout index) next := by
  unfold ReadCache.proceed at taken
  cases state : caller.state with
  | waiting id =>
    simp only [state, Option.some.injEq] at taken
    subst taken
    exact .timeout state
  | _ => simp [state] at taken

theorem proceed_answer
    (taken : reads.proceed index caller (.answer index) world = some next) :
    Proceed reads index caller world (.answer index) next := by
  unfold ReadCache.proceed at taken
  cases state : caller.state with
  | raced id result =>
    simp only [state] at taken
    obtain ⟨flight, found, rfl⟩ := Option.map_eq_some_iff.mp taken
    exact .answer state found
  | _ => simp [state] at taken

theorem acts_of_act {label : Label Value}
    (taken : reads.act label world = some next) :
    Acts reads world label next := by
  cases label with
  | read key =>
    cases taken
    exact .read (read_cases key world)
  | work id | settle id outcome | resume id | finish id =>
    obtain ⟨flight, found, moved⟩ := bind_eq_some_iff.mp taken
    exact .advance found (advance_of_own (by simp) moved)
  | race index =>
    obtain ⟨caller, found, moved⟩ := bind_eq_some_iff.mp taken
    exact .proceed found (proceed_race moved)
  | timeout index =>
    obtain ⟨caller, found, moved⟩ := bind_eq_some_iff.mp taken
    exact .proceed found (proceed_timeout moved)
  | answer index =>
    obtain ⟨caller, found, moved⟩ := bind_eq_some_iff.mp taken
    exact .proceed found (proceed_answer moved)
  | invalidate key =>
    have opened : (if key.isSome && !reads.byKey then none
        else some (invalidate key world)) = some next := taken
    split at opened
    · cases opened
    · rename_i allowed
      cases opened
      apply Acts.invalidate
      intro one
      rw [one] at allowed
      simpa using allowed
  | wait ms =>
    cases taken
    exact .wait ms

theorem acts_of_step {label : Label Value}
    (taken : reads.step world label = some next) :
    ∃ after, Acts reads world label after ∧
      next = { after with moment := world.moment + 1 } := by
  obtain ⟨after, acted, rfl⟩ := Option.map_eq_some_iff.mp taken
  exact ⟨after, acts_of_act acted, rfl⟩

/-- The cases of work that goes on: it fails and leaves the cache alone, or it
is current and returns its value, which may be cached. -/
inductive Published (reads : ReadCache Value) (flight : Flight Value)
    (began : Nat) (world : World Value) :
    Result Value × OrderedMap String (Entry Value) → Prop where
  | failed (error : ReadError) :
      Published reads flight began world (.error error, world.cache)
  | passed (value : Value)
      (current : isCurrent reads.budgets world.now flight = true) :
      Published reads flight began world (.ok ⟨value, began⟩, world.cache)
  | cached (value : Value)
      (current : isCurrent reads.budgets world.now flight = true) :
      Published reads flight began world (.ok ⟨value, began⟩,
        LruCache.set reads.entries flight.key
          { result := ⟨value, began⟩
            expires := world.now + reads.ttlMs } world.cache)

theorem published_cases (flight : Flight Value) (began : Nat)
    (outcome : Except String Value) (world : World Value) :
    Published reads flight began world
      (reads.published flight began outcome world) := by
  unfold published
  cases outcome with
  | error text => exact .failed (.load text)
  | ok value =>
    simp only
    cases current : isCurrent reads.budgets world.now flight with
    | false => exact .failed reads.refused
    | true =>
      rw [if_neg (by decide)]
      cases reads.retained value with
      | error text => exact .failed (.load text)
      | ok cached =>
        cases cached with
        | false => exact .passed value current
        | true => exact .cached value current

end ReadCache

end Eki.Reads
