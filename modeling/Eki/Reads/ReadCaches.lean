import Eki.Library.Tally
import Eki.Library.Transition
import Eki.Reads.BoundedSingleFlight
import Eki.Reads.LruCache

/-!
# The read caches

A read is answered from the cache, or by a flight whose work loads a value,
checks that it is still current and publishes it.  An invalidation empties the
cache and tells the flights under way that they are not current any more.
-/

namespace Eki.Reads

open Insertion Transition

/-- What the API read cache and the cache of route geometry differ in. -/
structure ReadCache (Value : Type) where
  budgets : Budgets
  /-- Entries of the cache. -/
  entries : Nat
  ttlMs : Nat
  /-- Whether a value is cached, or why the attempt to tell throws. -/
  retained : Value → Except String Bool
  /-- What a fill that is not current any more throws. -/
  refused : ReadError
  scope : String → String
  /-- Whether one key can be invalidated on its own. -/
  byKey : Bool
  scope_eq : byKey = true → ∀ key, scope key = key

/-- `createApiReadCache`; `byteLength` is the length of the JSON text. -/
def apiReadCache {Value : Type} (name : String) (ttlMs entries : Nat)
    (byteLength : Value → Except String Nat) : ReadCache Value where
  budgets := {
    maxFills := 8
    maxWaitersPerFill := 32
    responseMs := 3000
    maxFills_pos := by decide
    maxWaitersPerFill_pos := by decide
    responseMs_pos := by decide }
  entries := entries
  ttlMs := ttlMs
  retained := fun value =>
    if 0 < ttlMs then
      (byteLength value).map fun bytes => decide (bytes ≤ 256 * 1024)
    else .ok false
  refused := .deadline
  scope := fun _ => name
  byKey := false
  scope_eq := by
    intro impossible
    cases impossible

/-- `readRouteGeometryDocument`, `invalidateRouteGeometryRead` -/
def routeGeometryReads {Value : Type} : ReadCache Value where
  budgets := {
    maxFills := 16
    maxWaitersPerFill := 32
    responseMs := 3000
    maxFills_pos := by decide
    maxWaitersPerFill_pos := by decide
    responseMs_pos := by decide }
  entries := 100
  ttlMs := 60000
  retained := fun _ => .ok true
  refused := .invalidated
  scope := id
  byKey := true
  scope_eq := fun _ _ => rfl

structure Entry (Value : Type) where
  result : Loaded Value
  expires : Nat

inductive CallerState (Value : Type) where
  | waiting (flight : Nat)
  /-- The race is decided, the caller has not gone on yet. -/
  | raced (flight : Nat) (result : Result Value)
  | answered (result : Result Value)

structure Caller (Value : Type) where
  key : String
  calledAt : Nat
  state : CallerState Value

/-- Whether a caller counts among the waiters of a flight. -/
def Caller.waitsFor {Value : Type} (id : Nat) (caller : Caller Value) : Nat :=
  match caller.state with
  | .waiting flight => if flight = id then 1 else 0
  | .raced flight _ => if flight = id then 1 else 0
  | .answered _ => 0

/-- `moment` counts the steps, `now` is `performance.now()`. -/
structure World (Value : Type) where
  moment : Nat := 0
  now : Nat := 0
  cache : OrderedMap String (Entry Value) := OrderedMap.empty
  fills : SingleFlight Value := {}
  callers : List (Caller Value) := []
  /-- When there was an invalidation, and of which key if of one. -/
  invalidations : List (Nat × Option String) := []

/-- One continuation runs, or something happens outside. -/
inductive Label (Value : Type) where
  | read (key : String)
  | work (flight : Nat)
  | settle (flight : Nat) (outcome : Except String Value)
  | resume (flight : Nat)
  | finish (flight : Nat)
  | race (caller : Nat)
  | timeout (caller : Nat)
  | answer (caller : Nat)
  | invalidate (key : Option String)
  | wait (ms : Nat)

namespace ReadCache

variable {Value : Type} (reads : ReadCache Value)

def hit (world : World Value) (key : String) : Option (Loaded Value) :=
  (world.cache.get key).bind fun entry =>
    if world.now < entry.expires then some entry.result else none

/-- `read`, up to the promise that the caller awaits. -/
def read (key : String) (world : World Value) : World Value :=
  let cache := LruCache.touch key world.cache
  match hit world key with
  | some result => { world with
      cache := cache
      callers := world.callers ++
        [⟨key, world.moment, .answered (.ok result)⟩] }
  | none =>
    match world.fills.run reads.budgets world.now key (reads.scope key) with
    | (fills, .error error) => { world with
        cache := cache
        fills := fills
        callers := world.callers ++
          [⟨key, world.moment, .answered (.error error)⟩] }
    | (fills, .ok id) => { world with
        cache := cache
        fills := fills
        callers := world.callers ++ [⟨key, world.moment, .waiting id⟩] }

/-- The work goes on with what was loaded. -/
def published (flight : Flight Value) (began : Nat)
    (outcome : Except String Value) (world : World Value) :
    Result Value × OrderedMap String (Entry Value) :=
  match outcome with
  | .error text => (.error (.load text), world.cache)
  | .ok value =>
    if !SingleFlight.isCurrent reads.budgets world.now flight then
      (.error reads.refused, world.cache)
    else
      match reads.retained value with
      | .error text => (.error (.load text), world.cache)
      | .ok true => (.ok ⟨value, began⟩,
          LruCache.set reads.entries flight.key
            { result := ⟨value, began⟩
              expires := world.now + reads.ttlMs } world.cache)
      | .ok false => (.ok ⟨value, began⟩, world.cache)

/-- A flight whose work starts, settles, goes on or is over. -/
def advance (id : Nat) (flight : Flight Value) (label : Label Value)
    (world : World Value) : Option (World Value) :=
  let put (stage : Stage Value) (fills : SingleFlight Value) :=
    fills.modify id fun flight => { flight with stage := stage }
  match label, flight.stage with
  | .work _, .queued =>
    some { world with fills := put (.loading world.moment) world.fills }
  | .settle _ outcome, .loading began =>
    some { world with fills := put (.loaded began outcome) world.fills }
  | .resume _, .loaded began outcome =>
    let (result, cache) := reads.published flight began outcome world
    some { world with
      cache := cache
      fills := put (.returned result) world.fills }
  | .finish _, .returned result =>
    some { world with
      fills := put (.settled result) (world.fills.release id flight.key) }
  | _, _ => none

/-- A caller after its race: too late it gets no value. -/
def answered (flight : Flight Value) (result : Result Value) (now : Nat) :
    Result Value :=
  match result with
  | .error error => .error error
  | .ok result =>
    if reads.budgets.responseMs ≤ now - flight.startedAt then
      .error .deadline
    else .ok result

def setState (index : Nat) (caller : Caller Value) (state : CallerState Value)
    (world : World Value) : World Value :=
  { world with callers := world.callers.set index { caller with state } }

/-- A caller's race is decided, or the caller goes on.  Timers may fire at any
time. -/
def proceed (index : Nat) (caller : Caller Value) (label : Label Value)
    (world : World Value) : Option (World Value) :=
  match label, caller.state with
  | .race _, .waiting id =>
    (world.fills.heap[id]?).bind fun flight =>
      match flight.stage with
      | .settled result =>
        some (setState index caller (.raced id result) world)
      | _ => none
  | .timeout _, .waiting id =>
    some (setState index caller (.raced id (.error .deadline)) world)
  | .answer _, .raced id result =>
    (world.fills.heap[id]?).map fun flight =>
      setState index caller
        (.answered (reads.answered flight result world.now))
        { world with
          fills := world.fills.modify id fun flight =>
            { flight with waiters := flight.waiters - 1 } }
  | _, _ => none

def invalidate (key : Option String) (world : World Value) : World Value :=
  { world with
    cache := match key with
      | none => OrderedMap.empty
      | some key => world.cache.delete key
    fills := world.fills.invalidate key
    invalidations := (world.moment, key) :: world.invalidations }

/-- What a label does, without the count of steps. -/
def act (label : Label Value) (world : World Value) : Option (World Value) :=
  match label with
  | .read key => some (reads.read key world)
  | .work id | .settle id _ | .resume id | .finish id =>
    (world.fills.heap[id]?).bind fun flight =>
      reads.advance id flight label world
  | .race index | .timeout index | .answer index =>
    (world.callers[index]?).bind fun caller =>
      reads.proceed index caller label world
  | .invalidate key =>
    if key.isSome && !reads.byKey then none
    else some (invalidate key world)
  | .wait ms => some { world with now := world.now + ms }

def step : System (World Value) (Label Value) := fun world label =>
  (reads.act label world).map fun next =>
    { next with moment := world.moment + 1 }

/-- A read that joins a flight which was invalidated after its work had
returned a value, and which still has its slot. -/
def joinsPublished (world : World Value) (key : String) : Bool :=
  (hit world key).isNone &&
    match (world.fills.flights.get key).bind (world.fills.heap[·]?) with
    | none => false
    | some flight => !flight.current && flight.stage.published.isSome &&
        decide (flight.waiters < reads.budgets.maxWaitersPerFill) &&
        decide (world.now - flight.startedAt < reads.budgets.responseMs)

def Apart (world : World Value) : Label Value → Prop
  | .read key => reads.joinsPublished world key = false
  | _ => True

end ReadCache

/-! ## What is promised -/

def Covers (invalidated : Option String) (key : String) : Prop :=
  invalidated = none ∨ invalidated = some key

namespace World

variable {Value : Type}

def Loading (world : World Value) (id : Nat) : Prop :=
  ∃ flight, world.fills.heap[id]? = some flight ∧ flight.stage.isLoading = true

/-- Loads are bounded and single, slots are held until the work has settled,
waiters are counted and bounded, and what is cached or returned was not loaded
before an invalidation that came before the call. -/
structure Respects (reads : ReadCache Value) (world : World Value) : Prop where
  bounded : ∀ ids : List Nat, ids.Nodup → (∀ id ∈ ids, world.Loading id) →
    ids.length ≤ reads.budgets.maxFills
  single : ∀ first second : Nat, ∀ one other : Flight Value,
    world.fills.heap[first]? = some one →
    world.fills.heap[second]? = some other →
    one.stage.isLoading = true → other.stage.isLoading = true →
    one.key = other.key → first = second
  slots : ∀ id flight, world.fills.heap[id]? = some flight →
    (world.fills.flights.get flight.key = some id ↔
      flight.stage.isSettled = false)
  released : ∀ label next id flight, reads.step world label = some next →
    world.fills.heap[id]? = some flight →
    world.fills.flights.get flight.key = some id →
    (next.fills.flights.get flight.key ≠ some id ↔ label = .finish id)
  waiting : ∀ id flight, world.fills.heap[id]? = some flight →
    flight.waiters = Tally.total (Caller.waitsFor id) world.callers ∧
      flight.waiters ≤ reads.budgets.maxWaitersPerFill
  stored : ∀ key entry, world.cache.get key = some entry →
    ∀ moment invalidated, (moment, invalidated) ∈ world.invalidations →
      Covers invalidated key → moment < entry.result.began
  returned : ∀ caller ∈ world.callers, ∀ result,
    caller.state = .answered (.ok result) →
    ∀ moment invalidated, (moment, invalidated) ∈ world.invalidations →
      Covers invalidated caller.key →
      ¬ (result.began < moment ∧ moment < caller.calledAt)

end World

end Eki.Reads
