import Eki.Live.Batches

/-!
# Deltas and snapshots agree

Events that a store keeps back are deltas, and the initial value is the map
onto which they are replayed.  A store of one route keeps back removals too, so
the last word on a bus is its present state.  A store of the fleet infers
removals from its cached map, which is empty until the value arrives: a bus
that has left by then is shown.
-/

namespace Eki.Live

open Deltas Insertion Transition

variable {Data : Type}

namespace LiveWorld

open LiveBusStore

variable {before after : Routes Data} {order : List String}

/-! ## After the initial value -/

theorem exists_deltas (watched : Option String) (server : Routes Data)
    (child : String) (store : LiveBusStore Data) :
    ∃ deltas, deliver watched server child store =
      store.deliverDeltas deltas := by
  cases watched with
  | some routeKey => exact ⟨_, receiveOne_eq _ _ _⟩
  | none =>
    cases route : isRouteKey child with
    | true => exact ⟨_, deliver_fleet route store⟩
    | false =>
      refine ⟨[], ?_⟩
      rw [deliver_other route, deliverDeltas_nil]

/-- A store that has its value, and whose subscribers have it too. -/
structure Shared (store : LiveBusStore Data) : Prop where
  initialized : store.initialized = true
  copied : contents (store.emitted.foldl follow none) = contents store.cached

variable {store : LiveBusStore Data}

theorem shared_deliverDeltas (deltas : List (Delta String (RawBus Data)))
    (shared : Shared store) :
    Shared (store.deliverDeltas deltas) where
  initialized := by
    rw [initialized_deliverDeltas]
    exact shared.initialized
  copied := by
    have replayed := replayed_deliverDeltas deltas shared.initialized
    rw [replayed.copied, replayed.cached, shared.copied]

theorem shared_deliver (watched : Option String) (server : Routes Data)
    (order : List String) (shared : Shared store) :
    Shared (order.foldl (fun store child => deliver watched server child store)
      store) := by
  induction order generalizing store with
  | nil => exact shared
  | cons child rest induction =>
    rw [List.foldl_cons]
    obtain ⟨deltas, delivered⟩ := exists_deltas watched server child store
    apply induction
    rw [delivered]
    exact shared_deliverDeltas deltas shared

theorem midway_deliver (wellformed : Wellformed after) (distinct : order.Nodup)
    (rest delivered : List String) (whole : order = delivered ++ rest)
    (shared : Shared store)
    (midway : Midway before after order delivered (contents store.cached)) :
    Midway before after order order (contents
      (rest.foldl (fun store child => deliver none after child store)
        store).cached) := by
  induction rest generalizing delivered store with
  | nil =>
    rw [List.append_nil] at whole
    subst whole
    exact midway
  | cons child rest induction =>
    have fresh : child ∉ delivered := by
      rw [whole] at distinct
      have apart := (List.nodup_append.mp distinct).2.2
      intro member
      exact apart child member child List.mem_cons_self rfl
    have next := midway.next wellformed fresh
    rw [List.foldl_cons]
    obtain ⟨deltas, applied⟩ := exists_deltas none after child store
    apply induction (delivered ++ [child])
    · rw [whole, List.append_assoc]
      rfl
    · rw [applied]
      exact shared_deliverDeltas deltas shared
    · cases route : isRouteKey child with
      | false =>
        rw [deliver_other route]
        rw [route] at next
        exact next
      | true =>
        rw [deliver_fleet route,
          (replayed_deliverDeltas _ shared.initialized).cached]
        rw [route, if_pos rfl] at next
        exact next

/-! ## Runs -/

def Routed (world : LiveWorld Data) : Prop :=
  ∀ routeKey, world.watched = some routeKey → isRouteKey routeKey = true

theorem isRouteKey_append (routeId : String) :
    isRouteKey ("route:" ++ routeId) = true := by
  unfold isRouteKey
  rw [String.toList_append]
  exact List.isPrefixOf_iff_prefix.mpr (List.prefix_append _ _)

theorem routed_attach (scope : Option String) :
    Routed (attach scope : LiveWorld Data) := by
  intro routeKey watched
  cases scope with
  | none => cases watched
  | some routeId =>
    cases watched
    exact isRouteKey_append routeId

variable {world : LiveWorld Data}

theorem value_of_step {next : LiveWorld Data}
    (taken : step world .value = some next) :
    world.store.initialized = false ∧
      next = { world with
        store := world.store.receiveValue
          (rawValue world.watched world.server) } := by
  have opened : (if world.store.initialized then none
      else some { world with
        store := world.store.receiveValue
          (rawValue world.watched world.server) }) = some next := taken
  split at opened
  · cases opened
  · rename_i waits
    exact ⟨Bool.not_eq_true _ ▸ waits, (Option.some.inj opened).symm⟩

structure Ready (world : LiveWorld Data) : Prop where
  routed : Routed world
  wellformed : Wellformed world.server
  shared : Shared world.store
  cached : contents world.store.cached = nodeEntries world.watched world.server

theorem Ready.agrees (ready : Ready world) : world.Agrees :=
  ⟨ready.cached, ready.shared.copied⟩

variable {server : Routes Data}

theorem cached_change (ready : Ready world)
    (consistent : Consistent world (.change server order)) :
    contents (order.foldl (fun store child =>
        deliver world.watched server child store) world.store).cached =
      nodeEntries world.watched server := by
  obtain ⟨wellformed, distinct, kept⟩ := consistent
  have cached := ready.cached
  have routed := ready.routed
  unfold Routed at routed
  cases scope : world.watched with
  | none =>
    rw [scope] at cached kept
    have start := Midway.start ready.wellformed kept
    rw [← cached] at start
    have done := midway_deliver wellformed distinct order [] rfl
      ready.shared start
    exact done.finish wellformed kept
  | some routeKey =>
    rw [scope] at cached kept
    have route := routed routeKey scope
    have replayed := replayed_deliverDeltas
      (order.flatMap (busDeltas routeKey server)) ready.shared.initialized
    funext key
    rw [deliver_route, replayed.cached, replay_apply,
      lastWord_busDeltas wellformed route]
    split
    · rename_i listed
      rw [nodeEntries_route listed.2]
      rfl
    · rename_i unsaid
      rw [cached, nodeEntries_of_unsaid kept unsaid]
      rfl

theorem ready_step {next : LiveWorld Data} {label : LiveLabel Data}
    (ready : Ready world) (consistent : Consistent world label)
    (taken : step world label = some next) : Ready next := by
  cases label with
  | change server order =>
    cases taken
    exact {
      routed := ready.routed
      wellformed := consistent.1
      shared := shared_deliver _ _ _ ready.shared
      cached := cached_change ready consistent }
  | value =>
    have waits := (value_of_step taken).1
    rw [ready.shared.initialized] at waits
    cases waits

theorem agrees_of_ready {last : LiveWorld Data} (ready : Ready world)
    (steps : System.Steps step Consistent world last) : last.Agrees := by
  have still : Ready last := steps.invariant ready fun _ _ _ holds meets taken =>
    ready_step holds meets taken
  exact still.agrees

/-! ## Before the initial value -/

/-- What the event of one route says while nothing is cached. -/
def fleetDeltas (server : Routes Data) (routeKey : String) :
    List (Delta String (RawBus Data)) :=
  if isRouteKey routeKey then
    (busesOf server routeKey).entries.flatMap upsertDeltas
  else []

theorem deliver_uncached (initialized : store.initialized = false)
    (cached : store.cached = none) (order : List String) :
    order.foldl (fun store child => deliver none server child store) store =
      { store with
        buffered := store.buffered ++
          order.flatMap (fleetDeltas server) } := by
  induction order generalizing store with
  | nil =>
    rw [List.flatMap_nil, List.append_nil]
    rfl
  | cons child rest induction =>
    have first : deliver none server child store =
        { store with
          buffered := store.buffered ++ fleetDeltas server child } := by
      unfold fleetDeltas
      cases route : isRouteKey child with
      | true =>
        have nothingLost : routeDeltas child (busesOf server child)
            store.cached =
              (busesOf server child).entries.flatMap upsertDeltas := by
          rw [cached]
          rfl
        rw [deliver_fleet route, nothingLost, if_pos rfl]
        unfold deliverDeltas
        rw [if_neg (by rw [initialized]; decide)]
      | false =>
        rw [deliver_other route, if_neg (by decide), List.append_nil]
    have later : rest.foldl
        (fun store child => deliver none server child store)
        { store with
          buffered := store.buffered ++ fleetDeltas server child } = _ :=
      induction initialized cached
    rw [List.foldl_cons, first, later, List.flatMap_cons, List.append_assoc]

section Words

variable {server : Routes Data} {key : String}

theorem present_of_lastWord_fleet (wellformed : Wellformed server)
    {word : Option (RawBus Data)}
    (last : lastWord key (order.flatMap (fleetDeltas server)) = some word) :
    ∃ bus, word = some bus ∧ nodeEntries none server key = some bus := by
  induction order with
  | nil => cases last
  | cons child rest induction =>
    rw [List.flatMap_cons, lastWord_append, Option.or_eq_some_iff] at last
    cases last with
    | inl later => exact induction later
    | inr here =>
      have said := here.2
      unfold fleetDeltas at said
      split at said
      · rename_i route
        rw [lastWord_upsertDeltas (wellformed.recorded_of route)] at said
        split at said
        · rename_i node
          rw [Option.map_eq_some_iff] at said
          obtain ⟨bus, stored, rfl⟩ := said
          exact ⟨bus, rfl, (nodeEntries_fleet wellformed).mpr
            ⟨node, child, route, stored⟩⟩
        · cases said
      · cases said

theorem lastWord_fleet_of_listed (wellformed : Wellformed server)
    {routeKey : String} {bus : RawBus Data} (listed : routeKey ∈ order)
    (route : isRouteKey routeKey = true) (node : isNodeKey key = true)
    (stored : (busesOf server routeKey).get key = some bus) :
    lastWord key (order.flatMap (fleetDeltas server)) = some (some bus) := by
  have heard : lastWord key (order.flatMap (fleetDeltas server)) ≠ none := by
    induction order with
    | nil => cases listed
    | cons child rest induction =>
      rw [List.flatMap_cons, lastWord_append]
      intro silent
      obtain ⟨later, here⟩ := Option.or_eq_none_iff.mp silent
      rcases List.mem_cons.mp listed with rfl | inside
      · unfold fleetDeltas at here
        rw [if_pos route,
          lastWord_upsertDeltas (wellformed.recorded_of route),
          if_pos node, stored] at here
        cases here
      · exact induction inside later
  obtain ⟨word, last⟩ := Option.ne_none_iff_exists'.mp heard
  obtain ⟨other, rfl, present⟩ := present_of_lastWord_fleet wellformed last
  have own : nodeEntries none server key = some bus :=
    (nodeEntries_fleet wellformed).mpr ⟨node, routeKey, route, stored⟩
  rw [own] at present
  cases present
  exact last

end Words

/-- What a fleet's kept events say: the present buses, and those of earlier
states as they were. -/
structure Heard (world : LiveWorld Data) : Prop where
  present : ∀ key bus, nodeEntries none world.server key = some bus →
    lastWord key world.store.buffered = some (some bus)
  known : ∀ key word, lastWord key world.store.buffered = some word →
    word.isSome = true ∧ ∃ server ∈ world.earlier,
      (nodeEntries none server key).isSome = true
  told : ∀ server ∈ world.earlier, ∀ key,
    (nodeEntries none server key).isSome = true →
      lastWord key world.store.buffered ≠ none

/-- What the kept events say. -/
def Words (world : LiveWorld Data) : Prop :=
  match world.watched with
  | some routeKey => ∀ key word,
      lastWord key world.store.buffered = some word →
        word = nodeEntries (some routeKey) world.server key
  | none => Heard world

/-- A world whose store has no value yet. -/
structure Waiting (world : LiveWorld Data) : Prop where
  routed : Routed world
  wellformed : Wellformed world.server
  cached : world.store.cached = none
  emitted : world.store.emitted = []
  words : Words world

theorem wellformed_empty : Wellformed (OrderedMap.empty : Routes Data) where
  recorded := by
    intro _ _ _ _ _ stored
    cases stored
  single := by
    intro _ _ _ _ _ _ _ _ stored
    cases stored

theorem waiting_attach (scope : Option String) :
    Waiting (attach scope : LiveWorld Data) where
  routed := routed_attach scope
  wellformed := wellformed_empty
  cached := rfl
  emitted := rfl
  words := by
    cases scope with
    | some routeId =>
      intro key word last
      cases last
    | none =>
      constructor
      · intro key bus stored
        obtain ⟨_, _, _, inside⟩ :=
          (nodeEntries_fleet wellformed_empty).mp stored
        cases inside
      · intro key word last
        cases last
      · intro server member
        cases member

theorem words_route {routeKey : String} (scope : world.watched = some routeKey)
    (route : isRouteKey routeKey = true) (words : Words world)
    (consistent : Consistent world (.change server order)) (key : String)
    (word : Option (RawBus Data)) (last : lastWord key (world.store.buffered ++
      order.flatMap (busDeltas routeKey server)) = some word) :
    word = nodeEntries (some routeKey) server key := by
  obtain ⟨wellformed, -, kept⟩ := consistent
  rw [scope] at kept
  unfold Words at words
  rw [scope] at words
  rw [lastWord_append, lastWord_busDeltas wellformed route] at last
  split at last
  · rename_i listed
    rw [nodeEntries_route listed.2]
    exact (Option.some.inj last).symm
  · rename_i unsaid
    rw [nodeEntries_of_unsaid kept unsaid]
    exact words key word last

theorem heard_change (scope : world.watched = none)
    (old : Wellformed world.server) (heard : Heard world)
    (consistent : Consistent world (.change server order)) :
    Heard { world with
      server := server
      earlier := server :: world.earlier
      store := { world.store with
        buffered := world.store.buffered ++
          order.flatMap (fleetDeltas server) } } := by
  obtain ⟨wellformed, -, kept⟩ := consistent
  rw [scope] at kept
  have present : ∀ key bus, nodeEntries none server key = some bus →
      lastWord key (world.store.buffered ++
        order.flatMap (fleetDeltas server)) = some (some bus) := by
    intro key bus stored
    rw [lastWord_append]
    obtain ⟨node, routeKey, route, inside⟩ :=
      (nodeEntries_fleet wellformed).mp stored
    by_cases listed : routeKey ∈ order
    · rw [lastWord_fleet_of_listed wellformed listed route node inside]
      rfl
    · have same : world.server.get routeKey = server.get routeKey :=
        kept routeKey listed
      have before : nodeEntries none world.server key = some bus := by
        apply (nodeEntries_fleet old).mpr
        refine ⟨node, routeKey, route, ?_⟩
        unfold busesOf at inside ⊢
        rw [same]
        exact inside
      cases batch : lastWord key (order.flatMap (fleetDeltas server)) with
      | none => exact heard.present key bus before
      | some word =>
        obtain ⟨other, rfl, now⟩ :=
          present_of_lastWord_fleet wellformed batch
        rw [stored] at now
        cases now
        rfl
  constructor
  · exact present
  · intro key word last
    have said : lastWord key (world.store.buffered ++
        order.flatMap (fleetDeltas server)) = some word := last
    rw [lastWord_append, Option.or_eq_some_iff] at said
    rcases said with batch | ⟨-, kept⟩
    · obtain ⟨bus, rfl, now⟩ := present_of_lastWord_fleet wellformed batch
      exact ⟨rfl, server, List.mem_cons_self, by rw [now]; rfl⟩
    · obtain ⟨some, before, member, held⟩ := heard.known key word kept
      exact ⟨some, before, List.mem_cons_of_mem _ member, held⟩
  · intro before member key held
    show lastWord key (world.store.buffered ++
      order.flatMap (fleetDeltas server)) ≠ none
    rcases List.mem_cons.mp member with rfl | earlier
    · obtain ⟨bus, stored⟩ := Option.isSome_iff_exists.mp held
      rw [present key bus stored]
      exact Option.some_ne_none _
    · rw [lastWord_append]
      intro silent
      exact heard.told before earlier key held
        (Option.or_eq_none_iff.mp silent).2

theorem waiting_change (waiting : Waiting world)
    (initialized : world.store.initialized = false)
    (consistent : Consistent world (.change server order)) :
    Waiting { world with
      server := server
      earlier := server :: world.earlier
      store := order.foldl (fun store child =>
        deliver world.watched server child store) world.store } := by
  cases scope : world.watched with
  | some routeKey =>
    have buffers : ∀ deltas, world.store.deliverDeltas deltas =
        { world.store with
          buffered := world.store.buffered ++ deltas } := by
      intro deltas
      unfold deliverDeltas
      rw [if_neg (by rw [initialized]; decide)]
    rw [deliver_route, buffers]
    refine ⟨?_, consistent.1, waiting.cached, waiting.emitted, ?_⟩
    · rw [← scope]
      exact waiting.routed
    · exact words_route scope (waiting.routed routeKey scope) waiting.words
        consistent
  | none =>
    have words := waiting.words
    unfold Words at words
    rw [scope] at words
    rw [deliver_uncached initialized waiting.cached]
    refine ⟨?_, consistent.1, waiting.cached, waiting.emitted, ?_⟩
    · rw [← scope]
      exact waiting.routed
    · have heard := heard_change scope waiting.wellformed words consistent
      rw [scope] at heard
      exact heard

theorem initialized_deliver (watched : Option String) (server : Routes Data)
    (order : List String) (store : LiveBusStore Data) :
    (order.foldl (fun store child => deliver watched server child store)
      store).initialized = store.initialized := by
  induction order generalizing store with
  | nil => rfl
  | cons child rest induction =>
    obtain ⟨deltas, delivered⟩ := exists_deltas watched server child store
    rw [List.foldl_cons, induction, delivered, initialized_deliverDeltas]

section

variable {scope : Option String}
  (run : System.Steps step Consistent (attach scope) world)

include run

theorem waiting_of_steps (initialized : world.store.initialized = false) :
    Waiting world := by
  induction run with
  | refl => exact waiting_attach scope
  | @step middle _ label _ consistent taken induction =>
    cases label with
    | change server order =>
      cases taken
      have was := initialized
      rw [initialized_deliver] at was
      exact waiting_change (induction was) was consistent
    | value =>
      rw [(value_of_step taken).2] at initialized
      cases initialized

theorem watched_eq_none_iff : world.watched = none ↔ scope = none := by
  induction run with
  | refl => exact Option.map_eq_none_iff
  | @step middle _ label _ consistent taken induction =>
    cases label with
    | change server order =>
      cases taken
      exact induction
    | value =>
      rw [(value_of_step taken).2]
      exact induction

end

/-! ## The initial value -/

theorem contents_receiveValue (waiting : Waiting world) (key : String) :
    contents (world.store.receiveValue
      (rawValue world.watched world.server)).cached key =
        (lastWord key world.store.buffered).getD
          (nodeEntries world.watched world.server key) := by
  show contents ((world.store.buffered.foldl (fun cached delta =>
    change delta cached) _).bind nonEmpty) key = _
  rw [contents_nonEmpty, contents_replay, contents_rawValue waiting.wellformed,
    replay_apply]

/-- The first value that subscribers are told is the cached map. -/
theorem shared_receiveValue (waiting : Waiting world)
    (raw : Option (List (String × RawBus Data))) :
    Shared (world.store.receiveValue raw) where
  initialized := rfl
  copied := by
    have told : (world.store.receiveValue raw).emitted =
        world.store.emitted ++
          [.reset (world.store.receiveValue raw).cached] := rfl
    rw [told, waiting.emitted]
    rfl

/-- The value and the kept events make the present state, unless a bus of the
fleet has left. -/
theorem cached_value (waiting : Waiting world) :
    contents (world.store.receiveValue
      (rawValue world.watched world.server)).cached =
        nodeEntries world.watched world.server ↔
      (world.watched = none → world.NoneLeft) := by
  have words := waiting.words
  unfold Words at words
  rw [funext_iff]
  cases scope : world.watched with
  | some routeKey =>
    rw [scope] at words
    constructor
    · intro _ impossible
      cases impossible
    · intro _ key
      rw [← scope, contents_receiveValue waiting]
      cases last : lastWord key world.store.buffered with
      | none => rfl
      | some word =>
        rw [scope]
        exact words key word last
  | none =>
    rw [scope] at words
    rw [← scope]
    constructor
    · intro same _ server member key held
      rw [scope] at same ⊢
      rw [scope] at held
      cases absent : nodeEntries none world.server key with
      | some bus => rfl
      | none =>
        have shown := same key
        rw [← scope, contents_receiveValue waiting, scope, absent] at shown
        obtain ⟨word, last⟩ := Option.ne_none_iff_exists'.mp
          (words.told server member key held)
        rw [last, Option.getD_some] at shown
        have some := (words.known key word last).1
        rw [shown] at some
        cases some
    · intro left key
      rw [contents_receiveValue waiting]
      cases last : lastWord key world.store.buffered with
      | none => rfl
      | some word =>
        obtain ⟨-, server, member, held⟩ := words.known key word last
        rw [← scope] at held
        have present := left rfl server member key held
        obtain ⟨bus, stored⟩ := Option.isSome_iff_exists.mp present
        rw [scope] at stored
        rw [words.present key bus stored] at last
        cases last
        rw [scope, stored]
        rfl

/-- **Deltas and snapshots agree** exactly where no bus has left the fleet
before the initial value arrives; a store of one route always agrees. -/
theorem deltas_agree_with_snapshots {scope : Option String}
    {before attached : LiveWorld Data}
    (run : System.Steps step Consistent (attach scope) before)
    (taken : step before .value = some attached) :
    (∀ last, System.Steps step Consistent attached last → last.Agrees) ↔
      (scope = none → before.NoneLeft) := by
  obtain ⟨initialized, rfl⟩ := value_of_step taken
  have waiting := waiting_of_steps run initialized
  have value := cached_value waiting
  rw [watched_eq_none_iff run] at value
  rw [← value]
  constructor
  · intro agrees
    exact (agrees _ (.refl _)).cached
  · intro cached last steps
    apply agrees_of_ready _ steps
    exact {
      routed := waiting.routed
      wellformed := waiting.wellformed
      shared := shared_receiveValue waiting _
      cached := cached }

/-! ## A fleet of one route -/

def routeA (buses : LiveBusSnapshot Data) : Routes Data :=
  OrderedMap.empty.set "route:A" buses

theorem busesOf_routeA (buses : LiveBusSnapshot Data) (routeKey : String) :
    busesOf (routeA buses) routeKey =
      if routeKey = "route:A" then buses else OrderedMap.empty := by
  unfold busesOf routeA
  split
  · rename_i same
    subst same
    rw [OrderedMap.get_set_self]
    rfl
  · rename_i different
    rw [OrderedMap.get_set_of_ne different]
    rfl

theorem wellformed_routeA {buses : LiveBusSnapshot Data}
    (recorded : ∀ key bus, buses.get key = some bus →
      ∃ data, bus = .record (some "A") data) : Wellformed (routeA buses) where
  recorded := by
    intro routeKey key bus _ _ stored
    rw [busesOf_routeA] at stored
    split at stored
    · rename_i same
      subst same
      exact recorded key bus stored
    · cases stored
  single := by
    intro first second key bus other _ _ _ stored otherStored
    rw [busesOf_routeA] at stored otherStored
    split at stored
    · split at otherStored
      · rename_i same otherSame
        rw [same, otherSame]
      · cases otherStored
    · cases stored

def busesA (buses : List (String × Data)) : LiveBusSnapshot Data :=
  fromEntries (buses.map fun (key, data) => (key, .record (some "A") data))

theorem recorded_busesA (buses : List (String × Data)) (key : String)
    (bus : RawBus Data) (stored : (busesA buses).get key = some bus) :
    ∃ data, bus = .record (some "A") data := by
  unfold busesA at stored
  rw [fromEntries_eq, replay_apply] at stored
  cases last : lastWord key ((buses.map fun (key, data) =>
      (key, RawBus.record (some "A") data)).map fun entry =>
        Delta.upsert entry.1 entry.2) with
  | none =>
    rw [last] at stored
    cases stored
  | some word =>
    obtain ⟨delta, member, -, value⟩ := exists_of_lastWord last
    rw [last, Option.getD_some] at stored
    obtain ⟨entry, inside, rfl⟩ := List.mem_map.mp member
    obtain ⟨own, -, rfl⟩ := List.mem_map.mp inside
    rw [stored] at value
    cases value
    exact ⟨own.2, rfl⟩

theorem get_routeA (buses : LiveBusSnapshot Data) (routeKey : String)
    (other : routeKey ≠ "route:A") : (routeA buses).get routeKey = none := by
  unfold routeA
  rw [OrderedMap.get_set_of_ne other]
  rfl

theorem consistent_routeA (world : LiveWorld Data)
    (buses : List (String × Data))
    (scope : world.watched = none)
    (alone : ∀ routeKey, routeKey ≠ "route:A" →
      world.server.get routeKey = none) :
    Consistent world (.change (routeA (busesA buses)) ["route:A"]) := by
  refine ⟨wellformed_routeA (recorded_busesA buses), by decide, ?_⟩
  intro child unlisted
  rw [List.mem_singleton] at unlisted
  rw [scope]
  show world.server.get child = (routeA (busesA buses)).get child
  rw [alone child unlisted, get_routeA _ child unlisted]

def told (buses : List (String × Data)) (world : LiveWorld Data) :
    LiveWorld Data :=
  { world with
    server := routeA (busesA buses)
    earlier := routeA (busesA buses) :: world.earlier
    store := deliver world.watched (routeA (busesA buses)) "route:A"
      world.store }

/-- The initial value has arrived. -/
def valued (world : LiveWorld Data) : LiveWorld Data :=
  { world with
    store := world.store.receiveValue (rawValue world.watched world.server) }

def twoBuses : LiveWorld Nat :=
  told [("node:1", 7), ("node:2", 7)] (attach none)

def movedBus : LiveWorld Nat :=
  told [("node:1", 8), ("node:2", 7)] (valued twoBuses)

/-- Two buses are there with the initial value; then the first one moves, and
the second one leaves. -/
theorem deltas_agree_with_snapshots_after_removal :
    ∃ before attached last : LiveWorld Nat,
      System.Steps step Consistent (attach none) before ∧
      step before .value = some attached ∧
      System.Steps step Consistent attached last ∧
      (contents attached.store.cached "node:2").isSome = true ∧
      contents last.store.cached "node:1" = some (.record (some "A") 8) ∧
      (contents last.store.cached "node:2").isSome = false ∧ last.Agrees := by
  have run : System.Steps step Consistent (attach none) twoBuses :=
    .single (consistent_routeA _ _ rfl fun _ _ => rfl) rfl
  have taken : step twoBuses .value = some (valued twoBuses) := rfl
  have agree := (deltas_agree_with_snapshots run taken).mpr (by
    intro _ server member key held
    rw [List.mem_singleton.mp member] at held
    exact held)
  have moved := consistent_routeA (valued twoBuses)
    [("node:1", 8), ("node:2", 7)] rfl (get_routeA _)
  have left := consistent_routeA movedBus [("node:1", 8)] rfl (get_routeA _)
  have steps : System.Steps step Consistent (valued twoBuses)
      (told [("node:1", 8)] movedBus) :=
    .step (.single moved rfl) left rfl
  exact ⟨twoBuses, valued twoBuses, _, run, taken, steps, by decide +kernel,
    rfl, by decide +kernel, agree _ steps⟩

/-- A bus leaves route A before the initial value arrives, and is shown. -/
theorem removed_bus_is_shown :
    ¬ ∀ before attached : LiveWorld Unit,
      System.Steps step Consistent (attach none) before →
      step before .value = some attached →
      ∀ last, System.Steps step Consistent attached last → last.Agrees := by
  intro claimed
  have first := consistent_routeA (attach none) [("node:1", ()), ("node:2", ())]
    rfl fun _ _ => rfl
  have second := consistent_routeA
    (told [("node:1", ()), ("node:2", ())] (attach none)) [("node:1", ())] rfl
    (get_routeA _)
  have run : System.Steps step Consistent (attach none)
      (told [("node:1", ())]
        (told [("node:1", ()), ("node:2", ())] (attach none))) :=
    .step (.single first rfl) second rfl
  have agrees := claimed _ _ run rfl _ (.refl _)
  have same := congrArg Option.isSome (congrFun agrees.cached "node:2")
  revert same
  decide

end LiveWorld

end Eki.Live
