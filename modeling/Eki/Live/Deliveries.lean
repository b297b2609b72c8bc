import Eki.Live.LiveBusStore

/-!
# Deliveries to the live bus store

What an event amounts to: deltas, which the store applies to its cached map or
keeps back, and of which every subscriber's copy makes the same.
-/

namespace Eki.Live

open Deltas Insertion Transition
open List (foldl_cons mem_filter mem_map)
open OrderedMap (mem_entries_iff)

variable {Data : Type}

namespace LiveWorld

/-! ## Maps and copies -/

theorem contents_getD (map : Option (LiveBusSnapshot Data)) :
    (map.getD OrderedMap.empty).get = contents map := by
  cases map with
  | none | some => rfl

theorem contents_change (delta : Delta String (RawBus Data))
    (map : Option (LiveBusSnapshot Data)) :
    contents (change delta map) = delta.apply (contents map) := by
  cases delta with
  | upsert key value =>
    have applied := Delta.get_applyTo (.upsert key value)
      (map.getD OrderedMap.empty)
    rw [contents_getD] at applied
    exact applied
  | remove key =>
    cases map with
    | none =>
      funext other
      unfold Delta.apply
      by_cases same : other = key
      · subst same
        rw [Delta.key, Function.update_self]
        rfl
      · rw [Delta.key, Function.update_of_ne same]
        rfl
    | some map => exact Delta.get_applyTo (.remove key) map

theorem contents_nonEmpty (map : Option (LiveBusSnapshot Data)) :
    contents (map.bind nonEmpty) = contents map := by
  cases map with
  | none => rfl
  | some map =>
    unfold nonEmpty
    rw [Option.bind_some]
    split
    · rename_i blank
      funext key
      have entries := List.isEmpty_iff.mp blank
      unfold contents OrderedMap.get
      rw [Option.bind_some, entries]
      rfl
    · rfl

theorem contents_replay (deltas : List (Delta String (RawBus Data)))
    (map : Option (LiveBusSnapshot Data)) :
    contents (deltas.foldl (fun map delta => change delta map) map) =
      replay deltas (contents map) := by
  induction deltas generalizing map with
  | nil => rfl
  | cons delta rest induction =>
    rw [foldl_cons, induction, contents_change]
    rfl

theorem fromEntries_eq (entries : List (String × RawBus Data)) :
    (fromEntries entries).get =
      replay (entries.map fun entry => Delta.upsert entry.1 entry.2)
        fun _ => none := by
  have general : ∀ map : LiveBusSnapshot Data,
      (entries.foldl (fun map entry => map.set entry.1 entry.2) map).get =
        replay (entries.map fun entry => Delta.upsert entry.1 entry.2)
          map.get := by
    induction entries with
    | nil =>
      intro map
      rfl
    | cons entry rest induction =>
      intro map
      have first := Delta.get_applyTo (.upsert entry.1 entry.2) map
      rw [foldl_cons, induction, List.map_cons]
      unfold replay
      rw [foldl_cons, ← first]
      rfl
  exact general OrderedMap.empty

theorem get_fromEntries {entries : List (String × RawBus Data)} {key : String}
    {bus : RawBus Data}
    (unique : ∀ first second, (key, first) ∈ entries →
      (key, second) ∈ entries → first = second) :
    (fromEntries entries).get key = some bus ↔ (key, bus) ∈ entries := by
  rw [fromEntries_eq, replay_apply]
  constructor
  · intro stored
    cases last : lastWord key
        (entries.map fun entry => Delta.upsert entry.1 entry.2) with
    | none =>
      rw [last] at stored
      cases stored
    | some word =>
      rw [last, Option.getD_some] at stored
      obtain ⟨delta, member, same, value⟩ := exists_of_lastWord last
      obtain ⟨entry, inside, rfl⟩ := mem_map.mp member
      rw [stored] at value
      cases value
      cases same
      exact inside
  · intro member
    have last : lastWord key
        (entries.map fun entry => Delta.upsert entry.1 entry.2) =
          some (some bus) := by
      apply lastWord_of_agree
      · exact ⟨_, List.mem_map_of_mem member, rfl⟩
      · intro delta inside same
        obtain ⟨entry, stored, rfl⟩ := mem_map.mp inside
        cases same
        exact congrArg some (unique _ _ stored member)
    rw [last]
    rfl

end LiveWorld

/-! ## What an event amounts to -/

namespace LiveBusStore

/-- Deltas, applied or kept back. -/
def deliverDeltas (deltas : List (Delta String (RawBus Data)))
    (store : LiveBusStore Data) : LiveBusStore Data :=
  if store.initialized then
    deltas.foldl (fun store delta => store.applyDelta delta) store
  else { store with buffered := store.buffered ++ deltas }

variable {store : LiveBusStore Data}

theorem initialized_foldl_applyDelta
    (deltas : List (Delta String (RawBus Data))) (store : LiveBusStore Data) :
    (deltas.foldl (fun store delta => store.applyDelta delta)
      store).initialized = store.initialized := by
  induction deltas generalizing store with
  | nil => rfl
  | cons delta rest induction =>
    rw [foldl_cons, induction]
    rfl

@[simp] theorem initialized_deliverDeltas
    (deltas : List (Delta String (RawBus Data))) :
    (store.deliverDeltas deltas).initialized = store.initialized := by
  unfold deliverDeltas
  split
  · exact initialized_foldl_applyDelta deltas store
  · rfl

theorem deliverDeltas_nil : store.deliverDeltas [] = store := by
  unfold deliverDeltas
  split
  · rfl
  · rw [List.append_nil]

theorem deliverDeltas_append
    (front back : List (Delta String (RawBus Data))) :
    store.deliverDeltas (front ++ back) =
      (store.deliverDeltas front).deliverDeltas back := by
  cases initialized : store.initialized with
  | true =>
    have after := initialized_foldl_applyDelta front store
    rw [initialized] at after
    simp only [deliverDeltas, initialized, if_true, after, List.foldl_append]
  | false =>
    simp only [deliverDeltas, initialized, Bool.false_eq_true, if_false,
      List.append_assoc]

theorem receiveOne_eq (upserts : Bool) (key : String)
    (raw : Option (RawBus Data)) :
    store.receiveOne upserts key raw =
      store.deliverDeltas
        (if isNodeKey key then [normalized upserts key raw] else []) := by
  unfold receiveOne
  cases isNodeKey key with
  | false => exact deliverDeltas_nil.symm
  | true =>
    unfold deliverDeltas
    rfl

theorem foldl_deliverDeltas {β : Type}
    (deltas : β → List (Delta String (RawBus Data))) (items : List β) :
    items.foldl (fun store item => store.deliverDeltas (deltas item)) store =
      store.deliverDeltas (items.flatMap deltas) := by
  induction items generalizing store with
  | nil => exact deliverDeltas_nil.symm
  | cons item rest induction =>
    rw [foldl_cons, induction, List.flatMap_cons, deliverDeltas_append]

/-- The removals that a fleet infers from its cached buses. -/
def lostDeltas (routeKey : String) (buses : LiveBusSnapshot Data)
    (entry : String × RawBus Data) : List (Delta String (RawBus Data)) :=
  if entry.2.routeId == some (routeIdOf routeKey) && !buses.has entry.1 then
    if isNodeKey entry.1 then [.remove entry.1] else []
  else []

def upsertDeltas (entry : String × RawBus Data) :
    List (Delta String (RawBus Data)) :=
  if isNodeKey entry.1 then [normalized true entry.1 (some entry.2)] else []

theorem receiveRoute_eq {routeKey : String} (route : isRouteKey routeKey = true)
    (raw : Option (LiveBusSnapshot Data)) :
    store.receiveRoute raw.isSome routeKey raw =
      store.deliverDeltas
        ((store.cached.getD OrderedMap.empty).entries.flatMap
            (lostDeltas routeKey (raw.getD OrderedMap.empty)) ++
          (raw.getD OrderedMap.empty).entries.flatMap upsertDeltas) := by
  have buses : (if raw.isSome = true then raw.getD OrderedMap.empty
      else OrderedMap.empty) = raw.getD OrderedMap.empty := by
    cases raw with
    | none | some => rfl
  have lost : (fun (store : LiveBusStore Data) (entry : String × RawBus Data) =>
      if (entry.2.routeId == some (routeIdOf routeKey) &&
          !(raw.getD OrderedMap.empty).has entry.1) = true then
        store.receiveOne false entry.1 none
      else store) = fun store entry => store.deliverDeltas
        (lostDeltas routeKey (raw.getD OrderedMap.empty) entry) := by
    funext store entry
    unfold lostDeltas
    split
    · exact receiveOne_eq false entry.1 none
    · exact deliverDeltas_nil.symm
  have set : (fun (store : LiveBusStore Data) (entry : String × RawBus Data) =>
      store.receiveOne true entry.1 (some entry.2)) =
        fun store entry => store.deliverDeltas (upsertDeltas entry) := by
    funext store entry
    exact receiveOne_eq true entry.1 (some entry.2)
  unfold receiveRoute
  rw [if_neg (by rw [route]; decide)]
  simp only [buses, lost, set]
  rw [foldl_deliverDeltas, foldl_deliverDeltas, deliverDeltas_append]

end LiveBusStore

namespace LiveWorld

open LiveBusStore

/-- A delivery to a store that has its value replays the deltas onto the cached
map and onto every copy of it. -/
structure Replayed (deltas : List (Delta String (RawBus Data)))
    (before after : LiveBusStore Data) : Prop where
  cached : contents after.cached = replay deltas (contents before.cached)
  copied : contents (after.emitted.foldl follow none) =
    replay deltas (contents (before.emitted.foldl follow none))

theorem replayed_applyDelta (delta : Delta String (RawBus Data))
    (store : LiveBusStore Data) :
    Replayed [delta] store (store.applyDelta delta) where
  cached := by
    show contents ((change delta store.cached).bind nonEmpty) = _
    rw [contents_nonEmpty, contents_change]
    rfl
  copied := by
    show contents ((store.emitted ++ [LiveBusChange.delta delta]).foldl follow
      none) = _
    rw [List.foldl_append]
    exact contents_change delta _

theorem replayed_deliverDeltas (deltas : List (Delta String (RawBus Data)))
    {store : LiveBusStore Data} (initialized : store.initialized = true) :
    Replayed deltas store (store.deliverDeltas deltas) := by
  unfold deliverDeltas
  rw [if_pos initialized]
  clear initialized
  induction deltas generalizing store with
  | nil => exact ⟨rfl, rfl⟩
  | cons delta rest induction =>
    have first := replayed_applyDelta delta store
    have later : Replayed rest (store.applyDelta delta)
        (rest.foldl (fun store delta => store.applyDelta delta)
          (store.applyDelta delta)) := induction
    constructor
    · rw [foldl_cons, later.cached, first.cached]
      rfl
    · rw [foldl_cons, later.copied, first.copied]
      rfl

/-! ## What the server has -/

theorem routeIdOf_injective {first second : String}
    (firstRoute : isRouteKey first = true)
    (secondRoute : isRouteKey second = true)
    (same : routeIdOf first = routeIdOf second) : first = second := by
  obtain ⟨firstRest, firstText⟩ := List.isPrefixOf_iff_prefix.mp firstRoute
  obtain ⟨secondRest, secondText⟩ := List.isPrefixOf_iff_prefix.mp secondRoute
  unfold routeIdOf at same
  rw [← firstText, ← secondText] at same
  have rests : firstRest = secondRest := String.ofList_injective same
  apply String.toList_injective
  rw [← firstText, ← secondText, rests]

variable {routeKey : String} {server : Routes Data}

theorem get_of_mem_entries {buses : LiveBusSnapshot Data}
    (member : (routeKey, buses) ∈ server.entries) :
    busesOf server routeKey = buses := by
  unfold busesOf
  rw [mem_entries_iff.mp member]
  rfl

variable {key : String}

theorem mem_entries_of_get {bus : RawBus Data}
    (stored : (busesOf server routeKey).get key = some bus) :
    (routeKey, busesOf server routeKey) ∈ server.entries := by
  rw [mem_entries_iff]
  unfold busesOf at stored ⊢
  cases found : server.get routeKey with
  | none =>
    rw [found] at stored
    cases stored
  | some buses => rfl

theorem nodeEntries_of_not_node {watched : Option String}
    (other : isNodeKey key = false) :
    nodeEntries watched server key = none := by
  unfold nodeEntries
  rw [other]
  rfl

theorem nodeEntries_route (node : isNodeKey key = true) :
    nodeEntries (some routeKey) server key =
      (busesOf server routeKey).get key := by
  unfold nodeEntries
  rw [node]
  rfl

theorem nodeEntries_fleet (wellformed : Wellformed server)
    {bus : RawBus Data} :
    nodeEntries none server key = some bus ↔
      isNodeKey key = true ∧ ∃ routeKey, isRouteKey routeKey = true ∧
        (busesOf server routeKey).get key = some bus := by
  cases node : isNodeKey key with
  | false =>
    rw [nodeEntries_of_not_node node]
    simp
  | true =>
    have opened : nodeEntries none server key =
        server.entries.findSome? fun route =>
          if isRouteKey route.1 then route.2.get key else none := by
      unfold nodeEntries
      rw [node]
      rfl
    rw [opened]
    constructor
    · intro found
      obtain ⟨route, member, stored⟩ := List.exists_of_findSome?_eq_some found
      split at stored
      · rename_i named
        refine ⟨rfl, route.1, named, ?_⟩
        rw [get_of_mem_entries member]
        exact stored
      · cases stored
    · rintro ⟨_, routeKey, named, stored⟩
      have member := mem_entries_of_get stored
      cases found : server.entries.findSome? fun route =>
          if isRouteKey route.1 then route.2.get key else none with
      | none =>
        have missing := List.findSome?_eq_none_iff.mp found _ member
        rw [if_pos named, stored] at missing
        cases missing
      | some other =>
        obtain ⟨route, inside, otherStored⟩ :=
          List.exists_of_findSome?_eq_some found
        split at otherStored
        · rename_i otherNamed
          rw [← get_of_mem_entries inside] at otherStored
          have same := wellformed.single _ _ _ _ _ otherNamed named node
            otherStored stored
          rw [same, stored] at otherStored
          exact otherStored.symm
        · cases otherStored

theorem contents_rawValue {watched : Option String}
    (wellformed : Wellformed server) :
    contents ((rawValue watched server).map fun entries =>
      fromEntries (entries.filter fun entry => isNodeKey entry.1)) =
        nodeEntries watched server := by
  funext key
  apply Option.ext
  intro bus
  cases watched with
  | some routeKey =>
    have value : contents ((rawValue (some routeKey) server).map
        fun entries =>
          fromEntries (entries.filter fun entry => isNodeKey entry.1)) key =
        (fromEntries ((busesOf server routeKey).entries.filter fun entry =>
          isNodeKey entry.1)).get key := by
      unfold rawValue busesOf
      simp only
      cases server.get routeKey with
      | none | some => rfl
    rw [value, get_fromEntries]
    · rw [mem_filter, mem_entries_iff]
      cases node : isNodeKey key with
      | false =>
        rw [nodeEntries_of_not_node node]
        simp
      | true =>
        rw [nodeEntries_route node]
        simp
    · intro first second stored other
      have firstStored := mem_entries_iff.mp
        (mem_filter.mp stored).1
      have secondStored := mem_entries_iff.mp
        (mem_filter.mp other).1
      rw [firstStored] at secondStored
      exact Option.some.inj secondStored
  | none =>
    have inRoutes : ∀ other : RawBus Data,
        (key, other) ∈ ((server.entries.filter fun route =>
          isRouteKey route.1).flatMap fun route =>
            route.2.entries).filter (fun entry => isNodeKey entry.1) ↔
          isNodeKey key = true ∧ ∃ routeKey, isRouteKey routeKey = true ∧
            (busesOf server routeKey).get key = some other := by
      intro other
      rw [mem_filter, List.mem_flatMap, and_comm]
      apply and_congr_right
      intro _
      constructor
      · rintro ⟨route, inside, stored⟩
        obtain ⟨member, named⟩ := mem_filter.mp inside
        refine ⟨route.1, named, ?_⟩
        rw [get_of_mem_entries member]
        exact mem_entries_iff.mp stored
      · rintro ⟨routeKey, named, stored⟩
        have member := mem_entries_of_get stored
        exact ⟨_, mem_filter.mpr ⟨member, named⟩, mem_entries_iff.mpr stored⟩
    rw [nodeEntries_fleet wellformed, ← inRoutes]
    unfold rawValue
    simp only
    split
    · rename_i blank
      have entries := List.isEmpty_iff.mp blank
      rw [entries]
      simp [contents]
    · rw [Option.map_some]
      apply get_fromEntries
      intro first second stored other
      obtain ⟨node, firstRoute, firstNamed, firstStored⟩ :=
        (inRoutes first).mp stored
      obtain ⟨-, secondRoute, secondNamed, secondStored⟩ :=
        (inRoutes second).mp other
      have same := wellformed.single _ _ _ _ _ firstNamed secondNamed node
        firstStored secondStored
      rw [same, secondStored] at firstStored
      exact (Option.some.inj firstStored).symm

end LiveWorld

end Eki.Live
