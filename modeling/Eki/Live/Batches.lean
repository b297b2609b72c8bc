import Eki.Live.Deliveries

/-!
# Batches of events

The events of a change, of one route or of the fleet, as deltas: their last
words on a bus, and what a fleet has cached in the middle of them.
-/

namespace Eki.Live

open Deltas Insertion Transition
open List (mem_append mem_flatMap mem_singleton)

variable {Data : Type}

namespace LiveWorld

open LiveBusStore

/-! ## One route -/

def busDeltas (routeKey : String) (server : Routes Data) (child : String) :
    List (Delta String (RawBus Data)) :=
  if isNodeKey child then
    [normalized ((busesOf server routeKey).get child).isSome child
      ((busesOf server routeKey).get child)]
  else []

variable {server : Routes Data} {routeKey key : String}

theorem value_normalized (wellformed : Wellformed server)
    (route : isRouteKey routeKey = true) (node : isNodeKey key = true)
    (upserts : Bool)
    (present : upserts = ((busesOf server routeKey).get key).isSome) :
    (normalized upserts key ((busesOf server routeKey).get key)).key = key ∧
      (normalized upserts key ((busesOf server routeKey).get key)).value =
        (busesOf server routeKey).get key := by
  subst present
  cases stored : (busesOf server routeKey).get key with
  | none => exact ⟨rfl, rfl⟩
  | some bus =>
    obtain ⟨data, rfl⟩ := wellformed.recorded _ _ _ route node stored
    exact ⟨rfl, rfl⟩

theorem deliver_route (routeKey : String) (server : Routes Data)
    (order : List String) (store : LiveBusStore Data) :
    order.foldl (fun store child => deliver (some routeKey) server child store)
      store = store.deliverDeltas
        (order.flatMap (busDeltas routeKey server)) := by
  have each : (fun (store : LiveBusStore Data) child =>
      deliver (some routeKey) server child store) = fun store child =>
        store.deliverDeltas (busDeltas routeKey server child) := by
    funext store child
    exact receiveOne_eq _ _ _
  rw [each, foldl_deliverDeltas]

theorem lastWord_busDeltas (wellformed : Wellformed server)
    (route : isRouteKey routeKey = true) (order : List String) (key : String) :
    lastWord key (order.flatMap (busDeltas routeKey server)) =
      if key ∈ order ∧ isNodeKey key = true then
        some ((busesOf server routeKey).get key)
      else none := by
  have about : ∀ delta ∈ order.flatMap (busDeltas routeKey server),
      delta.key = key → (key ∈ order ∧ isNodeKey key = true) ∧
        delta.value = (busesOf server routeKey).get key := by
    intro delta member same
    obtain ⟨child, listed, inside⟩ := mem_flatMap.mp member
    unfold busDeltas at inside
    split at inside
    · rename_i node
      rw [mem_singleton] at inside
      obtain ⟨own, value⟩ := value_normalized wellformed route node _ rfl
      rw [← inside] at own value
      rw [own] at same
      subst same
      exact ⟨⟨listed, node⟩, value⟩
    · cases inside
  split
  · rename_i listed
    apply lastWord_of_agree
    · have own := value_normalized wellformed route listed.2 _ rfl
      refine ⟨_, mem_flatMap.mpr ⟨key, listed.1, ?_⟩, own.1⟩
      unfold busDeltas
      rw [if_pos listed.2]
      exact List.mem_singleton_self _
    · intro delta member same
      exact (about delta member same).2
  · rename_i unlisted
    rw [lastWord_eq_none_iff]
    intro delta member same
    exact unlisted (about delta member same).1

/-- A bus that the events say nothing of is as it was. -/
theorem nodeEntries_of_unsaid {before after : Routes Data}
    {order : List String} (kept : ∀ child, child ∉ order →
      SameChild (some routeKey) before after child)
    (unsaid : ¬ (key ∈ order ∧ isNodeKey key = true)) :
    nodeEntries (some routeKey) after key =
      nodeEntries (some routeKey) before key := by
  cases node : isNodeKey key with
  | false => rw [nodeEntries_of_not_node node, nodeEntries_of_not_node node]
  | true =>
    rw [nodeEntries_route node, nodeEntries_route node]
    have absent : key ∉ order := fun listed => unsaid ⟨listed, node⟩
    exact (kept key absent).symm

/-! ## The routes of the fleet -/

variable {buses : LiveBusSnapshot Data}

theorem lastWord_upsertDeltas
    (recorded : ∀ key bus, isNodeKey key = true → buses.get key = some bus →
      ∃ routeId data, bus = RawBus.record routeId data) (key : String) :
    lastWord key (buses.entries.flatMap upsertDeltas) =
      if isNodeKey key then (buses.get key).map some else none := by
  have about : ∀ delta ∈ buses.entries.flatMap upsertDeltas,
      delta.key = key → isNodeKey key = true ∧
        ∃ bus, buses.get key = some bus ∧ delta.value = some bus := by
    intro delta member same
    obtain ⟨⟨child, bus⟩, inside, mentioned⟩ := mem_flatMap.mp member
    unfold upsertDeltas at mentioned
    split at mentioned
    · rename_i node
      rw [mem_singleton] at mentioned
      have stored := OrderedMap.mem_entries_iff.mp inside
      obtain ⟨routeId, data, rfl⟩ := recorded child bus node stored
      subst mentioned
      cases same
      exact ⟨node, _, stored, rfl⟩
    · cases mentioned
  cases node : isNodeKey key with
  | false =>
    have silent : lastWord key (buses.entries.flatMap upsertDeltas) =
        none := by
      rw [lastWord_eq_none_iff]
      intro delta member same
      have impossible := (about delta member same).1
      rw [node] at impossible
      cases impossible
    rw [silent]
    rfl
  | true =>
    rw [if_pos rfl]
    cases stored : buses.get key with
    | none =>
      rw [Option.map_none, lastWord_eq_none_iff]
      intro delta member same
      obtain ⟨-, bus, present, -⟩ := about delta member same
      rw [stored] at present
      cases present
    | some bus =>
      apply lastWord_of_agree
      · have inside := OrderedMap.mem_entries_iff.mpr stored
        obtain ⟨routeId, data, rfl⟩ := recorded key bus node stored
        refine ⟨.upsert key (.record routeId data),
          mem_flatMap.mpr ⟨_, inside, ?_⟩, rfl⟩
        unfold upsertDeltas
        rw [if_pos node]
        exact List.mem_singleton_self _
      · intro delta member same
        obtain ⟨-, other, present, value⟩ := about delta member same
        rw [stored] at present
        rw [value, present]

def Lost (routeKey : String) (buses : LiveBusSnapshot Data)
    (cached : Option (LiveBusSnapshot Data)) (key : String) : Prop :=
  isNodeKey key = true ∧ buses.get key = none ∧
    ∃ bus, contents cached key = some bus ∧
      bus.routeId = some (routeIdOf routeKey)

theorem mem_lostDeltas {cached : Option (LiveBusSnapshot Data)} :
    (∃ delta ∈ (cached.getD OrderedMap.empty).entries.flatMap
        (lostDeltas routeKey buses), delta.key = key) ↔
      Lost routeKey buses cached key := by
  unfold Lost
  rw [← contents_getD]
  constructor
  · rintro ⟨delta, member, same⟩
    obtain ⟨⟨child, bus⟩, inside, mentioned⟩ := mem_flatMap.mp member
    unfold lostDeltas at mentioned
    split at mentioned
    · rename_i lost
      rw [Bool.and_eq_true, beq_iff_eq, Bool.not_eq_true'] at lost
      split at mentioned
      · rename_i node
        rw [mem_singleton] at mentioned
        subst mentioned
        cases same
        exact ⟨node, OrderedMap.get_eq_none_iff.mpr lost.2, bus,
          OrderedMap.mem_entries_iff.mp inside, lost.1⟩
      · cases mentioned
    · cases mentioned
  · rintro ⟨node, absent, bus, stored, routed⟩
    refine ⟨.remove key, mem_flatMap.mpr ⟨(key, bus),
      OrderedMap.mem_entries_iff.mpr stored, ?_⟩, rfl⟩
    have missing := OrderedMap.get_eq_none_iff.mp absent
    unfold lostDeltas
    simp [routed, missing, node]

theorem value_lostDeltas {entries : List (String × RawBus Data)}
    {delta : Delta String (RawBus Data)}
    (member : delta ∈ entries.flatMap (lostDeltas routeKey buses)) :
    delta.value = none := by
  obtain ⟨entry, -, mentioned⟩ := mem_flatMap.mp member
  unfold lostDeltas at mentioned
  split at mentioned
  · split at mentioned
    · rw [mem_singleton] at mentioned
      rw [mentioned]
      rfl
    · cases mentioned
  · cases mentioned

def routeDeltas (routeKey : String) (buses : LiveBusSnapshot Data)
    (cached : Option (LiveBusSnapshot Data)) :
    List (Delta String (RawBus Data)) :=
  (cached.getD OrderedMap.empty).entries.flatMap (lostDeltas routeKey buses) ++
    buses.entries.flatMap upsertDeltas

theorem deliver_fleet (route : isRouteKey routeKey = true)
    (store : LiveBusStore Data) :
    deliver none server routeKey store =
      store.deliverDeltas
        (routeDeltas routeKey (busesOf server routeKey) store.cached) :=
  receiveRoute_eq route (server.get routeKey)

theorem deliver_other {child : String} (other : isRouteKey child = false)
    (store : LiveBusStore Data) : deliver none server child store = store := by
  show store.receiveRoute _ child _ = store
  unfold receiveRoute
  rw [other]
  rfl

variable {routeKey : String} {buses : LiveBusSnapshot Data}
  {cached : Option (LiveBusSnapshot Data)} {key : String}

theorem lastWord_routeDeltas_of_present
    (recorded : ∀ key bus, isNodeKey key = true → buses.get key = some bus →
      ∃ routeId data, bus = RawBus.record routeId data)
    {bus : RawBus Data} (node : isNodeKey key = true)
    (stored : buses.get key = some bus) :
    lastWord key (routeDeltas routeKey buses cached) = some (some bus) := by
  unfold routeDeltas
  rw [lastWord_append, lastWord_upsertDeltas recorded, if_pos node, stored]
  rfl

section

variable
  (recorded : ∀ key bus, isNodeKey key = true → buses.get key = some bus →
    ∃ routeId data, bus = RawBus.record routeId data)

include recorded

theorem lastWord_routeDeltas_of_absent
    (absent : isNodeKey key = true → buses.get key = none) :
    lastWord key (routeDeltas routeKey buses cached) =
      lastWord key ((cached.getD OrderedMap.empty).entries.flatMap
        (lostDeltas routeKey buses)) := by
  unfold routeDeltas
  rw [lastWord_append, lastWord_upsertDeltas recorded]
  split
  · rename_i node
    rw [absent node]
    rfl
  · rfl

theorem lastWord_routeDeltas_of_lost (lost : Lost routeKey buses cached key) :
    lastWord key (routeDeltas routeKey buses cached) = some none := by
  rw [lastWord_routeDeltas_of_absent recorded fun _ => lost.2.1]
  apply lastWord_of_agree (mem_lostDeltas.mpr lost)
  intro delta member _
  exact value_lostDeltas member

theorem lastWord_routeDeltas_of_kept
    (absent : isNodeKey key = true → buses.get key = none)
    (kept : ¬ Lost routeKey buses cached key) :
    lastWord key (routeDeltas routeKey buses cached) = none := by
  rw [lastWord_routeDeltas_of_absent recorded absent, lastWord_eq_none_iff]
  intro delta member same
  exact kept (mem_lostDeltas.mp ⟨delta, member, same⟩)

end

/-! ## In the middle of a change -/

theorem Wellformed.recorded_of (wellformed : Wellformed server)
    (route : isRouteKey routeKey = true) (key : String) (bus : RawBus Data)
    (node : isNodeKey key = true)
    (stored : (busesOf server routeKey).get key = some bus) :
    ∃ routeId data, bus = RawBus.record routeId data := by
  obtain ⟨data, recorded⟩ := wellformed.recorded _ _ _ route node stored
  exact ⟨_, data, recorded⟩

/-- In the middle of a change, when some routes were delivered: those have the
buses of the new state, the others those of the old one. -/
structure Midway (before after : Routes Data) (order delivered : List String)
    (map : String → Option (RawBus Data)) : Prop where
  sound : ∀ key bus, map key = some bus → isNodeKey key = true ∧
    ∃ routeKey, isRouteKey routeKey = true ∧
      bus.routeId = some (routeIdOf routeKey) ∧
      (routeKey ∈ delivered → (busesOf after routeKey).get key = some bus) ∧
      (routeKey ∉ delivered → (busesOf before routeKey).get key = some bus)
  complete : ∀ routeKey key bus, isRouteKey routeKey = true →
    isNodeKey key = true → (busesOf after routeKey).get key = some bus →
    (routeKey ∈ order → routeKey ∈ delivered) → map key = some bus

variable {before after : Routes Data} {order delivered : List String}

theorem Midway.start (wellformed : Wellformed before)
    (kept : ∀ child, child ∉ order → SameChild none before after child) :
    Midway before after order [] (nodeEntries none before) where
  sound := by
    intro key bus stored
    obtain ⟨node, routeKey, route, inside⟩ :=
      (nodeEntries_fleet wellformed).mp stored
    obtain ⟨data, rfl⟩ := wellformed.recorded _ _ _ route node inside
    exact ⟨node, routeKey, route, rfl, by simp, fun _ => inside⟩
  complete := by
    intro routeKey key bus route node stored listed
    have unlisted : routeKey ∉ order := by
      intro member
      cases listed member
    have same : before.get routeKey = after.get routeKey :=
      kept routeKey unlisted
    apply (nodeEntries_fleet wellformed).mpr
    refine ⟨node, routeKey, route, ?_⟩
    unfold busesOf at stored ⊢
    rw [same]
    exact stored

theorem Midway.finish {map : String → Option (RawBus Data)}
    (wellformed : Wellformed after)
    (kept : ∀ child, child ∉ order → SameChild none before after child)
    (midway : Midway before after order order map) :
    map = nodeEntries none after := by
  funext key
  apply Option.ext
  intro bus
  rw [nodeEntries_fleet wellformed]
  constructor
  · intro stored
    obtain ⟨node, routeKey, route, -, new, old⟩ := midway.sound key bus stored
    refine ⟨node, routeKey, route, ?_⟩
    by_cases listed : routeKey ∈ order
    · exact new listed
    · have same : before.get routeKey = after.get routeKey :=
        kept routeKey listed
      have found := old listed
      unfold busesOf at found ⊢
      rw [← same]
      exact found
  · rintro ⟨node, routeKey, route, stored⟩
    exact midway.complete routeKey key bus route node stored id

theorem Midway.next {child : String} (wellformed : Wellformed after)
    (fresh : child ∉ delivered)
    (midway : Midway before after order delivered (contents cached)) :
    Midway before after order (delivered ++ [child])
      (if isRouteKey child then
        replay (routeDeltas child (busesOf after child) cached)
          (contents cached)
      else contents cached) := by
  cases route : isRouteKey child with
  | false =>
    rw [if_neg (by decide)]
    constructor
    · intro key bus stored
      obtain ⟨node, routeKey, named, routed, new, old⟩ :=
        midway.sound key bus stored
      have different : routeKey ≠ child := by
        rintro rfl
        rw [route] at named
        cases named
      refine ⟨node, routeKey, named, routed, ?_, ?_⟩
      · intro listed
        rw [mem_append, mem_singleton] at listed
        exact new (listed.resolve_right different)
      · intro unlisted
        apply old
        intro listed
        exact unlisted (List.mem_append_left _ listed)
    · intro routeKey key bus named node stored listed
      have different : routeKey ≠ child := by
        rintro rfl
        rw [route] at named
        cases named
      apply midway.complete routeKey key bus named node stored
      intro member
      have done := listed member
      rw [mem_append, mem_singleton] at done
      exact done.resolve_right different
  | true =>
    rw [if_pos rfl]
    have recorded := wellformed.recorded_of route
    constructor
    · intro key bus stored
      rw [replay_apply] at stored
      by_cases present : isNodeKey key = true ∧
          ((busesOf after child).get key).isSome = true
      · obtain ⟨node, some⟩ := present
        obtain ⟨other, inside⟩ := Option.isSome_iff_exists.mp some
        rw [lastWord_routeDeltas_of_present recorded node inside,
          Option.getD_some] at stored
        cases stored
        obtain ⟨data, rfl⟩ := wellformed.recorded _ _ _ route node inside
        refine ⟨node, child, route, rfl, fun _ => inside, ?_⟩
        intro unlisted
        exact absurd (List.mem_append_right _ (List.mem_singleton_self _))
          unlisted
      · have absent : isNodeKey key = true →
            (busesOf after child).get key = none := by
          intro node
          rw [← Option.not_isSome_iff_eq_none]
          exact fun some => present ⟨node, some⟩
        by_cases lost : Lost child (busesOf after child) cached key
        · rw [lastWord_routeDeltas_of_lost recorded lost] at stored
          cases stored
        · rw [lastWord_routeDeltas_of_kept recorded absent lost,
            Option.getD_none] at stored
          obtain ⟨node, routeKey, named, routed, new, old⟩ :=
            midway.sound key bus stored
          have different : routeKey ≠ child := by
            rintro rfl
            exact lost ⟨node, absent node, bus, stored, routed⟩
          refine ⟨node, routeKey, named, routed, ?_, ?_⟩
          · intro listed
            rw [mem_append, mem_singleton] at listed
            exact new (listed.resolve_right different)
          · intro unlisted
            apply old
            intro listed
            exact unlisted (List.mem_append_left _ listed)
    · intro routeKey key bus named node stored listed
      rw [replay_apply]
      by_cases same : routeKey = child
      · subst same
        rw [lastWord_routeDeltas_of_present recorded node stored]
        rfl
      · have shown : contents cached key = some bus := by
          apply midway.complete routeKey key bus named node stored
          intro member
          have done := listed member
          rw [mem_append, mem_singleton] at done
          exact done.resolve_right same
        have absent : (busesOf after child).get key = none := by
          cases inside : (busesOf after child).get key with
          | none => rfl
          | some other =>
            exact absurd (wellformed.single _ _ _ _ _ named route node
              stored inside) same
        have kept : ¬ Lost child (busesOf after child) cached key := by
          rintro ⟨_, _, other, otherShown, routed⟩
          rw [shown] at otherShown
          cases otherShown
          obtain ⟨data, rfl⟩ := wellformed.recorded _ _ _ named node stored
          exact same (routeIdOf_injective named route (Option.some.inj routed))
        rw [lastWord_routeDeltas_of_kept recorded (fun _ => absent) kept]
        exact shown

end LiveWorld

end Eki.Live
