import Eki.PassengerMap.BusEta
import Eki.PassengerMap.LegsOrdered

/-!
# Arrivals follow the itinerary

A bus on the leg before its next stop is behind that stop, and the stops follow
each other along the legs, so that each is reached after the one before it.
-/

namespace Eki.PassengerMap

open Insertion (OrderedMap)
open Segments (LatLng)
open RouteMatching (Geometry)
open Transition

variable {R : Type} [Field R] [LinearOrder R] {geometry : Geometry R}

/-! ## What the cache holds -/

section Cache

variable {Path : Type} {points : Path → List (LatLng R)}

def Projected (geometry : Geometry R) (points : Path → List (LatLng R))
    (entry : StopProjectionEntry R Path) : Prop :=
  ∃ stops, entry.stopsKey = stops.map stopProjectionKey ∧
    projectStops geometry (points entry.path) stops entry.firstStopIndex =
      (entry.positions, entry.legs, entry.offsets)

def Sound (geometry : Geometry R) (points : Path → List (LatLng R))
    (cache : StopProjectionCache R Path) : Prop :=
  ∀ routeKey entry, cache.get routeKey = some entry →
    Projected geometry points entry

omit [Field R] [LinearOrder R] in
theorem stopProjectionKey_injective :
    Function.Injective (stopProjectionKey (R := R)) := by
  intro stop other same
  cases stop with
  | mk id location =>
    cases other with
    | mk other_id other_location =>
      cases location
      cases other_location
      cases same
      rfl

variable {cache : StopProjectionCache R Path}

variable {routeKey : String} {entry : StopProjectionEntry R Path}

omit [Field R] [LinearOrder R] in
theorem get_evictOldest :
    (evictOldest ((cache.delete routeKey).set routeKey entry)).get routeKey =
      some entry := by
  simp only [evictOldest]
  split
  · rename_i crowded
    cases oldest : ((cache.delete routeKey).set routeKey entry).oldest with
    | none => exact OrderedMap.get_set_self
    | some other =>
      have several : 0 < (cache.delete routeKey).size := by
        apply Nat.pos_of_ne_zero
        intro empty
        have none : (cache.delete routeKey).entries = [] :=
          List.length_eq_zero_iff.mp empty
        simp [OrderedMap.size, OrderedMap.set, OrderedMap.has, none,
          maxEntries] at crowded
      have different := OrderedMap.oldest_set_ne OrderedMap.get_delete_self
        several oldest
      rw [Option.elim_some, OrderedMap.get_delete_of_ne different.symm]
      exact OrderedMap.get_set_self
  · exact OrderedMap.get_set_self

omit [Field R] [LinearOrder R] in
theorem get_of_get_evictOldest {other : String}
    {found : StopProjectionEntry R Path} (stored : (evictOldest
      ((cache.delete routeKey).set routeKey entry)).get other = some found) :
    found = entry ∨ cache.get other = some found := by
  have held : ((cache.delete routeKey).set routeKey entry).get other =
      some found := by
    simp only [evictOldest] at stored
    split at stored
    · cases oldest : ((cache.delete routeKey).set routeKey entry).oldest with
      | none =>
        rw [oldest] at stored
        exact stored
      | some key =>
        rw [oldest] at stored
        exact OrderedMap.get_of_get_delete stored
    · exact stored
  by_cases same : other = routeKey
  · rw [same, OrderedMap.get_set_self] at held
    exact Or.inl (Option.some.inj held).symm
  · rw [OrderedMap.get_set_of_ne same] at held
    exact Or.inr (OrderedMap.get_of_get_delete held)

variable [DecidableEq Path]

theorem positions_spec (sound : Sound geometry points cache)
    (routeKey : String) (path : Path) (stops : List (EtaStopPoint R))
    (firstStopIndex : Int) :
    ∃ entry,
      (cache.positions geometry points routeKey path stops
        firstStopIndex).2.get routeKey = some entry ∧
      projectStops geometry (points path) stops firstStopIndex =
        ((cache.positions geometry points routeKey path stops
          firstStopIndex).1, entry.legs, entry.offsets) ∧
      Sound geometry points
        (cache.positions geometry points routeKey path stops
          firstStopIndex).2 := by
  have renewed : ∀ entry : StopProjectionEntry R Path,
      Projected geometry points entry →
      Sound geometry points
        (evictOldest ((cache.delete routeKey).set routeKey entry)) := by
    intro entry projected key found stored
    rcases get_of_get_evictOldest stored with rfl | held
    · exact projected
    · exact sound key found held
  simp only [StopProjectionCache.positions]
  split
  · exact ⟨_, get_evictOldest, rfl, renewed _ ⟨stops, rfl, rfl⟩⟩
  · rename_i existing held
    split
    · rename_i same
      obtain ⟨rfl, keys, rfl⟩ := same
      obtain ⟨other, other_keys, projected⟩ := sound routeKey existing held
      have stops_eq : other = stops :=
        List.map_injective_iff.mpr stopProjectionKey_injective
          (other_keys.symm.trans keys)
      rw [stops_eq] at projected
      exact ⟨existing, held, projected, sound⟩
    · exact ⟨_, get_evictOldest, rfl, renewed _ ⟨stops, rfl, rfl⟩⟩

theorem sound_of_steps
    {allowed : StopProjectionCache R Path → CacheCall R Path → Prop}
    (steps : System.Steps (StopProjectionCache.step geometry points) allowed
      .empty cache) : Sound geometry points cache := by
  apply steps.invariant
  · intro routeKey entry stored
    cases stored
  · intro state call next sound _ taken
    cases call with
    | positions routeKey path stops firstStopIndex =>
      cases taken
      obtain ⟨_, _, _, kept⟩ :=
        positions_spec sound routeKey path stops firstStopIndex
      exact kept
    | clear =>
      cases taken
      intro routeKey entry stored
      cases stored

end Cache

/-! ## Legs for all stops -/

section Complete

variable {path : List (LatLng R)} {stops : List (LatLng R)}
  {legs : List (Nat × List (LatLng R))}

end Complete

/-! ## Positions along the legs -/

section Positions

variable {stops : List (EtaStopPoint R)} {legs : List (Nat × List (LatLng R))}

def legLength (geometry : Geometry R) (legs : List (Nat × List (LatLng R)))
    (stopIndex : Nat) : R :=
  polylineLength geometry ((legs.lookup stopIndex).getD [])

def travelled (geometry : Geometry R) (legs : List (Nat × List (LatLng R)))
    (first : Nat) : Nat → R
  | 0 => 0
  | count + 1 =>
    travelled geometry legs first count +
      legLength geometry legs (first + count)

structure PlacedUpTo (geometry : Geometry R) (stops : List (EtaStopPoint R))
    (legs : List (Nat × List (LatLng R))) (first count : Nat)
    (placed : PlacedLegs R) : Prop where
  distance : placed.distance = travelled geometry legs first count
  positions : ∀ index stop, index < count →
    stops[first + index]? = some stop →
    placed.positions.get (stopProjectionKey stop) =
      some (some (travelled geometry legs first (index + 1)))
  offsets : ∀ index, index < count →
    placed.offsets.get (first + index) =
      some (travelled geometry legs first index)

omit [Field R] [LinearOrder R] in
theorem id_ne_of_lt (distinct : (stops.map EtaStopPoint.id).Nodup)
    {index later : Nat} {stop other : EtaStopPoint R} (before : index < later)
    (here : stops[index]? = some stop) (there : stops[later]? = some other) :
    stop.id ≠ other.id := by
  obtain ⟨inRange, rfl⟩ := List.getElem?_eq_some_iff.mp here
  obtain ⟨later_inRange, rfl⟩ := List.getElem?_eq_some_iff.mp there
  have pairwise := List.pairwise_iff_getElem.mp
    (List.pairwise_map.mp distinct)
  exact pairwise index later inRange later_inRange before

theorem PlacedUpTo.next (distinct : (stops.map EtaStopPoint.id).Nodup)
    {first count : Nat} {placed : PlacedLegs R}
    (upTo : PlacedUpTo geometry stops legs first count placed) :
    PlacedUpTo geometry stops legs first (count + 1)
      (placeLeg geometry stops legs placed (first + count)) := by
  have distance : placed.distance +
      polylineLength geometry ((legs.lookup (first + count)).getD []) =
        travelled geometry legs first (count + 1) := by
    rw [upTo.distance]
    rfl
  constructor
  · exact distance
  · intro index stop bound here
    simp only [placeLeg, distance]
    rcases Nat.lt_succ_iff_lt_or_eq.mp bound with before | rfl
    · have kept := upTo.positions index stop before here
      cases there : stops[first + count]? with
      | none => exact kept
      | some other =>
        rw [Option.elim_some, OrderedMap.get_set_of_ne]
        · exact kept
        · intro same
          exact id_ne_of_lt distinct (Nat.add_lt_add_left before first)
            here there (congrArg Prod.fst same)
    · rw [here, Option.elim_some]
      exact OrderedMap.get_set_self
  · intro index bound
    simp only [placeLeg]
    rcases Nat.lt_succ_iff_lt_or_eq.mp bound with before | rfl
    · rw [OrderedMap.get_set_of_ne (by omega)]
      exact upTo.offsets index before
    · rw [OrderedMap.get_set_self, upTo.distance]

end Positions

/-! ## The bus on its leg -/

section Bus

variable [IsStrictOrderedRing R]

end Bus

/-! ## The timestamps -/

variable {stop : EtaStopPoint R} {params : ArrivalParams R}

variable [IsStrictOrderedRing R]

variable {bus place : R}

/-- Positions and the bus are taken from the cache after the call, and the bus
is on the leg before its next stop. -/
structure Observed (geometry : Geometry R) {Path : Type} [DecidableEq Path]
    (points : Path → List (LatLng R)) (cache : StopProjectionCache R Path)
    (routeKey : String) (path : Path) (stops : List (EtaStopPoint R))
    (firstStopIndex : Int) (nextStopIndex : Nat) (params : ArrivalParams R) :
    Prop where
  remainingStops : params.remainingStops = stops.drop nextStopIndex
  stopPositions : params.stopPositions = some (cache.positions geometry points
    routeKey path stops firstStopIndex).1
  busPathPosition : ∃ position, params.busPathPosition = some (some position) ∧
    (cache.positions geometry points routeKey path stops
      firstStopIndex).2.busPosition geometry points routeKey params.busPoint
        params.heading nextStopIndex = some position

end Eki.PassengerMap
