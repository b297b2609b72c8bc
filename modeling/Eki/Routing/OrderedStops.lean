import Mathlib.Algebra.Order.Ring.Int
import Mathlib.Data.List.Induction
import Eki.Routing.RouteSegment

/-!
# The placement of the stops is optimal

Each row of the table holds, for every vertex, the cost of the best placement
that ends there, and the choices lead back along it.
-/

namespace Eki.Segments

open Placement

variable {R : Type} [CommRing R] [LinearOrder R]

def vertexCost (coordinates : List (LatLng R)) (stop : LatLng R)
    (index : Nat) : R :=
  (coordinates[index]?).elim 0 fun vertex => squaredDistance vertex stop

variable {vertex : LatLng R} {index : Nat}

omit [LinearOrder R] in
theorem vertexCost_of_getElem? {coordinates : List (LatLng R)}
    {stop : LatLng R} (found : coordinates[index]? = some vertex) :
    vertexCost coordinates stop index = squaredDistance vertex stop := by
  unfold vertexCost
  rw [found]
  rfl

/-! ## One row -/

theorem length_placeFrom (previousCost : Option (List (WithTop R)))
    (stop : LatLng R) (coordinates : List (LatLng R)) (index : Nat)
    (prefixCost : WithTop R) (prefixIndex : Option Nat) :
    (placeFrom previousCost stop index prefixCost prefixIndex
      coordinates).length = coordinates.length := by
  induction coordinates generalizing index prefixCost prefixIndex with
  | nil => rfl
  | cons vertex rest induction =>
    simp only [placeFrom, List.length_cons]
    rw [induction]

theorem placeFrom_first (stop : LatLng R) (coordinates : List (LatLng R))
    (index offset : Nat) (found : coordinates[offset]? = some vertex) :
    (placeFrom none stop index 0 none coordinates)[offset]? =
      some (((squaredDistance vertex stop : R) : WithTop R), none) := by
  induction coordinates generalizing index offset with
  | nil => cases found
  | cons first rest induction =>
    simp only [placeFrom, Option.bind_none, add_zero]
    cases offset with
    | zero =>
      cases found
      rfl
    | succ offset => exact induction (index + 1) offset found

inductive LeastSoFar (value : Nat → R) :
    Nat → WithTop R → Option Nat → Prop where
  | none : LeastSoFar value 0 ⊤ none
  | found {index : Nat} (chosen : Nat) (before : chosen < index)
      (least : ∀ other, other < index → value chosen ≤ value other) :
      LeastSoFar value index (value chosen) (some chosen)

omit [CommRing R] in
theorem LeastSoFar.next {value : Nat → R} {index : Nat}
    {prefixCost : WithTop R} {prefixIndex : Option Nat}
    (soFar : LeastSoFar value index prefixCost prefixIndex) :
    ∃ chosen, chosen ≤ index ∧
      (∀ other, other ≤ index → value chosen ≤ value other) ∧
      (if (value index : WithTop R) < prefixCost then
          ((value index : WithTop R), some index)
        else (prefixCost, prefixIndex)) =
        ((value chosen : WithTop R), some chosen) := by
  cases soFar with
  | none =>
    refine ⟨0, Nat.le_refl 0, ?_, ?_⟩
    · intro other bound
      rw [Nat.le_zero.mp bound]
    · rw [if_pos (WithTop.coe_lt_top (value 0))]
  | found chosen before least =>
    by_cases less : value index < value chosen
    · refine ⟨index, Nat.le_refl index, ?_, ?_⟩
      · intro other bound
        rcases Nat.lt_or_eq_of_le bound with earlier | same
        · exact le_trans (le_of_lt less) (least other earlier)
        · rw [same]
      · rw [if_pos (WithTop.coe_lt_coe.mpr less)]
    · refine ⟨chosen, Nat.le_of_lt before, ?_, ?_⟩
      · intro other bound
        rcases Nat.lt_or_eq_of_le bound with earlier | same
        · exact least other earlier
        · rw [same]
          exact not_lt.mp less
      · rw [if_neg fun smaller => less (WithTop.coe_lt_coe.mp smaller)]

theorem placeFrom_next (value : Nat → R) {costs : List (WithTop R)}
    (stop : LatLng R) (coordinates : List (LatLng R)) (index : Nat)
    (prefixCost : WithTop R) (prefixIndex : Option Nat)
    (known : ∀ offset, offset < coordinates.length →
      costs[index + offset]? = some (value (index + offset) : WithTop R))
    (soFar : LeastSoFar value index prefixCost prefixIndex) (offset : Nat)
    (found : coordinates[offset]? = some vertex) :
    ∃ chosen, chosen ≤ index + offset ∧
      (∀ other, other ≤ index + offset → value chosen ≤ value other) ∧
      (placeFrom (some costs) stop index prefixCost prefixIndex
          coordinates)[offset]? =
        some (((squaredDistance vertex stop + value chosen : R) : WithTop R),
          some chosen) := by
  induction coordinates generalizing index prefixCost prefixIndex offset with
  | nil => cases found
  | cons first rest induction =>
    have here : costs[index]? = some (value index : WithTop R) :=
      known 0 (Nat.succ_pos _)
    obtain ⟨chosen, bound, least, taken⟩ := soFar.next
    simp only [placeFrom, Option.bind_some, here, taken]
    cases offset with
    | zero =>
      cases found
      refine ⟨chosen, bound, least, ?_⟩
      rw [List.getElem?_cons_zero, WithTop.coe_add]
    | succ offset =>
      have later := induction (index + 1) (value chosen) (some chosen)
        (by
          intro offset within
          have next := known (offset + 1) (Nat.succ_lt_succ within)
          rw [Nat.add_right_comm, Nat.add_assoc]
          exact next)
        (.found chosen (Nat.lt_succ_of_le bound) (by
          intro other earlier
          exact least other (Nat.le_of_lt_succ earlier)))
        offset found
      rw [List.getElem?_cons_succ]
      rw [Nat.add_right_comm, Nat.add_assoc] at later
      exact later

/-! ## The table -/

variable {coordinates : List (LatLng R)} {stops : List (LatLng R)}

/-- The last row, with the way back from each of its vertices. -/
structure Table (coordinates stops : List (LatLng R))
    (choices : List (List (Option Nat))) (costs : List (WithTop R)) :
    Prop where
  length_eq : costs.length = coordinates.length
  priced : ∀ index, index < coordinates.length →
    costs[index]? =
      some ((total (vertexCost coordinates) stops
        (backTrace choices index) : R) : WithTop R)
  best : ∀ index, index < coordinates.length →
    Best (vertexCost coordinates) coordinates.length stops
      (backTrace choices index) index

omit [CommRing R] [LinearOrder R] in
theorem getD_of_getElem? {choice : List (Option Nat)} {found : Option Nat}
    (known : choice[index]? = some found) :
    choice.getD index none = found := by
  rw [List.getD_eq_getElem?_getD, known]
  rfl

theorem placeStops_concat (coordinates front : List (LatLng R))
    (stop : LatLng R) :
    placeStops coordinates (front ++ [stop]) =
      (((placeStop coordinates (placeStops coordinates front).2 stop).map
          Prod.snd) :: (placeStops coordinates front).1,
        some ((placeStop coordinates (placeStops coordinates front).2
          stop).map Prod.fst)) := by
  unfold placeStops
  rw [List.foldl_append]
  rfl

theorem table_first (coordinates : List (LatLng R)) (stop : LatLng R) :
    Table coordinates [stop]
      [(placeStop coordinates none stop).map Prod.snd]
      ((placeStop coordinates none stop).map Prod.fst) := by
  have row : ∀ (index : Nat) vertex, coordinates[index]? = some vertex →
      (placeStop coordinates none stop)[index]? =
        some (((squaredDistance vertex stop : R) : WithTop R), none) := by
    intro index vertex found
    exact placeFrom_first stop coordinates 0 index found
  constructor
  · rw [List.length_map]
    exact length_placeFrom none stop coordinates 0 0 none
  · intro index bound
    have found := List.getElem?_eq_getElem bound
    rw [List.getElem?_map, row index _ found]
    simp only [backTrace, List.nil_append, total, add_zero,
      vertexCost_of_getElem? found]
    rfl
  · intro index bound
    exact .first bound

variable [IsStrictOrderedRing R]

theorem Table.next {choices : List (List (Option Nat))}
    {costs : List (WithTop R)} (table : Table coordinates stops choices costs)
    (some_stops : stops ≠ []) (stop : LatLng R) :
    Table coordinates (stops ++ [stop])
      ((placeStop coordinates (some costs) stop).map Prod.snd :: choices)
      ((placeStop coordinates (some costs) stop).map Prod.fst) := by
  have row : ∀ (index : Nat) vertex, coordinates[index]? = some vertex →
      ∃ chosen, chosen ≤ index ∧
        (∀ other, other ≤ index →
          total (vertexCost coordinates) stops (backTrace choices chosen) ≤
            total (vertexCost coordinates) stops (backTrace choices other)) ∧
        (placeStop coordinates (some costs) stop)[index]? =
          some (((squaredDistance vertex stop +
            total (vertexCost coordinates) stops
              (backTrace choices chosen) : R) : WithTop R), some chosen) := by
    intro index vertex found
    have known : ∀ offset, offset < coordinates.length →
        costs[0 + offset]? =
          some ((total (vertexCost coordinates) stops
            (backTrace choices (0 + offset)) : R) : WithTop R) := by
      intro offset within
      rw [Nat.zero_add]
      exact table.priced offset within
    have placed := placeFrom_next
      (fun index => total (vertexCost coordinates) stops
        (backTrace choices index))
      stop coordinates 0 ⊤ none known .none index found
    rw [Nat.zero_add] at placed
    exact placed
  -- From a vertex the way leads to the least of the vertices up to it.
  have traced : ∀ index, index < coordinates.length →
      ∃ chosen, chosen ≤ index ∧
        (∀ other, other ≤ index →
          total (vertexCost coordinates) stops (backTrace choices chosen) ≤
            total (vertexCost coordinates) stops (backTrace choices other)) ∧
        backTrace
            ((placeStop coordinates (some costs) stop).map Prod.snd :: choices)
            index = backTrace choices chosen ++ [index] := by
    intro index bound
    have found := List.getElem?_eq_getElem bound
    obtain ⟨chosen, before, least, placed⟩ := row index _ found
    refine ⟨chosen, before, least, ?_⟩
    have choice : ((placeStop coordinates (some costs) stop).map
        Prod.snd)[index]? = some (some chosen) := by
      rw [List.getElem?_map, placed]
      rfl
    simp only [backTrace, getD_of_getElem? choice, Option.getD_some]
  constructor
  · rw [List.length_map]
    exact length_placeFrom (some costs) stop coordinates 0 ⊤ none
  · intro index bound
    have found := List.getElem?_eq_getElem bound
    obtain ⟨chosen, before, least, placed⟩ := row index _ found
    obtain ⟨other, before', least', way⟩ := traced index bound
    have own := table.best other (Nat.lt_of_le_of_lt before' bound)
    have same := le_antisymm (least other before') (least' chosen before)
    rw [List.getElem?_map, placed, way,
      total_concat own.placed.length_eq, same, ← vertexCost_of_getElem? found,
      add_comm]
    rfl
  · intro index bound
    obtain ⟨chosen, before, least, way⟩ := traced index bound
    rw [way]
    apply Best.next some_stops bound before
    · intro other within
      exact table.best other (Nat.lt_of_le_of_lt within bound)
    · exact least

theorem exists_table (coordinates : List (LatLng R)) {stops : List (LatLng R)}
    (some_stops : stops ≠ []) :
    ∃ choices costs, placeStops coordinates stops = (choices, some costs) ∧
      Table coordinates stops choices costs := by
  induction stops using List.reverseRecOn with
  | nil => exact absurd rfl some_stops
  | append_singleton front stop induction =>
    rw [placeStops_concat]
    cases front with
    | nil => exact ⟨_, _, rfl, table_first coordinates stop⟩
    | cons first rest =>
      obtain ⟨choices, costs, placed, table⟩ :=
        induction (List.cons_ne_nil _ _)
      rw [placed]
      exact ⟨_, _, rfl, table.next (List.cons_ne_nil _ _) stop⟩

/-! ## The terminal -/

omit [IsStrictOrderedRing R] [CommRing R] in
theorem latestLeast_among (costs : List (WithTop R)) (count : Nat) :
    let chosen := (List.range' 1 count).foldl
      (fun index candidate =>
        if costs.getD candidate ⊤ ≤ costs.getD index ⊤ then candidate
        else index) 0
    chosen ≤ count ∧
      (∀ index, index ≤ count → costs.getD chosen ⊤ ≤ costs.getD index ⊤) ∧
      (∀ index, index ≤ count →
        costs.getD index ⊤ ≤ costs.getD chosen ⊤ → index ≤ chosen) := by
  induction count with
  | zero =>
    refine ⟨Nat.le_refl 0, ?_, ?_⟩
    · intro index bound
      rw [Nat.le_zero.mp bound]
      exact le_refl _
    · intro index bound _
      exact bound
  | succ count induction =>
    simp only at induction ⊢
    obtain ⟨within, least, latest⟩ := induction
    rw [List.range'_1_concat, List.foldl_append]
    simp only [List.foldl_cons, List.foldl_nil, Nat.add_comm 1 count]
    split
    · rename_i smaller
      refine ⟨Nat.le_refl _, ?_, ?_⟩
      · intro index bound
        rcases Nat.lt_or_eq_of_le bound with earlier | same
        · exact le_trans smaller (least index (Nat.le_of_lt_succ earlier))
        · rw [same]
      · intro index bound _
        exact bound
    · rename_i larger
      refine ⟨Nat.le_succ_of_le within, ?_, ?_⟩
      · intro index bound
        rcases Nat.lt_or_eq_of_le bound with earlier | same
        · exact least index (Nat.le_of_lt_succ earlier)
        · rw [same]
          exact le_of_lt (not_le.mp larger)
      · intro index bound small
        rcases Nat.lt_or_eq_of_le bound with earlier | same
        · exact latest index (Nat.le_of_lt_succ earlier) small
        · rw [same] at small
          exact absurd small larger

theorem projectStopsInOrder_optimal (some_stops : stops ≠ [])
    (some_vertices : coordinates ≠ []) :
    Optimal (vertexCost coordinates) coordinates.length stops
      (projectStopsInOrder coordinates stops) := by
  obtain ⟨choices, costs, placed, table⟩ :=
    exists_table coordinates some_stops
  have positive : 0 < coordinates.length :=
    List.length_pos_iff.mpr some_vertices
  have price : ∀ index, index < coordinates.length →
      costs.getD index ⊤ =
        ((total (vertexCost coordinates) stops
          (backTrace choices index) : R) : WithTop R) := by
    intro index bound
    rw [List.getD_eq_getElem?_getD, table.priced index bound]
    rfl
  obtain ⟨within, least, latest⟩ :=
    latestLeast_among costs (costs.length - 1)
  have chosen_lt : latestLeast costs < coordinates.length := by
    have length := table.length_eq
    unfold latestLeast
    omega
  unfold projectStopsInOrder
  rw [placed]
  apply Optimal.of_best some_stops chosen_lt
  · intro index bound
    exact table.best index bound
  · intro index bound
    have length := table.length_eq
    have smaller := least index (by omega)
    rw [price index bound] at smaller
    have own := price (latestLeast costs) chosen_lt
    unfold latestLeast at own ⊢
    rw [own] at smaller
    exact WithTop.coe_le_coe.mp smaller
  · intro index bound small
    have length := table.length_eq
    apply latest index (by omega)
    have own := price (latestLeast costs) chosen_lt
    unfold latestLeast at own small
    rw [price index bound, own]
    exact WithTop.coe_le_coe.mpr small

/-! ## Segments -/

variable {α : Type} {first last : Nat}

omit [CommRing R] [LinearOrder R] [IsStrictOrderedRing R] in
theorem slice_ends {items : List α} (before : first ≤ last)
    (bound : last < items.length) :
    ((items.take (last + 1)).drop first).head? = items[first]? ∧
      ((items.take (last + 1)).drop first).getLast? = items[last]? := by
  have length : ((items.take (last + 1)).drop first).length =
      last + 1 - first := by
    rw [List.length_drop, List.length_take]
    omega
  constructor
  · rw [List.head?_eq_getElem?, List.getElem?_drop,
      List.getElem?_take_of_lt (by omega), Nat.add_zero]
  · rw [List.getLast?_eq_getElem?, length, List.getElem?_drop,
      List.getElem?_take_of_lt (by omega)]
    congr 1
    omega

omit [CommRing R] [LinearOrder R] [IsStrictOrderedRing R] in
theorem mem_slice {items : List α} {item : α} (after : first ≤ index)
    (before : index ≤ last) (found : items[index]? = some item) :
    item ∈ (items.take (last + 1)).drop first := by
  apply @List.mem_of_getElem? _ _ (index - first)
  rw [List.getElem?_drop, List.getElem?_take_of_lt (by omega)]
  rw [← found]
  congr 1
  omega

variable {T : Type} [DecidableEq T]

omit [CommRing R] [LinearOrder R] [IsStrictOrderedRing R] in
theorem getElem?_of_idxOf? {items : List T} {item : T}
    (found : items.idxOf? item = some index) : items[index]? = some item := by
  unfold List.idxOf? at found
  obtain ⟨bound, same, -⟩ := List.findIdx?_eq_some_iff_getElem.mp found
  rw [List.getElem?_eq_getElem bound, eq_of_beq same]

structure Between (location : T → LatLng R) (fullCoordinates : List (LatLng R))
    (stops : List T) (start stop : T) (via : Option T)
    (segment : RouteSegment R T) : Prop where
  positions : ∃ startPosition endPosition startIndex endIndex : Nat,
    startPosition < endPosition ∧
      stops[startPosition]? = some start ∧ stops[endPosition]? = some stop ∧
      segment.stops = (stops.take (endPosition + 1)).drop startPosition ∧
      (projectStopsInOrder fullCoordinates
        (stops.map location))[startPosition]? = some startIndex ∧
      (projectStopsInOrder fullCoordinates
        (stops.map location))[endPosition]? = some endIndex ∧
      startIndex < endIndex ∧ endIndex < fullCoordinates.length ∧
      segment.coordinates =
        (fullCoordinates.take (endIndex + 1)).drop startIndex
  coordinates_ne : segment.coordinates ≠ []
  starts : segment.stops.head? = some start
  ends : segment.stops.getLast? = some stop
  passes : ∀ passed, via = some passed → passed ∈ segment.stops

theorem buildRouteSegment_between {location : T → LatLng R}
    {fullCoordinates : List (LatLng R)} {stops : List T} {start stop : T}
    {via : Option T} {segment : RouteSegment R T}
    (built : buildRouteSegment location fullCoordinates stops start stop via =
      .ok segment) :
    Between location fullCoordinates stops start stop via segment := by
  unfold buildRouteSegment at built
  split at built
  · cases built
  rename_i enough
  split at built
  case h_2 => cases built
  rename_i startPosition endPosition starts ends
  split at built
  · cases built
  rename_i ordered
  split at built
  · cases built
  rename_i passing
  simp only at built
  split at built
  · cases built
  rename_i apart
  cases built
  have ordered : startPosition < endPosition := Nat.lt_of_not_le ordered
  have start_found := getElem?_of_idxOf? starts
  have end_found := getElem?_of_idxOf? ends
  have bound : endPosition < stops.length :=
    (List.getElem?_eq_some_iff.mp end_found).1
  have some_stops : stops.map location ≠ [] := by
    intro empty
    rw [List.map_eq_nil_iff.mp empty] at bound
    cases bound
  have some_vertices : fullCoordinates ≠ [] := by
    intro empty
    rw [empty] at enough
    exact enough Nat.zero_lt_two
  have placed :=
    (projectStopsInOrder_optimal some_stops some_vertices).placed
  have known : ∀ position, position < stops.length →
      (projectStopsInOrder fullCoordinates (stops.map location))[position]? =
        some ((projectStopsInOrder fullCoordinates
          (stops.map location)).getD position 0) := by
    intro position within
    have length := placed.length_eq
    rw [List.length_map] at length
    rw [List.getD_eq_getElem?_getD,
      List.getElem?_eq_getElem (by omega), Option.getD_some]
  have before := Nat.lt_of_not_le apart
  have inside := placed.inRange _ (List.mem_of_getElem? (known _ bound))
  obtain ⟨first, last⟩ := slice_ends (Nat.le_of_lt ordered) bound
  constructor
  · exact ⟨startPosition, endPosition, _, _, ordered, start_found, end_found,
      rfl, known _ (Nat.lt_trans ordered bound), known _ bound, before, inside,
      rfl⟩
  · intro empty
    have head := (slice_ends (Nat.le_of_lt before) inside).1
    simp only at empty
    rw [empty, List.getElem?_eq_getElem (Nat.lt_trans before inside)] at head
    cases head
  · exact first.trans start_found
  · exact last.trans end_found
  · intro passed same
    rw [same, Option.any_some] at passing
    cases where_ : stops.idxOf? passed with
    | none =>
      rw [where_] at passing
      exact absurd rfl passing
    | some viaPosition =>
      rw [where_, Option.all_some] at passing
      simp only [Bool.or_eq_true, decide_eq_true_eq, not_or] at passing
      exact mem_slice (by omega) (by omega) (getElem?_of_idxOf? where_)

/-- The stops of any path of two points or more are placed optimally, and a
segment is either refused or the forward slice between its stops. -/
theorem segments_of_optimal_placement (location : T → LatLng R)
    (fullCoordinates : List (LatLng R)) (stops : List T)
    (enough : 2 ≤ fullCoordinates.length) (some_stops : stops ≠ []) :
    Optimal (vertexCost fullCoordinates) fullCoordinates.length
        (stops.map location)
        (projectStopsInOrder fullCoordinates (stops.map location)) ∧
      ∀ start stop via segment,
        buildRouteSegment location fullCoordinates stops start stop via =
          .ok segment →
        Between location fullCoordinates stops start stop via segment := by
  constructor
  · apply projectStopsInOrder_optimal
    · intro empty
      exact some_stops (List.map_eq_nil_iff.mp empty)
    · intro empty
      rw [empty] at enough
      cases enough
  · intro start stop via segment built
    exact buildRouteSegment_between built

/-- A point of a straight road. -/
def onRoad (lat : ℤ) : LatLng ℤ :=
  { lat
    lng := 0 }

/-- A route out and back, whose terminal is the second visit of its first
vertex. -/
theorem segments_of_out_and_back :
    Optimal (vertexCost ([0, 1, 2, 1, 0].map onRoad)) 5
        ([0, 2, 0].map onRoad) [0, 2, 4] ∧
      (buildRouteSegment (fun stop : Fin 3 => onRoad ([0, 2, 0].getD stop 0))
        ([0, 1, 2, 1, 0].map onRoad) [0, 1, 2] 1 2 none).toOption.map
          (fun segment => segment.coordinates.map LatLng.lat) =
        some [2, 1, 0] := by
  have placed := (segments_of_optimal_placement
    (fun stop : Fin 3 => onRoad ([0, 2, 0].getD stop 0))
    ([0, 1, 2, 1, 0].map onRoad) [0, 1, 2] (by decide) (by decide)).1
  refine ⟨?_, by decide +kernel⟩
  have indices : projectStopsInOrder ([0, 1, 2, 1, 0].map onRoad)
      ([0, 1, 2].map fun stop : Fin 3 => onRoad ([0, 2, 0].getD stop 0)) =
        [0, 2, 4] := by
    decide +kernel
  rw [indices] at placed
  exact placed

end Eki.Segments
