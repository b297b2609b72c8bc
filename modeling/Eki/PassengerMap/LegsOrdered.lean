import Eki.PassengerMap.LegBoundaries

/-!
# The legs in their order

The legs of a route are what lies between the boundaries that are chosen.
-/

namespace Eki.PassengerMap

open Segments (LatLng)
open RouteMatching (Geometry vertex alongRoute)

variable {R : Type} [Field R] [LinearOrder R]

/-- One projection for each stop from the first one on, each more than a
centimetre after the one before it. -/
structure Chosen (geometry : Geometry R) (path stops : List (LatLng R))
    (firstStopIndex : Nat) (choice : List (Snap R)) : Prop where
  projections : List.Forall₂ (fun snap snaps => snap ∈ snaps) choice
    ((List.range' firstStopIndex (stops.length - firstStopIndex)).map
      (snapsOf geometry path stops firstStopIndex))
  separated : choice.IsChain Separated

def score (choice : List (Snap R)) : R :=
  (choice.map Snap.cost).sum

structure Pinned (geometry : Geometry R) (path : List (LatLng R))
    (firstStopIndex : Nat) (choice : List (Snap R)) : Prop where
  origin : firstStopIndex = 0 → ∃ snap, choice.head? = some snap ∧
    snap.distance = 0 ∧ snap.point = vertex path 0
  destination : ∃ snap, choice.getLast? = some snap ∧
    snap.distance = (polylineDistances geometry path).getD (path.length - 1) 0 ∧
    snap.point = vertex path (path.length - 1)

/-- Two boundary points, and the vertices that lie more than a centimetre
inside of them. -/
def Cut (geometry : Geometry R) (path : List (LatLng R))
    (start stop : R × LatLng R) (leg : List (LatLng R)) : Prop :=
  ∃ indices : List Nat,
    leg = start.2 :: indices.map (vertex path) ++ [stop.2] ∧
    indices.Pairwise (· < ·) ∧
    ∀ index, index ∈ indices ↔ index < path.length ∧
      start.1 + separationM < (polylineDistances geometry path).getD index 0 ∧
      (polylineDistances geometry path).getD index 0 < stop.1 - separationM

/-- A leg begins at the boundary before its stop, or at the start of the path
where its stop is the first one. -/
def BeginsAt (path : List (LatLng R)) (firstStopIndex : Nat)
    (choice : List (Snap R)) (stopIndex : Nat) (start : R × LatLng R) : Prop :=
  (stopIndex = firstStopIndex ∧ start = (0, vertex path 0)) ∨
    (firstStopIndex < stopIndex ∧
      ∃ snap, choice[stopIndex - firstStopIndex - 1]? = some snap ∧
        start = (snap.distance, snap.point))

structure Divided (geometry : Geometry R) (path stops : List (LatLng R))
    (firstStopIndex : Nat) (choice : List (Snap R))
    (legs : List (Nat × List (LatLng R))) : Prop where
  keys : (legs.map Prod.fst).Pairwise (· < ·)
  each : ∀ stopIndex leg, (stopIndex, leg) ∈ legs → ∃ start stop,
    BeginsAt path firstStopIndex choice stopIndex start ∧
    choice[stopIndex - firstStopIndex]? = some stop ∧
    Cut geometry path start (stop.distance, stop.point) leg
  every : ∀ stopIndex, firstStopIndex < stopIndex → stopIndex < stops.length →
    ∃ leg, (stopIndex, leg) ∈ legs
  shared : ∀ stopIndex leg next, (stopIndex, leg) ∈ legs →
    (stopIndex + 1, next) ∈ legs → leg.getLast? = next.head?

/-! ## The projections of a stop -/

section Projections

variable {geometry : Geometry R} {path stops : List (LatLng R)}

theorem polylineDistances_zero :
    (polylineDistances geometry path).getD 0 0 = 0 := by
  cases path with
  | nil => rfl
  | cons start rest =>
    cases rest with
    | nil | cons => rfl

variable [IsStrictOrderedRing R]

variable {firstStopIndex : Nat} {snap : Snap R}

theorem snapAt_between {index segment : Nat}
    (inRange : segment < path.length - 1)
    (found : snapAt geometry path stops firstStopIndex index segment =
      some snap) :
    (polylineDistances geometry path).getD segment 0 ≤ snap.distance ∧
      snap.distance ≤ (polylineDistances geometry path).getD (segment + 1) 0 := by
  simp only [snapAt] at found
  split at found
  · cases found
  · split at found
    · split at found
      · cases found
        split
        · exact alongRoute_between inRange (le_refl 0) zero_le_one
        · exact alongRoute_between inRange zero_le_one (le_refl 1)
      · cases found
    · obtain ⟨result, snapped, rfl⟩ := Option.map_eq_some_iff.mp found
      have on := snapToPolyline_onPath snapped
      exact alongRoute_between inRange on.nonneg on.atMost

theorem snapsOf_ordered (firstStopIndex index : Nat) :
    (snapsOf geometry path stops firstStopIndex index).Pairwise
      fun snap later => snap.distance ≤ later.distance := by
  rw [snapsOf, List.pairwise_filterMap]
  apply List.Pairwise.imp_of_mem _ List.pairwise_lt_range
  intro segment later member later_member order snap found next next_found
  have low := List.mem_range.mp member
  have high := List.mem_range.mp later_member
  calc
    snap.distance
      ≤ (polylineDistances geometry path).getD (segment + 1) 0 :=
        (snapAt_between low found).2
    _ ≤ (polylineDistances geometry path).getD later 0 :=
        polylineDistances_mono path order (by omega)
    _ ≤ next.distance := (snapAt_between high next_found).1

omit [IsStrictOrderedRing R] in
theorem snapsOf_origin (member : snap ∈ snapsOf geometry path stops 0 0) :
    snap.distance = 0 ∧ snap.point = vertex path 0 := by
  obtain ⟨segment, _, found⟩ := List.mem_filterMap.mp member
  simp only [snapAt] at found
  split at found
  · cases found
  · rename_i admitted
    have first : segment = 0 := by
      by_contra other
      simp [other] at admitted
    simp only [decide_true, Bool.and_self, if_true] at found
    split at found
    · cases found
      refine ⟨?_, rfl⟩
      rw [first, alongRoute, polylineDistances_zero, zero_mul, add_zero]
    · cases found

omit [IsStrictOrderedRing R] in
theorem snapsOf_destination (some_path : 2 ≤ path.length)
    (notOrigin : ¬ (firstStopIndex = 0 ∧ stops.length - 1 = 0))
    (member : snap ∈
      snapsOf geometry path stops firstStopIndex (stops.length - 1)) :
    snap.distance =
        (polylineDistances geometry path).getD (path.length - 1) 0 ∧
      snap.point = vertex path (path.length - 1) := by
  obtain ⟨segment, _, found⟩ := List.mem_filterMap.mp member
  have inside : (decide (firstStopIndex = 0) &&
      decide (stops.length - 1 = 0)) = false := by
    rw [← Bool.decide_and, decide_eq_false notOrigin]
  simp only [snapAt, inside] at found
  split at found
  · cases found
  · rename_i admitted
    have last : segment = path.length - 2 := by
      by_contra other
      simp [other] at admitted
    simp only [decide_true, Bool.false_eq_true, if_false, if_true] at found
    split at found
    · cases found
      refine ⟨?_, rfl⟩
      have next : path.length - 2 + 1 = path.length - 1 := by omega
      rw [last, alongRoute, next, one_mul, add_sub_cancel]
    · cases found

open Layers in
omit [IsStrictOrderedRing R] in
theorem chosen_iff {choice : List (Snap R)}
    (inRange : firstStopIndex < stops.length) :
    Chosen geometry path stops firstStopIndex choice ↔
      Chain Separated
        (layersOf (snapsOf geometry path stops firstStopIndex) firstStopIndex
          (stops.length - firstStopIndex)) choice.reverse := by
  have some_layer :
      layersOf (snapsOf geometry path stops firstStopIndex) firstStopIndex
        (stops.length - firstStopIndex) ≠ [] := by
    simp only [layersOf, ne_eq, List.reverse_eq_nil_iff, List.map_eq_nil_iff,
      List.range'_eq_nil_iff]
    omega
  rw [Layers.chain_iff, layersOf, List.forall₂_reverse_iff,
    List.isChain_reverse]
  constructor
  · intro chosen
    exact ⟨some_layer, chosen.projections, chosen.separated⟩
  · rintro ⟨_, projections, separated⟩
    exact ⟨projections, separated⟩

end Projections

/-! ## The legs -/

section Legs

variable {geometry : Geometry R} {path stops : List (LatLng R)}
  {boundaries : List (Projection R)} {choice : List (Snap R)}

theorem inside_eq (start stop : R) :
    ∃ indices : List Nat,
      inside geometry path start stop = indices.map (vertex path) ∧
      indices.Pairwise (· < ·) ∧
      ∀ index, index ∈ indices ↔ index < path.length ∧
        start + separationM < (polylineDistances geometry path).getD index 0 ∧
        (polylineDistances geometry path).getD index 0 <
          stop - separationM := by
  let kept : LatLng R × Nat → Bool := fun entry =>
    decide ((polylineDistances geometry path).getD entry.2 0 >
      start + separationM) &&
    decide ((polylineDistances geometry path).getD entry.2 0 <
      stop - separationM)
  refine ⟨(path.zipIdx.filter kept).map Prod.snd, ?_, ?_, ?_⟩
  · rw [List.map_map]
    apply List.map_congr_left
    intro entry member
    have held := List.mem_zipIdx_iff_getElem?.mp (List.mem_filter.mp member).1
    simp only [Function.comp_apply, vertex, List.getD_eq_getElem?_getD, held]
    rfl
  · have indices : (path.zipIdx.map Prod.snd).Pairwise (· < ·) := by
      rw [List.zipIdx_map_snd]
      exact List.pairwise_lt_range'
    exact indices.sublist (List.filter_sublist.map Prod.snd)
  · intro index
    constructor
    · intro member
      obtain ⟨⟨point, position⟩, held, rfl⟩ := List.mem_map.mp member
      obtain ⟨listed, between⟩ := List.mem_filter.mp held
      have found := List.mem_zipIdx_iff_getElem?.mp listed
      obtain ⟨inRange, _⟩ := List.getElem?_eq_some_iff.mp found
      simp only [kept, Bool.and_eq_true, decide_eq_true_eq] at between
      exact ⟨inRange, between.1, between.2⟩
    · rintro ⟨inRange, after, before⟩
      apply List.mem_map.mpr
      refine ⟨(path[index], index), List.mem_filter.mpr ⟨?_, ?_⟩, rfl⟩
      · exact List.mem_zipIdx_iff_getElem?.mpr
          (List.getElem?_eq_getElem inRange)
      · simp only [kept, Bool.and_eq_true, decide_eq_true_eq]
        exact ⟨after, before⟩

def Matches (boundaries : List (Projection R)) (choice : List (Snap R)) :
    Prop :=
  boundaries.map (fun boundary => (boundary.distance, boundary.point)) =
    choice.map fun snap => (snap.distance, snap.point)

omit [Field R] [LinearOrder R] in
theorem Matches.getElem? (same : Matches boundaries choice) (index : Nat) :
    boundaries[index]?.map (fun boundary =>
        (boundary.distance, boundary.point)) =
      choice[index]?.map fun snap => (snap.distance, snap.point) := by
  rw [← List.getElem?_map, ← List.getElem?_map, same]

theorem legOf_eq (same : Matches boundaries choice)
    {firstStopIndex stopIndex : Nat} {start : R × LatLng R} {stop : Snap R}
    (begins : BeginsAt path firstStopIndex choice stopIndex start)
    (ends : choice[stopIndex - firstStopIndex]? = some stop) :
    legOf geometry path boundaries firstStopIndex stopIndex =
      if stop.distance - start.1 < separationM then none
      else
        some (start.2 :: inside geometry path start.1 stop.distance ++
          [stop.point]) := by
  have started :
      (if stopIndex = firstStopIndex then some (0, vertex path 0)
        else
          boundaries[stopIndex - firstStopIndex - 1]?.map fun start =>
            (start.distance, start.point)) = some start := by
    rcases begins with ⟨first, rfl⟩ | ⟨after, snap, held, rfl⟩
    · rw [if_pos first]
    · rw [if_neg (Nat.ne_of_gt after), same.getElem?, held]
      rfl
  have ended := same.getElem? (stopIndex - firstStopIndex)
  rw [ends] at ended
  obtain ⟨boundary, held, place⟩ := Option.map_eq_some_iff.mp ended
  cases chosen_stop : stop
  simp only [legOf, started, held]
  simp only [chosen_stop, Prod.mk.injEq] at place
  rw [place.1, place.2]

omit [LinearOrder R] in
theorem exists_beginsAt {firstStopIndex stopIndex : Nat} {stop : Snap R}
    (reached : firstStopIndex ≤ stopIndex)
    (ends : choice[stopIndex - firstStopIndex]? = some stop) :
    ∃ start, BeginsAt path firstStopIndex choice stopIndex start := by
  rcases Nat.eq_or_lt_of_le reached with first | after
  · exact ⟨(0, vertex path 0), Or.inl ⟨first.symm, rfl⟩⟩
  · obtain ⟨inRange, _⟩ := List.getElem?_eq_some_iff.mp ends
    have before : stopIndex - firstStopIndex - 1 < choice.length := by omega
    exact ⟨_, Or.inr ⟨after, _, List.getElem?_eq_getElem before, rfl⟩⟩

def legsFrom (geometry : Geometry R) (path : List (LatLng R))
    (boundaries : List (Projection R)) (firstStopIndex count : Nat) :
    List (Nat × List (LatLng R)) :=
  (List.range' (max 1 firstStopIndex)
    (count - max 1 firstStopIndex)).filterMap fun stopIndex =>
      (legOf geometry path boundaries firstStopIndex stopIndex).map fun leg =>
        (stopIndex, leg)

variable {firstStopIndex count stopIndex : Nat} {leg : List (LatLng R)}

theorem mem_legsFrom :
    (stopIndex, leg) ∈ legsFrom geometry path boundaries firstStopIndex count ↔
      max 1 firstStopIndex ≤ stopIndex ∧ stopIndex < count ∧
        legOf geometry path boundaries firstStopIndex stopIndex =
          some leg := by
  simp only [legsFrom, List.mem_filterMap, List.mem_range'_1,
    Option.map_eq_some_iff, Prod.mk.injEq]
  constructor
  · rintro ⟨index, inRange, found, held, rfl, rfl⟩
    exact ⟨inRange.1, by omega, held⟩
  · rintro ⟨low, high, held⟩
    exact ⟨stopIndex, ⟨low, by omega⟩, leg, held, rfl, rfl⟩

theorem legsFrom_keys (firstStopIndex count : Nat) :
    ((legsFrom geometry path boundaries firstStopIndex count).map
      Prod.fst).Pairwise (· < ·) := by
  rw [List.pairwise_map, legsFrom, List.pairwise_filterMap]
  apply List.Pairwise.imp _ List.pairwise_lt_range'
  intro index later order leg held next next_held
  obtain ⟨_, _, rfl⟩ := Option.map_eq_some_iff.mp held
  obtain ⟨_, _, rfl⟩ := Option.map_eq_some_iff.mp next_held
  exact order

theorem legsFrom_each (same : Matches boundaries choice)
    (length : choice.length = count - firstStopIndex)
    (member : (stopIndex, leg) ∈
      legsFrom geometry path boundaries firstStopIndex count) :
    ∃ start stop, BeginsAt path firstStopIndex choice stopIndex start ∧
      choice[stopIndex - firstStopIndex]? = some stop ∧
      leg = start.2 :: inside geometry path start.1 stop.distance ++
        [stop.point] := by
  obtain ⟨low, high, held⟩ := mem_legsFrom.mp member
  have inRange : stopIndex - firstStopIndex < choice.length := by omega
  have ends := List.getElem?_eq_getElem inRange
  obtain ⟨start, begins⟩ := @exists_beginsAt R _ path choice firstStopIndex
    stopIndex _ (by omega) ends
  rw [legOf_eq same begins ends] at held
  split at held
  · cases held
  · cases held
    exact ⟨start, _, begins, ends, rfl⟩

variable [IsStrictOrderedRing R]

theorem divided_of_matches (same : Matches boundaries choice)
    (chosen : Chosen geometry path stops firstStopIndex choice) :
    Divided geometry path stops firstStopIndex choice
      (legsFrom geometry path boundaries firstStopIndex stops.length) := by
  have length : choice.length = stops.length - firstStopIndex := by
    have lengths := chosen.projections.length_eq
    rwa [List.length_map, List.length_range'] at lengths
  constructor
  · exact legsFrom_keys _ _
  · intro stopIndex leg member
    obtain ⟨start, stop, begins, ends, rfl⟩ :=
      legsFrom_each same length member
    obtain ⟨indices, kept, sorted, between⟩ :=
      @inside_eq R _ _ geometry path start.1 stop.distance
    refine ⟨start, stop, begins, ends, indices, ?_, sorted, between⟩
    rw [kept]
  · intro stopIndex after inRange
    have before : stopIndex - firstStopIndex - 1 < choice.length := by omega
    have here : stopIndex - firstStopIndex < choice.length := by omega
    have ends := List.getElem?_eq_getElem here
    have begins : BeginsAt path firstStopIndex choice stopIndex
        (choice[stopIndex - firstStopIndex - 1].distance,
          choice[stopIndex - firstStopIndex - 1].point) :=
      Or.inr ⟨after, _, List.getElem?_eq_getElem before, rfl⟩
    have next : stopIndex - firstStopIndex - 1 + 1 =
        stopIndex - firstStopIndex := by omega
    have separated := List.isChain_iff_getElem.mp chosen.separated
      (stopIndex - firstStopIndex - 1) (by omega)
    simp only [next, Separated] at separated
    have leg := @legOf_eq R _ _ geometry path boundaries choice same
      firstStopIndex stopIndex _ _ begins ends
    rw [if_neg (not_lt.mpr (le_of_lt (lt_sub_comm.mp separated)))] at leg
    have low : max 1 firstStopIndex ≤ stopIndex := by omega
    exact ⟨_, mem_legsFrom.mpr ⟨low, inRange, leg⟩⟩
  · intro stopIndex leg next member next_member
    obtain ⟨start, stop, _, ends, rfl⟩ := legsFrom_each same length member
    obtain ⟨next_start, next_stop, begins, _, rfl⟩ :=
      legsFrom_each same length next_member
    have low := (mem_legsFrom.mp member).1
    rw [List.getLast?_concat]
    rcases begins with ⟨first, _⟩ | ⟨_, snap, held, rfl⟩
    · omega
    · have index : stopIndex + 1 - firstStopIndex - 1 =
          stopIndex - firstStopIndex := by omega
      rw [index, ends] at held
      cases held
      rfl

end Legs

/-! ## The map of legs -/

variable [IsStrictOrderedRing R]

omit [IsStrictOrderedRing R] in
theorem pinned_of_chosen {geometry : Geometry R} {path stops : List (LatLng R)}
    {firstStopIndex : Nat} {choice : List (Snap R)}
    (some_path : 2 ≤ path.length) (some_stops : 2 ≤ stops.length)
    (inRange : firstStopIndex < stops.length)
    (chosen : Chosen geometry path stops firstStopIndex choice) :
    Pinned geometry path firstStopIndex choice := by
  have projections := List.forall₂_iff_get.mp chosen.projections
  simp only [List.length_map, List.length_range'] at projections
  obtain ⟨length, members⟩ := projections
  have own : ∀ index (bound : index < choice.length),
      choice[index] ∈ snapsOf geometry path stops firstStopIndex
        (firstStopIndex + index) := by
    intro index bound
    have member := members index bound (by omega)
    simpa using member
  constructor
  · intro origin
    subst origin
    have some_choice : 0 < choice.length := by omega
    have here := snapsOf_origin (own 0 some_choice)
    refine ⟨choice[0], ?_, here⟩
    rw [List.head?_eq_getElem?]
    exact List.getElem?_eq_getElem some_choice
  · have last : choice.length - 1 < choice.length := by omega
    have index : firstStopIndex + (choice.length - 1) = stops.length - 1 := by
      omega
    have member := own _ last
    rw [index] at member
    have here := snapsOf_destination some_path (by omega) member
    refine ⟨choice[choice.length - 1], ?_, here⟩
    rw [List.getLast?_eq_getElem?]
    exact List.getElem?_eq_getElem last

/-- There is no leg, and then there is no choice or too little to choose from,
or the legs divide the path at the choice that scores least. -/
theorem legs_ordered_and_optimal (geometry : Geometry R)
    (path stops : List (LatLng R)) (firstStopIndex : Option Int) :
    (routeLegPaths geometry path stops firstStopIndex = [] ∧
      ∀ first : Nat, firstStopIndex = some (first : Int) →
        2 ≤ path.length → 2 ≤ stops.length → first < stops.length →
        ∀ choice, ¬ Chosen geometry path stops first choice) ∨
    ∃ (first : Nat) (choice : List (Snap R)),
      firstStopIndex = some (first : Int) ∧
      Chosen geometry path stops first choice ∧
      (∀ other, Chosen geometry path stops first other →
        score choice ≤ score other) ∧
      Pinned geometry path first choice ∧
      Divided geometry path stops first choice
        (routeLegPaths geometry path stops firstStopIndex) := by
  cases firstStopIndex with
  | none =>
    refine Or.inl ⟨rfl, ?_⟩
    intro first none
    cases none
  | some firstStopIndex =>
    simp only [routeLegPaths]
    split
    · rename_i refused
      refine Or.inl ⟨rfl, ?_⟩
      intro first same some_path some_stops inRange
      cases same
      omega
    · rename_i valid
      simp only [not_or, Int.not_lt, ge_iff_le, Int.not_le] at valid
      obtain ⟨some_path, some_stops, nonneg, inRange⟩ := valid
      obtain ⟨first, rfl⟩ := Int.eq_ofNat_of_zero_le nonneg
      have bound : first < stops.length := by omega
      simp only [Int.toNat_natCast]
      rcases boundaries_cases
        (@snapsOf_ordered R _ _ geometry path stops _ first)
        (Nat.sub_pos_of_lt bound) rfl with
        ⟨missing, nothing⟩ | ⟨boundaries, chain, found, same, walked, least⟩
      · refine Or.inl ⟨?_, ?_⟩
        · rw [routeBoundaries, missing]
        · intro other same _ _ other_bound choice chosen
          cases same
          exact nothing _ ((chosen_iff bound).mp chosen)
      · have chosen : Chosen geometry path stops first chain.reverse := by
          rw [chosen_iff bound, List.reverse_reverse]
          exact walked
        refine Or.inr ⟨first, chain.reverse, rfl, chosen, ?_, ?_, ?_⟩
        · intro other other_chosen
          have cheap := least _ ((chosen_iff bound).mp other_chosen)
          rwa [List.map_reverse, List.sum_reverse, ← List.sum_reverse,
            ← List.map_reverse] at cheap
        · exact pinned_of_chosen (by omega) (by omega) bound chosen
        · rw [routeBoundaries, found]
          exact divided_of_matches same chosen

open RouteMatching (flatGround onRoad) in
/-- The road comes back past the stop between its ends. -/
theorem legs_of_return_road :
    ∃ path stops : List (LatLng ℚ), ∃ choice,
      (routeLegPaths flatGround path stops (some 0)).map Prod.fst = [1, 2] ∧
      Chosen flatGround path stops 0 choice ∧
      (∀ other, Chosen flatGround path stops 0 other →
        score choice ≤ score other) ∧
      Pinned flatGround path 0 choice ∧
      Divided flatGround path stops 0 choice
        (routeLegPaths flatGround path stops (some 0)) := by
  let path : List (LatLng ℚ) := [onRoad 0, onRoad 300, onRoad 20]
  let stops : List (LatLng ℚ) := [onRoad 10, onRoad 150, onRoad 0]
  have legs : (routeLegPaths flatGround path stops (some 0)).map Prod.fst =
      [1, 2] := by
    decide +kernel
  rcases legs_ordered_and_optimal flatGround path stops (some 0) with
    ⟨none, _⟩ | ⟨first, choice, same, chosen, least, pinned, divided⟩
  · rw [none] at legs
    cases legs
  · cases same
    exact ⟨path, stops, choice, legs, chosen, least, pinned, divided⟩

end Eki.PassengerMap
