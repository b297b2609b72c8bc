import Eki.Routing.OrderedRouteGeometry
import Eki.Routing.PolylineRoundTrip
import Mathlib.Data.List.Destutter

/-!
# The pieces cover the route

The chunks of a route share one point and nothing is left between them, and
their paths are put together without the points that repeat the one before.
-/

namespace Eki.RouteGeometry

open Polyline

/-! ## Chunks -/

/-- Lists that each begin where the one before ended, and what they cover. -/
inductive Overlaps {P : Type} : List (List P) → List P → Prop where
  | last (chunk : List P) : Overlaps [chunk] chunk
  | more (front : List P) (joint : P) {next : List P} {rest : List (List P)}
      {whole : List P} (later : Overlaps ((joint :: next) :: rest) whole) :
      Overlaps ((front ++ [joint]) :: (joint :: next) :: rest)
        (front ++ whole)

variable {points : List LatLng} {index : Nat}

theorem chunkLoop_of_inside (inside : index + 1 < points.length) :
    chunkLoop points index =
      (points.drop index).take 27 :: chunkLoop points (index + 26) := by
  rw [chunkLoop, if_pos (by omega)]
  rfl

theorem chunkLoop_of_end (ended : points.length ≤ index + 1) :
    chunkLoop points index = [] := by
  rw [chunkLoop, if_neg (by omega)]

theorem length_of_mem_chunkLoop {chunk : List LatLng}
    (member : chunk ∈ chunkLoop points index) :
    2 ≤ chunk.length ∧ chunk.length ≤ 27 := by
  induction index using chunkLoop.induct points with
  | case1 index inside induction =>
    rw [chunkLoop_of_inside (by omega)] at member
    rcases List.mem_cons.mp member with rfl | later
    · rw [List.length_take, List.length_drop]
      omega
    · exact induction later
  | case2 index ended =>
    rw [chunkLoop_of_end (by omega)] at member
    cases member

theorem chunkLoop_overlaps {points : List LatLng} {index : Nat}
    (inside : index + 1 < points.length) :
    Overlaps (chunkLoop points index) (points.drop index) := by
  induction index using chunkLoop.induct points with
  | case1 index _ induction =>
    rw [chunkLoop_of_inside inside]
    by_cases more : index + 26 + 1 < points.length
    · have later : Overlaps (chunkLoop points (index + 26))
          (points.drop (index + 26)) := induction more
      have joint : index + 26 < points.length := by omega
      have split : (points.drop index).take 27 =
          (points.drop index).take 26 ++ [points[index + 26]] := by
        rw [List.take_succ_eq_append_getElem
          (by rw [List.length_drop]; omega), List.getElem_drop]
      have behind : points.drop index =
          (points.drop index).take 26 ++ points.drop (index + 26) := by
        rw [← List.drop_drop, List.take_append_drop]
      have head : (points.drop (index + 26)).take 27 =
          points[index + 26] :: (points.drop (index + 26 + 1)).take 26 := by
        rw [List.drop_eq_getElem_cons joint, List.take_succ_cons]
      rw [chunkLoop_of_inside more, head] at later ⊢
      rw [split]
      conv_rhs => rw [behind]
      exact .more _ _ later
    · rw [chunkLoop_of_end (by omega), List.take_of_length_le]
      · exact .last _
      · rw [List.length_drop]
        omega
  | case2 index ended => omega

/-! ## Paths -/

/-- A path goes on with another one, which may begin where it ends. -/
def joinPath (path next : List LatLng) : List LatLng :=
  if next.head? = path.getLast? then path ++ next.tail else path ++ next

/-- The paths one after another, with the joints they share once. -/
def joined (paths : List (List LatLng)) : List LatLng :=
  paths.foldl joinPath []

theorem pushPoint_nil (point : LatLng) : pushPoint [] point = [point] :=
  rfl

theorem pushPoint_snoc (path : List LatLng) (last point : LatLng) :
    pushPoint (path ++ [last]) point =
      if last ≠ point then path ++ [last] ++ [point] else path ++ [last] := by
  have differs : (point.lat ≠ last.lat ∨ point.lng ≠ last.lng) ↔
      last ≠ point := by
    cases last
    cases point
    simp only [ne_eq, LatLng.mk.injEq, not_and_or]
    constructor <;> rintro (first | second) <;> simp_all [eq_comm]
  rw [pushPoint, List.getLast?_concat]
  simp only [differs]

theorem foldl_pushPoint_snoc (path points : List LatLng) (last : LatLng) :
    points.foldl pushPoint (path ++ [last]) =
      path ++ points.destutter' (· ≠ ·) last := by
  induction points generalizing path last with
  | nil => rfl
  | cons point points induction =>
    rw [List.foldl_cons, pushPoint_snoc, List.destutter'_cons]
    split
    · rw [induction, List.append_assoc, List.singleton_append]
    · rename_i same
      have equal : last = point := by simpa using same
      rw [induction, equal]

theorem foldl_pushPoint (points : List LatLng) :
    points.foldl pushPoint [] = points.destutter (· ≠ ·) := by
  cases points with
  | nil => rfl
  | cons point points =>
    have pushed := foldl_pushPoint_snoc [] points point
    rw [List.nil_append, List.nil_append] at pushed
    rw [List.foldl_cons, pushPoint_nil, pushed, List.destutter_cons']

/-- A path that never stands still loses at most the joint. -/
theorem foldl_pushPoint_of_chain (path : List LatLng) {next : List LatLng}
    (moves : next.IsChain (· ≠ ·)) :
    next.foldl pushPoint path = joinPath path next := by
  cases next with
  | nil =>
    rw [joinPath]
    split <;> simp
  | cons first rest =>
    rcases List.eq_nil_or_concat path with rfl | ⟨front, last, rfl⟩
    · rw [foldl_pushPoint, List.destutter_of_isChain _ _ moves]
      rfl
    · rw [List.concat_eq_append, foldl_pushPoint_snoc, joinPath,
        List.getLast?_concat, List.head?_cons, List.destutter'_cons]
      by_cases same : last = first
      · rw [if_neg (by simpa using same), if_pos (by rw [same]), same,
          List.destutter'_of_isChain_cons _ _ moves]
        simp
      · rw [if_pos same, if_neg (by simpa [eq_comm] using same),
          List.destutter'_of_isChain_cons _ _ moves]
        simp

/-! ## Putting the results together -/

variable {R E : Type} [JsNumber R] {numerals : Numerals R}

structure Contributes (results : List (Geometry R))
    (paths : List (List LatLng)) (durations : List (List CodeUnit)) :
    Prop where
  paths : results.map (fun result => decodePolyline result.polyline) =
    paths.map Except.ok
  durations : results.map (fun result => durationNumeral result.duration) =
    durations.map some

variable {combined : Combined R}

theorem of_addResult {next : Combined R} {result : Geometry R}
    (added : addResult numerals combined result =
      (.ok next : Except (Thrown E) (Combined R))) :
    ∃ decoded numeral, decodePolyline result.polyline = .ok decoded ∧
      durationNumeral result.duration = some numeral ∧
      next =
        { path := decoded.foldl pushPoint combined.path
          distanceMeters := combined.distanceMeters + result.distanceMeters
          seconds := combined.seconds + numerals.number numeral } := by
  rw [addResult] at added
  split at added
  · cases added
  · rename_i decoded read
    split at added
    · cases added
    · rename_i numeral duration
      split at added
      · cases added
      · cases added
        exact ⟨decoded, numeral, read, duration, rfl⟩

theorem addResult_of_valid (combined : Combined R) {result : Geometry R}
    {decoded : List LatLng} {numeral : List CodeUnit}
    (read : decodePolyline result.polyline = .ok decoded)
    (duration : durationNumeral result.duration = some numeral)
    (valid : ¬ (decoded.length < 2 ∨
      JsNumber.isFinite result.distanceMeters = false ∨
      result.distanceMeters < 0)) :
    addResult numerals combined result =
      (.ok
        { path := decoded.foldl pushPoint combined.path
          distanceMeters := combined.distanceMeters + result.distanceMeters
          seconds := combined.seconds + numerals.number numeral } :
        Except (Thrown E) (Combined R)) := by
  simp only [addResult, read, duration]
  rw [if_neg valid]

variable {first second : Geometry R} {last : Combined R}

theorem combine_pair {middle : Combined R} (one : addResult numerals
        { path := []
          distanceMeters := 0
          seconds := 0 } first =
      (.ok middle : Except (Thrown E) (Combined R)))
    (two : addResult numerals middle second =
      (.ok last : Except (Thrown E) (Combined R)))
    (short : ¬ (encodePolyline last.path).length > 500000) :
    combine numerals [first, second] =
      (.ok
        { polyline := encodePolyline last.path
          distanceMeters := last.distanceMeters
          duration := numerals.text last.seconds ++ [115] } :
        Except (Thrown E) (Geometry R)) := by
  simp only [combine, addResults, one, two]
  rw [if_neg short]

variable {results : List (Geometry R)}

theorem of_addResults (added : addResults numerals combined results =
      (.ok last : Except (Thrown E) (Combined R))) :
    ∃ paths durations, Contributes results paths durations ∧
      last.path = paths.foldl (List.foldl pushPoint) combined.path ∧
      last.distanceMeters =
        (results.map Geometry.distanceMeters).foldl (· + ·)
          combined.distanceMeters ∧
      last.seconds =
        (durations.map numerals.number).foldl (· + ·) combined.seconds := by
  induction results generalizing combined with
  | nil =>
    cases added
    exact ⟨[], [], ⟨rfl, rfl⟩, rfl, rfl, rfl⟩
  | cons result results induction =>
    rw [addResults] at added
    split at added
    · cases added
    · rename_i next first
      obtain ⟨decoded, numeral, read, duration, rfl⟩ := of_addResult first
      obtain ⟨paths, durations, contributes, path, meters, seconds⟩ :=
        induction added
      refine ⟨decoded :: paths, numeral :: durations, ⟨?_, ?_⟩, path, meters,
        seconds⟩
      · rw [List.map_cons, List.map_cons, read, contributes.paths]
      · rw [List.map_cons, List.map_cons, duration, contributes.durations]

theorem foldl_foldl_pushPoint (paths : List (List LatLng))
    (path : List LatLng) :
    paths.foldl (List.foldl pushPoint) path =
      paths.flatten.foldl pushPoint path := by
  induction paths generalizing path with
  | nil => rfl
  | cons next paths induction =>
    rw [List.foldl_cons, induction, List.flatten_cons, List.foldl_append]

variable {paths : List (List LatLng)}

theorem foldl_pushPoint_joined (move : ∀ path ∈ paths, path.IsChain (· ≠ ·))
    (path : List LatLng) :
    paths.foldl (List.foldl pushPoint) path = paths.foldl joinPath path := by
  induction paths generalizing path with
  | nil => rfl
  | cons next paths induction =>
    rw [List.foldl_cons, List.foldl_cons,
      foldl_pushPoint_of_chain path (move next List.mem_cons_self)]
    apply induction
    intro other member
    exact move other (List.mem_cons_of_mem _ member)

structure Assembled (numerals : Numerals R) (results : List (Geometry R))
    (paths : List (List LatLng)) (durations : List (List CodeUnit))
    (geometry : Geometry R) : Prop where
  contributes : Contributes results paths durations
  path : decodePolyline geometry.polyline =
    .ok (paths.flatten.destutter (· ≠ ·))
  joints : (∀ path ∈ paths, path.IsChain (· ≠ ·)) →
    decodePolyline geometry.polyline = .ok (joined paths)
  distance : geometry.distanceMeters =
    (results.map Geometry.distanceMeters).foldl (· + ·) 0
  duration : geometry.duration =
    numerals.text ((durations.map numerals.number).foldl (· + ·) 0) ++ [115]

omit [JsNumber R] in
theorem decode_pushed {durations : List (List CodeUnit)}
    (contributes : Contributes results paths durations) :
    decodePolyline
        (encodePolyline (paths.foldl (List.foldl pushPoint) [])) =
      .ok (paths.foldl (List.foldl pushPoint) []) := by
  rw [foldl_foldl_pushPoint, foldl_pushPoint]
  have grid : ∀ point ∈ paths.flatten.destutter (· ≠ ·), OnGrid point := by
    intro point member
    obtain ⟨path, isPath, inside⟩ := List.mem_flatten.mp
      ((List.destutter_sublist _ _).subset member)
    have read : Except.ok path ∈
        results.map fun result => decodePolyline result.polyline := by
      rw [contributes.paths]
      exact List.mem_map_of_mem isPath
    obtain ⟨result, _, decoded⟩ := List.mem_map.mp read
    rw [decodePolyline_eq] at decoded
    exact (wellFormed_of_decodePoints decoded).2 point inside
  exact decodePolyline_of_onGrid grid

variable {geometry : Geometry R}

theorem of_combine (combined : combine numerals results =
      (.ok geometry : Except (Thrown E) (Geometry R))) :
    ∃ paths durations,
      Assembled numerals results paths durations geometry := by
  rw [combine] at combined
  split at combined
  · cases combined
  · rename_i last added
    obtain ⟨paths, durations, contributes, path, meters, seconds⟩ :=
      of_addResults added
    have kept := decode_pushed contributes
    simp only at combined path
    split at combined
    · cases combined
    · cases combined
      refine ⟨paths, durations, contributes, ?_, ?_, meters, ?_⟩
      · rw [path, kept, foldl_foldl_pushPoint, foldl_pushPoint]
      · intro move
        rw [path, kept, foldl_pushPoint_joined move]
        rfl
      · rw [seconds]

/-! ## One route -/

section Routes

variable {O : Type}

omit [JsNumber R] in
theorem eq_map_of_fulfilled {outcomes : List (Except (Thrown E) (Geometry R))}
    (all : fulfilled outcomes = .ok results) :
    outcomes = results.map Except.ok := by
  induction outcomes generalizing results with
  | nil =>
    cases all
    rfl
  | cons outcome rest induction =>
    cases outcome with
    | error thrown => cases all
    | ok geometry =>
      rw [fulfilled] at all
      cases remains : fulfilled rest with
      | error thrown =>
        rw [remains] at all
        cases all
      | ok later =>
        rw [remains] at all
        cases all
        rw [induction remains]
        rfl

variable {α : Type}

theorem eq_map_of_mapM {requested : List (Option α)} {settled : List α}
    (all : requested.mapM id = some settled) :
    requested = settled.map some := by
  induction requested generalizing settled with
  | nil =>
    cases all
    rfl
  | cons request rest induction =>
    rw [List.mapM_cons] at all
    cases request with
    | none => cases all
    | some outcome =>
      cases remains : rest.mapM id with
      | none =>
        rw [remains] at all
        cases all
      | some later =>
        rw [remains] at all
        cases all
        rw [induction remains]
        rfl

theorem exists_of_mapM {requested : List (Option α)}
    (settle : ∀ request ∈ requested, ∃ outcome, request = some outcome) :
    ∃ settled, requested.mapM id = some settled := by
  induction requested with
  | nil => exact ⟨[], rfl⟩
  | cons request rest induction =>
    obtain ⟨outcome, rfl⟩ := settle request List.mem_cons_self
    obtain ⟨settled, same⟩ := induction fun other member =>
      settle other (List.mem_cons_of_mem _ member)
    refine ⟨outcome :: settled, ?_⟩
    rw [List.mapM_cons, same]
    rfl

variable
  {compute : Nat → List LatLng → Option (Except (Thrown E) (Geometry R))}

theorem of_computeOrderedRouteGeometry
    (returned : computeOrderedRouteGeometry numerals compute points =
      some (.ok geometry)) :
    ∃ results,
      (chunkLoop points 0).mapIdx compute =
          results.map (fun result => some (.ok result)) ∧
        (results = [geometry] ∨
          ∃ paths durations,
            Assembled numerals results paths durations geometry) := by
  rw [computeOrderedRouteGeometry] at returned
  split at returned
  · cases returned
  · rename_i chunks accepted
    have all : chunks = chunkLoop points 0 := by
      rw [requests] at accepted
      split at accepted
      · cases accepted
      · cases accepted
        rfl
    rw [all] at returned
    obtain ⟨outcomes, settled, result⟩ := Option.map_eq_some_iff.mp returned
    have requested := eq_map_of_mapM settled
    split at result
    · cases result
    · rename_i only fulfils
      cases result
      refine ⟨[geometry], ?_, Or.inl rfl⟩
      rw [requested, eq_map_of_fulfilled fulfils]
      rfl
    · rename_i results _ fulfils
      obtain ⟨paths, durations, assembled⟩ := of_combine result
      refine ⟨results, ?_, Or.inr ⟨paths, durations, assembled⟩⟩
      rw [requested, eq_map_of_fulfilled fulfils, List.map_map]
      rfl

theorem computeOrderedRouteGeometry_pair
    (accepted : (requests points : Except (Thrown E) _) =
      .ok (chunkLoop points 0))
    (answers : (chunkLoop points 0).mapIdx compute =
      [some (.ok first), some (.ok second)])
    (combined : combine numerals [first, second] =
      (.ok geometry : Except (Thrown E) (Geometry R))) :
    computeOrderedRouteGeometry numerals compute points =
      some (.ok geometry) := by
  simp only [computeOrderedRouteGeometry, accepted, answers]
  exact congrArg some combined

theorem answered_of_few {intermediates : List LatLng}
    (few : intermediates.length ≤ 25) (provider : Provider R E O)
    (origin destination : LatLng) (options : O) :
    ∃ answer, ∀ depth,
      computeRouteGeometry numerals provider (depth + 1) origin destination
        intermediates options = some answer := by
  cases valid : !validPoint origin || !validPoint destination ||
      !intermediates.all validPoint with
  | true =>
    refine ⟨.error invalidWaypoints, ?_⟩
    intro depth
    rw [computeRouteGeometry, if_pos valid]
  | false =>
    refine ⟨provider.request origin destination intermediates options, ?_⟩
    intro depth
    rw [computeRouteGeometry, if_neg (by simp [valid]), if_neg (by omega)]

theorem computeOrderedRouteGeometry_congr {first second : Nat → List LatLng →
      Option (Except (Thrown E) (Geometry R))}
    (same : (chunkLoop points 0).mapIdx first =
      (chunkLoop points 0).mapIdx second) :
    computeOrderedRouteGeometry numerals first points =
      computeOrderedRouteGeometry numerals second points := by
  simp only [computeOrderedRouteGeometry, requests]
  split
  · rfl
  · rename_i chunks accepted
    split at accepted
    · cases accepted
    · cases accepted
      rw [same]

theorem exists_computeOrderedRouteGeometry
    {compute : Nat → List LatLng →
      Option (Except (Thrown E) (Geometry R))}
    {points : List LatLng}
    (settle : ∀ place chunk, chunk ∈ chunkLoop points 0 →
      ∃ outcome, compute place chunk = some outcome) :
    ∃ answer,
      computeOrderedRouteGeometry numerals compute points = some answer := by
  simp only [computeOrderedRouteGeometry, requests]
  split
  · exact ⟨_, rfl⟩
  · rename_i chunks accepted
    split at accepted
    · cases accepted
    · cases accepted
      have each : ∀ request ∈ (chunkLoop points 0).mapIdx compute,
          ∃ outcome, request = some outcome := by
        intro request member
        obtain ⟨place, inside, rfl⟩ := List.mem_mapIdx.mp member
        exact settle place _ (List.getElem_mem inside)
      obtain ⟨settled, all⟩ := exists_of_mapM each
      rw [all]
      exact ⟨_, rfl⟩

theorem chunk_answered {points chunk : List LatLng}
    (member : chunk ∈ chunkLoop points 0) (provider : Provider R E O)
    (origin : LatLng) (options : O) (place : Nat) :
    ∃ answer, ∀ depth,
      computeChunk provider
        (computeRouteGeometry numerals provider (depth + 1)) origin options
        place chunk = some answer := by
  have bounds := length_of_mem_chunkLoop member
  have few : chunk.tail.dropLast.length ≤ 25 := by
    rw [List.length_dropLast, List.length_tail]
    omega
  exact answered_of_few few provider _ _ _

/-- The calls nest twice at most. -/
theorem computeRouteGeometry_ends (provider : Provider R E O)
    (origin destination : LatLng) (intermediates : List LatLng)
    (options : O) :
    ∃ answer, ∀ depth,
      computeRouteGeometry numerals provider (depth + 2) origin destination
        intermediates options = some answer := by
  by_cases few : intermediates.length ≤ 25
  · obtain ⟨answer, answered⟩ :=
      @answered_of_few R E _ numerals O _ few provider origin destination
        options
    exact ⟨answer, fun depth => answered (depth + 1)⟩
  · cases valid : !validPoint origin || !validPoint destination ||
        !intermediates.all validPoint with
    | true =>
      refine ⟨.error invalidWaypoints, ?_⟩
      intro depth
      rw [computeRouteGeometry, if_pos valid]
    | false =>
      let points := origin :: intermediates ++ [destination]
      let compute := fun depth => computeChunk provider
        (computeRouteGeometry numerals provider (depth + 1)) origin options
      have same : ∀ depth (place : Nat) chunk,
          chunk ∈ chunkLoop points 0 →
            compute depth place chunk = compute 0 place chunk := by
        intro depth place chunk member
        obtain ⟨answer, answered⟩ := @chunk_answered R E _ numerals O _ _
          member provider origin options place
        exact (answered depth).trans (answered 0).symm
      have settle : ∀ place chunk, chunk ∈ chunkLoop points 0 →
          ∃ outcome, (compute 0 place chunk).map (·.map Prod.fst) =
            some outcome := by
        intro place chunk member
        obtain ⟨answer, answered⟩ := @chunk_answered R E _ numerals O _ _
          member provider origin options place
        exact ⟨answer.map Prod.fst, congrArg _ (answered 0)⟩
      obtain ⟨geometry, returned⟩ :=
        @exists_computeOrderedRouteGeometry R E _ numerals _ _ settle
      refine ⟨geometry.map fun result => (result,
        ((chunkLoop points 0).mapIdx (compute 0)).any fellBack), ?_⟩
      intro depth
      have chunks : (chunkLoop points 0).mapIdx (compute depth) =
          (chunkLoop points 0).mapIdx (compute 0) := by
        apply List.mapIdx_eq_mapIdx_iff.mpr
        intro place inside
        exact same depth place _ (List.getElem_mem inside)
      have agreed : computeOrderedRouteGeometry numerals
          (fun place chunk =>
            (compute depth place chunk).map (·.map Prod.fst)) points =
          some geometry := by
        rw [← returned]
        apply computeOrderedRouteGeometry_congr
        apply List.mapIdx_eq_mapIdx_iff.mpr
        intro place inside
        rw [same depth place _ (List.getElem_mem inside)]
      rw [computeRouteGeometry, if_neg (by simp [valid]), if_pos (by omega)]
      simp only [compute, points] at agreed chunks
      simp only [agreed, chunks, compute, points]
      rfl

theorem refused_of_length {compute : Nat → List LatLng →
      Option (Except (Thrown E) (Geometry R))}
    (outside : points.length < 2 ∨ 101 < points.length) :
    (requests points : Except (Thrown E) _) =
        .error (.error "Invalid route waypoint count") ∧
      computeOrderedRouteGeometry numerals compute points =
        some (.error (.error "Invalid route waypoint count")) := by
  have refused : (requests points : Except (Thrown E) _) =
      .error (.error "Invalid route waypoint count") := by
    rw [requests, if_pos]
    simp only [maxRouteStops]
    omega
  exact ⟨refused, by rw [computeOrderedRouteGeometry, refused]⟩

structure CoversRoute (numerals : Numerals R)
    (compute : Nat → List LatLng → Option (Except (Thrown E) (Geometry R)))
    (points : List LatLng) : Prop where
  requested : (requests points : Except (Thrown E) _) =
    .ok (chunkLoop points 0)
  overlap : Overlaps (chunkLoop points 0) points
  sizes : ∀ chunk ∈ chunkLoop points 0,
    2 ≤ chunk.length ∧ chunk.length ≤ 27 ∧ chunk.tail.dropLast.length ≤ 25
  returned : ∀ geometry,
    computeOrderedRouteGeometry numerals compute points = some (.ok geometry) →
      ∃ results,
        (chunkLoop points 0).mapIdx compute =
            results.map (fun result => some (.ok result)) ∧
          (results = [geometry] ∨
            ∃ paths durations,
              Assembled numerals results paths durations geometry)

/-- A route of as many points as are accepted is requested in chunks that
cover it, and what is returned is put together of their answers; any other
route is refused before any request. -/
theorem ordered_route_covered (numerals : Numerals R)
    (compute : Nat → List LatLng → Option (Except (Thrown E) (Geometry R)))
    (points : List LatLng) (two : 2 ≤ points.length)
    (accepted : points.length ≤ 101) :
    CoversRoute numerals compute points ∧
      (∀ (provider : Provider R E O) origin destination intermediates options,
        ∃ answer, ∀ depth,
          computeRouteGeometry numerals provider (depth + 2) origin
            destination intermediates options = some answer) ∧
      ∀ other : List LatLng, other.length < 2 ∨ 101 < other.length →
        (requests other : Except (Thrown E) _) =
            .error (.error "Invalid route waypoint count") ∧
          computeOrderedRouteGeometry numerals compute other =
            some (.error (.error "Invalid route waypoint count")) := by
  refine ⟨?_, computeRouteGeometry_ends, fun other => refused_of_length⟩
  constructor
  · rw [requests, if_neg]
    simp only [maxRouteStops]
    omega
  · have whole := @chunkLoop_overlaps points 0 (by omega)
    rw [List.drop_zero] at whole
    exact whole
  · intro chunk member
    have bounds := length_of_mem_chunkLoop member
    refine ⟨bounds.1, bounds.2, ?_⟩
    rw [List.length_dropLast, List.length_tail]
    omega
  · intro geometry returned
    exact of_computeOrderedRouteGeometry returned

end Routes

/-- Seconds without decimals. -/
def wholeNumerals : Numerals ℚ where
  number digits :=
    digits.foldl (fun value digit => value * 10 + (digit.toNat - 48 : Nat)) 0
  text value :=
    (Nat.toDigits 10 value.floor.toNat).map fun digit =>
      BitVec.ofNat 16 digit.toNat

def westEnd : LatLng where
  lat := 0
  lng := 0

def eastEnd : LatLng where
  lat := 0
  lng := 1 / 100000

/-- The first chunk stands still and the second one moves. -/
def standing (place : Nat) (_ : List LatLng) :
    Option (Except (Thrown Unit) (Geometry ℚ)) :=
  some
    (.ok
      { polyline :=
          encodePolyline
            [westEnd, if place = 0 then westEnd else eastEnd]
        distanceMeters := if place = 0 then 0 else 1
        duration := [55, 115] })

theorem ordered_route_covered_of_two_chunks :
    CoversRoute wholeNumerals standing (List.replicate 28 westEnd) ∧
      (∀ (provider : Provider ℚ Unit Unit) origin destination intermediates
        options,
        ∃ answer, ∀ depth,
          computeRouteGeometry wholeNumerals provider (depth + 2) origin
            destination intermediates options = some answer) ∧
      computeOrderedRouteGeometry wholeNumerals standing [westEnd] =
        some (.error (.error "Invalid route waypoint count")) := by
  obtain ⟨covers, ends, refused⟩ := ordered_route_covered wholeNumerals
    standing (List.replicate 28 westEnd) (by decide) (by decide)
  exact ⟨covers, ends, (refused [westEnd] (by decide)).2⟩

/-- 102 points are not requested at all, and a chunk that stands still loses a
point that is no joint. -/
theorem repeated_point_merged :
    (requests (List.replicate 102 westEnd) : Except (Thrown Unit) _) =
        .error (.error "Invalid route waypoint count") ∧
      ∃ geometry,
        computeOrderedRouteGeometry wholeNumerals standing
            (List.replicate 28 westEnd) = some (.ok geometry) ∧
          decodePolyline geometry.polyline = .ok [westEnd, eastEnd] ∧
          joined [[westEnd, westEnd], [westEnd, eastEnd]] =
            [westEnd, westEnd, eastEnd] := by
  have west : OnGrid westEnd := by
    refine ⟨⟨?_, ?_⟩, by decide +kernel⟩ <;> norm_num [westEnd]
  have east : OnGrid eastEnd := by
    refine ⟨⟨?_, ?_⟩, by decide +kernel⟩ <;> norm_num [eastEnd]
  have stands : decodePolyline (encodePolyline [westEnd, westEnd]) =
      .ok [westEnd, westEnd] := by
    apply decodePolyline_of_onGrid
    simp [west]
  have moves : decodePolyline (encodePolyline [westEnd, eastEnd]) =
      .ok [westEnd, eastEnd] := by
    apply decodePolyline_of_onGrid
    simp [west, east]
  have chunks : chunkLoop (List.replicate 28 westEnd) 0 =
      [List.replicate 27 westEnd, List.replicate 2 westEnd] := by
    rw [chunkLoop_of_inside (by decide), chunkLoop_of_inside (by decide),
      chunkLoop_of_end (by decide)]
    rfl
  have seven : durationNumeral [55, 115] = some [55] := by decide
  have path : [westEnd, eastEnd].foldl pushPoint
      ([westEnd, westEnd].foldl pushPoint []) = [westEnd, eastEnd] := by
    decide +kernel
  have short : ¬ (encodePolyline [westEnd, eastEnd]).length > 500000 := by
    have one : ∀ value : BitVec 32, 0 ≤ value.toInt → value.toInt < 32 →
        (encodeValue value).length ≤ 1 := by
      intro value positive small
      exact @encodeValue_length value 0 positive small
    have origin := one (folded 0) (by decide) (by decide)
    have step := one (folded 1) (by decide) (by decide)
    have west : mathRound (westEnd.lat * 100000) = 0 := by decide +kernel
    have same : mathRound (westEnd.lng * 100000) = 0 := by decide +kernel
    have level : mathRound (eastEnd.lat * 100000) = 0 := by decide +kernel
    have east : mathRound (eastEnd.lng * 100000) = 1 := by decide +kernel
    simp only [encodePolyline, encodePoints, west, same, level, east,
      List.length_append, List.length_nil, Int.sub_zero]
    omega
  have first := @addResult_of_valid ℚ Unit _ wholeNumerals
    { path := []
      distanceMeters := 0
      seconds := 0 }
    { polyline := encodePolyline [westEnd, westEnd]
      distanceMeters := 0
      duration := [55, 115] } _ _ stands seven (by decide +kernel)
  have second := @addResult_of_valid ℚ Unit _ wholeNumerals
    { path := [westEnd, westEnd].foldl pushPoint []
      distanceMeters := 0 + 0
      seconds := 0 + wholeNumerals.number [55] }
    { polyline := encodePolyline [westEnd, eastEnd]
      distanceMeters := 1
      duration := [55, 115] } _ _ moves seven (by decide +kernel)
  have combined := combine_pair first second (by rw [path]; exact short)
  have answers : (chunkLoop (List.replicate 28 westEnd) 0).mapIdx standing =
      [some
          (.ok
            { polyline := encodePolyline [westEnd, westEnd]
              distanceMeters := 0
              duration := [55, 115] }),
        some
          (.ok
            { polyline := encodePolyline [westEnd, eastEnd]
              distanceMeters := 1
              duration := [55, 115] })] := by
    rw [chunks]
    rfl
  have returned := computeOrderedRouteGeometry_pair
    (by rw [requests, if_neg (by decide)]) answers combined
  refine ⟨by rw [requests, if_pos (by decide)], _, returned, ?_,
    by decide +kernel⟩
  simp only [path]
  exact moves

end Eki.RouteGeometry
