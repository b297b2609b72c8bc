import Eki.Library.Layers
import Eki.PassengerMap.RouteLegPaths
import Mathlib.Data.List.TakeWhile

/-!
# The boundaries of the legs

The boundaries that are chosen follow each other along the path, and of all
such choices they lie nearest to their stops.
-/

namespace Eki.PassengerMap

open Segments (LatLng)
open RouteMatching (Geometry vertex alongRoute)
open List (cons_ne_nil map_cons mem_append mem_filter mem_filterMap
  mem_singleton mem_singleton_self not_mem_nil sum_cons)

variable {R : Type} [Field R] [LinearOrder R]

/-! ## The best of the projections that are passed -/

/-- The entry is one of those, and none of them scores less. -/
structure Best (entries : List (Projection R)) (best : Projection R) :
    Prop where
  member : best ∈ entries
  least : ∀ entry ∈ entries, best.score ≤ entry.score

variable {entries : List (Projection R)}

omit [Field R] in
theorem better_best {best : Option (Projection R)}
    (none_iff : best = none ↔ entries = [])
    (least : ∀ entry ∈ best, Best entries entry) (entry : Projection R) :
    ∃ next, better best entry = some next ∧ Best (entries ++ [entry]) next := by
  cases best with
  | none =>
    rw [none_iff.mp rfl]
    refine ⟨entry, rfl, mem_singleton_self _, ?_⟩
    intro other member
    rw [mem_singleton.mp member]
  | some best =>
    have own := least best rfl
    by_cases less : entry.score < best.score
    · refine ⟨entry, by simp [better, less], ?_, ?_⟩
      · exact List.mem_append_right _ (mem_singleton_self _)
      · intro other member
        rcases mem_append.mp member with before | last
        · exact le_trans (le_of_lt less) (own.least other before)
        · rw [mem_singleton.mp last]
    · refine ⟨best, by simp [better, less], ?_, ?_⟩
      · exact List.mem_append_left _ own.member
      · intro other member
        rcases mem_append.mp member with before | last
        · exact own.least other before
        · rw [mem_singleton.mp last]
          exact not_lt.mp less

def bestOf (entries : List (Projection R)) : Option (Projection R) :=
  entries.foldl better none

omit [Field R] in
theorem bestOf_concat (entries : List (Projection R)) (entry : Projection R) :
    bestOf (entries ++ [entry]) = better (bestOf entries) entry := by
  rw [bestOf, List.foldl_append]
  rfl

omit [Field R] in
theorem bestOf_spec (entries : List (Projection R)) :
    (bestOf entries = none ↔ entries = []) ∧
      ∀ best ∈ bestOf entries, Best entries best := by
  induction entries using List.reverseRecOn with
  | nil =>
    refine ⟨⟨fun _ => rfl, fun _ => rfl⟩, ?_⟩
    intro best held
    cases held
  | append_singleton entries entry induction =>
    obtain ⟨next, found, own⟩ :=
      better_best induction.1 induction.2 entry
    rw [bestOf_concat, found]
    constructor
    · simp
    · intro best held
      cases held
      exact own

/-! ## The cursor -/

def Behind (distance : R) (entry : Projection R) : Prop :=
  entry.distance < distance - separationM

instance (distance : R) (entry : Projection R) :
    Decidable (Behind distance entry) :=
  inferInstanceAs (Decidable (entry.distance < distance - separationM))

def SortedEntries (entries : List (Projection R)) : Prop :=
  entries.Pairwise fun entry later => entry.distance ≤ later.distance

theorem passBefore_eq (distance : R) (passed remaining : List (Projection R)) :
    passBefore distance (bestOf passed) remaining =
      (bestOf (passed ++ remaining.takeWhile (Behind distance ·)),
        remaining.dropWhile (Behind distance ·)) := by
  induction remaining generalizing passed with
  | nil => simp [passBefore]
  | cons entry rest induction =>
    have unfolded : passBefore distance (bestOf passed) (entry :: rest) =
        if Behind distance entry then
          passBefore distance (better (bestOf passed) entry) rest
        else (bestOf passed, entry :: rest) := rfl
    rw [unfolded]
    by_cases behind : Behind distance entry
    · rw [if_pos behind, ← bestOf_concat, induction]
      simp [behind]
    · rw [if_neg behind]
      simp [behind]

theorem filter_behind {distance : R} (sorted : SortedEntries entries) :
    entries.filter (Behind distance ·) =
      entries.takeWhile (Behind distance ·) := by
  induction entries with
  | nil => rfl
  | cons entry rest induction =>
    have order := List.pairwise_cons.mp sorted
    by_cases behind : Behind distance entry
    · rw [List.filter_cons_of_pos (by simpa using behind),
        List.takeWhile_cons_of_pos (by simpa using behind),
        induction order.2]
    · rw [List.takeWhile_cons_of_neg (by simpa using behind),
        List.filter_eq_nil_iff]
      intro other member
      simp only [decide_eq_true_eq]
      intro other_behind
      rcases List.mem_cons.mp member with rfl | later
      · exact behind other_behind
      · exact behind (lt_of_le_of_lt (order.1 other later) other_behind)

/-- What the loop makes of one projection of a stop. -/
def candidateOf (follows : Bool) (previous : List (Projection R))
    (snap : Snap R) : Option (Projection R) :=
  let best := bestOf (previous.filter (Behind snap.distance ·))
  if follows && best.isNone then none else some (snap.after best)

variable [IsStrictOrderedRing R]

/-- The cursor does not miss a projection that it could have chosen. -/
theorem candidatesFrom_eq {follows : Bool}
    {passed remaining : List (Projection R)} {snaps : List (Snap R)}
    (sorted : SortedEntries remaining)
    (ordered : snaps.Pairwise fun snap later => snap.distance ≤ later.distance)
    (behind : ∀ entry ∈ passed, ∀ snap ∈ snaps, Behind snap.distance entry) :
    candidatesFrom follows (bestOf passed) remaining snaps =
      snaps.filterMap (candidateOf follows (passed ++ remaining)) := by
  induction snaps generalizing passed remaining with
  | nil => rfl
  | cons snap rest induction =>
    have order := List.pairwise_cons.mp ordered
    have own : (passed ++ remaining).filter (Behind snap.distance ·) =
        passed ++ remaining.takeWhile (Behind snap.distance ·) := by
      rw [List.filter_append, filter_behind sorted, List.filter_eq_self.mpr]
      intro entry member
      simpa using behind entry member snap List.mem_cons_self
    have split : (passed ++ remaining.takeWhile (Behind snap.distance ·)) ++
        remaining.dropWhile (Behind snap.distance ·) =
          passed ++ remaining := by
      rw [List.append_assoc, List.takeWhile_append_dropWhile]
    have still : ∀ entry ∈
        passed ++ remaining.takeWhile (Behind snap.distance ·),
        ∀ later ∈ rest, Behind later.distance entry := by
      intro entry member later later_member
      rcases mem_append.mp member with before | passing
      · exact behind entry before later
          (List.mem_cons_of_mem _ later_member)
      · have here : Behind snap.distance entry := by
          simpa using List.mem_takeWhile_imp passing
        exact lt_of_lt_of_le here
          (sub_le_sub_right (order.1 later later_member) separationM)
    have sorted_rest :
        SortedEntries (remaining.dropWhile (Behind snap.distance ·)) :=
      List.Pairwise.sublist (List.dropWhile_sublist _) sorted
    have next := induction sorted_rest order.2 still
    simp only [candidatesFrom, passBefore_eq]
    rw [next, split]
    by_cases refused : (follows &&
        (bestOf (passed ++
          remaining.takeWhile (Behind snap.distance ·))).isNone) = true
    · rw [if_pos refused, List.filterMap_cons_none]
      simp only [candidateOf, own, if_pos refused]
    · rw [if_neg refused, List.filterMap_cons_some]
      simp only [candidateOf, own, if_neg refused]

/-! ## One stop after the other -/

def Separated (snap next : Snap R) : Prop :=
  snap.distance < next.distance - separationM

/-- What a projection counts. -/
def Snap.cost (snap : Snap R) : R :=
  snap.distanceM ^ 2

/-- The projections that are linked are those of a chain, the last one
first. -/
inductive Represents : Projection R → List (Snap R) → Prop where
  | first (snap : Snap R) : Represents (snap.after none) [snap]
  | next {entry : Projection R} {chain : List (Snap R)} (snap : Snap R)
      (earlier : Represents entry chain) :
      Represents (snap.after (some entry)) (snap :: chain)

variable {entry : Projection R} {chain : List (Snap R)}

section

omit [LinearOrder R] [IsStrictOrderedRing R]

theorem Represents.score (represents : Represents entry chain) :
    entry.score = (chain.map Snap.cost).sum := by
  induction represents with
  | first snap =>
    rw [map_cons, sum_cons]
    rfl
  | next snap _ induction =>
    rw [map_cons, sum_cons, ← induction]
    rfl

theorem Represents.head (represents : Represents entry chain) :
    ∃ snap rest, chain = snap :: rest ∧ entry.distance = snap.distance := by
  cases represents with
  | first snap => exact ⟨snap, [], rfl, rfl⟩
  | @next _ chain snap _ => exact ⟨snap, chain, rfl, rfl⟩

theorem Represents.boundaries (represents : Represents entry chain) :
    entry.boundaries.map (fun boundary => (boundary.distance, boundary.point)) =
      chain.reverse.map fun snap => (snap.distance, snap.point) := by
  induction represents with
  | first snap => rfl
  | next snap _ induction =>
    rw [Snap.after, Projection.boundaries, List.map_append, induction,
      List.reverse_cons, List.map_append]
    rfl

end

open Layers in
/-- A projection is kept for each one that a chain ends with, and it is the
best with that end. -/
structure Carried (layers : List (List (Snap R)))
    (entries : List (Projection R)) : Prop where
  least : ∀ entry ∈ entries, ∃ chain, Represents entry chain ∧
    Least Separated Snap.cost layers chain
  covers : ∀ other, Chain Separated layers other →
    ∃ entry ∈ entries, ∃ chain, Represents entry chain ∧
      Least Separated Snap.cost layers chain ∧ chain.head? = other.head?
  sorted : SortedEntries entries

section Carrying

open Layers

variable {layers : List (List (Snap R))} {snaps : List (Snap R)}
  {previous : List (Projection R)}

omit [IsStrictOrderedRing R] in
theorem Carried.frontier (carried : Carried layers previous) :
    Frontier Separated Snap.cost layers fun chain =>
      (∃ entry ∈ previous, Represents entry chain) ∧
        Least Separated Snap.cost layers chain := by
  constructor
  · intro chain kept
    exact kept.2
  · intro other walked
    obtain ⟨entry, member, chain, represents, least, ends⟩ :=
      carried.covers other walked
    exact ⟨chain, ⟨⟨entry, member, represents⟩, least⟩, ends⟩

theorem Carried.link (carried : Carried layers previous) {snap : Snap R}
    (member : snap ∈ snaps) {best : Projection R}
    (found : bestOf (previous.filter (Behind snap.distance ·)) = some best) :
    ∃ chain, Represents (snap.after (some best)) (snap :: chain) ∧
      Least Separated Snap.cost (snaps :: layers) (snap :: chain) := by
  have own := (bestOf_spec _).2 best found
  have held := mem_filter.mp own.member
  have behind : Behind snap.distance best := by simpa using held.2
  obtain ⟨chain, represents, least⟩ := carried.least best held.1
  obtain ⟨last, rest, rfl, same⟩ := represents.head
  refine ⟨last :: rest, .next snap represents, ?_⟩
  apply Least.next carried.frontier member
    ⟨⟨best, held.1, represents⟩, least⟩
  · rw [Separated, ← same]
    exact behind
  · intro other earlier kept followed
    obtain ⟨⟨entry, entry_member, entry_represents⟩, _⟩ := kept
    obtain ⟨_, _, split, entry_same⟩ := entry_represents.head
    cases split
    rw [← represents.score, ← entry_represents.score]
    apply own.least
    rw [mem_filter]
    refine ⟨entry_member, ?_⟩
    rw [decide_eq_true_eq, Behind, entry_same]
    exact followed

omit [IsStrictOrderedRing R] in
theorem sorted_filterMap (follows : Bool)
    (ordered : snaps.Pairwise fun snap later =>
      snap.distance ≤ later.distance) :
    SortedEntries (snaps.filterMap (candidateOf follows previous)) := by
  have distances : ∀ snap entry,
      candidateOf follows previous snap = some entry →
      entry.distance = snap.distance := by
    intro snap entry made
    simp only [candidateOf] at made
    split at made
    · cases made
    · cases made
      rfl
  rw [SortedEntries, List.pairwise_filterMap]
  apply List.Pairwise.imp _ ordered
  intro snap later order entry made next next_made
  rw [distances snap entry made, distances later next next_made]
  exact order

theorem Carried.first
    (ordered : snaps.Pairwise fun snap later =>
      snap.distance ≤ later.distance) :
    Carried [snaps] (candidatesFrom false none [] snaps) := by
  have made := @candidatesFrom_eq R _ _ _ false [] [] snaps .nil ordered
    (fun _ member => absurd member not_mem_nil)
  have start : bestOf ([] : List (Projection R)) = none := rfl
  rw [start] at made
  rw [made]
  have candidate : ∀ snap : Snap R, candidateOf false ([] ++ []) snap =
      some (snap.after none) := fun _ => rfl
  constructor
  · intro entry member
    obtain ⟨snap, snap_member, made⟩ := mem_filterMap.mp member
    rw [candidate] at made
    cases made
    exact ⟨[snap], .first snap, Least.first snap_member⟩
  · intro other walked
    cases walked with
    | @first _ snap member =>
      exact ⟨snap.after none,
        mem_filterMap.mpr ⟨snap, member, candidate snap⟩, [snap],
        .first snap, Least.first member, rfl⟩
    | next _ chain _ => cases chain
  · exact sorted_filterMap false ordered

theorem Carried.next (carried : Carried layers previous)
    (some_layer : layers ≠ [])
    (ordered : snaps.Pairwise fun snap later =>
      snap.distance ≤ later.distance) :
    Carried (snaps :: layers) (candidatesFrom true none previous snaps) := by
  have made := @candidatesFrom_eq R _ _ _ true [] previous snaps
    carried.sorted ordered (fun _ member => absurd member not_mem_nil)
  have start : bestOf ([] : List (Projection R)) = none := rfl
  rw [start, List.nil_append] at made
  rw [made]
  constructor
  · intro entry member
    obtain ⟨snap, snap_member, made⟩ := mem_filterMap.mp member
    cases found : bestOf (previous.filter (Behind snap.distance ·)) with
    | none =>
      simp [candidateOf, found] at made
    | some best =>
      simp only [candidateOf, found, Option.isNone_some, Bool.and_false,
        Bool.false_eq_true, if_false, Option.some.injEq] at made
      obtain ⟨chain, represents, least⟩ := carried.link snap_member found
      rw [← made]
      exact ⟨snap :: chain, represents, least⟩
  · intro other walked
    cases walked with
    | first _ => exact absurd rfl some_layer
    | @next _ _ snap last rest member chain behind =>
      obtain ⟨entry, entry_member, own, represents, _, ends⟩ :=
        carried.covers _ chain
      obtain ⟨_, _, rfl, same⟩ := represents.head
      cases ends
      have held : entry ∈ previous.filter (Behind snap.distance ·) := by
        rw [mem_filter]
        refine ⟨entry_member, ?_⟩
        rw [decide_eq_true_eq, Behind, same]
        exact behind
      cases found : bestOf (previous.filter (Behind snap.distance ·)) with
      | none =>
        rw [(bestOf_spec _).1.mp found] at held
        exact absurd held not_mem_nil
      | some best =>
        obtain ⟨chosen, represents, least⟩ := carried.link member found
        refine ⟨snap.after (some best), ?_, snap :: chosen, represents,
          least, rfl⟩
        rw [mem_filterMap]
        refine ⟨snap, member, ?_⟩
        simp [candidateOf, found]
  · exact sorted_filterMap true ordered

/-! ## All stops -/

variable {stops : Nat → List (Snap R)}

/-- The projections of the stops, those of the last one first. -/
def layersOf (stops : Nat → List (Snap R)) (first count : Nat) :
    List (List (Snap R)) :=
  ((List.range' first count).map stops).reverse

omit [Field R] [LinearOrder R] [IsStrictOrderedRing R] in
theorem layersOf_succ (stops : Nat → List (Snap R)) (first count : Nat) :
    layersOf stops first (count + 1) =
      layersOf stops (first + 1) count ++ [stops first] := by
  rw [layersOf, List.range'_succ, map_cons, List.reverse_cons]
  rfl

omit [IsStrictOrderedRing R] in
theorem Carried.stuck {layer : List (Snap R)}
    (carried : Carried (layer :: layers) previous)
    (empty : previous.isEmpty = true) (later : List (List (Snap R)))
    (chain : List (Snap R)) :
    ¬ Chain Separated (later ++ layer :: layers) chain := by
  intro walked
  obtain ⟨rest, walked⟩ := walked.earlier (cons_ne_nil _ _)
  obtain ⟨entry, member, _⟩ := carried.covers rest walked
  rw [List.isEmpty_iff.mp empty] at member
  exact absurd member not_mem_nil

theorem candidatesOfStops_after {firstStopIndex count index : Nat}
    (ordered : ∀ index, (stops index).Pairwise fun snap later =>
      snap.distance ≤ later.distance)
    (after : firstStopIndex < index) (some_layer : layers ≠ [])
    (carried : Carried layers previous) :
    (∀ last, candidatesOfStops stops firstStopIndex count index previous =
        some last → Carried (layersOf stops index count ++ layers) last) ∧
      (candidatesOfStops stops firstStopIndex count index previous = none →
        ∀ chain, ¬ Chain Separated (layersOf stops index count ++ layers)
          chain) := by
  induction count generalizing index previous layers with
  | zero =>
    constructor
    · intro last found
      cases found
      exact carried
    · intro none
      cases none
  | succ count induction =>
    have next := carried.next some_layer (ordered index)
    rw [layersOf_succ, List.append_assoc, List.singleton_append]
    simp only [candidatesOfStops, gt_iff_lt, after, decide_true]
    split
    · rename_i empty
      exact ⟨nofun, fun _ => next.stuck empty _⟩
    · exact induction (Nat.lt_succ_of_lt after) (cons_ne_nil _ _) next

theorem candidatesOfStops_first {firstStopIndex count : Nat}
    (ordered : ∀ index, (stops index).Pairwise fun snap later =>
      snap.distance ≤ later.distance) (some_stop : 0 < count) :
    (∀ last, candidatesOfStops stops firstStopIndex count firstStopIndex [] =
        some last → Carried (layersOf stops firstStopIndex count) last) ∧
      (candidatesOfStops stops firstStopIndex count firstStopIndex [] = none →
        ∀ chain, ¬ Chain Separated (layersOf stops firstStopIndex count)
          chain) := by
  cases count with
  | zero => cases some_stop
  | succ count =>
    have start := Carried.first (ordered firstStopIndex)
    rw [layersOf_succ]
    simp only [candidatesOfStops, gt_iff_lt, Nat.lt_irrefl, decide_false]
    split
    · rename_i empty
      exact ⟨nofun, fun _ => start.stuck empty _⟩
    · exact candidatesOfStops_after ordered (Nat.lt_succ_self _)
        (cons_ne_nil _ _) start

end Carrying

omit [Field R] [IsStrictOrderedRing R] in
theorem selectBest_spec {best : Projection R}
    (selected : selectBest entries = some best) : Best entries best := by
  cases entries with
  | nil => cases selected
  | cons first rest =>
    cases selected
    induction rest using List.reverseRecOn with
    | nil =>
      refine ⟨mem_singleton_self _, ?_⟩
      intro entry member
      rw [mem_singleton.mp member]
      exact le_refl _
    | append_singleton rest entry induction =>
      rw [List.foldl_append, ← List.cons_append]
      simp only [List.foldl_cons, List.foldl_nil]
      split
      · rename_i kept
        refine ⟨List.mem_append_left _ induction.member, ?_⟩
        intro other member
        rcases mem_append.mp member with before | last
        · exact induction.least other before
        · rw [mem_singleton.mp last]
          exact kept
      · rename_i replaced
        refine ⟨List.mem_append_right _ (mem_singleton_self _), ?_⟩
        intro other member
        rcases mem_append.mp member with before | last
        · exact le_trans (le_of_lt (not_le.mp replaced))
            (induction.least other before)
        · rw [mem_singleton.mp last]

open Layers in
theorem boundaries_cases {stops : Nat → List (Snap R)}
    {firstStopIndex count : Nat}
    (ordered : ∀ index, (stops index).Pairwise fun snap later =>
      snap.distance ≤ later.distance) (some_stop : 0 < count)
    {found : Option (List (Projection R))}
    (same : found = ((candidatesOfStops stops firstStopIndex count
      firstStopIndex []).bind selectBest).map Projection.boundaries) :
    (found = none ∧
      ∀ chain, ¬ Chain Separated (layersOf stops firstStopIndex count) chain) ∨
    ∃ boundaries chain, found = some boundaries ∧
      boundaries.map (fun boundary => (boundary.distance, boundary.point)) =
        chain.reverse.map (fun snap => (snap.distance, snap.point)) ∧
      Chain Separated (layersOf stops firstStopIndex count) chain ∧
      ∀ other, Chain Separated (layersOf stops firstStopIndex count) other →
        (chain.map Snap.cost).sum ≤ (other.map Snap.cost).sum := by
  have both := @candidatesOfStops_first R _ _ _ stops firstStopIndex count
    ordered some_stop
  cases placed : candidatesOfStops stops firstStopIndex count firstStopIndex
    [] with
  | none =>
    rw [placed] at same
    exact Or.inl ⟨same, both.2 placed⟩
  | some last =>
    rw [placed, Option.bind_some] at same
    have carried := both.1 last placed
    cases selected : selectBest last with
    | none =>
      rw [selected] at same
      refine Or.inl ⟨same, ?_⟩
      intro chain walked
      obtain ⟨entry, member, _⟩ := carried.covers chain walked
      cases last with
      | nil => exact absurd member not_mem_nil
      | cons => cases selected
    | some best =>
      rw [selected] at same
      have own := selectBest_spec selected
      obtain ⟨chain, represents, least⟩ := carried.least best own.member
      refine Or.inr ⟨best.boundaries, chain, same, represents.boundaries,
        least.walked, ?_⟩
      intro other walked
      apply carried.frontier.optimal _ walked
      intro kept held
      obtain ⟨⟨entry, member, entry_represents⟩, _⟩ := held
      rw [← represents.score, ← entry_represents.score]
      exact own.least entry member

end Eki.PassengerMap
