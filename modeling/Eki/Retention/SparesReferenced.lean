import Eki.Retention.DatedDeletions

/-!
# Referenced geometry is spared

A version that a live node points to is safe from every sweep: a sweep that read
the pointer leaves it out, and a publisher points to a version too young for any
sweep.  A version that is given without being published is safe where no sweep
is about to delete a geometry of its name.
-/

namespace Eki.Retention

open Documents Transition
open Function (update update_of_ne update_self)
open List (mem_append mem_filter mem_map)
open Option (all_some bind_eq_some_iff bind_some map_eq_some_iff)

variable {F : Type}

def SweepPosition.candidates : SweepPosition → List (RetentionPath × RtdbValue)
  | .versions nodeKey routeVersion entries _ =>
    (entries.filter fun entry =>
      decide (versionText routeVersion ≠ entry.1)).map fun entry =>
        (.geometry nodeKey entry.1, entry.2)
  | _ => []

def SweepItem.candidate : SweepItem F → Option (RetentionPath × RtdbValue)
  | .removing path value _ => some (path, value)
  | .forgetting _ => none

/-- The records that a sweep may still delete. -/
def Sweep.candidates (sweep : Sweep F) : List (RetentionPath × RtdbValue) :=
  sweep.position.candidates ++ (sweep.item.bind SweepItem.candidate).toList

/-- The live node of a deleted geometry pointed elsewhere. -/
def Deletion.Spared (deletion : Deletion F) : Prop :=
  ∀ nodeKey version, deletion.path = .geometry nodeKey version →
    ∀ current, deletion.routeVersion = some current →
      toString current ≠ version

namespace RtdbWorld

section

variable [DecidableEq F] (tools : RetentionTools F)

/-- The geometry is what a sweep has before it, unreferenced and not dated
within the retention. -/
def mayDelete (sweep : Sweep F) (nodeKey version : String)
    (world : RtdbWorld F) : Bool :=
  !sweep.dryRun && sweep.candidates.any fun candidate =>
    decide (candidate.1 = .geometry nodeKey version) &&
      (((world.geometry nodeKey).lookup version).any fun current =>
        decide (tools.fingerprint current = tools.fingerprint candidate.2)) &&
      (tools.geometryTime version candidate.2).all fun time =>
        decide (time + rtdbRetentionMs < sweep.now)

def endangered (nodeKey : String) (version : Nat) (world : RtdbWorld F) :
    Bool :=
  world.sweeps.any fun sweep =>
    world.mayDelete tools sweep nodeKey (toString version)

/-- No live node gets a version, other than by publication, whose geometry a
sweep may delete. -/
def spares (world : RtdbWorld F) : RetentionLabel → Bool
  | .rematch nodeKey contextChanged missingDynamicGeometry =>
    (world.live nodeKey).all fun live =>
      !world.endangered tools nodeKey
        (matchedVersion live.routeVersion contextChanged
          missingDynamicGeometry)
  | .restore nodeKey lastRouteVersion =>
    (restoredVersion lastRouteVersion (world.routeVersion nodeKey)).all
      fun version => !world.endangered tools nodeKey version
  | _ => true

/-- Every deleted record was old enough, and no live node pointed to it. -/
structure Lawful (world : RtdbWorld F) : Prop where
  spared : ∀ deletion ∈ world.deletions, deletion.Spared
  aged : ∀ deletion ∈ world.deletions, deletion.Aged tools

end

variable {tools : RetentionTools F} {world next : RtdbWorld F}

/-! ## Known times of publications -/

theorem millis_of_time {time : Nat} (recent : minTimestamp ≤ time)
    (representable : time ≤ 8640000000000000) :
    tools.millis (time : ℚ) = some (time : Int) := by
  have old : ¬ (time : ℚ) < 100000000000 := by
    unfold minTimestamp at recent
    have large : 100000000000 ≤ time := by omega
    have cast : ((100000000000 : Nat) : ℚ) ≤ (time : ℚ) :=
      Nat.cast_le.mpr large
    exact not_lt.mpr (by simpa using cast)
  have safe : isSafeInteger (time : Int) = true := by
    unfold isSafeInteger
    apply decide_eq_true
    omega
  unfold RetentionTools.millis
  simp only
  rw [if_neg old, if_pos]
  · rw [Rat.num_natCast]
  · rw [Rat.num_natCast, Rat.den_natCast]
    exact ⟨rfl, safe, recent⟩

theorem geometryTime_record (details : GeometryDetails) {createdAt : Nat}
    (recent : minTimestamp ≤ createdAt)
    (representable : createdAt ≤ 8640000000000000) (key : String)
    (nextVersion publicationCreatedAt : Nat) :
    tools.geometryTime key (details.record nextVersion publicationCreatedAt
      createdAt) = some (createdAt : Int) := by
  have created : (details.record nextVersion publicationCreatedAt
      createdAt).field "createdAt" = some (.number createdAt) := rfl
  have dated : tools.timestamp (.number createdAt) = some (createdAt : Int) :=
    millis_of_time recent representable
  unfold RetentionTools.geometryTime
  rw [created, bind_some, dated]
  rfl

/-! ## Candidates -/

variable [DecidableEq F]

variable {nodeKey : String} {version : Nat}

theorem endangered_iff :
    world.endangered tools nodeKey version = true ↔
      ∃ sweep ∈ world.sweeps, sweep.dryRun = false ∧ ∃ value,
        (.geometry nodeKey (toString version), value) ∈ sweep.candidates ∧
        (∃ current,
          (world.geometry nodeKey).lookup (toString version) = some current ∧
          tools.fingerprint current = tools.fingerprint value) ∧
        ∀ time, tools.geometryTime (toString version) value = some time →
          time + rtdbRetentionMs < sweep.now := by
  unfold endangered mayDelete
  simp only [List.any_eq_true, Bool.and_eq_true, Bool.not_eq_true',
    decide_eq_true_eq, Option.any_eq_true, Option.all_eq_true]
  constructor
  · intro found
    obtain ⟨sweep, member, applies, candidate, listed, checks⟩ := found
    obtain ⟨⟨path, current⟩, old⟩ := checks
    refine ⟨sweep, member, applies, candidate.2, ?_, current, old⟩
    rw [← path]
    exact listed
  · intro found
    obtain ⟨sweep, member, applies, value, listed, current, old⟩ := found
    exact ⟨sweep, member, applies, _, listed, ⟨rfl, current⟩, old⟩

/-! ## The invariant -/

/-- Whatever is stored where a publisher has written is no older than its
publication. -/
structure Publishes (tools : RetentionTools F) (world : RtdbWorld F)
    (publisher : Publisher) : Prop where
  computed : ∀ nextVersion created,
    publisher.phase = .computed nextVersion created → created ≤ world.time
  written : ∀ nextVersion created,
    publisher.phase = .written nextVersion created →
      created ≤ world.time ∧
      ∀ value, (world.geometry publisher.nodeKey).lookup
          (toString nextVersion) = some value →
        ∃ createdAt : Nat, created ≤ createdAt ∧
          tools.geometryTime (toString nextVersion) value =
            some (createdAt : Int)

structure Guarded (tools : RetentionTools F) (world : RtdbWorld F) : Prop where
  recent : minTimestamp ≤ world.time
  representable : world.time ≤ 8640000000000000
  publishers : ∀ publisher ∈ world.publishers, world.Publishes tools publisher
  pointed : ∀ nodeKey version, world.routeVersion nodeKey = some version →
    world.endangered tools nodeKey version = false
  spared : ∀ deletion ∈ world.deletions, deletion.Spared

namespace Guarded

theorem start (epoch : Epoch) (legacy : LegacyRoot → Collection RtdbValue)
    (geometry : String → Collection RtdbValue)
    (live : String → Option LiveNode) (checkpoints : String → List Nat) :
    (RtdbWorld.start epoch legacy geometry live checkpoints).Guarded
      tools := by
  refine ⟨epoch.recent, epoch.representable, ?_, ?_, ?_⟩
  · intro publisher member
    cases member
  · intro nodeKey version _
    rfl
  · intro deletion member
    cases member

omit [DecidableEq F] in
theorem publishes_frame {publisher : Publisher}
    (publishes : world.Publishes tools publisher)
    (later : world.time ≤ next.time)
    (geometry : ∀ version value,
      (next.geometry publisher.nodeKey).lookup version = some value →
        (world.geometry publisher.nodeKey).lookup version = some value) :
    next.Publishes tools publisher := by
  constructor
  · intro nextVersion created phase
    exact (publishes.computed nextVersion created phase).trans later
  · intro nextVersion created phase
    obtain ⟨before, young⟩ := publishes.written nextVersion created phase
    refine ⟨before.trans later, ?_⟩
    intro value stored
    exact young value (geometry _ value stored)

theorem frame (guarded : world.Guarded tools)
    (later : world.time ≤ next.time)
    (representable : next.time ≤ 8640000000000000)
    (publishers : next.publishers = world.publishers)
    (geometry : ∀ nodeKey version value,
      (next.geometry nodeKey).lookup version = some value →
        (world.geometry nodeKey).lookup version = some value)
    (versions : ∀ nodeKey version,
      next.routeVersion nodeKey = some version →
        world.routeVersion nodeKey = some version)
    (sweeps : ∀ nodeKey version,
      next.routeVersion nodeKey = some version →
      next.endangered tools nodeKey version = true →
        world.endangered tools nodeKey version = true)
    (spared : ∀ deletion ∈ next.deletions, deletion.Spared) :
    next.Guarded tools := by
  refine ⟨?_, representable, ?_, ?_, spared⟩
  · have recent := guarded.recent
    omega
  · rw [publishers]
    intro publisher member
    exact publishes_frame (guarded.publishers publisher member) later
      (geometry publisher.nodeKey)
  · intro nodeKey version points
    have safe := guarded.pointed nodeKey version (versions _ _ points)
    cases danger : next.endangered tools nodeKey version with
    | false => rfl
    | true =>
      rw [sweeps nodeKey version points danger] at safe
      cases safe

end Guarded

/-! ## Sweeps that go on -/

variable {index : Nat} {sweep : Sweep F}

theorem endangered_setSweep {after : Sweep F} (member : sweep ∈ world.sweeps)
    (now : after.now = sweep.now) (dryRun : after.dryRun = sweep.dryRun)
    (candidates : ∀ value,
      (.geometry nodeKey (toString version), value) ∈ after.candidates →
        (.geometry nodeKey (toString version), value) ∈ sweep.candidates)
    (danger : (world.setSweep index after).endangered tools nodeKey version =
      true) : world.endangered tools nodeKey version = true := by
  rw [endangered_iff] at danger ⊢
  obtain ⟨other, listed, applies, value, candidate, current, old⟩ := danger
  cases List.mem_or_eq_of_mem_set listed with
  | inl before =>
    exact ⟨other, before, applies, value, candidate, current, old⟩
  | inr same =>
    rw [same] at applies candidate old
    rw [dryRun] at applies
    rw [now] at old
    exact ⟨sweep, member, applies, value, candidates value candidate,
      current, old⟩

theorem Guarded.moveOn (guarded : world.Guarded tools) (index : Nat)
    (member : sweep ∈ world.sweeps) (position : SweepPosition)
    (item : Option (SweepItem F)) (candidates : ∀ nodeKey version value,
      world.routeVersion nodeKey = some version →
      (.geometry nodeKey (toString version), value) ∈
        Sweep.candidates { sweep with position, item } →
      (.geometry nodeKey (toString version), value) ∈ sweep.candidates) :
    (world.setSweep index { sweep with position, item }).Guarded tools := by
  have sweeps (nodeKey : String) (version : Nat)
      (points : world.routeVersion nodeKey = some version)
      (danger : (world.setSweep index
        { sweep with position, item }).endangered tools nodeKey version =
          true) : world.endangered tools nodeKey version = true := by
    refine endangered_setSweep member ?_ ?_ ?_ danger
    · rfl
    · rfl
    · intro value candidate
      exact candidates nodeKey version value points candidate
  exact guarded.frame (Nat.le_refl _) guarded.representable rfl
    (fun _ _ _ => id) (fun _ _ => id) sweeps guarded.spared

variable {position : SweepPosition}

theorem Guarded.moveAway (guarded : world.Guarded tools) (index : Nat)
    (member : sweep ∈ world.sweeps) {item : Option (SweepItem F)}
    (away : position.candidates = [])
    (undecided : item.bind SweepItem.candidate = none) :
    (world.setSweep index { sweep with position, item }).Guarded tools := by
  apply guarded.moveOn index member
  intro nodeKey version value _ candidate
  unfold Sweep.candidates at candidate
  simp only at candidate
  rw [away, undecided] at candidate
  cases candidate

theorem Guarded.finish (guarded : world.Guarded tools) (index : Nat)
    (member : sweep ∈ world.sweeps) {item : Option (SweepItem F)}
    (undecided : item.bind SweepItem.candidate = none) :
    (world.setSweep index { sweep with item }).Guarded tools := by
  apply guarded.moveOn index member
  intro nodeKey version value _ candidate
  unfold Sweep.candidates at candidate ⊢
  simp only at candidate
  rw [undecided, Option.toList_none, List.append_nil] at candidate
  exact List.mem_append_left _ candidate

/-- An observation touches neither geometry nor live nodes. -/
theorem observe_frame (path : RetentionPath) (observed : Observed F)
    (now : Int) (dryRun : Bool) (world : RtdbWorld F) :
    ∃ inventory observations,
      world.observe path observed now dryRun =
        { world with inventory, observations } := by
  unfold RtdbWorld.observe
  split
  · exact ⟨_, _, rfl⟩
  · exact ⟨_, _, rfl⟩

omit [DecidableEq F] in
theorem nextPosition_candidates {after : SweepPosition}
    (moved : nextPosition position = some after) : after.candidates = [] := by
  unfold nextPosition at moved
  split at moved <;> cases moved <;> rfl

omit [DecidableEq F] in
theorem readPage_candidates {keys : List String}
    (read : world.readPage keys sweep = some position) :
    position.candidates = [] := by
  unfold readPage at read
  split at read
  · cases read
    rfl
  · cases read
    rfl
  · cases read

variable {entries : List Entry} {page : List (String × List Entry)}
  {value : RtdbValue}

section

omit [DecidableEq F]

theorem not_candidate_of_pointed {other : String}
    (points : world.routeVersion other = some version) :
    (.geometry other (toString version), value) ∉
      (SweepPosition.versions nodeKey (world.routeVersion nodeKey) entries
        page).candidates := by
  intro candidate
  obtain ⟨entry, kept, same⟩ := mem_map.mp candidate
  rw [Prod.mk.injEq, RetentionPath.geometry.injEq] at same
  have unreferenced := of_decide_eq_true (mem_filter.mp kept).2
  apply unreferenced
  rw [same.1.1, points, same.1.2]
  rfl

theorem candidates_of_tail {routeVersion : Option Nat} {entry : Entry}
    {candidate : RetentionPath × RtdbValue} (listed : candidate ∈
      (SweepPosition.versions nodeKey routeVersion entries page).candidates) :
    candidate ∈ (SweepPosition.versions nodeKey routeVersion (entry :: entries)
      page).candidates := by
  obtain ⟨other, kept, same⟩ := mem_map.mp listed
  obtain ⟨member, unreferenced⟩ := mem_filter.mp kept
  apply mem_map.mpr
  refine ⟨other, ?_, same⟩
  apply mem_filter.mpr
  exact ⟨List.mem_cons_of_mem _ member, unreferenced⟩

theorem candidate_of_head {routeVersion : Option Nat} {entry : Entry}
    (unreferenced : versionText routeVersion ≠ entry.1) :
    (.geometry nodeKey entry.1, entry.2) ∈
      (SweepPosition.versions nodeKey routeVersion (entry :: entries)
        page).candidates := by
  apply mem_map.mpr
  refine ⟨entry, ?_, rfl⟩
  apply mem_filter.mpr
  exact ⟨List.mem_cons_self, decide_eq_true unreferenced⟩

end

variable {path : RetentionPath}

theorem Guarded.inspect (guarded : world.Guarded tools) (index : Nat)
    (member : sweep ∈ world.sweeps) (knownTime : Option Int) (geometry : Bool)
    (passes : ∀ candidate ∈ position.candidates, candidate ∈ sweep.candidates)
    (inspected : ∀ nodeKey version, path = .geometry nodeKey version →
      (path, value) ∈ sweep.candidates) :
    (world.inspect tools index sweep path value knownTime geometry
      position).Guarded tools := by
  unfold RtdbWorld.inspect
  simp only
  generalize (if geometry = true then
    Observed.unreferenced (tools.fingerprint value)
    else .plain (tools.fingerprint value)) = observed
  obtain ⟨inventory, observations, framed⟩ :=
    observe_frame path observed sweep.now sweep.dryRun world
  rw [framed]
  have seen : Guarded tools { world with inventory, observations } :=
    guarded.frame (Nat.le_refl _) guarded.representable rfl (fun _ _ _ => id)
      (fun _ _ => id) (fun _ _ _ => id) guarded.spared
  apply seen.moveOn index member
  intro nodeKey version other _ candidate
  cases mem_append.mp candidate with
  | inl later => exact passes _ later
  | inr decided =>
    obtain ⟨item, chosen, removing⟩ :=
      bind_eq_some_iff.mp (Option.mem_toList.mp decided)
    simp only at chosen
    split at chosen
    · cases chosen
      cases removing
      exact inspected nodeKey (toString version) rfl
    · cases chosen

/-! ## Steps of a sweep -/

theorem guarded_visitNext (guarded : world.Guarded tools)
    (member : sweep ∈ world.sweeps) (idle : sweep.item = none)
    (taken : world.visitNext tools index sweep = some next) :
    next.Guarded tools := by
  have undecided : sweep.item.bind SweepItem.candidate = none := by
    rw [idle]
    rfl
  unfold visitNext at taken
  split at taken
  · rename_i root entry page at_root
    split at taken
    · cases taken
      exact guarded.moveAway index member rfl undecided
    · cases taken
      apply guarded.inspect index member
      · intro candidate listed
        cases listed
      · intro nodeKey version geometry
        cases geometry
  · rename_i nodeKey entries page at_nodes
    cases taken
    apply guarded.moveOn index member
    intro other version value points candidate
    cases mem_append.mp candidate with
    | inl listed => exact absurd listed (not_candidate_of_pointed points)
    | inr decided =>
      rw [undecided] at decided
      cases decided
  · rename_i nodeKey routeVersion entry entries page at_versions
    have passes (candidate : RetentionPath × RtdbValue)
        (listed : candidate ∈ (SweepPosition.versions nodeKey routeVersion
          entries page).candidates) : candidate ∈ sweep.candidates := by
      unfold Sweep.candidates
      rw [at_versions]
      exact List.mem_append_left _ (candidates_of_tail listed)
    simp only at taken
    split at taken
    · cases taken
      obtain ⟨inventory, observations, framed⟩ :=
        observe_frame (.geometry nodeKey entry.1)
          (.referenced (tools.fingerprint entry.2)) sweep.now sweep.dryRun
          world
      rw [framed]
      have seen : Guarded tools { world with inventory, observations } :=
        guarded.frame (Nat.le_refl _) guarded.representable rfl
          (fun _ _ _ => id) (fun _ _ => id) (fun _ _ _ => id)
          guarded.spared
      apply seen.moveOn index member
      intro other version value _ candidate
      cases mem_append.mp candidate with
      | inl listed => exact passes _ listed
      | inr decided =>
        rw [undecided] at decided
        cases decided
    · rename_i unreferenced
      cases taken
      apply guarded.inspect index member _ _ passes
      intro other version _
      unfold Sweep.candidates
      rw [at_versions]
      exact List.mem_append_left _ (candidate_of_head unreferenced)
  · rename_i path page at_orphans
    cases taken
    apply guarded.moveAway index member rfl
    split
    · rfl
    · rfl
  · cases taken

omit [DecidableEq F] in
theorem lookup_erase {version : String}
    (stored : ((world.erase path).geometry nodeKey).lookup version =
      some value) : (world.geometry nodeKey).lookup version = some value := by
  unfold erase at stored
  split at stored
  · exact stored
  · rename_i node key
    simp only at stored
    by_cases same : nodeKey = node
    · rw [same, update_self] at stored
      rw [same]
      by_cases erased : version = key
      · rw [erased, AList.lookup_erase] at stored
        cases stored
      · rw [AList.lookup_erase_ne erased] at stored
        exact stored
    · rw [update_of_ne same] at stored
      exact stored

theorem endangered_of_stored (sweeps : next.sweeps = world.sweeps)
    (geometry : ∀ value,
      (next.geometry nodeKey).lookup (toString version) = some value →
        (world.geometry nodeKey).lookup (toString version) = some value)
    (danger : next.endangered tools nodeKey version = true) :
    world.endangered tools nodeKey version = true := by
  rw [endangered_iff, sweeps] at danger
  rw [endangered_iff]
  obtain ⟨sweep, member, applies, value, candidate, found, old⟩ := danger
  obtain ⟨current, stored, same⟩ := found
  exact ⟨sweep, member, applies, value, candidate,
    ⟨current, geometry current stored, same⟩, old⟩

theorem Guarded.erase (guarded : world.Guarded tools)
    (path : RetentionPath) : (world.erase path).Guarded tools := by
  obtain ⟨legacy, geometry, erased⟩ := erase_frame path world
  have stays (nodeKey version : String) (value : RtdbValue)
      (stored : ((world.erase path).geometry nodeKey).lookup version =
        some value) : (world.geometry nodeKey).lookup version = some value :=
    lookup_erase stored
  rw [erased] at stays ⊢
  refine guarded.frame (Nat.le_refl _) guarded.representable rfl stays
    (fun _ _ => id) ?_ guarded.spared
  intro nodeKey version _ danger
  refine endangered_of_stored ?_ ?_ danger
  · rfl
  · exact stays nodeKey (toString version)

theorem spared_of_decided (guarded : world.Guarded tools)
    (member : sweep ∈ world.sweeps) (applies : sweep.dryRun = false)
    {current : RtdbValue} {observations : List (Observation F)}
    (item : sweep.item = some (.removing path value observations))
    (decided : tools.Decided sweep.now path value observations)
    (stored : world.stored path = some current)
    (same : tools.fingerprint current = tools.fingerprint value) :
    ∀ nodeKey version, path = .geometry nodeKey version →
      ∀ pointer, world.pointed path = some pointer →
        toString pointer ≠ version := by
  intro nodeKey version geometry pointer points named
  rw [geometry] at points stored
  have safe := guarded.pointed nodeKey pointer points
  have danger : world.endangered tools nodeKey pointer = true := by
    rw [endangered_iff, named]
    refine ⟨sweep, member, applies, value, ?_, ⟨current, stored, same⟩, ?_⟩
    · unfold Sweep.candidates
      rw [item, geometry]
      apply List.mem_append_right
      exact List.mem_singleton_self _
    · intro time dates
      apply decided.known time
      rw [geometry]
      exact congrArg some dates
  rw [danger] at safe
  cases safe

theorem guarded_finishItem (dated : world.Dated tools)
    (guarded : world.Guarded tools) (member : sweep ∈ world.sweeps)
    (taken : world.finishItem tools index sweep = some next) :
    next.Guarded tools := by
  unfold finishItem at taken
  split at taken
  · cases taken
  · rename_i path value observations item
    cases taken
    obtain ⟨applies, decided⟩ :=
      dated.removing sweep member path value observations item
    unfold removeIfUnchanged
    split
    · exact guarded.finish index member rfl
    · rename_i current found
      obtain ⟨stored, same⟩ := Option.filter_eq_some_iff.mp found
      have spared := spared_of_decided guarded member applies item decided
        stored (of_decide_eq_true same)
      have erased := guarded.erase path
      obtain ⟨legacy, geometry, framed⟩ := erase_frame path world
      simp only
      rw [framed] at erased ⊢
      have finished : Guarded tools ({ world with legacy, geometry }.setSweep
          index { sweep with item := some (.forgetting path) }) :=
        erased.finish index member rfl
      refine finished.frame (Nat.le_refl _) finished.representable rfl
        (fun _ _ _ => id) (fun _ _ => id) (fun _ _ _ => id) ?_
      intro deletion deleted
      cases List.mem_cons.mp deleted with
      | inl now =>
        rw [now]
        exact spared
      | inr before => exact guarded.spared deletion before
  · rename_i path _
    cases taken
    have finished : (world.setSweep index
        { sweep with item := none }).Guarded tools :=
      guarded.finish index member rfl
    exact finished.frame (Nat.le_refl _) finished.representable rfl
      (fun _ _ _ => id) (fun _ _ => id) (fun _ _ _ => id) guarded.spared

/-! ## Publications and pointers -/

theorem Guarded.setLive (guarded : world.Guarded tools) (nodeKey : String)
    (live : Option LiveNode)
    (safe : ∀ version, live.bind LiveNode.routeVersion = some version →
      world.routeVersion nodeKey = some version ∨
        world.endangered tools nodeKey version = false) :
    (world.setLive nodeKey live).Guarded tools := by
  refine ⟨guarded.recent, guarded.representable, ?_, ?_, guarded.spared⟩
  · intro publisher member
    have before := guarded.publishers publisher member
    exact ⟨before.computed, before.written⟩
  · intro other version points
    change world.endangered tools other version = false
    unfold RtdbWorld.routeVersion RtdbWorld.setLive at points
    simp only at points
    by_cases same : other = nodeKey
    · rw [same, update_self] at points
      rw [same]
      cases safe version points with
      | inl before => exact guarded.pointed nodeKey version before
      | inr spared => exact spared
    · rw [update_of_ne same] at points
      exact guarded.pointed other version points

variable {publisher : Publisher}

theorem Guarded.setPublisher (guarded : world.Guarded tools) (index : Nat)
    (publishes : world.Publishes tools publisher) :
    (world.setPublisher index publisher).Guarded tools := by
  refine ⟨guarded.recent, guarded.representable, ?_, guarded.pointed,
    guarded.spared⟩
  intro other member
  cases List.mem_or_eq_of_mem_set member with
  | inl before =>
    have kept := guarded.publishers other before
    exact ⟨kept.computed, kept.written⟩
  | inr same =>
    rw [same]
    exact ⟨publishes.computed, publishes.written⟩

omit [DecidableEq F] in
theorem lookup_write {other version key : String} {written : RtdbValue}
    (stored : (update world.geometry nodeKey
      ((world.geometry nodeKey).insert version written) other).lookup key =
        some value) :
    (other = nodeKey ∧ key = version ∧ value = written) ∨
      (world.geometry other).lookup key = some value := by
  by_cases same : other = nodeKey
  · rw [same, update_self] at stored
    rw [same]
    by_cases renamed : key = version
    · rw [renamed, AList.lookup_insert] at stored
      exact Or.inl ⟨rfl, renamed, (Option.some.inj stored).symm⟩
    · rw [AList.lookup_insert_ne renamed] at stored
      exact Or.inr stored
  · rw [update_of_ne same] at stored
    exact Or.inr stored

/-- A geometry that was just created is too young for every sweep. -/
theorem guarded_writeGeometry (distinct : tools.CollisionFree)
    (dated : world.Dated tools) (guarded : world.Guarded tools)
    (member : publisher ∈ world.publishers) {details : GeometryDetails}
    (taken : world.writeGeometry index publisher details = some next) :
    next.Guarded tools := by
  unfold writeGeometry at taken
  split at taken
  · rename_i nextVersion created phase
    cases taken
    have dates (key : String) : tools.geometryTime key
        (details.record nextVersion created world.time) =
          some (world.time : Int) :=
      geometryTime_record details guarded.recent guarded.representable key
        nextVersion created
    have computed := (guarded.publishers publisher member).computed
      nextVersion created phase
    refine ⟨guarded.recent, guarded.representable, ?_, ?_, guarded.spared⟩
    · intro other listed
      cases List.mem_or_eq_of_mem_set listed with
      | inl before =>
        have kept := guarded.publishers other before
        refine ⟨kept.computed, ?_⟩
        intro version began written
        obtain ⟨past, young⟩ := kept.written version began written
        refine ⟨past, ?_⟩
        intro value stored
        cases lookup_write stored with
        | inl now =>
          rw [now.2.2]
          exact ⟨world.time, past, dates _⟩
        | inr there => exact young value there
      | inr same =>
        rw [same]
        constructor
        · intro version began again
          cases again
        · intro version began written
          cases written
          refine ⟨computed, ?_⟩
          intro value stored
          simp only [update_self, AList.lookup_insert] at stored
          rw [← Option.some.inj stored]
          exact ⟨world.time, computed, dates _⟩
    · intro nodeKey version points
      have safe := guarded.pointed nodeKey version points
      rw [← Bool.not_eq_true] at safe ⊢
      intro danger
      apply safe
      rw [endangered_iff] at danger ⊢
      obtain ⟨sweep, listed, applies, value, candidate, found, old⟩ := danger
      obtain ⟨stored, there, same⟩ := found
      cases lookup_write there with
      | inl now =>
        have unchanged := distinct stored value same
        rw [now.2.2] at unchanged
        have aged := old world.time (unchanged ▸ dates _)
        have started := dated.started sweep listed
        unfold rtdbRetentionMs at aged
        omega
      | inr before =>
        exact ⟨sweep, listed, applies, value, candidate,
          ⟨stored, before, same⟩, old⟩
  · cases taken

theorem guarded_activateReroute (dated : world.Dated tools)
    (distinct : tools.CollisionFree) (guarded : world.Guarded tools)
    (member : publisher ∈ world.publishers) {current : Bool}
    (taken : world.activateReroute index publisher current = some next) :
    next.Guarded tools := by
  unfold activateReroute at taken
  split at taken
  · rename_i nextVersion created phase
    obtain ⟨before, young⟩ :=
      (guarded.publishers publisher member).written nextVersion created phase
    have finished : (world.setPublisher index
        { publisher with phase := .finished }).Guarded tools := by
      apply guarded.setPublisher
      constructor
      · intro nextVersion created computed
        cases computed
      · intro nextVersion created written
        cases written
    simp only at taken
    split at taken
    · rename_i checks
      cases taken
      rw [Bool.and_eq_true, Bool.and_eq_true] at checks
      have fresh := checks.1.2
      unfold geometryPublicationIsFresh at fresh
      simp only [Bool.and_eq_true, decide_eq_true_eq] at fresh
      apply finished.setLive
      intro version points
      cases points
      right
      change world.endangered tools publisher.nodeKey nextVersion = false
      cases danger : world.endangered tools publisher.nodeKey nextVersion with
      | false => rfl
      | true =>
        rw [endangered_iff] at danger
        obtain ⟨sweep, listed, _, value, _, found, old⟩ := danger
        obtain ⟨stored, there, same⟩ := found
        have unchanged := distinct stored value same
        obtain ⟨createdAt, later, dates⟩ := young stored there
        rw [unchanged] at dates
        have aged := old createdAt dates
        have started := dated.started sweep listed
        have recent := fresh.2
        unfold rtdbRetentionMs at aged
        unfold geometryPublicationGraceMs at recent
        omega
    · cases taken
      exact finished
  · cases taken

/-- What one step preserves where it gives no live node an endangered
version. -/
theorem guarded_step (distinct : tools.CollisionFree)
    (dated : world.Dated tools) (guarded : world.Guarded tools)
    {label : RetentionLabel} (meets : world.spares tools label = true)
    (taken : step tools world label = some next) : next.Guarded tools := by
  cases label with
  | startSweep now dryRun legacyRetired =>
    simp only [step] at taken
    split at taken
    · cases taken
      refine guarded.frame (Nat.le_refl _) guarded.representable rfl
        (fun _ _ _ => id) (fun _ _ => id) ?_ guarded.spared
      intro nodeKey version _ danger
      rw [endangered_iff] at danger ⊢
      obtain ⟨sweep, listed, applies, value, candidate, rest⟩ := danger
      cases mem_append.mp listed with
      | inl before =>
        exact ⟨sweep, before, applies, value, candidate, rest⟩
      | inr added =>
        rw [List.mem_singleton.mp added] at candidate
        cases legacyRetired with
        | true | false => cases candidate
    · cases taken
  | readPage index keys =>
    obtain ⟨sweep, found, taken⟩ := bind_eq_some_iff.mp taken
    obtain ⟨member, idle⟩ := mem_of_idle found
    split at taken
    · obtain ⟨position, read, moved⟩ := map_eq_some_iff.mp taken
      rw [← moved]
      apply guarded.moveAway index member (readPage_candidates read)
      rw [idle]
      rfl
    · cases taken
  | readOrphans index paths =>
    obtain ⟨sweep, found, taken⟩ := bind_eq_some_iff.mp taken
    obtain ⟨member, idle⟩ := mem_of_idle found
    split at taken
    · split at taken
      · cases taken
        apply guarded.moveAway index member rfl
        rw [idle]
        rfl
      · cases taken
    · cases taken
  | nextLoop index =>
    obtain ⟨sweep, found, taken⟩ := bind_eq_some_iff.mp taken
    obtain ⟨member, idle⟩ := mem_of_idle found
    obtain ⟨position, after, moved⟩ := map_eq_some_iff.mp taken
    rw [← moved]
    apply guarded.moveAway index member (nextPosition_candidates after)
    rw [idle]
    rfl
  | visit index =>
    obtain ⟨sweep, found, taken⟩ := bind_eq_some_iff.mp taken
    obtain ⟨member, idle⟩ := mem_of_idle found
    exact guarded_visitNext guarded member idle taken
  | finish index =>
    obtain ⟨sweep, found, taken⟩ := bind_eq_some_iff.mp taken
    exact guarded_finishItem dated guarded (List.mem_of_getElem? found) taken
  | abort index =>
    obtain ⟨sweep, found, moved⟩ := map_eq_some_iff.mp taken
    rw [← moved]
    exact guarded.finish index (List.mem_of_getElem? found) rfl
  | stop index =>
    obtain ⟨sweep, found, moved⟩ := map_eq_some_iff.mp taken
    rw [← moved]
    exact guarded.moveAway index (List.mem_of_getElem? found) rfl rfl
  | claim nodeKey =>
    obtain ⟨expectedVersion, _, claimed⟩ := map_eq_some_iff.mp taken
    rw [← claimed]
    refine ⟨guarded.recent, guarded.representable, ?_, guarded.pointed,
      guarded.spared⟩
    intro publisher member
    cases mem_append.mp member with
    | inl before =>
      have kept := guarded.publishers publisher before
      exact ⟨kept.computed, kept.written⟩
    | inr added =>
      rw [List.mem_singleton.mp added]
      constructor
      · intro nextVersion created computed
        cases computed
      · intro nextVersion created written
        cases written
  | compute index =>
    obtain ⟨publisher, _, computed⟩ := map_eq_some_iff.mp taken
    rw [← computed]
    apply guarded.setPublisher
    constructor
    · intro nextVersion created computing
      cases computing
      exact Nat.le_refl _
    · intro nextVersion created written
      cases written
  | write index details =>
    obtain ⟨publisher, found, taken⟩ := bind_eq_some_iff.mp taken
    exact guarded_writeGeometry distinct dated guarded
      (List.mem_of_getElem? found) taken
  | activate index current =>
    obtain ⟨publisher, found, taken⟩ := bind_eq_some_iff.mp taken
    exact guarded_activateReroute dated distinct guarded
      (List.mem_of_getElem? found) taken
  | rematch nodeKey contextChanged missingDynamicGeometry =>
    obtain ⟨live, found, matched⟩ := map_eq_some_iff.mp taken
    rw [← matched]
    simp only [spares] at meets
    rw [found, all_some, Bool.not_eq_true'] at meets
    apply guarded.setLive
    intro version points
    cases points
    exact Or.inr meets
  | restore nodeKey lastRouteVersion =>
    simp only [step] at taken
    split at taken
    · cases taken
      apply guarded.setLive
      intro version points
      right
      change restoredVersion lastRouteVersion (world.routeVersion nodeKey) =
        some version at points
      simp only [spares] at meets
      rw [points, all_some, Bool.not_eq_true'] at meets
      exact meets
    · cases taken
  | checkpoint nodeKey | writeLegacy root key value =>
    cases taken
    exact guarded.frame (Nat.le_refl _) guarded.representable rfl
      (fun _ _ _ => id) (fun _ _ => id) (fun _ _ _ => id) guarded.spared
  | clear nodeKey | disappear nodeKey =>
    cases taken
    apply guarded.setLive
    intro version points
    cases points
  | resetDirection nodeKey =>
    cases taken
    apply guarded.setLive
    intro version points
    left
    obtain ⟨live, found, kept⟩ := bind_eq_some_iff.mp points
    obtain ⟨before, there, same⟩ := map_eq_some_iff.mp found
    rw [← same] at kept
    unfold RtdbWorld.routeVersion
    rw [there, bind_some]
    exact (Option.filter_eq_some_iff.mp kept).1
  | advance ms =>
    simp only [step] at taken
    split at taken
    · rename_i representable
      cases taken
      exact guarded.frame (Nat.le_add_right _ _) representable rfl
        (fun _ _ _ => id) (fun _ _ => id) (fun _ _ _ => id) guarded.spared
    · cases taken

end RtdbWorld

open RtdbWorld

/-- The retention deletes nothing that is referenced or young. -/
def RetentionSpares (tools : RetentionTools F) [DecidableEq F] : Prop :=
  ∀ (epoch : Epoch) (legacy : LegacyRoot → Collection RtdbValue)
    (geometry : String → Collection RtdbValue)
    (live : String → Option LiveNode) (checkpoints : String → List Nat)
    (last : RtdbWorld F),
    System.Steps (step tools) (fun _ _ => True)
      (.start epoch legacy geometry live checkpoints) last →
    last.Lawful tools

/-- Every deletion is of an old record; and where no live node gets a version,
other than by publication, whose geometry a sweep may delete, no deletion is of
a geometry that its live node points to. -/
theorem retention_spares [DecidableEq F] (tools : RetentionTools F)
    (distinct : tools.CollisionFree) (epoch : Epoch)
    (legacy : LegacyRoot → Collection RtdbValue)
    (geometry : String → Collection RtdbValue)
    (live : String → Option LiveNode) (checkpoints : String → List Nat)
    (last : RtdbWorld F) :
    (System.Steps (step tools) (fun _ _ => True)
        (.start epoch legacy geometry live checkpoints) last →
      ∀ deletion ∈ last.deletions, deletion.Aged tools) ∧
    (System.Steps (step tools)
        (fun world label => world.spares tools label = true)
        (.start epoch legacy geometry live checkpoints) last →
      last.Lawful tools) := by
  constructor
  · intro steps
    have dated : last.Dated tools := by
      apply steps.invariant (.start epoch legacy geometry live checkpoints)
      intro world label next dated _ taken
      exact dated_step distinct dated taken
    exact dated.aged
  · intro steps
    have sound : last.Dated tools ∧ last.Guarded tools := by
      apply steps.invariant
        ⟨.start epoch legacy geometry live checkpoints,
          .start epoch legacy geometry live checkpoints⟩
      intro world label next sound meets taken
      exact ⟨dated_step distinct sound.1 taken,
        guarded_step distinct sound.1 sound.2 meets taken⟩
    exact ⟨sound.2.spared, sound.1.aged⟩

/-! ## Two publications a millisecond apart -/

def plainTools : RetentionTools RtdbValue where
  dateParse _ := none
  toNumber text := text.toNat?.map fun number => (number : ℚ)
  thousandfold value := value * 1000
  fingerprint value := value

def sampleEpoch : Epoch where
  ms := 1700000000000
  recent := of_decide_eq_true rfl
  representable := Nat.le_of_ble_eq_true rfl

def sampleDetails : GeometryDetails where
  polyline := "_p~iF~ps|U_ulLnnqC"
  routeId := "route-1"
  direction := "forward"
  sessionId := "session-1"
  firstStopIndex := 1

/-- A live node under its first version, and no geometry. -/
def sampleStart : RtdbWorld RtdbValue :=
  .start sampleEpoch (fun _ => ∅) (fun _ => ∅)
    (fun nodeKey =>
      if nodeKey = "bus-1_route-1" then some { routeVersion := some 1 }
      else none)
    (fun _ => [])

def sweepNewest (sweep now : Nat) : List RetentionLabel :=
  [.startSweep now false false, .readPage sweep ["bus-1_route-1"],
    .visit sweep, .visit sweep]

/-- Only the first of two publications is activated; 181 days later, a sweep
observes the other, and after the grace another one decides to delete it. -/
def unusedPublication : List RetentionLabel :=
  [.claim "bus-1_route-1", .claim "bus-1_route-1", .compute 0, .advance 1,
    .compute 1, .write 0 sampleDetails, .write 1 sampleDetails,
    .activate 0 true, .activate 1 true, .advance (181 * 86400000)] ++
  sweepNewest 0 1715638400001 ++ [.advance 86400000] ++
  sweepNewest 1 1715724800001

theorem retention_spares_unused :
    ∃ last : RtdbWorld RtdbValue,
      last.deletions.length = 1 ∧ last.Lawful plainTools := by
  have decided :
      ((step plainTools).run
        (fun world label => world.spares plainTools label) sampleStart
        (unusedPublication ++ [.finish 1, .finish 1])).any
        (fun last => last.deletions.length == 1) = true := by
    decide +kernel
  obtain ⟨last, steps, ends⟩ := System.exists_of_run decided
  rw [beq_iff_eq] at ends
  exact ⟨last, ends,
    (retention_spares plainTools (fun _ _ => id) sampleEpoch _ _ _ _
      last).2 steps⟩

/-- A change of the route context counts the version on to the one that is
being deleted. -/
theorem rematch_to_deleted : ¬ RetentionSpares plainTools := by
  intro holds
  have decided :
      ((step plainTools).run (fun _ _ => true) sampleStart
        (unusedPublication ++
          [.rematch "bus-1_route-1" true false, .finish 1])).any
        (fun last => last.deletions.any fun deletion =>
          decide (deletion.path = .geometry "bus-1_route-1" "1700000000001") &&
          deletion.routeVersion == some 1700000000001) = true := by
    decide +kernel
  obtain ⟨last, steps, ends⟩ := System.exists_of_run decided
  obtain ⟨deletion, member, found⟩ := List.any_eq_true.mp ends
  rw [Bool.and_eq_true, decide_eq_true_eq, beq_iff_eq] at found
  have lawful := holds sampleEpoch _ _ _ _ last
    (steps.mono fun _ _ _ => trivial)
  apply lawful.spared deletion member _ _ found.1 _ found.2
  rfl

end Eki.Retention
