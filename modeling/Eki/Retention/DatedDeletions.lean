import Eki.Retention.RealtimeRetention

/-!
# Every deletion is dated

A sweep decides on a record by the record's own time, or by an observation since
which the inventory has only seen the same fingerprint.  It deletes what it has
decided on.
-/

namespace Eki.Retention

open Documents Transition
open Option (bind_eq_some_iff filter_eq_some_iff map_eq_some_iff)

variable {F : Type}

/-- The path was first observed at a time, and only with this fingerprint since;
the last observation comes first. -/
def SeenSince (path : RetentionPath) (observed : Observed F)
    (firstSeen : Int) : List (Observation F) → Prop
  | [] => False
  | observation :: earlier =>
    if observation.path = path then
      observation.observed = observed ∧
        (observation.now = firstSeen ∨
          SeenSince path observed firstSeen earlier)
    else SeenSince path observed firstSeen earlier

namespace RetentionTools

variable (tools : RetentionTools F)

/-- The time that a record tells; `none` where it exceeds the bounds. -/
def knownTime (value : RtdbValue) : RetentionPath → Option (Option Int)
  | .legacy _ _ => tools.newestRecordTimestamp value
  | .geometry _ version => some (tools.geometryTime version value)

/-- The fingerprint under which a record is to be deleted. -/
def observed (value : RtdbValue) : RetentionPath → Observed F
  | .legacy _ _ => .plain (tools.fingerprint value)
  | .geometry _ _ => .unreferenced (tools.fingerprint value)

/-- A record is old enough for a sweep: by its time, or without one by when it
was first observed unchanged. -/
structure Decided (now : Int) (path : RetentionPath) (value : RtdbValue)
    (observations : List (Observation F)) : Prop where
  bounded : (tools.knownTime value path).isSome = true
  known : ∀ time, tools.knownTime value path = some (some time) →
    time + rtdbRetentionMs < now
  undated : tools.knownTime value path = some none →
    ∃ firstSeen,
      SeenSince path (tools.observed value path) firstSeen observations ∧
      firstSeen + rtdbRetentionMs < now

end RetentionTools

/-- The deleted record was old enough. -/
structure Deletion.Aged (tools : RetentionTools F)
    (deletion : Deletion F) : Prop where
  decided : tools.Decided deletion.now deletion.path deletion.value
    deletion.observations
  past : deletion.now ≤ deletion.time

namespace RtdbWorld

variable {tools : RetentionTools F} {world next : RtdbWorld F}

structure Dated (tools : RetentionTools F) (world : RtdbWorld F) : Prop where
  inventory : ∀ path record, world.inventory path = some record →
    SeenSince path record.fingerprint record.firstSeenAt world.observations
  started : ∀ sweep ∈ world.sweeps, sweep.now ≤ world.time
  removing : ∀ sweep ∈ world.sweeps, ∀ path value observations,
    sweep.item = some (.removing path value observations) →
      sweep.dryRun = false ∧ tools.Decided sweep.now path value observations
  aged : ∀ deletion ∈ world.deletions, deletion.Aged tools

namespace Dated

theorem start (epoch : Epoch) (legacy : LegacyRoot → Collection RtdbValue)
    (geometry : String → Collection RtdbValue)
    (live : String → Option LiveNode) (checkpoints : String → List Nat) :
    (RtdbWorld.start epoch legacy geometry live checkpoints).Dated tools := by
  constructor
  · intro path record found
    cases found
  · intro sweep member
    cases member
  · intro sweep member
    cases member
  · intro deletion member
    cases member

/-- Who writes records and live nodes does not date anything. -/
theorem frame (dated : world.Dated tools)
    (inventory : next.inventory = world.inventory)
    (observations : next.observations = world.observations)
    (sweeps : next.sweeps = world.sweeps)
    (deletions : next.deletions = world.deletions)
    (later : world.time ≤ next.time) : next.Dated tools := by
  constructor
  · rw [inventory, observations]
    exact dated.inventory
  · rw [sweeps]
    intro sweep member
    have before := dated.started sweep member
    omega
  · rw [sweeps]
    exact dated.removing
  · rw [deletions]
    exact dated.aged

theorem setSweep (dated : world.Dated tools) (index : Nat) {sweep : Sweep F}
    (started : sweep.now ≤ world.time)
    (removing : ∀ path value observations,
      sweep.item = some (.removing path value observations) →
        sweep.dryRun = false ∧
        tools.Decided sweep.now path value observations) :
    (world.setSweep index sweep).Dated tools := by
  refine ⟨dated.inventory, ?_, ?_, dated.aged⟩
  · intro other member
    cases List.mem_or_eq_of_mem_set member with
    | inl before => exact dated.started other before
    | inr same =>
      rw [same]
      exact started
  · intro other member
    cases List.mem_or_eq_of_mem_set member with
    | inl before => exact dated.removing other before
    | inr same =>
      rw [same]
      exact removing

theorem moveOn (dated : world.Dated tools) (index : Nat) {sweep : Sweep F}
    (member : sweep ∈ world.sweeps) (position : SweepPosition)
    {item : Option (SweepItem F)}
    (undecided : ∀ path value observations,
      item ≠ some (.removing path value observations)) :
    (world.setSweep index { sweep with position, item }).Dated tools := by
  apply dated.setSweep index
  · exact dated.started sweep member
  · intro path value observations decided
    exact absurd decided (undecided path value observations)

end Dated

/-! ## Observations -/

variable [DecidableEq F]

theorem seenSince_observedAt (dated : world.Dated tools)
    (path : RetentionPath) (observed : Observed F) (now : Int) :
    SeenSince path observed (world.observedAt path observed now)
      ({ path, observed, now } :: world.observations) := by
  unfold SeenSince observedAt
  rw [if_pos rfl]
  refine ⟨rfl, ?_⟩
  cases found : (world.inventory path).filter fun record =>
      decide (record.fingerprint = observed) &&
        isSafeInteger record.firstSeenAt with
  | none => exact Or.inl rfl
  | some record =>
    obtain ⟨stored, checks⟩ := filter_eq_some_iff.mp found
    rw [Bool.and_eq_true, decide_eq_true_eq] at checks
    have seen := dated.inventory path record stored
    rw [checks.1] at seen
    exact Or.inr seen

theorem Dated.observe (dated : world.Dated tools) (path : RetentionPath)
    (observed : Observed F) (now : Int) (dryRun : Bool) :
    (world.observe path observed now dryRun).Dated tools := by
  unfold RtdbWorld.observe
  split
  · exact dated
  · refine ⟨?_, dated.started, dated.removing, dated.aged⟩
    intro other record found
    simp only at found
    by_cases same : other = path
    · rw [same, Function.update_self] at found
      rw [same]
      cases found
      exact seenSince_observedAt dated path observed now
    · rw [Function.update_of_ne same] at found
      unfold SeenSince
      rw [if_neg (Ne.symm same)]
      exact dated.inventory other record found

theorem observe_sweeps (path : RetentionPath) (observed : Observed F)
    (now : Int) (dryRun : Bool) :
    (world.observe path observed now dryRun).sweeps = world.sweeps := by
  unfold RtdbWorld.observe
  split
  · rfl
  · rfl

variable {path : RetentionPath} {value : RtdbValue}

theorem decided_of_isAged (dated : world.Dated tools) {now : Int}
    {knownTime : Option Int} {geometry : Bool}
    (known : tools.knownTime value path = some knownTime)
    (aged : isAged now knownTime
      (world.observedAt path (tools.observed value path) now) geometry =
        true) :
    tools.Decided now path value
      (world.observe path (tools.observed value path) now
        false).observations := by
  unfold isAged at aged
  simp only [Bool.and_eq_true, decide_eq_true_eq] at aged
  have old := aged.1.1.1
  constructor
  · rw [known]
    rfl
  · intro time dates
    rw [known] at dates
    cases dates
    rw [Option.getD_some] at old
    omega
  · intro undated
    rw [known] at undated
    cases undated
    rw [Option.getD_none] at old
    refine ⟨_, seenSince_observedAt dated path _ now, ?_⟩
    omega

variable {sweep : Sweep F}

theorem Dated.inspect (dated : world.Dated tools) (index : Nat)
    (member : sweep ∈ world.sweeps) {knownTime : Option Int} {geometry : Bool}
    (position : SweepPosition)
    (known : tools.knownTime value path = some knownTime)
    (observed : tools.observed value path =
      if geometry then .unreferenced (tools.fingerprint value)
      else .plain (tools.fingerprint value)) :
    (world.inspect tools index sweep path value knownTime geometry
      position).Dated tools := by
  unfold RtdbWorld.inspect
  simp only
  rw [← observed]
  have seen := dated.observe path (tools.observed value path) sweep.now
    sweep.dryRun
  have stored : sweep ∈ (world.observe path (tools.observed value path)
      sweep.now sweep.dryRun).sweeps := by
    rw [observe_sweeps]
    exact member
  apply seen.setSweep index
  · exact seen.started sweep stored
  · intro other removed observations decided
    simp only at decided
    split at decided
    · rename_i checks
      rw [Bool.and_eq_true, Bool.not_eq_true'] at checks
      cases decided
      refine ⟨checks.2, ?_⟩
      rw [checks.2]
      exact decided_of_isAged dated known checks.1
    · cases decided

/-! ## Steps -/

variable {index : Nat}

omit [DecidableEq F] in
theorem mem_of_idle (idle : world.idleSweep index = some sweep) :
    sweep ∈ world.sweeps ∧ sweep.item = none := by
  obtain ⟨found, nothing⟩ := filter_eq_some_iff.mp idle
  exact ⟨List.mem_of_getElem? found, Option.isNone_iff_eq_none.mp nothing⟩

theorem dated_visitNext (dated : world.Dated tools)
    (member : sweep ∈ world.sweeps) (idle : sweep.item = none)
    (taken : world.visitNext tools index sweep = some next) :
    next.Dated tools := by
  have undecided (path : RetentionPath) (value : RtdbValue)
      (observations : List (Observation F)) :
      sweep.item ≠ some (.removing path value observations) := by
    rw [idle]
    intro decided
    cases decided
  unfold visitNext at taken
  split at taken
  · split at taken
    · cases taken
      exact dated.moveOn index member _ undecided
    · rename_i lastActivity dates
      cases taken
      exact dated.inspect index member _ dates rfl
  · cases taken
    exact dated.moveOn index member _ undecided
  · rename_i nodeKey routeVersion entry entries page _
    simp only at taken
    split at taken
    · cases taken
      apply (dated.observe _ _ sweep.now sweep.dryRun).moveOn index _ _
        undecided
      rw [observe_sweeps]
      exact member
    · cases taken
      exact dated.inspect index member _ rfl rfl
  · rename_i path page _
    cases taken
    apply dated.moveOn index member
    intro other value observations decided
    split at decided
    · cases decided
    · cases decided
  · cases taken

omit [DecidableEq F] in
theorem erase_frame (path : RetentionPath) (world : RtdbWorld F) :
    ∃ legacy geometry, world.erase path = { world with legacy, geometry } := by
  cases path with
  | legacy | geometry => exact ⟨_, _, rfl⟩

variable (distinct : tools.CollisionFree) (dated : world.Dated tools)

include distinct dated

theorem dated_removeIfUnchanged (member : sweep ∈ world.sweeps)
    {observations : List (Observation F)}
    (decided : tools.Decided sweep.now path value observations) :
    (world.removeIfUnchanged tools index sweep path value
      observations).Dated tools := by
  unfold removeIfUnchanged
  split
  · apply dated.moveOn index member
    intro other otherValue otherObservations removing
    cases removing
  · rename_i current found
    obtain ⟨_, same⟩ := filter_eq_some_iff.mp found
    have unchanged := distinct current value (of_decide_eq_true same)
    obtain ⟨legacy, geometry, erased⟩ := erase_frame path world
    have written : Dated tools { world with legacy, geometry } :=
      dated.frame rfl rfl rfl rfl (Nat.le_refl _)
    have forgets : ({ world with legacy, geometry }.setSweep index
        { sweep with item := some (.forgetting path) }).Dated tools := by
      apply written.moveOn index member
      intro other otherValue otherObservations removing
      cases removing
    simp only
    rw [erased]
    refine ⟨forgets.inventory, forgets.started, forgets.removing, ?_⟩
    intro deletion deleted
    cases List.mem_cons.mp deleted with
    | inl now =>
      rw [now, unchanged]
      exact ⟨decided, dated.started sweep member⟩
    | inr before => exact dated.aged deletion before

theorem dated_finishItem (member : sweep ∈ world.sweeps)
    (taken : world.finishItem tools index sweep = some next) :
    next.Dated tools := by
  unfold finishItem at taken
  split at taken
  · cases taken
  · rename_i path value observations item
    cases taken
    apply dated_removeIfUnchanged distinct dated member
    exact (dated.removing sweep member path value observations item).2
  · rename_i path _
    cases taken
    have moved : (world.setSweep index
        { sweep with item := none }).Dated tools := by
      apply dated.moveOn index member
      intro other otherValue otherObservations removing
      cases removing
    refine ⟨?_, moved.started, moved.removing, moved.aged⟩
    intro other record found
    simp only at found
    by_cases same : other = path
    · rw [same, Function.update_self] at found
      cases found
    · rw [Function.update_of_ne same] at found
      exact dated.inventory other record found

theorem dated_step {label : RetentionLabel}
    (taken : step tools world label = some next) : next.Dated tools := by
  cases label with
  | startSweep now dryRun legacyRetired =>
    simp only [step] at taken
    split at taken
    · rename_i past
      cases taken
      refine ⟨dated.inventory, ?_, ?_, dated.aged⟩
      · intro sweep member
        cases List.mem_append.mp member with
        | inl before => exact dated.started sweep before
        | inr added =>
          rw [List.mem_singleton.mp added]
          exact Int.ofNat_le.mpr past
      · intro sweep member
        cases List.mem_append.mp member with
        | inl before => exact dated.removing sweep before
        | inr added =>
          rw [List.mem_singleton.mp added]
          intro path value observations decided
          cases decided
    · cases taken
  | readPage index keys =>
    obtain ⟨sweep, found, taken⟩ := bind_eq_some_iff.mp taken
    obtain ⟨member, idle⟩ := mem_of_idle found
    split at taken
    · obtain ⟨position, _, moved⟩ := map_eq_some_iff.mp taken
      rw [← moved]
      apply dated.moveOn index member
      intro path value observations decided
      rw [idle] at decided
      cases decided
    · cases taken
  | readOrphans index paths =>
    obtain ⟨sweep, found, taken⟩ := bind_eq_some_iff.mp taken
    obtain ⟨member, idle⟩ := mem_of_idle found
    split at taken
    · split at taken
      · cases taken
        apply dated.moveOn index member
        intro path value observations decided
        rw [idle] at decided
        cases decided
      · cases taken
    · cases taken
  | nextLoop index =>
    obtain ⟨sweep, found, taken⟩ := bind_eq_some_iff.mp taken
    obtain ⟨member, idle⟩ := mem_of_idle found
    obtain ⟨position, _, moved⟩ := map_eq_some_iff.mp taken
    rw [← moved]
    apply dated.moveOn index member
    intro path value observations decided
    rw [idle] at decided
    cases decided
  | visit index =>
    obtain ⟨sweep, found, taken⟩ := bind_eq_some_iff.mp taken
    obtain ⟨member, idle⟩ := mem_of_idle found
    exact dated_visitNext dated member idle taken
  | finish index =>
    obtain ⟨sweep, found, taken⟩ := bind_eq_some_iff.mp taken
    exact dated_finishItem distinct dated (List.mem_of_getElem? found) taken
  | abort index | stop index =>
    obtain ⟨sweep, found, moved⟩ := map_eq_some_iff.mp taken
    rw [← moved]
    apply dated.moveOn index (List.mem_of_getElem? found)
    intro path value observations decided
    cases decided
  | claim nodeKey =>
    obtain ⟨expectedVersion, _, claimed⟩ := map_eq_some_iff.mp taken
    rw [← claimed]
    exact dated.frame rfl rfl rfl rfl (Nat.le_refl _)
  | compute index =>
    obtain ⟨publisher, _, computed⟩ := map_eq_some_iff.mp taken
    rw [← computed]
    exact dated.frame rfl rfl rfl rfl (Nat.le_refl _)
  | write index details =>
    obtain ⟨publisher, _, taken⟩ := bind_eq_some_iff.mp taken
    unfold writeGeometry at taken
    split at taken
    · cases taken
      exact dated.frame rfl rfl rfl rfl (Nat.le_refl _)
    · cases taken
  | activate index current =>
    obtain ⟨publisher, _, taken⟩ := bind_eq_some_iff.mp taken
    unfold activateReroute at taken
    split at taken
    · simp only at taken
      split at taken
      · cases taken
        exact dated.frame rfl rfl rfl rfl (Nat.le_refl _)
      · cases taken
        exact dated.frame rfl rfl rfl rfl (Nat.le_refl _)
    · cases taken
  | rematch nodeKey contextChanged missingDynamicGeometry =>
    obtain ⟨live, _, matched⟩ := map_eq_some_iff.mp taken
    rw [← matched]
    exact dated.frame rfl rfl rfl rfl (Nat.le_refl _)
  | restore nodeKey lastRouteVersion =>
    simp only [step] at taken
    split at taken
    · cases taken
      exact dated.frame rfl rfl rfl rfl (Nat.le_refl _)
    · cases taken
  | checkpoint | clear | resetDirection | disappear | writeLegacy =>
    cases taken
    exact dated.frame rfl rfl rfl rfl (Nat.le_refl _)
  | advance ms =>
    simp only [step] at taken
    split at taken
    · cases taken
      exact dated.frame rfl rfl rfl rfl (Nat.le_add_right _ _)
    · cases taken

end RtdbWorld

end Eki.Retention
