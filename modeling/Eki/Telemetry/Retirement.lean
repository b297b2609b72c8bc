import Eki.Telemetry.LivePosition
import Eki.Telemetry.Registry

/-!
# Stale assignments

Revisions order the assignments of a device, the registry gives a bus and a
route to one device, and the record of a pending retirement outlives a handler
that stops half-way.  Two things are left to chance: the tombstone transaction
may find a node that it does not apply to, and the tombstone goes with the next
sample that the node accepts.
-/

namespace Eki

open Transition
open Function (update update_apply update_self)
open List (mem_cons mem_cons_of_mem mem_cons_self pairwise_cons)

variable {R : Type} [JsNumber R]

namespace AssignmentWorld

/-- The record is still in the registry. -/
def Outstanding (world : AssignmentWorld R) (deviceId : String)
    (retirement : AssignmentRetirement) : Prop :=
  ∃ device, world.registry.lookup deviceId = some device ∧
    device.pendingAssignmentRetirement = some retirement

def Applied (world : AssignmentWorld R) (deviceId : String)
    (retirement : AssignmentRetirement) : Prop :=
  .retired deviceId retirement.revision ∈ world.history retirement.nodeKey

/-- What a handler in flight goes on with was recorded, and it only clears what
was applied. -/
def Backs (world : AssignmentWorld R) : RetirementHandler → Prop
  | .retire deviceId retirement => (deviceId, retirement) ∈ world.recorded
  | .clear deviceId retirement =>
    (deviceId, retirement) ∈ world.recorded ∧ world.Applied deviceId retirement

structure Retains (world : AssignmentWorld R) : Prop where
  unshared : Unshared world.registry
  bounded : ∀ deviceId retirement, (deviceId, retirement) ∈ world.recorded →
    ∃ device, world.registry.lookup deviceId = some device ∧
      retirement.revision ≤ device.revision
  single : ∀ deviceId first second, (deviceId, first) ∈ world.recorded →
    (deviceId, second) ∈ world.recorded →
    first.revision = second.revision → first = second
  handlers : ∀ index handler, world.handlers index = some handler →
    world.Backs handler
  pending : ∀ deviceId device retirement,
    world.registry.lookup deviceId = some device →
    device.pendingAssignmentRetirement = some retirement →
    (deviceId, retirement) ∈ world.recorded
  kept : ∀ deviceId retirement, (deviceId, retirement) ∈ world.recorded →
    world.Outstanding deviceId retirement ∨ world.Applied deviceId retirement

namespace Retains

variable {world : AssignmentWorld R}

omit [JsNumber R] in
theorem first (nodes : String → Option (DevicePresence R)) :
    (AssignmentWorld.first nodes).Retains where
  unshared := by
    intro firstId secondId first second found
    cases found
  bounded := by
    intro deviceId retirement member
    cases member
  single := by
    intro deviceId first second member
    cases member
  handlers := by
    intro index handler running
    cases running
  pending := by
    intro deviceId device retirement found
    cases found
  kept := by
    intro deviceId retirement member
    cases member

variable {deviceId : String} {device : RegisteredDevice}

omit [JsNumber R] in
theorem rewrite (retains : world.Retains)
    (unowned : ∀ other found, world.registry.lookup other = some found →
      found.busId = device.busId → found.routeId = device.routeId →
      other = deviceId) (same : device.pendingAssignmentRetirement =
      (world.registry.lookup deviceId).bind (·.pendingAssignmentRetirement))
    (raises : Raises world.registry (world.registry.insert deviceId device)) :
    { world with
      registry := world.registry.insert deviceId device }.Retains where
  unshared := unshared_insert retains.unshared unowned
  bounded := by
    intro other retirement member
    obtain ⟨found, known, bounded⟩ := retains.bounded other retirement member
    obtain ⟨later, knownLater, rises, -⟩ := raises other found known
    exact ⟨later, knownLater, bounded.trans rises⟩
  single := retains.single
  handlers := retains.handlers
  pending := by
    intro other found retirement known pending
    simp only [lookup_insert] at known
    split at known
    · rename_i own
      cases known
      rw [same] at pending
      obtain ⟨previous, knownBefore, pendingBefore⟩ :=
        Option.bind_eq_some_iff.mp pending
      rw [own]
      exact retains.pending deviceId previous retirement knownBefore
        pendingBefore
    · exact retains.pending other found retirement known pending
  kept := by
    intro other retirement member
    rcases retains.kept other retirement member with
      ⟨found, known, pending⟩ | applied
    · left
      unfold Outstanding
      simp only [lookup_insert]
      split
      · rename_i own
        rw [own] at known
        rw [known, Option.bind_some, pending] at same
        exact ⟨device, rfl, same⟩
      · exact ⟨found, known, pending⟩
    · exact .inr applied

variable {retirement : AssignmentRetirement}

section

omit [JsNumber R]

variable (retains : world.Retains)

include retains

theorem move {index : Nat} {previous : RegisteredDevice}
    (unowned : ∀ other found, world.registry.lookup other = some found →
      found.busId = device.busId → found.routeId = device.routeId →
      other = deviceId)
    (known : world.registry.lookup deviceId = some previous)
    (settled : previous.pendingAssignmentRetirement = none)
    (higher : previous.revision < retirement.revision)
    (revision : device.revision = retirement.revision)
    (pending : device.pendingAssignmentRetirement = some retirement)
    (raises : Raises world.registry (world.registry.insert deviceId device)) :
    { world with
      registry := world.registry.insert deviceId device
      handlers := update world.handlers index
        (some (.retire deviceId retirement))
      recorded := (deviceId, retirement) :: world.recorded }.Retains := by
  have below : ∀ earlier, (deviceId, earlier) ∈ world.recorded →
      earlier.revision < retirement.revision := by
    intro earlier member
    obtain ⟨found, knownBefore, bounded⟩ := retains.bounded deviceId _ member
    rw [known] at knownBefore
    cases knownBefore
    exact bounded.trans_lt higher
  constructor
  · exact unshared_insert retains.unshared unowned
  · intro other recorded member
    rcases mem_cons.mp member with new | old
    · cases new
      exact ⟨device, by simp only [lookup_insert, if_true], revision.ge⟩
    · obtain ⟨found, knownBefore, bounded⟩ := retains.bounded other _ old
      obtain ⟨later, knownLater, rises, -⟩ := raises other found knownBefore
      exact ⟨later, knownLater, bounded.trans rises⟩
  · intro other first second firstMember secondMember same
    rcases mem_cons.mp firstMember with firstNew | firstOld
    · rcases mem_cons.mp secondMember with secondNew | secondOld
      · cases firstNew
        cases secondNew
        rfl
      · cases firstNew
        exact absurd same (below second secondOld).ne'
    · rcases mem_cons.mp secondMember with secondNew | secondOld
      · cases secondNew
        exact absurd same (below first firstOld).ne
      · exact retains.single other first second firstOld secondOld same
  · intro slot handler running
    simp only [update_apply] at running
    split at running
    · cases running
      exact mem_cons_self
    · have backs := retains.handlers slot handler running
      cases handler with
      | retire => exact mem_cons_of_mem _ backs
      | clear => exact ⟨mem_cons_of_mem _ backs.1, backs.2⟩
  · intro other found recorded knownAfter pendingAfter
    simp only [lookup_insert] at knownAfter
    split at knownAfter
    · rename_i own
      cases knownAfter
      rw [pending] at pendingAfter
      cases pendingAfter
      rw [own]
      exact mem_cons_self
    · exact mem_cons_of_mem _
        (retains.pending other found recorded knownAfter pendingAfter)
  · intro other recorded member
    rcases mem_cons.mp member with new | old
    · cases new
      exact .inl ⟨device, by simp only [lookup_insert, if_true], pending⟩
    · rcases retains.kept other recorded old with
        ⟨found, knownBefore, pendingBefore⟩ | applied
      · left
        unfold Outstanding
        simp only [lookup_insert]
        split
        · rename_i own
          rw [own, known] at knownBefore
          cases knownBefore
          rw [settled] at pendingBefore
          cases pendingBefore
        · exact ⟨found, knownBefore, pendingBefore⟩
      · exact .inr applied

theorem setHandler (index : Nat) {handler : Option RetirementHandler}
    (backs : ∀ running, handler = some running → world.Backs running) :
    (world.setHandler index handler).Retains where
  unshared := retains.unshared
  bounded := retains.bounded
  single := retains.single
  handlers := by
    intro slot running found
    simp only [AssignmentWorld.setHandler, update_apply] at found
    split at found
    · have backed := backs running found
      cases running with
      | retire | clear => exact backed
    · have backed := retains.handlers slot running found
      cases running with
      | retire | clear => exact backed
  pending := retains.pending
  kept := retains.kept

theorem again (recorded : (deviceId, retirement) ∈ world.recorded) :
    { world with
      recorded := (deviceId, retirement) :: world.recorded }.Retains := by
  have known : ∀ {other earlier},
      (other, earlier) ∈ (deviceId, retirement) :: world.recorded →
      (other, earlier) ∈ world.recorded := by
    intro other earlier member
    rcases mem_cons.mp member with new | before
    · rw [new]
      exact recorded
    · exact before
  constructor
  · exact retains.unshared
  · exact fun other earlier member =>
      retains.bounded other earlier (known member)
  · exact fun other first second firstMember secondMember =>
      retains.single other first second (known firstMember)
        (known secondMember)
  · intro index handler running
    have backs := retains.handlers index handler running
    cases handler with
    | retire => exact mem_cons_of_mem _ backs
    | clear => exact ⟨mem_cons_of_mem _ backs.1, backs.2⟩
  · exact fun other device earlier found pending =>
      mem_cons_of_mem _
        (retains.pending other device earlier found pending)
  · exact fun other earlier member =>
      retains.kept other earlier (known member)

theorem clear (recorded : (deviceId, retirement) ∈ world.recorded)
    (applied : world.Applied deviceId retirement) :
    { world with
      registry := clearRetirement deviceId retirement
        world.registry }.Retains := by
  have raises := raises_of_clear deviceId retirement world.registry
  unfold clearRetirement at raises ⊢
  split at raises
  · exact retains
  · rename_i device known
    split at raises
    · rename_i same
      rw [if_pos same]
      constructor
      · apply unshared_insert retains.unshared
        intro other found knownOther sameBus sameRoute
        exact retains.unshared other deviceId found device knownOther known
          sameBus sameRoute
      · intro other earlier member
        obtain ⟨found, knownOther, bounded⟩ :=
          retains.bounded other earlier member
        obtain ⟨later, knownLater, rises, -⟩ := raises other found knownOther
        exact ⟨later, knownLater, bounded.trans rises⟩
      · exact retains.single
      · exact retains.handlers
      · intro other found earlier knownOther pending
        simp only [lookup_insert] at knownOther
        split at knownOther
        · cases knownOther
          cases pending
        · exact retains.pending other found earlier knownOther pending
      · intro other earlier member
        rcases retains.kept other earlier member with
          ⟨found, knownOther, pending⟩ | before
        · by_cases own : other = deviceId
          · right
            subst own
            rw [known] at knownOther
            cases knownOther
            rw [pending, Option.map_some, Option.some_inj] at same
            have same : earlier = retirement :=
              retains.single other _ _ member recorded same
            rw [same]
            exact applied
          · left
            refine ⟨found, ?_, pending⟩
            simp only [lookup_insert, own, if_false]
            exact knownOther
        · exact .inr before
    · rename_i different
      rw [if_neg different]
      exact retains

theorem onNode {nodes : String → Option (DevicePresence R)} (nodeKey : String)
    (events : List NodeEvent) :
    { world with
      nodes := nodes
      history := update world.history nodeKey
        (events ++ world.history nodeKey) }.Retains := by
  have lasts : ∀ deviceId retirement, world.Applied deviceId retirement →
      AssignmentWorld.Applied
        { world with
          nodes := nodes
          history := update world.history nodeKey
            (events ++ world.history nodeKey) } deviceId retirement := by
    intro deviceId retirement applied
    unfold AssignmentWorld.Applied at applied ⊢
    simp only [update_apply]
    split
    · rename_i same
      rw [same] at applied
      exact List.mem_append_right _ applied
    · exact applied
  constructor
  · exact retains.unshared
  · exact retains.bounded
  · exact retains.single
  · intro index handler running
    have backs := retains.handlers index handler running
    cases handler with
    | retire => exact backs
    | clear => exact ⟨backs.1, lasts _ _ backs.2⟩
  · exact retains.pending
  · intro deviceId retirement member
    rcases retains.kept deviceId retirement member with outstanding | applied
    · exact .inl outstanding
    · exact .inr (lasts _ _ applied)

end

end Retains

/-- No sample of a retired revision was committed after the retirement. -/
def FencedHistory (history : List NodeEvent) : Prop :=
  history.Pairwise fun later earlier =>
    ∀ deviceId retired committed, earlier = .retired deviceId retired →
      later = .committed deviceId committed → retired ≤ committed

structure Fences (world : AssignmentWorld R) : Prop where
  tombstone : ∀ nodeKey deviceId revision rest,
    world.history nodeKey = .retired deviceId revision :: rest →
    ∃ presence, world.nodes nodeKey = some presence ∧
      presence.deviceId = some deviceId ∧
      presence.retiredAssignmentRevision = some revision
  fenced : ∀ nodeKey, FencedHistory (world.history nodeKey)

/-- A tombstone can be left: the node is there, is not another device's or a
later assignment's, and serves no ride. -/
structure Retirable (node : Option (DevicePresence R)) (deviceId : String)
    (revision : Nat) : Prop where
  retires : ∃ presence, node = some presence ∧
    (∀ other, presence.deviceId = some other → other = deviceId) ∧
    presence.assignmentRevision.getD 0 < revision ∧
    (presence.status = .active →
      presence.sessionId = none ∨ presence.sessionId = some "")

variable {deviceId : String} {node : Option (DevicePresence R)}
  {revision : Nat}

omit [JsNumber R] in
theorem retiredDevicePresence_of_retirable
    (retirable : Retirable node deviceId revision) :
    ∃ presence, node = some presence ∧
      retiredDevicePresence node deviceId revision = some
        { presence with
          deviceId := some deviceId
          retiredAssignmentRevision := some revision
          deviceState := some .offline } := by
  obtain ⟨presence, rfl, own, later, idle⟩ := retirable
  refine ⟨presence, rfl, ?_⟩
  have ownDevice : (presence.deviceId.any fun other => other != deviceId) =
      false := by
    cases known : presence.deviceId with
    | none => rfl
    | some other => simp [own other known]
  have serves : (presence.status == .active &&
      presence.sessionId.any fun sessionId => sessionId != "") = false := by
    cases active : presence.status with
    | offline => rfl
    | active =>
      rcases idle active with none | empty
      · simp [none]
      · simp [empty]
  unfold retiredDevicePresence
  simp [ownDevice, serves, Nat.not_le.mpr later]

/-- Where a sample of the revision is stale on the node, a tombstone above it is
the last that happened there. -/
def Covered (history : List NodeEvent) (deviceId : String) (revision : Nat) :
    Prop :=
  (∃ retired, .retired deviceId retired ∈ history ∧ revision < retired) →
    ∃ retired rest, history = .retired deviceId retired :: rest ∧
      revision < retired

/-- Provisioning keeps the assignment of a registered device, a tombstone
transaction finds a node that it applies to, and a stale sample arrives only
while the tombstone is the last that happened to its node. -/
def Orderly (world : AssignmentWorld R) : AssignmentEvent R → Prop
  | .provision deviceId busId routeId _ =>
    ∀ device, world.registry.lookup deviceId = some device →
      device.busId = busId ∧ device.routeId = routeId
  | .retire index believed =>
    ∀ deviceId retirement,
      world.handlers index = some (.retire deviceId retirement) →
      Retirable believed deviceId retirement.revision ∧
        Retirable (world.nodes retirement.nodeKey) deviceId
          retirement.revision
  | .deliver index _ _ =>
    ∀ deviceId assignment,
      world.credentials index = some (deviceId, assignment) →
      Covered (world.history
          (activeRideId assignment.busId assignment.routeId)) deviceId
        (assignment.assignmentRevision.getD 0)
  | _ => True

namespace Fences

variable {world : AssignmentWorld R}

omit [JsNumber R] in
theorem first (nodes : String → Option (DevicePresence R)) :
    (AssignmentWorld.first nodes).Fences where
  tombstone := by
    intro nodeKey deviceId revision rest last
    cases last
  fenced := fun _ => .nil

variable {nodeKey : String}

omit [JsNumber R] in
theorem onNode (fences : world.Fences) {history : List NodeEvent}
    (tombstone : ∀ deviceId revision rest,
      history = .retired deviceId revision :: rest →
      ∃ presence, node = some presence ∧
        presence.deviceId = some deviceId ∧
        presence.retiredAssignmentRevision = some revision)
    (fenced : FencedHistory history) :
    { world with
      nodes := update world.nodes nodeKey node
      history := update world.history nodeKey history }.Fences where
  tombstone := by
    intro other deviceId revision rest last
    simp only [update_apply] at last ⊢
    split
    · rename_i same
      rw [if_pos same] at last
      exact tombstone deviceId revision rest last
    · rename_i different
      rw [if_neg different] at last
      exact fences.tombstone other deviceId revision rest last
  fenced := by
    intro other
    simp only [update_apply]
    split
    · exact fenced
    · exact fences.fenced other

variable {assignment : DeviceAssignment}

theorem le_of_accepted (fences : world.Fences) {sample : TelemetryPayload R}
    {backendReceivedAt : Int} {next : DevicePresence R}
    (own : assignment.deviceId = some deviceId)
    (covered : Covered (world.history nodeKey) deviceId
      (assignment.assignmentRevision.getD 0))
    (accepted : nextTelemetryValue (world.nodes nodeKey) assignment sample
      backendReceivedAt = some next) {retired : Nat}
    (member : .retired deviceId retired ∈ world.history nodeKey) :
    retired ≤ assignment.assignmentRevision.getD 0 := by
  by_contra stale
  obtain ⟨last, rest, recent, above⟩ :=
    covered ⟨retired, member, Nat.lt_of_not_le stale⟩
  obtain ⟨presence, there, device, tombstone⟩ :=
    fences.tombstone nodeKey deviceId last rest recent
  obtain ⟨current, -, -⟩ := nextTelemetryValue_eq_some.mp accepted
  have fenced : retiredSample (world.nodes nodeKey) assignment = true := by
    rw [there]
    simp [retiredSample, tombstone, own, device, above]
  rw [fenced] at current
  cases current

theorem commit (fences : world.Fences) (covered : Covered (world.history
        (activeRideId assignment.busId assignment.routeId)) deviceId
      (assignment.assignmentRevision.getD 0)) (sample : TelemetryPayload R)
    (backendReceivedAt : Int) :
    (world.commitTelemetry deviceId assignment sample
      backendReceivedAt).Fences := by
  unfold commitTelemetry
  simp only
  split
  · exact fences
  · rename_i next accepted
    apply fences.onNode
    · intro other revision rest last
      cases last
    · refine pairwise_cons.mpr ⟨?_, fences.fenced _⟩
      intro earlier member other retired committed isRetired isCommitted
      cases isCommitted
      subst isRetired
      have own : ({ assignment with deviceId := some deviceId } :
          DeviceAssignment).deviceId = some deviceId := rfl
      exact fences.le_of_accepted own covered accepted member

omit [JsNumber R] in
theorem retire (fences : world.Fences) (deviceId : String)
    (retirement : AssignmentRetirement)
    (believed : Option (DevicePresence R)) :
    (world.retireNode deviceId retirement believed).Fences := by
  unfold retireNode
  simp only
  split
  · rename_i expected retired _ applies
    apply fences.onNode
    · intro other revision rest last
      cases last
      unfold retiredDevicePresence at applies
      split at applies
      · cases applies
      · split at applies
        · cases applies
        · cases applies
          exact ⟨_, rfl, rfl, rfl⟩
    · refine pairwise_cons.mpr ⟨?_, fences.fenced _⟩
      intro earlier member other revision committed _ isCommitted
      cases isCommitted
  · exact fences

end Fences

omit [JsNumber R] in
theorem retireNode_registry (world : AssignmentWorld R) (deviceId : String)
    (retirement : AssignmentRetirement)
    (believed : Option (DevicePresence R)) :
    (world.retireNode deviceId retirement believed).registry = world.registry ∧
      (world.retireNode deviceId retirement believed).recorded =
        world.recorded := by
  unfold retireNode
  simp only
  split
  · exact ⟨rfl, rfl⟩
  · exact ⟨rfl, rfl⟩

variable {believed : Option (DevicePresence R)}

omit [JsNumber R] in
theorem applied_of_retire (world : AssignmentWorld R)
    {retirement : AssignmentRetirement}
    (expected : Retirable believed deviceId retirement.revision)
    (found : Retirable (world.nodes retirement.nodeKey) deviceId
      retirement.revision) :
    (world.retireNode deviceId retirement believed).Applied deviceId
      retirement := by
  obtain ⟨before, -, believes⟩ := retiredDevicePresence_of_retirable expected
  obtain ⟨presence, -, applies⟩ := retiredDevicePresence_of_retirable found
  unfold retireNode Applied
  simp only [believes, applies, update_self]
  exact mem_cons_self

variable {world : AssignmentWorld R}

omit [JsNumber R] in
theorem Retains.retire (retains : world.Retains) (deviceId : String)
    (retirement : AssignmentRetirement)
    (believed : Option (DevicePresence R)) :
    (world.retireNode deviceId retirement believed).Retains := by
  unfold retireNode
  simp only
  split
  · exact retains.onNode retirement.nodeKey
      [.retired deviceId retirement.revision]
  · exact retains

theorem Retains.commit (retains : world.Retains) (deviceId : String)
    (assignment : DeviceAssignment) (sample : TelemetryPayload R)
    (backendReceivedAt : Int) :
    (world.commitTelemetry deviceId assignment sample
      backendReceivedAt).Retains := by
  unfold commitTelemetry
  simp only
  split
  · exact retains
  · exact retains.onNode (activeRideId assignment.busId assignment.routeId)
      [.committed deviceId (assignment.assignmentRevision.getD 0)]

variable {next : AssignmentWorld R}

variable {index : Nat} {reads : AssignmentReads}

theorem Retains.assign (retains : world.Retains) {request : AssignmentRequest}
    (taken : world.step (.assign index request reads) = some next) :
    next.Retains ∧ Raises world.registry next.registry := by
  unfold step at taken
  simp only at taken
  split at taken
  · cases taken
  · split at taken
    · cases taken
      exact ⟨retains, .refl _⟩
    · rename_i registry saved
      cases taken
      obtain ⟨device, rfl, unowned, assigned⟩ := assignDevice_eq_ok saved
      have raises := assigned.raises
      refine ⟨retains.rewrite (fun _ _ => unowned_of_lookup unowned) ?_ raises,
        raises⟩
      generalize kept : (none : Option AssignmentRetirement) = retirement
        at assigned
      cases assigned with
      | created unknown revision pending =>
        rw [unknown]
        exact pending
      | kept known sameBus sameRoute revision pending =>
        rw [known]
        exact pending
      | moved => cases kept
    · rename_i registry retirement saved
      cases taken
      obtain ⟨device, rfl, unowned, assigned⟩ := assignDevice_eq_ok saved
      have raises := assigned.raises
      refine ⟨?_, raises⟩
      generalize left_ : some retirement = leaves at assigned
      cases assigned with
      | created => cases left_
      | kept known sameBus sameRoute revision pending =>
        -- A retry of the present assignment takes up its own record.
        have recorded : (request.deviceId, retirement) ∈ world.recorded :=
          retains.pending request.deviceId _ retirement known left_.symm
        have rewritten := retains.rewrite
          (fun _ _ => unowned_of_lookup unowned)
          (by rw [known]; exact pending) raises
        apply (rewritten.again recorded).setHandler index
        intro running same
        cases same
        exact mem_cons_self
      | moved known settled bounded revision pending =>
        cases left_
        exact retains.move (fun _ _ => unowned_of_lookup unowned) known
          settled (Nat.lt_succ_self _) (revision_of_safe revision bounded)
          pending raises

omit [JsNumber R] in
theorem Retains.provision (retains : world.Retains) {busId routeId : String}
    {registry : DeviceRegistry}
    (saved : provisionDevice deviceId busId routeId reads world.registry =
      .ok registry)
    (keeps : ∀ device, world.registry.lookup deviceId = some device →
      device.busId = busId ∧ device.routeId = routeId) :
    { world with registry := registry }.Retains := by
  have raises := raises_of_provision saved keeps
  obtain ⟨unowned, rfl⟩ := provisionDevice_eq_ok saved
  exact retains.rewrite (fun _ _ => unowned_of_lookup unowned) rfl raises

omit [JsNumber R] in
theorem Retains.disable (retains : world.Retains) (deviceId : String) :
    { world with
      registry := disableDevice deviceId world.registry }.Retains := by
  have raises := raises_of_disable deviceId world.registry
  unfold disableDevice at raises ⊢
  split at raises
  · exact retains
  · rename_i device known
    apply retains.rewrite
    · intro other found knownOther sameBus sameRoute
      exact retains.unshared other deviceId found device knownOther known
        sameBus sameRoute
    · rw [known]
      rfl
    · exact raises

theorem Retains.stepRetire (retains : world.Retains) (fences : world.Fences)
    (orderly : world.Orderly (.retire index believed))
    (taken : world.step (.retire index believed) = some next) :
    next.Retains ∧ next.Fences ∧ Raises world.registry next.registry := by
  unfold step at taken
  simp only at taken
  split at taken
  · rename_i deviceId retirement running
    have recorded := retains.handlers index _ running
    obtain ⟨expected, found⟩ := orderly deviceId retirement running
    split at taken
    · cases taken
      have retired := retains.retire deviceId retirement believed
      have fenced := fences.retire deviceId retirement believed
      obtain ⟨sameRegistry, sameRecorded⟩ :=
        world.retireNode_registry deviceId retirement believed
      refine ⟨?_, ⟨fenced.tombstone, fenced.fenced⟩, ?_⟩
      · apply retired.setHandler index
        intro handler clears
        cases clears
        refine ⟨?_, world.applied_of_retire expected found⟩
        rw [sameRecorded]
        exact recorded
      · change Raises world.registry
          (world.retireNode deviceId retirement believed).registry
        rw [sameRegistry]
        exact .refl _
    · cases taken
      exact ⟨retains.setHandler index (by simp),
        ⟨fences.tombstone, fences.fenced⟩, .refl _⟩
  · cases taken

variable {event : AssignmentEvent R}

theorem sound_step (retains : world.Retains) (fences : world.Fences)
    (orderly : world.Orderly event) (taken : world.step event = some next) :
    next.Retains ∧ next.Fences ∧ Raises world.registry next.registry := by
  cases event with
  | assign index request reads =>
    obtain ⟨retainsNext, raises⟩ := retains.assign taken
    refine ⟨retainsNext, ?_, raises⟩
    unfold step at taken
    simp only at taken
    split at taken
    · cases taken
    · split at taken
      · cases taken
        exact fences
      · cases taken
        exact ⟨fences.tombstone, fences.fenced⟩
      · cases taken
        exact ⟨fences.tombstone, fences.fenced⟩
  | retire index believed =>
    exact retains.stepRetire fences orderly taken
  | clear index =>
    unfold step at taken
    simp only at taken
    split at taken
    · rename_i deviceId retirement running
      cases taken
      obtain ⟨recorded, applied⟩ := retains.handlers index _ running
      have cleared := retains.clear recorded applied
      exact ⟨cleared.setHandler index (by simp),
        ⟨fences.tombstone, fences.fenced⟩, raises_of_clear _ _ _⟩
    · cases taken
  | lose index =>
    cases taken
    exact ⟨retains.setHandler index (by simp),
      ⟨fences.tombstone, fences.fenced⟩, .refl _⟩
  | provision deviceId busId routeId reads =>
    unfold step at taken
    simp only at taken
    split at taken
    · cases taken
      exact ⟨retains, fences, .refl _⟩
    · rename_i registry saved
      cases taken
      exact ⟨retains.provision saved orderly,
        ⟨fences.tombstone, fences.fenced⟩,
        raises_of_provision saved orderly⟩
  | disable deviceId =>
    cases taken
    exact ⟨retains.disable deviceId, ⟨fences.tombstone, fences.fenced⟩,
      raises_of_disable deviceId world.registry⟩
  | authenticate index deviceId =>
    cases taken
    exact ⟨⟨retains.unshared, retains.bounded, retains.single,
      retains.handlers, retains.pending, retains.kept⟩,
      ⟨fences.tombstone, fences.fenced⟩, .refl _⟩
  | deliver index sample backendReceivedAt =>
    unfold step at taken
    simp only at taken
    split at taken
    · cases taken
    · rename_i deviceId assignment authenticated
      cases taken
      have covered := orderly deviceId assignment authenticated
      refine ⟨retains.commit deviceId assignment sample backendReceivedAt,
        fences.commit covered sample backendReceivedAt, ?_⟩
      unfold commitTelemetry
      simp only
      split
      · exact .refl _
      · exact .refl _
  | lifecycle nodeKey status sessionId =>
    cases taken
    refine ⟨⟨retains.unshared, retains.bounded, retains.single,
      retains.handlers, retains.pending, retains.kept⟩,
      ⟨?_, fences.fenced⟩, .refl _⟩
    intro other deviceId revision rest last
    obtain ⟨presence, there, device, tombstone⟩ :=
      fences.tombstone other deviceId revision rest last
    by_cases own : other = nodeKey
    · subst own
      refine ⟨{ presence with status := status, sessionId := sessionId },
        ?_, device, tombstone⟩
      simp only [update_self, there, Option.getD_some]
    · refine ⟨presence, ?_, device, tombstone⟩
      simp only [update_apply, own, if_false]
      exact there
  | delete nodeKey =>
    cases taken
    refine ⟨retains.onNode nodeKey [.deleted], ?_, .refl _⟩
    apply fences.onNode
    · intro deviceId revision rest last
      cases last
    · refine pairwise_cons.mpr ⟨?_, fences.fenced _⟩
      intro earlier member other revision committed _ isCommitted
      cases isCommitted

/-- A bus and a route have one device, a recorded retirement is in the registry
until its tombstone was applied, and no retired sample was committed after. -/
structure StaleAssignmentsFenced (world : AssignmentWorld R) : Prop where
  unshared : Unshared world.registry
  retained : ∀ deviceId retirement, (deviceId, retirement) ∈ world.recorded →
    world.Outstanding deviceId retirement ∨ world.Applied deviceId retirement
  recorded : ∀ deviceId device retirement,
    world.registry.lookup deviceId = some device →
    device.pendingAssignmentRetirement = some retirement →
    (deviceId, retirement) ∈ world.recorded
  fenced : ∀ nodeKey, FencedHistory (world.history nodeKey)

/-- In orderly runs assignments are fenced, and between any two states no
revision falls and every change of an assignment raises it. -/
theorem stale_assignments_fenced
    {nodes : String → Option (DevicePresence R)}
    {earlier later : AssignmentWorld R}
    (before : System.Steps assignments Orderly (first nodes) earlier)
    (after : System.Steps assignments Orderly earlier later) :
    later.StaleAssignmentsFenced ∧ Raises earlier.registry later.registry := by
  have kept : ∀ state event next,
      (Retains state ∧ Fences (R := R) state) → Orderly state event →
      assignments state event = some next → Retains next ∧ Fences next := by
    intro state event next sound orderly taken
    obtain ⟨retains, fences, -⟩ :=
      sound_step sound.1 sound.2 orderly taken
    exact ⟨retains, fences⟩
  have sound : earlier.Retains ∧ earlier.Fences :=
    before.invariant ⟨.first nodes, .first nodes⟩ kept
  obtain ⟨retains, fences⟩ : later.Retains ∧ later.Fences :=
    after.invariant sound kept
  refine ⟨⟨retains.unshared, retains.kept, retains.pending, fences.fenced⟩, ?_⟩
  apply after.related sound kept
  · exact fun state => Raises.refl state.registry
  · exact fun _ _ _ => Raises.trans
  · intro state event next sound orderly taken
    exact (sound_step sound.1 sound.2 orderly taken).2.2

omit [JsNumber R] in
theorem retirable_of_isSome
    (applies : (retiredDevicePresence node deviceId revision).isSome = true) :
    Retirable node deviceId revision := by
  unfold retiredDevicePresence at applies
  split at applies
  · cases applies
  · rename_i presence
    split at applies
    · cases applies
    · rename_i applicable
      simp only [Bool.or_eq_true, Bool.and_eq_true, decide_eq_true_eq, not_or,
        not_and, beq_iff_eq, Option.any_eq_true, bne_iff_ne, not_exists,
        ne_eq, not_not, not_le] at applicable
      refine ⟨presence, rfl, applicable.1.1, applicable.1.2, ?_⟩
      intro active
      cases known : presence.sessionId with
      | none => exact .inl rfl
      | some sessionId =>
        rw [applicable.2 active sessionId known]
        exact .inr rfl

/-- No tombstone above the revision, or it is the last event. -/
def coveredBy (history : List NodeEvent) (deviceId : String)
    (revision : Nat) : Bool :=
  (history.all fun event =>
    match event with
    | .retired other retired => other != deviceId || decide (retired ≤ revision)
    | _ => true) ||
  match history.head? with
  | some (.retired other retired) =>
    other == deviceId && decide (revision < retired)
  | _ => false

theorem covered_of_coveredBy {history : List NodeEvent}
    (checked : coveredBy history deviceId revision = true) :
    Covered history deviceId revision := by
  intro stale
  obtain ⟨retired, member, above⟩ := stale
  unfold coveredBy at checked
  rcases Bool.or_eq_true_iff.mp checked with none | last
  · have fine := List.all_eq_true.mp none _ member
    simp only [bne_self_eq_false, Bool.false_or, decide_eq_true_eq] at fine
    exact absurd above (Nat.not_lt.mpr fine)
  · split at last
    · rename_i other recent known
      simp only [Bool.and_eq_true, beq_iff_eq, decide_eq_true_eq] at last
      obtain ⟨rfl, above⟩ := last
      obtain ⟨rest, whole⟩ := List.head?_eq_some_iff.mp known
      exact ⟨recent, rest, whole, above⟩
    · cases last

def orderlyBy (world : AssignmentWorld R) : AssignmentEvent R → Bool
  | .provision _ _ _ _ => false
  | .retire index believed =>
    (world.handlers index).all fun handler =>
      match handler with
      | .retire deviceId retirement =>
        (retiredDevicePresence believed deviceId retirement.revision).isSome &&
          (retiredDevicePresence (world.nodes retirement.nodeKey)
            deviceId retirement.revision).isSome
      | _ => true
  | .deliver index _ _ =>
    (world.credentials index).all fun credential =>
      coveredBy (world.history
          (activeRideId credential.2.busId credential.2.routeId))
        credential.1 (credential.2.assignmentRevision.getD 0)
  | _ => true

omit [JsNumber R] in
theorem orderly_of_orderlyBy (checked : world.orderlyBy event = true) :
    world.Orderly event := by
  cases event with
  | provision => cases checked
  | retire index believed =>
    intro deviceId retirement running
    simp only [orderlyBy, running, Option.all_some, Bool.and_eq_true]
      at checked
    exact ⟨retirable_of_isSome checked.1, retirable_of_isSome checked.2⟩
  | deliver index sample backendReceivedAt =>
    intro deviceId assignment authenticated
    simp only [orderlyBy, authenticated, Option.all_some] at checked
    exact covered_of_coveredBy checked
  | assign | clear | lose | disable | authenticate | lifecycle | delete =>
    trivial

def demoReads : AssignmentReads where
  validAssignment := true
  targetRide := false
  targetLock := false
  previousRide := false
  previousLock := false

def assignTo (deviceId routeId : String) : AssignmentEvent ℚ :=
  .assign 0
    { deviceId := deviceId, busId := "a", routeId := routeId,
      requestedEnabled := none } demoReads

def deliverAt (index : Nat) (seq : Int) : AssignmentEvent ℚ :=
  .deliver index (equatorFix seq (1000 * seq) 0 0 (some 1)) (1000 * seq)

/-- The node after the first sample of the device. -/
def demoPresence : DevicePresence ℚ :=
  telemetryPresence none
    { busId := "a", routeId := "r", deviceId := some "d",
      assignmentRevision := some 1 }
    (equatorFix 1 1000 0 0 (some 1)) 1000

/-- A device serves a route, a request of it stays behind, and it is moved and
retired. -/
def retiredRun : List (AssignmentEvent ℚ) :=
  [assignTo "d" "r", .authenticate 0 "d", deliverAt 0 1, assignTo "d" "s",
    .retire 0 (some demoPresence), .clear 0]

/-- The delayed request arrives after a replacement was seen on the node. -/
def replacedRun : List (AssignmentEvent ℚ) :=
  retiredRun ++ [assignTo "e" "r", .authenticate 1 "e", deliverAt 1 2,
    deliverAt 0 3]

/-- The device is moved before it was ever seen on its node. -/
def unseenRun : List (AssignmentEvent ℚ) :=
  [assignTo "d" "r", assignTo "d" "s", .retire 0 none, .clear 0]

theorem stale_assignments_fenced_retired :
    ∃ world : AssignmentWorld ℚ,
      world.history "a_r" = [.retired "d" 2, .committed "d" 1] ∧
      world.StaleAssignmentsFenced := by
  have decided : (assignments.run orderlyBy (first fun _ => none)
      (retiredRun ++ [deliverAt 0 3])).any (fun world =>
        decide (world.history "a_r" =
          [.retired "d" 2, .committed "d" 1])) = true := by
    decide +kernel
  obtain ⟨world, steps, happened⟩ := System.exists_of_run decided
  have orderly : System.Steps assignments Orderly (first fun _ => none) world :=
    steps.mono fun _ _ => orderly_of_orderlyBy
  exact ⟨world, of_decide_eq_true happened,
    (stale_assignments_fenced orderly (.refl world)).1⟩

/-- Neither provisioning nor another writer of the nodes takes part. -/
def reassigns : AssignmentEvent R → Bool
  | .provision _ _ _ _ => false
  | .disable _ => false
  | .lifecycle _ _ _ => false
  | .delete _ => false
  | _ => true

/-- Stale assignments are fenced in all runs of reassignments, retirements and
telemetry. -/
def AlwaysFenced : Prop :=
  ∀ world : AssignmentWorld ℚ,
    System.Steps assignments (fun _ event => reassigns event = true)
      (first fun _ => none) world →
    world.StaleAssignmentsFenced

/-- A provisioned device moves under the revision it has. -/
def provisionedRun : List (AssignmentEvent ℚ) :=
  [.provision "d" "a" "s" demoReads]

/-- A replacement's sample takes the tombstone away, a retirement that finds no
node leaves none, and provisioning moves a device under its old revision. -/
theorem stale_assignments_not_fenced :
    (∃ world : AssignmentWorld ℚ,
      System.Steps assignments (fun _ event => reassigns event = true)
        (first fun _ => none) world ∧
      ¬ FencedHistory (world.history "a_r")) ∧
    (∃ world : AssignmentWorld ℚ,
      System.Steps assignments (fun _ event => reassigns event = true)
        (first fun _ => none) world ∧
      ∃ retirement, ("d", retirement) ∈ world.recorded ∧
        ¬ world.Outstanding "d" retirement ∧
        ¬ world.Applied "d" retirement) ∧
    (∃ earlier later : AssignmentWorld ℚ,
      System.Steps assignments (fun _ _ => True) (first fun _ => none)
        earlier ∧
      System.Steps assignments (fun _ _ => True) earlier later ∧
      ¬ Raises earlier.registry later.registry) ∧
    ¬ AlwaysFenced := by
  have replaced : (assignments.run (fun _ event => reassigns event)
      (first fun _ => none) replacedRun).any (fun world =>
        decide (world.history "a_r" = [.committed "d" 1, .committed "e" 1,
          .retired "d" 2, .committed "d" 1])) = true := by
    decide +kernel
  have unseen : (assignments.run (fun _ event => reassigns event)
      (first fun _ => none) unseenRun).any (fun world =>
        decide (world.recorded = [("d", ⟨"a", "r", 2⟩)]) &&
          decide ((world.registry.lookup "d").bind
            (·.pendingAssignmentRetirement) = none) &&
          decide (world.history "a_r" = [])) = true := by
    decide +kernel
  have moved : (assignments.run (fun _ _ => true) (first fun _ => none)
      [assignTo "d" "r"]).any (fun earlier =>
        (assignments.run (fun _ _ => true) earlier provisionedRun).any
          fun later =>
            decide ((earlier.registry.lookup "d").map (fun device =>
                (device.revision, device.routeId)) = some (1, "r")) &&
              decide ((later.registry.lookup "d").map (fun device =>
                (device.revision, device.routeId)) = some (1, "s"))) =
      true := by
    decide +kernel
  obtain ⟨revived, revivedSteps, happened⟩ := System.exists_of_run replaced
  obtain ⟨unmarked, unmarkedSteps, cleared⟩ := System.exists_of_run unseen
  obtain ⟨earlier, earlierSteps, provisioned⟩ := System.exists_of_run moved
  obtain ⟨later, laterSteps, places⟩ := System.exists_of_run provisioned
  simp only [Bool.and_eq_true, decide_eq_true_eq] at happened cleared places
  have unfenced : ¬ FencedHistory (revived.history "a_r") := by
    rw [happened]
    intro fenced
    have below := (pairwise_cons.mp fenced).1 (.retired "d" 2)
      (by simp) "d" 2 1 rfl rfl
    omega
  refine ⟨⟨revived, revivedSteps, unfenced⟩,
    ⟨unmarked, unmarkedSteps, ⟨"a", "r", 2⟩, by simp [cleared.1.1], ?_, ?_⟩,
    ⟨earlier, later, earlierSteps.mono fun _ _ _ => trivial,
      laterSteps.mono fun _ _ _ => trivial, ?_⟩, ?_⟩
  · intro outstanding
    obtain ⟨device, known, pending⟩ := outstanding
    have none := cleared.1.2
    rw [known, Option.bind_some, pending] at none
    cases none
  · intro applied
    unfold Applied at applied
    rw [show (AssignmentRetirement.mk "a" "r" 2).nodeKey = "a_r" from by
      decide, cleared.2] at applied
    cases applied
  · intro raises
    obtain ⟨device, known, place⟩ := Option.map_eq_some_iff.mp places.1
    obtain ⟨after, knownAfter, placeAfter⟩ :=
      Option.map_eq_some_iff.mp places.2
    obtain ⟨found, knownFound, -, stays⟩ := raises "d" device known
    rw [knownAfter] at knownFound
    cases knownFound
    simp only [Prod.mk.injEq] at place placeAfter
    have route := (stays (placeAfter.1.trans place.1.symm)).2
    rw [place.2, placeAfter.2] at route
    exact absurd route (by decide)
  · intro always
    exact unfenced ((always revived revivedSteps).fenced "a_r")

end AssignmentWorld

end Eki
