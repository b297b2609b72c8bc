import Eki.Telemetry.Assignment

/-!
# The device registry

What the transactions on the registry can write: a device that is new, stays
where it is or moves.  Each keeps a bus and a route to one device and does not
lower a revision.
-/

namespace Eki

theorem lookup_insert (registry : DeviceRegistry) (deviceId other : String)
    (device : RegisteredDevice) :
    (registry.insert deviceId device).lookup other =
      if other = deviceId then some device else registry.lookup other := by
  split
  · rename_i same
    subst same
    exact AList.lookup_insert registry
  · rename_i different
    exact AList.lookup_insert_ne different

def Unshared (registry : DeviceRegistry) : Prop :=
  ∀ firstId secondId first second,
    registry.lookup firstId = some first →
    registry.lookup secondId = some second →
    first.busId = second.busId → first.routeId = second.routeId →
    firstId = secondId

variable {registry : DeviceRegistry} {deviceId busId routeId : String}
  {device : RegisteredDevice}

theorem unowned_of_lookup {other : String}
    (unowned : targetOwnedByAnotherDevice registry deviceId busId routeId =
      false) (found : registry.lookup other = some device)
    (sameBus : device.busId = busId) (sameRoute : device.routeId = routeId) :
    other = deviceId := by
  have member : (⟨other, device⟩ : Sigma fun _ : String => RegisteredDevice) ∈
      registry.entries :=
    AList.mem_lookup_iff.mp found
  unfold targetOwnedByAnotherDevice at unowned
  rw [List.any_eq_false] at unowned
  have own := unowned _ member
  simpa [sameBus, sameRoute] using own

theorem unshared_insert (unshared : Unshared registry)
    (unowned : ∀ other found, registry.lookup other = some found →
      found.busId = device.busId → found.routeId = device.routeId →
      other = deviceId) : Unshared (registry.insert deviceId device) := by
  intro firstId secondId first second firstFound secondFound sameBus sameRoute
  rw [lookup_insert] at firstFound secondFound
  split at firstFound
  · rename_i own
    cases firstFound
    split at secondFound
    · rename_i ownToo
      rw [own, ownToo]
    · rw [own]
      exact (unowned secondId second secondFound sameBus.symm
        sameRoute.symm).symm
  · split at secondFound
    · rename_i own
      cases secondFound
      rw [own]
      exact unowned firstId first firstFound sameBus sameRoute
    · exact unshared firstId secondId first second firstFound secondFound
        sameBus sameRoute

/-- A write of the assignment handler: a device that is new, stays where it
is, or moves and leaves a retirement behind. -/
inductive Assigned (registry : DeviceRegistry) (deviceId : String)
    (device : RegisteredDevice) : Option AssignmentRetirement → Prop where
  | created (unknown : registry.lookup deviceId = none)
      (revision : device.assignmentRevision = some 1)
      (pending : device.pendingAssignmentRetirement = none) :
      Assigned registry deviceId device none
  | kept {previous : RegisteredDevice}
      (known : registry.lookup deviceId = some previous)
      (sameBus : previous.busId = device.busId)
      (sameRoute : previous.routeId = device.routeId)
      (revision : device.assignmentRevision = some previous.revision)
      (pending : device.pendingAssignmentRetirement =
        previous.pendingAssignmentRetirement) :
      Assigned registry deviceId device previous.pendingAssignmentRetirement
  | moved {previous : RegisteredDevice}
      (known : registry.lookup deviceId = some previous)
      (settled : previous.pendingAssignmentRetirement = none)
      (bounded : previous.revision + 1 ≤ maxSafeRevision)
      (revision : device.assignmentRevision = some (previous.revision + 1))
      (pending : device.pendingAssignmentRetirement =
        some ⟨previous.busId, previous.routeId, previous.revision + 1⟩) :
      Assigned registry deviceId device
        (some ⟨previous.busId, previous.routeId, previous.revision + 1⟩)

theorem revision_le (device : RegisteredDevice) :
    device.revision ≤ maxSafeRevision := by
  unfold RegisteredDevice.revision
  cases known : device.assignmentRevision with
  | none => exact Nat.zero_le _
  | some revision =>
    by_cases safe : revision ≤ maxSafeRevision
    · simp [Option.filter, safe]
    · simp [Option.filter, safe]

theorem revision_of_safe {revision : Nat}
    (stored : device.assignmentRevision = some revision)
    (safe : revision ≤ maxSafeRevision) : device.revision = revision := by
  simp [RegisteredDevice.revision, stored, Option.filter, safe]

variable {reads : AssignmentReads} {next : DeviceRegistry}

theorem assignDevice_eq_ok {request : AssignmentRequest}
    {retirement : Option AssignmentRetirement}
    (saved : assignDevice request reads registry = .ok (next, retirement)) :
    ∃ device : RegisteredDevice,
      next = registry.insert request.deviceId device ∧
      targetOwnedByAnotherDevice registry request.deviceId device.busId
        device.routeId = false ∧
      Assigned registry request.deviceId device retirement := by
  unfold assignDevice at saved
  iterate 2 (split at saved; · cases saved)
  cases known : registry.lookup request.deviceId with
  | none =>
    simp only [known, Option.any_none, Bool.not_false, Option.bind_none,
      Option.isSome_none, Bool.and_false, Bool.false_eq_true, if_false,
      Option.map_none, Option.getD_none, if_true, Bool.true_and,
      Bool.false_and, Option.or_none] at saved
    split at saved
    · cases saved
    · rename_i unconflicted
      simp only [Bool.or_eq_true, not_or, Bool.not_eq_true] at unconflicted
      split at saved
      · cases saved
      · cases saved
        exact ⟨_, rfl, unconflicted.1, .created known rfl rfl⟩
  | some previous =>
    simp only [known, Option.any_some, Option.bind_some, Option.isSome_some,
      Option.map_some, Option.getD_some, Bool.true_and] at saved
    by_cases same : previous.busId = request.busId ∧
        previous.routeId = request.routeId
    · simp only [same.1, same.2, BEq.rfl, Bool.and_self, Bool.not_true,
        Bool.false_and, Bool.false_eq_true, if_false, Bool.or_false]
        at saved
      split at saved
      · cases saved
      · rename_i unowned
        split at saved
        · cases saved
        · cases saved
          exact ⟨_, rfl, Bool.not_eq_true _ ▸ unowned,
            .kept known same.1 same.2 rfl Option.or_self⟩
    · have changed : (!(previous.busId == request.busId &&
          previous.routeId == request.routeId)) = true := by
        simpa [imp_iff_not_or] using same
      simp only [changed, if_true, Bool.true_and] at saved
      split at saved
      · cases saved
      · rename_i settled
        split at saved
        · cases saved
        · rename_i unconflicted
          simp only [Bool.or_eq_true, not_or, Bool.not_eq_true]
            at unconflicted
          split at saved
          · cases saved
          · split at saved
            · cases saved
            · rename_i bounded
              cases saved
              exact ⟨_, rfl, unconflicted.1,
                .moved known (by simpa using settled)
                  (Nat.le_of_not_lt bounded) rfl rfl⟩

theorem provisionDevice_eq_ok
    (saved : provisionDevice deviceId busId routeId reads registry =
      .ok next) :
    targetOwnedByAnotherDevice registry deviceId busId routeId = false ∧
      next = registry.insert deviceId
        { busId := busId
          routeId := routeId
          enabled := true
          assignmentRevision :=
            (registry.lookup deviceId).bind (·.assignmentRevision)
          pendingAssignmentRetirement :=
            (registry.lookup deviceId).bind
              (·.pendingAssignmentRetirement) } := by
  unfold provisionDevice at saved
  iterate 2 (split at saved; · cases saved)
  split at saved
  · cases saved
  · rename_i unconflicted
    simp only [Bool.or_eq_true, not_or, Bool.not_eq_true] at unconflicted
    simp only at saved
    split at saved
    · cases saved
    · cases saved
      exact ⟨unconflicted.2, rfl⟩

/-- No device is forgotten, no revision falls, and under one revision a device
stays where it is. -/
def Raises (before after : DeviceRegistry) : Prop :=
  ∀ deviceId device, before.lookup deviceId = some device →
    ∃ later, after.lookup deviceId = some later ∧
      device.revision ≤ later.revision ∧
      (later.revision = device.revision →
        later.busId = device.busId ∧ later.routeId = device.routeId)

namespace Raises

theorem refl (registry : DeviceRegistry) : Raises registry registry :=
  fun _ device found => ⟨device, found, le_rfl, fun _ => ⟨rfl, rfl⟩⟩

theorem trans {first second third : DeviceRegistry}
    (front : Raises first second) (back : Raises second third) :
    Raises first third := by
  intro deviceId device found
  obtain ⟨middle, foundMiddle, risesMiddle, sameMiddle⟩ :=
    front deviceId device found
  obtain ⟨later, foundLater, risesLater, sameLater⟩ :=
    back deviceId middle foundMiddle
  refine ⟨later, foundLater, risesMiddle.trans risesLater, ?_⟩
  intro same
  have still : middle.revision = device.revision :=
    le_antisymm (same ▸ risesLater) risesMiddle
  have front := sameMiddle still
  have back := sameLater (same.trans still.symm)
  exact ⟨back.1.trans front.1, back.2.trans front.2⟩

theorem insert (rises : ∀ previous, registry.lookup deviceId = some previous →
      previous.revision ≤ device.revision ∧
        (device.revision = previous.revision →
          device.busId = previous.busId ∧ device.routeId = previous.routeId)) :
    Raises registry (registry.insert deviceId device) := by
  intro other found known
  rw [lookup_insert]
  split
  · rename_i own
    subst own
    exact ⟨device, rfl, rises found known⟩
  · exact ⟨found, known, le_rfl, fun _ => ⟨rfl, rfl⟩⟩

end Raises

namespace Assigned

variable {registry : DeviceRegistry} {deviceId : String}
  {device : RegisteredDevice} {retirement : Option AssignmentRetirement}

theorem raises (assigned : Assigned registry deviceId device retirement) :
    Raises registry (registry.insert deviceId device) := by
  apply Raises.insert
  intro previous found
  cases assigned with
  | created unknown revision pending =>
    rw [unknown] at found
    cases found
  | kept known sameBus sameRoute revision pending =>
    rw [known] at found
    cases found
    rw [revision_of_safe revision (revision_le previous)]
    exact ⟨le_rfl, fun _ => ⟨sameBus.symm, sameRoute.symm⟩⟩
  | moved known settled bounded revision pending =>
    rw [known] at found
    cases found
    rw [revision_of_safe revision bounded]
    exact ⟨Nat.le_succ _, fun same => absurd same (Nat.succ_ne_self _)⟩

end Assigned

theorem raises_of_provision
    (saved : provisionDevice deviceId busId routeId reads registry = .ok next)
    (keeps : ∀ device, registry.lookup deviceId = some device →
      device.busId = busId ∧ device.routeId = routeId) :
    Raises registry next := by
  obtain ⟨-, rfl⟩ := provisionDevice_eq_ok saved
  apply Raises.insert
  intro previous known
  obtain ⟨rfl, rfl⟩ := keeps previous known
  rw [known]
  exact ⟨le_rfl, fun _ => ⟨rfl, rfl⟩⟩

theorem raises_of_same {previous : RegisteredDevice}
    (known : registry.lookup deviceId = some previous)
    (sameBus : device.busId = previous.busId)
    (sameRoute : device.routeId = previous.routeId)
    (sameRevision : device.assignmentRevision = previous.assignmentRevision) :
    Raises registry (registry.insert deviceId device) := by
  apply Raises.insert
  intro found same
  rw [known] at same
  cases same
  refine ⟨?_, fun _ => ⟨sameBus, sameRoute⟩⟩
  rw [RegisteredDevice.revision, RegisteredDevice.revision, sameRevision]

theorem raises_of_disable (deviceId : String) (registry : DeviceRegistry) :
    Raises registry (disableDevice deviceId registry) := by
  unfold disableDevice
  split
  · exact .refl registry
  · rename_i device known
    exact raises_of_same known rfl rfl rfl

theorem raises_of_clear (deviceId : String) (retirement : AssignmentRetirement)
    (registry : DeviceRegistry) :
    Raises registry (clearRetirement deviceId retirement registry) := by
  unfold clearRetirement
  split
  · exact .refl registry
  · rename_i device known
    split
    · exact raises_of_same known rfl rfl rfl
    · exact .refl registry

end Eki
