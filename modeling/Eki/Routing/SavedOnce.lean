import Eki.Routing.RouteSaves

/-!
# Route saves commit once and lose no edit

A commit leaves its operation succeeded, and only a sweep touches it from then
on.  While a route is not deleted its version is the version of a cell, so an
edit that expects it was made from the stored route.  A route that is created
again starts at version one once more.
-/

namespace Eki

open Transition Versioned
open Function (update update_of_ne update_self)
open Option (bind_eq_some_iff filter_eq_some_iff map_eq_some_iff)

variable {R : Type}

/-- A stored route as a cell that counts its saves. -/
def RouteData.cell (route : RouteData R) : Cell (RouteData R) where
  value := route
  version := routeDocumentVersion (some route)

theorem readVersion_of_safe {version : Nat}
    (safe : (version : Int) ≤ maxSafeInteger) :
    readVersion (some version) = version := by
  simp [readVersion, Option.filter, safe]

/-- A route that was read and has not been deleted since is still there, as it
was read or at another version. -/
structure OpenedRoute.Follows (opened : OpenedRoute R)
    (saves : RouteSaves R) : Prop where
  deletions_le : opened.deletions ≤ saves.deletions opened.routeId
  current : opened.deletions = saves.deletions opened.routeId →
    ∃ route, saves.routes opened.routeId = some route ∧
      Current route.cell opened.version (· = opened.route)

/-- What a save commits with is its own next version. -/
structure RouteSaveRequest.Targets (request : RouteSaveRequest R)
    (routeData : RouteData R) (result : RouteSaveResult R) : Prop where
  saveId : result.saveId = request.saveId
  routeId : result.routeId = request.routeId
  version : result.configVersion = request.expectedVersion + 1
  stored : routeData.configVersion = some (result.configVersion : Int)

structure RouteSaves.Knows (saves : RouteSaves R)
    (attempt : RouteSaveAttempt R) : Prop where
  targets : ∀ routeData result,
    attempt.stage = .committing routeData result →
    attempt.request.Targets routeData result
  opened : ∀ opened, attempt.opened = some opened →
    opened ∈ saves.opened ∧ opened.routeId = attempt.request.routeId ∧
      opened.version = attempt.request.expectedVersion

namespace RouteSaveCommit

variable (commit : RouteSaveCommit R)

def Raises : Prop :=
  routeDocumentVersion (some commit.after) =
    routeDocumentVersion commit.before + 1

/-- The edit replaces the route that its editor read. -/
def LosesNothing : Prop :=
  commit.mode = .edit → ∀ opened, commit.opened = some opened →
    commit.before = some opened.route

structure RecordedBy (operation : RouteSaveOperation R) : Prop where
  status : operation.status = .succeeded
  result : ∃ result, operation.result = some result ∧
    result.saveId = commit.saveId ∧ result.routeId = commit.routeId ∧
    routeDocumentVersion (some commit.after) = result.configVersion

end RouteSaveCommit

namespace RouteSaves

def mayCommit (config : RouteSaveConfig R) (saves : RouteSaves R)
    (attempt : RouteSaveAttempt R) (rideOwnsRoute : Bool) : Bool :=
  ((saves.operations attempt.request.saveId).any
      (·.isHeld attempt.leaseOwner
        (config.routeSavePayloadHash attempt.request.toRouteSavePayload))) &&
    attempt.request.finds (saves.routes attempt.request.routeId) &&
    !(attempt.request.mode == .edit && rideOwnsRoute)

/-- An edit goes through only if its route has not been deleted since its editor
read it, and can be counted on; no sweep deletes a succeeded operation. -/
def keepsEdits (config : RouteSaveConfig R) (saves : RouteSaves R) :
    RouteSaveLabel R → Bool
  | .commit pid rideOwnsRoute _ =>
    (saves.attempts pid).all fun attempt =>
      attempt.request.mode == .create ||
        !saves.mayCommit config attempt rideOwnsRoute ||
        ((attempt.opened.all fun opened =>
            opened.deletions == saves.deletions opened.routeId) &&
          decide ((attempt.request.expectedVersion : Int) < maxSafeInteger))
  | .sweep saveId =>
    (saves.operations saveId).all fun operation =>
      operation.status != .succeeded
  | _ => true

/-- What holds after any run whose steps meet the condition. -/
structure Sound (saves : RouteSaves R) : Prop where
  once : (saves.commits.map RouteSaveCommit.saveId).Nodup
  committed : ∀ commit ∈ saves.commits, ∃ operation,
    saves.operations commit.saveId = some operation ∧
      commit.RecordedBy operation
  recorded : ∀ saveId operation,
    saves.operations saveId = some operation →
    operation.status = .succeeded →
    ∃ commit ∈ saves.commits, commit.saveId = saveId ∧
      commit.RecordedBy operation
  commits : ∀ commit ∈ saves.commits, commit.Raises ∧ commit.LosesNothing
  opened : ∀ opened ∈ saves.opened, opened.Follows saves
  attempts : ∀ pid attempt, saves.attempts pid = some attempt →
    saves.Knows attempt

def Keeps (first last : RouteSaves R) : Prop :=
  ∀ saveId operation, first.operations saveId = some operation →
    operation.status = .succeeded → last.operations saveId = some operation

theorem Keeps.refl (saves : RouteSaves R) : Keeps saves saves :=
  fun _ _ there _ => there

theorem Keeps.trans {first middle last : RouteSaves R}
    (front : Keeps first middle) (back : Keeps middle last) :
    Keeps first last := by
  intro saveId operation there succeeded
  exact back saveId operation (front saveId operation there succeeded)
    succeeded

section Writes

variable {saves : RouteSaves R} {pid : Nat} {saveId : String}

theorem Sound.start (routes : String → Option (RouteData R)) :
    Sound (RouteSaves.start routes) where
  once := List.nodup_nil
  committed := by rintro commit ⟨⟩
  recorded := by rintro saveId operation ⟨⟩
  commits := by rintro commit ⟨⟩
  opened := by rintro opened ⟨⟩
  attempts := by rintro pid attempt ⟨⟩

theorem Sound.setAttempt (sound : Sound saves)
    {attempt : Option (RouteSaveAttempt R)}
    (known : ∀ known, attempt = some known → saves.Knows known) :
    Sound (saves.setAttempt pid attempt) := by
  refine ⟨sound.once, sound.committed, sound.recorded, sound.commits, ?_, ?_⟩
  · intro opened member
    have follows := sound.opened opened member
    exact ⟨follows.deletions_le, follows.current⟩
  · intro other found inFlight
    have inFlight : update saves.attempts pid attempt other =
        some found := inFlight
    by_cases same : other = pid
    · subst same
      rw [update_self] at inFlight
      have knows := known found inFlight
      exact ⟨knows.targets, knows.opened⟩
    · rw [update_of_ne same] at inFlight
      have knows := sound.attempts other found inFlight
      exact ⟨knows.targets, knows.opened⟩

theorem Sound.writeOperation (sound : Sound saves)
    {after : Option (RouteSaveOperation R)}
    (unsettled : ∀ operation, saves.operations saveId = some operation →
      operation.status ≠ .succeeded)
    (pending : ∀ operation, after = some operation →
      operation.status ≠ .succeeded) :
    Sound (saves.writeOperation saveId after) ∧
      Keeps saves (saves.writeOperation saveId after) := by
  have kept : Keeps saves (saves.writeOperation saveId after) := by
    intro other operation there succeeded
    by_cases same : other = saveId
    · subst same
      exact absurd succeeded (unsettled operation there)
    · have other : (saves.writeOperation saveId after).operations other =
          saves.operations other := update_of_ne same _ _
      rw [other]
      exact there
  refine ⟨⟨sound.once, ?_, ?_, sound.commits, ?_, ?_⟩, kept⟩
  · intro commit member
    obtain ⟨operation, there, recorded⟩ := sound.committed commit member
    exact ⟨operation, kept _ operation there recorded.status, recorded⟩
  · intro other operation there succeeded
    have there : update saves.operations saveId after other =
        some operation := there
    by_cases same : other = saveId
    · subst same
      rw [update_self] at there
      exact absurd succeeded (pending operation there)
    · rw [update_of_ne same] at there
      exact sound.recorded other operation there succeeded
  · intro opened member
    have follows := sound.opened opened member
    exact ⟨follows.deletions_le, follows.current⟩
  · intro other found inFlight
    have knows := sound.attempts other found inFlight
    exact ⟨knows.targets, knows.opened⟩

theorem current_cell (route : RouteData R) :
    Current route.cell (routeDocumentVersion (some route)) (· = route) :=
  current_read route.cell

theorem Sound.openRoute (sound : Sound saves) {routeId : String}
    {route : RouteData R} (there : saves.routes routeId = some route) :
    Sound
      { saves with
        opened :=
          saves.opened ++
            [{ routeId
               route
               deletions := saves.deletions routeId }] } := by
  refine ⟨sound.once, sound.committed, sound.recorded, sound.commits, ?_, ?_⟩
  · intro opened member
    rcases List.mem_append.mp member with earlier | new
    · have follows := sound.opened opened earlier
      exact ⟨follows.deletions_le, follows.current⟩
    · cases List.mem_singleton.mp new
      exact ⟨Nat.le_refl _, fun _ => ⟨route, there, current_cell route⟩⟩
  · intro pid attempt inFlight
    have knows := sound.attempts pid attempt inFlight
    refine ⟨knows.targets, ?_⟩
    intro opened read
    obtain ⟨member, rest⟩ := knows.opened opened read
    exact ⟨List.mem_append_left _ member, rest⟩

theorem Sound.deleteRoute (sound : Sound saves) (routeId : String) :
    Sound
      { saves.writeRoute routeId none with
        deletions :=
          update saves.deletions routeId
            (saves.deletions routeId + 1) } := by
  refine ⟨sound.once, sound.committed, sound.recorded, sound.commits, ?_, ?_⟩
  · intro opened member
    have follows := sound.opened opened member
    by_cases same : opened.routeId = routeId
    · subst same
      have older := follows.deletions_le
      constructor
      · simp only [update_self]
        omega
      · intro deletions
        simp only [update_self] at deletions
        omega
    · constructor
      · simp only [update_of_ne same]
        exact follows.deletions_le
      · simp only [update_of_ne same, writeRoute]
        exact follows.current
  · intro pid attempt inFlight
    have knows := sound.attempts pid attempt inFlight
    exact ⟨knows.targets, knows.opened⟩

theorem writeCommit_operations (saves : RouteSaves R)
    (request : RouteSaveRequest R) (opened : Option (OpenedRoute R))
    (routeData : RouteData R) (operation : RouteSaveOperation R) :
    (saves.writeCommit request opened routeData operation).operations
      request.saveId = some operation :=
  update_self ..

variable {request : RouteSaveRequest R} {opened : Option (OpenedRoute R)}
  {routeData : RouteData R}

theorem writeCommit_operations_of_ne (saves : RouteSaves R)
    {operation : RouteSaveOperation R} (other : saveId ≠ request.saveId) :
    (saves.writeCommit request opened routeData operation).operations saveId =
      saves.operations saveId :=
  update_of_ne other _ _

theorem Sound.writeCommit (sound : Sound saves) {result : RouteSaveResult R}
    {before after : RouteSaveOperation R}
    (targets : request.Targets routeData result)
    (there : saves.operations request.saveId = some before)
    (processing : before.status = .processing)
    (finds : routeDocumentVersion (saves.routes request.routeId) =
      request.expectedVersion)
    (safe : (request.expectedVersion : Int) < maxSafeInteger)
    (current : request.mode = .edit → ∀ found, opened = some found →
      saves.routes request.routeId = some found.route)
    (succeeded : after.status = .succeeded)
    (records : after.result = some result) :
    Sound (saves.writeCommit request opened routeData after) ∧
      Keeps saves (saves.writeCommit request opened routeData after) := by
  have version : routeDocumentVersion (some routeData) =
      request.expectedVersion + 1 := by
    have stored : routeDocumentVersion (some routeData) =
        readVersion (some (result.configVersion : Int)) :=
      congrArg readVersion targets.stored
    rw [stored, targets.version]
    exact readVersion_of_safe (by omega)
  have unsettled : ∀ commit ∈ saves.commits,
      commit.saveId ≠ request.saveId := by
    intro commit member same
    obtain ⟨operation, found, recorded⟩ := sound.committed commit member
    rw [same, there] at found
    cases found
    have status := recorded.status
    rw [processing] at status
    cases status
  have keeps : Keeps saves (saves.writeCommit request opened routeData after) := by
    intro saveId operation found status
    by_cases same : saveId = request.saveId
    · subst same
      rw [there] at found
      cases found
      rw [processing] at status
      cases status
    · rwa [writeCommit_operations_of_ne saves same]
  refine ⟨⟨?_, ?_, ?_, ?_, ?_, ?_⟩, keeps⟩
  · apply List.nodup_cons.mpr
    refine ⟨?_, sound.once⟩
    intro member
    obtain ⟨commit, among, same⟩ := List.mem_map.mp member
    exact unsettled commit among same
  · intro commit member
    rcases List.mem_cons.mp member with rfl | earlier
    · refine ⟨after, writeCommit_operations .., succeeded, result, records,
        targets.saveId, targets.routeId, ?_⟩
      rw [version, targets.version]
    · obtain ⟨operation, found, recorded⟩ := sound.committed commit earlier
      exact ⟨operation, keeps _ operation found recorded.status, recorded⟩
  · intro saveId operation found status
    by_cases same : saveId = request.saveId
    · subst same
      rw [writeCommit_operations] at found
      cases found
      refine ⟨_, List.mem_cons_self, rfl, succeeded, result, records,
        targets.saveId, targets.routeId, ?_⟩
      rw [version, targets.version]
    · rw [writeCommit_operations_of_ne saves same] at found
      obtain ⟨commit, member, rest⟩ :=
        sound.recorded saveId operation found status
      exact ⟨commit, List.mem_cons_of_mem _ member, rest⟩
  · intro commit member
    rcases List.mem_cons.mp member with rfl | earlier
    · refine ⟨?_, ?_⟩
      · unfold RouteSaveCommit.Raises
        rw [version, finds]
      · exact current
    · exact sound.commits commit earlier
  · intro found member
    have follows := sound.opened found member
    refine ⟨follows.deletions_le, ?_⟩
    intro deletions
    obtain ⟨route, stored, cell⟩ := follows.current deletions
    by_cases same : found.routeId = request.routeId
    · refine ⟨routeData, ?_, ?_⟩
      · rw [same]
        exact update_self _ _ _
      · -- The commit is the next write of the cell.
        have next : routeData.cell = route.cell.write routeData := by
          rw [same] at stored
          rw [stored] at finds
          unfold RouteData.cell Cell.write
          rw [version, ← finds]
        rw [next]
        exact cell.write routeData (· = found.route)
    · exact ⟨route, (update_of_ne same _ _).trans stored, cell⟩
  · intro pid attempt inFlight
    have knows := sound.attempts pid attempt inFlight
    exact ⟨knows.targets, knows.opened⟩

end Writes

end RouteSaves

variable {payloadHash : String}

theorem unsettled_of_claim {operation : Option (RouteSaveOperation R)}
    {now : Nat}
    (decided : decideRouteSaveOperation operation payloadHash now = .claim) :
    ∀ before, operation = some before → before.status ≠ .succeeded := by
  rintro before rfl succeeded
  unfold decideRouteSaveOperation at decided
  simp only [succeeded] at decided
  split at decided
  · cases decided
  · cases decided

namespace RouteSaveRequest

variable {request : RouteSaveRequest R} {payloadHash : String}
  {leaseOwner now : Nat} {rideOwnsRoute : Bool}
  {operation : Option (RouteSaveOperation R)} {route : Option (RouteData R)}

theorem claim_written {written : RouteSaveOperation R}
    (writes : (request.claim payloadHash leaseOwner now rideOwnsRoute
      operation route).2 = some written) :
    (∀ before, operation = some before → before.status ≠ .succeeded) ∧
      written.status = .processing := by
  unfold claim at writes
  split at writes
  · cases writes
  · cases writes
  · cases writes
  · cases writes
  · rename_i decided
    refine ⟨unsettled_of_claim decided, ?_⟩
    split at writes
    · cases writes
    · split at writes
      · cases writes
      · split at writes
        · cases writes
        · split at writes
          · cases writes
          · cases writes
            rfl

variable {result : RouteSaveResult R}

variable {routeData : RouteData R} {config : RouteSaveConfig R}
  {existingRoute : Option (RouteData R)}

theorem targets_of_prepare {geometry : DirectionalRouteGeometry R}
    (prepared : request.prepare config existingRoute geometry =
      .committing routeData result) : request.Targets routeData result := by
  unfold prepare at prepared
  cases prepared
  exact ⟨rfl, rfl, rfl, rfl⟩

theorem targets_of_compute
    {computed : Except RouteApiError (DirectionalRouteGeometry R)}
    (prepared : request.compute config existingRoute computed =
      .committing routeData result) : request.Targets routeData result := by
  unfold compute at prepared
  split at prepared
  · exact targets_of_prepare prepared
  · exact targets_of_prepare prepared
  · cases prepared

theorem version_of_finds (finds : request.finds route = true) :
    routeDocumentVersion route = request.expectedVersion := by
  unfold RouteSaveRequest.finds at finds
  simp only [Bool.and_eq_true, beq_iff_eq] at finds
  exact finds.2

theorem commit_eq_ok {after : RouteSaveOperation R}
    (done : request.commit payloadHash leaseOwner rideOwnsRoute result
      operation route = .ok after) :
    ∃ before, operation = some before ∧
      before.isHeld leaseOwner payloadHash = true ∧
      request.finds route = true ∧
      (request.mode == .edit && rideOwnsRoute) = false ∧
      after.status = .succeeded ∧ after.result = some result := by
  unfold commit at done
  split at done
  · cases done
  · rename_i before found
    obtain ⟨there, held⟩ := filter_eq_some_iff.mp found
    split at done
    · cases done
    · rename_i finds
      split at done
      · cases done
      · rename_i free
        cases done
        refine ⟨before, there, held, ?_, ?_, rfl, rfl⟩
        · simpa using finds
        · simpa using free

end RouteSaveRequest

theorem RouteSaveOperation.processing_of_isHeld {leaseOwner : Nat}
    {operation : RouteSaveOperation R}
    (held : operation.isHeld leaseOwner payloadHash = true) :
    operation.status = .processing := by
  unfold isHeld at held
  simp only [Bool.and_eq_true, beq_iff_eq] at held
  exact held.1.1

theorem RouteSaveClaim.stage_ne_committing (claim : RouteSaveClaim R)
    (routeData : RouteData R) (result : RouteSaveResult R) :
    claim.stage ≠ .committing routeData result := by
  intro same
  cases claim <;> cases same

namespace RouteSaves

section Steps

variable {config : RouteSaveConfig R} {saves next : RouteSaves R} {pid : Nat}
  {attempt : RouteSaveAttempt R}

variable {stage : RouteSaveStage R}

theorem Knows.withStage (knows : saves.Knows attempt)
    (targets : ∀ routeData result, stage = .committing routeData result →
      attempt.request.Targets routeData result) :
    saves.Knows { attempt with stage } :=
  ⟨targets, knows.opened⟩

theorem Sound.withStage (sound : Sound saves) (knows : saves.Knows attempt)
    (targets : ∀ routeData result, stage = .committing routeData result →
      attempt.request.Targets routeData result) :
    Sound (saves.setAttempt pid (some { attempt with stage })) := by
  apply sound.setAttempt
  rintro known ⟨⟩
  exact knows.withStage targets

theorem Sound.submit (sound : Sound saves) {request : RouteSaveRequest R}
    {editor : Option Nat} (taken : saves.submit pid request editor =
      some next) :
    Sound next ∧ Keeps saves next := by
  have accepted : ∀ opened : Option (OpenedRoute R),
      (∀ found, opened = some found → found ∈ saves.opened ∧
        found.routeId = request.routeId ∧
        found.version = request.expectedVersion) →
      Sound
        { saves.setAttempt pid
            (some
              { request
                leaseOwner := saves.nextLeaseOwner
                opened
                stage := .claiming }) with
          nextLeaseOwner := saves.nextLeaseOwner + 1 } := by
    intro opened known
    have submitted : Sound (saves.setAttempt pid
        (some
          { request
            leaseOwner := saves.nextLeaseOwner
            opened
            stage := .claiming })) := by
      apply sound.setAttempt
      rintro attempt ⟨⟩
      refine ⟨?_, known⟩
      rintro routeData result ⟨⟩
    exact ⟨submitted.once, submitted.committed, submitted.recorded,
      submitted.commits,
      fun found member =>
        ⟨(submitted.opened found member).deletions_le,
          (submitted.opened found member).current⟩,
      fun other found inFlight =>
        ⟨(submitted.attempts other found inFlight).targets,
          (submitted.attempts other found inFlight).opened⟩⟩
  unfold RouteSaves.submit at taken
  simp only at taken
  split at taken
  · cases taken
    refine ⟨accepted none ?_, .refl saves⟩
    rintro found ⟨⟩
  · obtain ⟨opened, read, rfl⟩ := map_eq_some_iff.mp taken
    obtain ⟨member, matching⟩ := filter_eq_some_iff.mp read
    simp only [Bool.and_eq_true, beq_iff_eq] at matching
    refine ⟨accepted (some opened) ?_, .refl saves⟩
    rintro found ⟨⟩
    exact ⟨List.mem_of_getElem? member, matching⟩

section

variable (sound : Sound saves) (knows : saves.Knows attempt)

include sound knows

theorem Sound.claim (now : Nat) (rideOwnsRoute : Bool)
    (answer : Acknowledgement) :
    Sound (saves.claim config pid attempt now rideOwnsRoute answer) ∧
      Keeps saves
        (saves.claim config pid attempt now rideOwnsRoute answer) := by
  unfold RouteSaves.claim
  have waits : ∀ claim : RouteSaveClaim R, ∀ routeData result,
      answer.next claim.stage .claiming
          (.answered (.failure routePersistenceFailed)) =
        .committing routeData result →
      attempt.request.Targets routeData result := by
    intro claim routeData result same
    cases answer with
    | received => exact absurd same (claim.stage_ne_committing _ _)
    | repeated | lost => cases same
  simp only
  split
  · exact ⟨sound.withStage knows (waits _), .refl saves⟩
  · rename_i operation written
    obtain ⟨unsettled, processing⟩ :=
      RouteSaveRequest.claim_written written
    have pending : ∀ after, some operation = some after →
        after.status ≠ .succeeded := by
      rintro after ⟨⟩ succeeded
      rw [processing] at succeeded
      cases succeeded
    obtain ⟨claimed, keeps⟩ := sound.writeOperation unsettled pending
    exact ⟨claimed.withStage ⟨knows.targets, knows.opened⟩ (waits _), keeps⟩

theorem Sound.recordFailure (failure : RouteApiError) :
    Sound (saves.recordFailure config pid attempt failure) ∧
      Keeps saves (saves.recordFailure config pid attempt failure) := by
  unfold RouteSaves.recordFailure
  simp only
  split
  · refine ⟨sound.withStage knows ?_, .refl saves⟩
    rintro routeData result ⟨⟩
  · rename_i operation found
    obtain ⟨there, held⟩ := filter_eq_some_iff.mp found
    have unsettled : ∀ before,
        saves.operations attempt.request.saveId = some before →
        before.status ≠ .succeeded := by
      intro before same succeeded
      rw [there] at same
      cases same
      rw [operation.processing_of_isHeld held] at succeeded
      cases succeeded
    have pending : ∀ after, some (operation.fail failure) = some after →
        after.status ≠ .succeeded := by
      rintro after ⟨⟩ ⟨⟩
    obtain ⟨failed, keeps⟩ := sound.writeOperation unsettled pending
    refine ⟨failed.withStage ⟨knows.targets, knows.opened⟩ ?_, keeps⟩
    rintro routeData result ⟨⟩

theorem Sound.commit {routeData : RouteData R} {result : RouteSaveResult R}
    (stage : attempt.stage = .committing routeData result)
    {rideOwnsRoute : Bool} (answer : Acknowledgement)
    (allowed : attempt.request.mode = .create ∨
      saves.mayCommit config attempt rideOwnsRoute = false ∨
      (∀ opened, attempt.opened = some opened →
        opened.deletions = saves.deletions opened.routeId) ∧
        (attempt.request.expectedVersion : Int) < maxSafeInteger) :
    Sound
        (saves.commit config pid attempt routeData result rideOwnsRoute
          answer) ∧
      Keeps saves
        (saves.commit config pid attempt routeData result rideOwnsRoute
          answer) := by
  have targets := knows.targets routeData result stage
  unfold RouteSaves.commit
  simp only
  split
  · refine ⟨sound.withStage knows ?_, .refl saves⟩
    rintro other found ⟨⟩
  · rename_i after done
    obtain ⟨before, there, held, finds, free, succeeded, records⟩ :=
      RouteSaveRequest.commit_eq_ok done
    have version := attempt.request.version_of_finds finds
    have through : saves.mayCommit config attempt rideOwnsRoute = true := by
      unfold mayCommit
      rw [there, Option.any_some, held, finds, free]
      rfl
    have safe : (attempt.request.expectedVersion : Int) < maxSafeInteger := by
      rcases allowed with create | refused | ⟨-, safe⟩
      · rw [attempt.request.unversioned create]
        decide
      · rw [through] at refused
        cases refused
      · exact safe
    have current : attempt.request.mode = .edit → ∀ found,
        attempt.opened = some found →
        saves.routes attempt.request.routeId = some found.route := by
      intro edit found read
      obtain ⟨member, routeId, expected⟩ := knows.opened found read
      have same : found.deletions = saves.deletions found.routeId := by
        rcases allowed with create | refused | ⟨deletions, -⟩
        · rw [edit] at create
          cases create
        · rw [through] at refused
          cases refused
        · exact deletions found read
      obtain ⟨route, stored, cell⟩ :=
        (sound.opened found member).current same
      rw [routeId] at stored
      rw [stored] at version
      have unchanged : route = found.route :=
        cell.of_same (expected.trans version.symm)
      rw [stored, unchanged]
    obtain ⟨committed, keeps⟩ := sound.writeCommit targets there
      (before.processing_of_isHeld held) version safe current succeeded records
    refine ⟨committed.withStage ⟨knows.targets, knows.opened⟩ ?_, keeps⟩
    intro other found next
    cases answer with
    | received | lost => cases next
    | repeated =>
      cases next
      exact targets

end

theorem Sound.step (sound : Sound saves) {label : RouteSaveLabel R}
    (allowed : saves.keepsEdits config label = true)
    (taken : RouteSaves.step config saves label = some next) :
    Sound next ∧ Keeps saves next := by
  cases label with
  | openRoute routeId =>
    obtain ⟨route, there, rfl⟩ := map_eq_some_iff.mp taken
    exact ⟨sound.openRoute there, .refl saves⟩
  | submit pid request editor => exact sound.submit taken
  | claim pid now rideOwnsRoute answer =>
    obtain ⟨attempt, inFlight, taken⟩ := bind_eq_some_iff.mp taken
    split at taken
    · cases taken
      exact sound.claim (sound.attempts pid attempt inFlight) now
        rideOwnsRoute answer
    · cases taken
  | compute pid computed =>
    obtain ⟨attempt, inFlight, taken⟩ := bind_eq_some_iff.mp taken
    split at taken
    · cases taken
      refine ⟨sound.withStage (sound.attempts pid attempt inFlight) ?_,
        .refl saves⟩
      intro routeData result prepared
      exact RouteSaveRequest.targets_of_compute prepared
    · cases taken
  | commit pid rideOwnsRoute answer =>
    obtain ⟨attempt, inFlight, taken⟩ := bind_eq_some_iff.mp taken
    split at taken
    · rename_i routeData result stage
      cases taken
      apply sound.commit (sound.attempts pid attempt inFlight) stage
      simpa [keepsEdits, inFlight, or_assoc, Option.all_eq_true] using allowed
    · cases taken
  | recordFailure pid =>
    obtain ⟨attempt, inFlight, taken⟩ := bind_eq_some_iff.mp taken
    split at taken
    · cases taken
      exact sound.recordFailure (sound.attempts pid attempt inFlight) _
    · cases taken
  | interrupt pid =>
    obtain ⟨attempt, inFlight, rfl⟩ := map_eq_some_iff.mp taken
    refine ⟨sound.withStage (sound.attempts pid attempt inFlight) ?_,
      .refl saves⟩
    intro routeData result same
    unfold interrupted at same
    split at same <;> cases same
  | crash pid =>
    cases taken
    refine ⟨sound.setAttempt ?_, .refl saves⟩
    rintro known ⟨⟩
  | deleteRoute routeId =>
    obtain ⟨route, there, rfl⟩ := map_eq_some_iff.mp taken
    exact ⟨sound.deleteRoute routeId, .refl saves⟩
  | sweep saveId =>
    cases taken
    apply sound.writeOperation
    · intro operation there
      simpa [keepsEdits, there] using allowed
    · rintro operation ⟨⟩

theorem Sound.run (sound : Sound saves)
    (steps : System.Steps (RouteSaves.step config)
      (fun saves label => saves.keepsEdits config label = true) saves next) :
    Sound next ∧ Keeps saves next := by
  induction steps with
  | refl => exact ⟨sound, .refl _⟩
  | step _ allowed taken induction =>
    obtain ⟨reached, front⟩ := induction
    obtain ⟨last, back⟩ := reached.step allowed taken
    exact ⟨last, front.trans back⟩

end Steps

/-- What holds of commits and operations between two states of a run. -/
structure Kept (first last : RouteSaves R) : Prop where
  once : (last.commits.map RouteSaveCommit.saveId).Nodup
  settled : Keeps first last
  recorded : ∀ saveId operation, last.operations saveId = some operation →
    operation.status = .succeeded →
    ∃ commit ∈ last.commits, commit.saveId = saveId ∧
      commit.RecordedBy operation
  raises : ∀ commit ∈ last.commits, commit.Raises
  losesNothing : ∀ commit ∈ last.commits, commit.LosesNothing

end RouteSaves

/-- **Route saves commit at most once and lose no edit** in a run whose edits
go through only to routes that have not been deleted since they were read. -/
theorem route_saves_are_kept (config : RouteSaveConfig R)
    (routes : String → Option (RouteData R)) {first last : RouteSaves R}
    (reached : System.Steps (RouteSaves.step config)
      (fun saves label => saves.keepsEdits config label = true)
      (.start routes) first)
    (steps : System.Steps (RouteSaves.step config)
      (fun saves label => saves.keepsEdits config label = true) first last) :
    RouteSaves.Kept first last := by
  have sound : RouteSaves.Sound first :=
    ((RouteSaves.Sound.start routes).run reached).1
  obtain ⟨lastSound, keeps⟩ := sound.run steps
  refine ⟨lastSound.once, keeps, lastSound.recorded, ?_, ?_⟩
  · intro commit member
    exact (lastSound.commits commit member).1
  · intro commit member
    exact (lastSound.commits commit member).2

def RouteSaveLabel.retains : RouteSaveLabel R → Bool
  | .sweep _ => false
  | _ => true

/-- Saved routes are kept from any state to any later one. -/
def RouteSavesAreKept (config : RouteSaveConfig R) : Prop :=
  ∀ (routes : String → Option (RouteData R)) (first last : RouteSaves R),
    System.Steps (RouteSaves.step config)
      (fun _ label => label.retains = true) (.start routes) first →
    System.Steps (RouteSaves.step config)
      (fun _ label => label.retains = true) first last →
    RouteSaves.Kept first last

def routeSaveConfig : RouteSaveConfig ℚ where
  routeSavePayloadHash payload :=
    String.join [payload.routeId, payload.name,
      toString payload.expectedVersion]
  routeGeometrySignature stops := toString stops.length

def savedStops : List (RouteStop ℚ) :=
  [{ lat := 0
     lng := 0
     id := "x"
     name := "X"
     shortName := "X" },
    { lat := 0
      lng := 1
      id := "y"
      name := "Y"
      shortName := "Y" }]

def creation (saveId name : String) : RouteSaveRequest ℚ where
  routeId := "r"
  mode := .create
  expectedVersion := 0
  name
  color := "#000000"
  stops := savedStops
  saveId
  safe := by decide
  unversioned _ := rfl

def edition (saveId name : String) : RouteSaveRequest ℚ where
  routeId := "r"
  mode := .edit
  expectedVersion := 1
  name
  color := "#000000"
  stops := savedStops
  saveId
  safe := by decide
  unversioned := by decide

def savedGeometry : DirectionalRouteGeometry ℚ :=
  let leg : DirectedGeometry ℚ :=
    { polyline := "polyline"
      distanceMeters := 1000
      duration := "60s" }
  { forward := leg
    reverse := leg }

def saving (pid : Nat) (request : RouteSaveRequest ℚ) (editor : Option Nat) :
    List (RouteSaveLabel ℚ) :=
  [.submit pid request editor, .claim pid 0 false .received,
    .compute pid (.ok savedGeometry), .commit pid false .received]

/-- An edit that loses its lease to its own retry, whose answer is lost. -/
def retriedEdit : List (RouteSaveLabel ℚ) :=
  saving 0 (creation "a" "first") none ++
    [.openRoute "r", .submit 1 (edition "b" "edited") (some 0),
      .claim 1 0 false .received, .compute 1 (.ok savedGeometry),
      .submit 2 (edition "b" "edited") (some 0),
      .claim 2 30000 false .received, .commit 1 false .received,
      .recordFailure 1, .compute 2 (.ok savedGeometry),
      .commit 2 false .lost, .recordFailure 2]

/-- The edit is retried once more, and the route is created anew. -/
def recreatedRoute : List (RouteSaveLabel ℚ) :=
  [.submit 3 (edition "b" "edited") (some 0), .claim 3 40000 false .received,
    .deleteRoute "r"] ++
    saving 4 (creation "c" "second") none

theorem route_saves_are_kept_retried :
    ∃ first last : RouteSaves ℚ,
      first.commits.map RouteSaveCommit.saveId = ["b", "a"] ∧
      last.commits.map RouteSaveCommit.saveId = ["c", "b", "a"] ∧
      RouteSaves.Kept first last := by
  have edited :
      (System.run (RouteSaves.step routeSaveConfig)
          (fun saves label => saves.keepsEdits routeSaveConfig label)
          (.start fun _ => none) retriedEdit).map
        (fun saves => saves.commits.map RouteSaveCommit.saveId) =
        some ["b", "a"] := by
    decide +kernel
  have recreated :
      (System.run (RouteSaves.step routeSaveConfig)
          (fun saves label => saves.keepsEdits routeSaveConfig label)
          (.start fun _ => none) (retriedEdit ++ recreatedRoute)).map
        (fun saves => saves.commits.map RouteSaveCommit.saveId) =
        some ["c", "b", "a"] := by
    decide +kernel
  obtain ⟨first, ran, before⟩ := map_eq_some_iff.mp edited
  rw [System.run_append, ran] at recreated
  obtain ⟨last, ranOn, after⟩ := map_eq_some_iff.mp recreated
  exact ⟨first, last, before, after,
    route_saves_are_kept routeSaveConfig (fun _ => none)
      (System.steps_of_run ran fun _ _ => id)
      (System.steps_of_run ranOn fun _ _ => id)⟩

/-- A route is created anew while an editor has it open, and the edit of the
deleted route replaces it. -/
def overwrittenRoute : List (RouteSaveLabel ℚ) :=
  saving 0 (creation "a" "first") none ++
    [.openRoute "r", .deleteRoute "r"] ++
    saving 1 (creation "c" "second") none ++
    saving 2 (edition "b" "edited") (some 0)

/-- An edit replaces a route that its editor never saw. -/
theorem edit_replaces_recreated_route :
    ¬ RouteSavesAreKept routeSaveConfig := by
  intro kept
  have decided :
      (System.run (RouteSaves.step routeSaveConfig)
          (fun _ label => label.retains) (.start fun _ => none)
          overwrittenRoute).any (fun saves =>
        saves.commits.any fun commit =>
          commit.mode == .edit && commit.opened.any fun opened =>
            decide (commit.before.map RouteData.name ≠
              some opened.route.name)) = true := by
    decide +kernel
  obtain ⟨last, steps, shows⟩ := System.exists_of_run decided
  obtain ⟨commit, member, replaced⟩ := List.any_eq_true.mp shows
  simp only [Bool.and_eq_true, beq_iff_eq, Option.any_eq_true,
    decide_eq_true_eq] at replaced
  obtain ⟨edit, opened, read, different⟩ := replaced
  have same := (kept (fun _ => none) last last steps
    (.refl last)).losesNothing commit member edit opened read
  rw [same] at different
  exact different rfl

end Eki
