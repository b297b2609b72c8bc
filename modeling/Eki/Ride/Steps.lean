import Eki.Ride.Transactions

/-!
# What a step of the world does

A step of a request writes the documents by one transaction or leaves them, and
writes one live node or leaves them all.  Both are said once, by request and
step, and the invariants of later modules go by these cases.
-/

namespace Eki

open Function (update update_of_ne update_self)

variable {R : Type} [JsNumber R]

/-- The step that a label takes, with the world it leaves. -/
inductive World.Took (config : RideConfig R) (world : World R) :
    Label R → World R → Prop where
  | accept {pid : Nat} {request : Request R}
      (free : world.processes pid = none) :
      Took config world (.accept pid request)
        { world with
          processes :=
            update world.processes pid (some request.begin) }
  | run {pid : Nat} {ambient : Ambient} {process : Process R}
      (inFlight : world.processes pid = some process) :
      Took config world (.run pid ambient)
        { store := (process.advance config ambient world.store).store
          processes :=
            update world.processes pid
              (process.advance config ambient world.store).next
          history :=
            (process.advance config ambient world.store).events ++
              world.history }
  | crash {pid : Nat} :
      Took config world (.crash pid)
        { world with
          processes := update world.processes pid none }
  | perform {operation : Operation} :
      Took config world (.perform operation)
        { store := (operation.perform world.store).1
          processes := world.processes
          history := (operation.perform world.store).2 ++ world.history }

variable {config : RideConfig R} {world next : World R} {label : Label R}

theorem World.took_of_step
    (taken : World.step config world label = some next) :
    World.Took config world label next := by
  cases label with
  | accept pid request =>
    simp only [World.step] at taken
    split at taken
    · cases taken
    · rename_i free
      cases taken
      exact .accept (by simpa using free)
  | run pid ambient =>
    simp only [World.step] at taken
    obtain ⟨process, inFlight, same⟩ := Option.map_eq_some_iff.mp taken
    cases same
    exact .run inFlight
  | crash pid =>
    cases taken
    exact .crash
  | perform operation =>
    cases taken
    exact .perform

inductive Process.Writes (config : RideConfig R) (ambient : Ambient)
    (store : Store R) : Process R → Firestore R → Prop where
  | nothing (process : Process R) :
      Writes config ambient store process store.toFirestore
  | claimLock {request : StartRequest} {pinned : Option String}
      {current : Option (LiveBus R)} {route : RouteDocument}
      {direction : Option RideDirection} {next : Store R} {claim : LockClaim}
      (done : claimLock config request pinned current route direction
        ambient.autoId store = some (next, claim)) :
      Writes config ambient store
        (.start
          { request
            step := .claimLock pinned current route direction })
        next.toFirestore
  | resumeLock {request : StartRequest} {current : LiveBus R}
      {sessionId : String} {next : Store R}
      (done : resumeLock config request current sessionId store = some next) :
      Writes config ambient store
        (.start
          { request
            step := .resumeLock current sessionId })
        next.toFirestore
  | mergeSession {request : StartRequest} {projection : Projection}
      {rideToo : Bool} :
      Writes config ambient store
        (.start
          { request
            step := .mergeSession projection rideToo })
        (Eki.mergeSession projection store).toFirestore
  | mergeRide {request : StartRequest} {projection : Projection}
      {sessionToo : Bool} :
      Writes config ambient store
        (.start
          { request
            step := .mergeRide projection sessionToo })
        (Eki.mergeRide projection store).toFirestore
  | failCreation {request : StartRequest} {sessionId : String} :
      Writes config ambient store
        (.start
          { request
            step := .failCreation sessionId })
        (Eki.failCreation request sessionId store).toFirestore
  | commitBatch {request : StartRequest} {projection : Projection} :
      Writes config ambient store
        (.start
          { request
            step := .commitBatch projection })
        (Eki.commitBatch projection store).toFirestore
  | commitProjections {request : StartRequest} {projection : Projection}
      {nodeKey : String} {live : Option (LiveBus R)} {next : Store R}
      (done : commitCreationProjections request projection nodeKey live
        store = some next) :
      Writes config ambient store
        (.start
          { request
            step := .commitProjections projection nodeKey live })
        next.toFirestore
  | stop {request : StopRequest} {next : Store R} {pauses : Bool}
      (done : stopSession request store = some (next, pauses)) :
      Writes config ambient store
        (.stop
          { request
            step := .commit })
        next.toFirestore
  | persistDelay {request : DelayRequest} {sessionId : String}
      {delay : Delay} :
      Writes config ambient store
        (.delay
          { request
            step := .persist sessionId delay })
        (Eki.persistDelay request.assignment.rideId sessionId delay
          store).toFirestore
  | reconcile {sessionId busId routeId : String} :
      Writes config ambient store
        (.reconcile
          { sessionId
            step := .commit busId routeId })
        (reconcileSession sessionId busId routeId ambient.observed
          store).toFirestore
  | persist {update : EngineUpdate R} :
      Writes config ambient store (.engine (.persist update))
        (persistActiveRideLifecycle update store).1.toFirestore
  | complete {update : EngineUpdate R} {next : Store R}
      {completion : Completion}
      (done : completeSession config update ambient.now store =
        some (next, completion)) :
      Writes config ambient store (.engine (.complete update))
        next.toFirestore
  | createReturn {turnaround : Turnaround} {next : Store R}
      (done : turnaround.create store = some next) :
      Writes config ambient store (.turnaround (.create turnaround))
        next.toFirestore

inductive Process.LiveWrite (config : RideConfig R) (ambient : Ambient)
    (store : Store R) : Process R → String → Option (LiveBus R) → Prop where
  | claimLive {request : StartRequest} {current : Option (LiveBus R)}
      {claim : LockClaim} {lifecycle : ClaimedLifecycle} {live : LiveBus R}
      (done : claimLive config request current claim lifecycle
        (store.live request.nodeKey) = some live) :
      LiveWrite config ambient store
        (.start
          { request
            step := .claimLive current claim lifecycle })
        request.nodeKey (some live)
  | completeSetup {request : StartRequest} {sessionId : String} :
      LiveWrite config ambient store
        (.start
          { request
            step := .completeSetup sessionId })
        request.nodeKey
        (completeAutomaticSetup request sessionId (store.live request.nodeKey))
  | retire {request : StopRequest} :
      LiveWrite config ambient store
        (.stop
          { request
            step := .retire })
        request.nodeKey
        (retireLive request.sessionId (store.live request.nodeKey))
  | announce {request : DelayRequest} {current : LiveBus R}
      {sessionId : String} {delay : Delay}
      (found : store.live request.assignment.rideId = some current)
      (done : announcedDelay request ambient.now current =
        some (sessionId, delay)) :
      LiveWrite config ambient store
        (.delay
          { request
            step := .announce })
        request.assignment.rideId (some { current with toDelay := delay })
  | reconcile {sessionId busId routeId : String} :
      LiveWrite config ambient store
        (.reconcile
          { sessionId
            step := .retireLive busId routeId })
        (activeRideId busId routeId) none
  | publish {update : EngineUpdate R} :
      LiveWrite config ambient store (.engine (.publish update))
        update.event.nodeKey
        (publishProgress update (store.live update.event.nodeKey))
  | publishCompletion {update : EngineUpdate R} {completion : Completion} :
      LiveWrite config ambient store
        (.engine (.publishCompletion update completion))
        update.event.nodeKey
        (Eki.publishCompletion update completion
          (store.live update.event.nodeKey))
  | retireCompleted {nodeKey : String} {sessionId : Option String} :
      LiveWrite config ambient store (.engine (.retire nodeKey sessionId))
        nodeKey (Eki.retireCompleted sessionId (store.live nodeKey))
  | claimReturn {turnaround : Turnaround} {before live : LiveBus R}
      (found : store.live turnaround.nodeKey = some before)
      (done : turnaround.claim ambient.observed before = some live) :
      LiveWrite config ambient store (.turnaround (.claim turnaround))
        turnaround.nodeKey (some live)
  | activate {turnaround : Turnaround} :
      LiveWrite config ambient store (.turnaround (.activate turnaround))
        turnaround.nodeKey
        (turnaround.activate (store.live turnaround.nodeKey))
  | release {turnaround : Turnaround} :
      LiveWrite config ambient store (.turnaround (.release turnaround))
        turnaround.nodeKey
        (turnaround.release (store.live turnaround.nodeKey))
  | restore {request : RestoreRequest} {lifecycle : DurableLifecycle R}
      {live : LiveBus R}
      (done : publishLifecycle request lifecycle
        (store.live request.nodeKey) = some live) :
      LiveWrite config ambient store
        (.restore
          { request
            step := .publish lifecycle })
        request.nodeKey (some live)

def Process.LiveStep (config : RideConfig R) (ambient : Ambient)
    (store : Store R) (process : Process R)
    (live : String → Option (LiveBus R)) : Prop :=
  live = store.live ∨ ∃ nodeKey after,
    Process.LiveWrite config ambient store process nodeKey after ∧
      live = update store.live nodeKey after

inductive Process.Announces (config : RideConfig R) (ambient : Ambient)
    (store : Store R) : Process R → Event → Prop where
  | created {request : StartRequest} {pinned : Option String}
      {current : Option (LiveBus R)} {route : RouteDocument}
      {direction : Option RideDirection} {next : Store R} {claim : LockClaim}
      (done : claimLock config request pinned current route direction
        ambient.autoId store = some (next, claim))
      (created : claim.created = true) :
      Announces config ambient store
        (.start
          { request
            step := .claimLock pinned current route direction })
        (.created claim.sessionId request.assignment.busId
          request.creationOrigin)
  | serviceResumed {request : StartRequest} {pinned : Option String}
      {current : Option (LiveBus R)} {route : RouteDocument}
      {direction : Option RideDirection} {next : Store R} {claim : LockClaim}
      (done : claimLock config request pinned current route direction
        ambient.autoId store = some (next, claim))
      (manual : request.automatic = false) :
      Announces config ambient store
        (.start
          { request
            step := .claimLock pinned current route direction })
        (.serviceResumed request.assignment.busId)
  | createdReturn {turnaround : Turnaround} {next : Store R}
      (done : turnaround.create store = some next) :
      Announces config ambient store (.turnaround (.create turnaround))
        (.created turnaround.sessionRef turnaround.assignment.busId
          (.turnaround turnaround.previousSessionId))
  | stopped {request : StopRequest} {next : Store R} {pauses : Bool}
      (done : stopSession request store = some (next, pauses)) :
      Announces config ambient store
        (.stop
          { request
            step := .commit })
        (.stopped request.sessionId request.busId request.routeId pauses)
  | delayAnnounced {request : DelayRequest} {current : LiveBus R}
      {sessionId : String} {delay : Delay}
      (found : store.live request.assignment.rideId = some current)
      (done : announcedDelay request ambient.now current =
        some (sessionId, delay)) :
      Announces config ambient store
        (.delay
          { request
            step := .announce })
        (.delayAnnounced delay)
  | completionPublished {update : EngineUpdate R} {completion : Completion}
      {sessionId : String} {live : LiveBus R}
      (carried : update.data.sessionId = some sessionId)
      (found : store.live update.event.nodeKey = some live)
      (same : live.sessionId = some sessionId) :
      Announces config ambient store
        (.engine (.publishCompletion update completion))
        (.completionPublished sessionId completion.completedAtMs
          completion.eligibleAt)

variable {ambient : Ambient} {store : Store R} {process : Process R}
  {Request : Type}

/-- What one step of a request does to the documents, to the live nodes and to
the record. -/
structure Process.Does (config : RideConfig R) (ambient : Ambient)
    (store : Store R) (process : Process R) (outcome : Outcome R Request) :
    Prop where
  writes : Process.Writes config ambient store process
    outcome.store.toFirestore
  live : Process.LiveStep config ambient store process outcome.store.live
  announces : ∀ event ∈ outcome.events,
    Process.Announces config ambient store process event

namespace Process.Does

/-- A step that only goes on. -/
theorem idle {next : Option Request} :
    Process.Does config ambient store process { store, next } where
  writes := .nothing process
  live := .inl rfl
  announces _ recorded := by cases recorded

theorem documents {after : Store R} {next : Option Request}
    (writes : Process.Writes config ambient store process after.toFirestore)
    (same : after.live = store.live) :
    Process.Does config ambient store process
      { store := after
        next } where
  writes := writes
  live := .inl same
  announces _ recorded := by cases recorded

theorem node {nodeKey : String} {live : Option (LiveBus R)}
    {next : Option Request}
    (write : Process.LiveWrite config ambient store process nodeKey live) :
    Process.Does config ambient store process
      { store :=
          { store with live := update store.live nodeKey live }
        next } where
  writes := .nothing process
  live := .inr ⟨nodeKey, live, write, rfl⟩
  announces _ recorded := by cases recorded

theorem map {outcome : Outcome R Request}
    (does : Process.Does config ambient store process outcome)
    (wrap : Request → Process R) :
    Process.Does config ambient store process (outcome.map wrap) :=
  ⟨does.writes, does.live, does.announces⟩

end Process.Does

theorem StartProcess.does_advance (process : StartProcess R) :
    Process.Does config ambient store (.start process)
      (process.advance config ambient store) := by
  obtain ⟨request, step⟩ := process
  cases step with
  | authorize | readPinned | readLive | readRecovery | readProjectionLive =>
    simp only [advance]
    split <;> exact .idle
  | lookupKey | readRoute =>
    simp only [advance]
    split
    · exact .idle
    · split <;> exact .idle
  | resumeLock current sessionId =>
    simp only [advance]
    split
    · exact .idle
    · rename_i next done
      have live : next.live = store.live := by
        obtain ⟨-, -, -, same⟩ := resumeLock_eq_some done
        rw [same]
      split
      · exact .documents (.resumeLock done) live
      · split <;> exact .documents (.resumeLock done) live
  | mergeSession projection rideToo =>
    simp only [advance]
    split <;> exact .documents .mergeSession rfl
  | mergeRide projection sessionToo =>
    simp only [advance]
    split <;> exact .documents .mergeRide rfl
  | claimLock pinned current route direction =>
    simp only [advance]
    split
    · exact .idle
    · rename_i next claim done
      have live : next.live = store.live := by
        rcases claimLock_eq_some done with ⟨held, session, reused⟩ | created
        · exact reused.live
        · rw [created.next]
      refine ⟨.claimLock done, .inl live, ?_⟩
      intro event recorded
      rcases List.mem_append.mp recorded with made | resumed
      · split at made
        · rename_i created
          rw [List.mem_singleton.mp made]
          exact .created done created
        · cases made
      · split at resumed
        · cases resumed
        · rename_i manual
          rw [List.mem_singleton.mp resumed]
          exact .serviceResumed done (by simpa using manual)
  | claimLive current claim lifecycle =>
    simp only [advance]
    split
    · rename_i done
      split <;> exact .node (.claimLive done)
    · split <;> exact .idle
  | failCreation sessionId => exact .documents .failCreation rfl
  | commitBatch projection => exact .documents .commitBatch rfl
  | commitProjections projection nodeKey live =>
    simp only [advance]
    split
    · exact .idle
    · rename_i done
      refine .documents (.commitProjections done) ?_
      obtain ⟨_, _, -, -, -, -, -, -, -, same⟩ :=
        commitCreationProjections_eq_some done
      rw [same]
  | completeSetup sessionId => exact .node .completeSetup

theorem EngineStep.does_advance (step : EngineStep R) :
    Process.Does config ambient store (.engine step)
      (step.advance config ambient store) := by
  cases step with
  | read event =>
    simp only [advance]
    split <;> exact .idle
  | persist update =>
    have live : (persistActiveRideLifecycle update store).1.live =
        store.live := by
      rcases persistActiveRideLifecycle_cases update store with
        same | ⟨_, _, -, -, -, same⟩ <;> rw [same]
    exact .documents .persist live
  | publish update => exact .node .publish
  | complete update =>
    simp only [advance]
    split
    · exact .idle
    · rename_i next completion done
      refine .documents (.complete done) ?_
      rcases completeSession_eq_some done with
        ⟨absent, rfl⟩ | ⟨_, carried, ⟨-, -, rfl⟩ | ⟨-, -, -, rfl⟩⟩
      · simp [recordCompletion, absent]
      · rfl
      · simp [recordCompletion, carried]
  | publishCompletion update completion =>
    refine ⟨.nothing _, .inr ⟨_, _, .publishCompletion, rfl⟩, ?_⟩
    intro event recorded
    simp only [advance] at recorded
    split at recorded
    · cases recorded
    · rename_i sessionId carried
      split at recorded
      · rename_i matching
        obtain ⟨live, found, same⟩ := (Option.any_eq_true _ _).mp matching
        rw [List.mem_singleton.mp recorded]
        rw [carried, beq_iff_eq] at same
        exact .completionPublished carried found same
      · cases recorded
  | retire nodeKey sessionId => exact .node .retireCompleted

theorem Process.does_advance (process : Process R) :
    Process.Does config ambient store process
      (process.advance config ambient store) := by
  cases process with
  | start process => exact process.does_advance.map .start
  | stop process =>
    refine .map ?_ .stop
    obtain ⟨request, step⟩ := process
    cases step with
    | read => exact .idle
    | commit =>
      simp only [StopProcess.advance]
      split
      · exact .idle
      · rename_i done
        obtain ⟨_, -, -, -, -, same⟩ := stopSession_eq_some done
        refine ⟨.stop done, .inl (by rw [same]), ?_⟩
        intro event recorded
        rw [List.mem_singleton.mp recorded]
        exact .stopped done
    | retire => exact .node .retire
  | delay process =>
    refine .map ?_ .delay
    obtain ⟨request, step⟩ := process
    cases step with
    | announce =>
      simp only [DelayProcess.advance]
      split
      · exact .idle
      · rename_i found
        split
        · exact .idle
        · rename_i done
          refine ⟨.nothing _, .inr ⟨_, _, .announce found done, rfl⟩, ?_⟩
          intro event recorded
          rw [List.mem_singleton.mp recorded]
          exact .delayAnnounced found done
    | persist sessionId delay =>
      refine .documents .persistDelay ?_
      rcases persistDelay_cases request.assignment.rideId sessionId delay
        store with same | ⟨_, -, -, -, same⟩ <;> rw [same]
  | engine step => exact step.does_advance.map .engine
  | turnaround step =>
    refine .map ?_ .turnaround
    cases step with
    | read nodeKey endpointVersion => exact .idle
    | claim turnaround =>
      simp only [TurnaroundStep.advance]
      split
      · exact .idle
      · rename_i live claimed
        obtain ⟨before, found, done⟩ :=
          Option.bind_eq_some_iff.mp claimed
        exact .node (.claimReturn found done)
    | create turnaround =>
      simp only [TurnaroundStep.advance]
      split
      · exact .idle
      · rename_i done
        obtain ⟨_, _, created⟩ := create_eq_some done
        refine ⟨.createReturn done, .inl created.live, ?_⟩
        intro event recorded
        rw [List.mem_singleton.mp recorded]
        exact .createdReturn done
    | activate turnaround => exact .node .activate
    | release turnaround => exact .node .release
  | restore process =>
    refine .map ?_ .restore
    obtain ⟨request, step⟩ := process
    cases step with
    | read => exact .idle
    | publish lifecycle =>
      simp only [RestoreProcess.advance]
      split
      · exact .idle
      · rename_i done
        exact .node (.restore done)
  | reconcile process =>
    refine .map ?_ .reconcile
    obtain ⟨sessionId, step⟩ := process
    cases step with
    | read =>
      simp only [ReconcileProcess.advance]
      split
      · exact .idle
      · split <;> exact .idle
    | retireLive busId routeId =>
      simp only [ReconcileProcess.advance]
      split
      · exact .idle
      · split
        · exact .node .reconcile
        · exact .idle
    | commit busId routeId =>
      refine .documents .reconcile ?_
      rcases reconcileSession_cases sessionId busId routeId
        ambient.observed store with same | ⟨_, -, -, same⟩ <;> rw [same]

/-- Every step of a request writes documents as its step says. -/
theorem Process.writes_advance (config : RideConfig R) (ambient : Ambient)
    (store : Store R) (process : Process R) :
    Process.Writes config ambient store process
      (process.advance config ambient store).store.toFirestore :=
  process.does_advance.writes

theorem Process.live_advance (config : RideConfig R) (ambient : Ambient)
    (store : Store R) (process : Process R) :
    Process.LiveStep config ambient store process
      (process.advance config ambient store).store.live :=
  process.does_advance.live

variable {event : Event}

theorem Process.announces_advance
    (recorded : event ∈ (process.advance config ambient store).events) :
    Process.Announces config ambient store process event :=
  process.does_advance.announces event recorded

/-- The documents that a one-transaction operation leaves. -/
inductive Operation.Writes (store : Store R) :
    Operation → Firestore R → Prop where
  | nothing (operation : Operation) :
      Writes store operation store.toFirestore
  | firmware {request : FirmwareRequest} :
      Writes store (.firmware request)
        (firmwareMaintenance request store).toFirestore
  | rearm {request : RearmRequest} :
      Writes store (.rearm request)
        (rearmAfterEarlyEnd request store).1.toFirestore
  | persistDirection {request : DirectionRequest} :
      Writes store (.persistDirection request)
        (persistResolvedSessionDirection request store).toFirestore

omit [JsNumber R] in
theorem Operation.writes_perform (store : Store R) (operation : Operation) :
    Operation.Writes store operation
      (operation.perform store).1.toFirestore := by
  cases operation with
  | firmware request => exact .firmware
  | rearm request => exact .rearm
  | telemetry | sweepStale | retireAssignment | resolveDirection
  | resetDirection | configure => exact .nothing _
  | persistDirection request => exact .persistDirection

omit [JsNumber R] in
theorem records_of_operation {operation : Operation} {next : Firestore R}
    (writes : Operation.Writes store operation next) :
    next.activeRides = store.activeRides ∧
      next.completedTrips = store.completedTrips := by
  cases writes with
  | nothing => exact ⟨rfl, rfl⟩
  | firmware =>
    rw [firmwareMaintenance_frame]
    exact ⟨rfl, rfl⟩
  | rearm =>
    rw [rearmAfterEarlyEnd_frame]
    exact ⟨rfl, rfl⟩
  | @persistDirection request =>
    rcases persistResolvedSessionDirection_cases request store with
      same | ⟨_, _, -, -, -, same⟩ <;> rw [same] <;> exact ⟨rfl, rfl⟩

omit [JsNumber R] in
theorem Operation.rearmed_of_mem {operation : Operation}
    (recorded : event ∈ (operation.perform store).2) :
    ∃ request, operation = .rearm request ∧
      (rearmAfterEarlyEnd request store).2 = .rearmed ∧
      event = .rearmed request.busId request.generation := by
  cases operation with
  | rearm request =>
    simp only [perform] at recorded
    split at recorded
    · rename_i answer
      exact ⟨request, rfl, answer, List.mem_singleton.mp recorded⟩
    · cases recorded
  | _ => cases recorded

inductive Operation.LiveWrite (store : Store R) :
    Operation → String → Option (LiveBus R) → Prop where
  | telemetry {request : TelemetryRequest} :
      LiveWrite store (.telemetry request)
        (activeRideId request.busId request.routeId)
        (persistTelemetry request
          (store.live (activeRideId request.busId request.routeId)))
  | sweepStale {nodeKey : String} :
      LiveWrite store (.sweepStale nodeKey) nodeKey
        (Eki.sweepStale (store.live nodeKey))
  | retireAssignment {nodeKey : String} {revision : Nat} :
      LiveWrite store (.retireAssignment nodeKey revision) nodeKey
        (Eki.retireAssignment revision (store.live nodeKey))
  | resolveDirection {nodeKey : String} {direction : Option RideDirection} :
      LiveWrite store (.resolveDirection nodeKey direction) nodeKey
        (resolvePendingDirection direction (store.live nodeKey))
  | resetDirection {nodeKey : String} :
      LiveWrite store (.resetDirection nodeKey) nodeKey
        (resetRefusedDirection (store.live nodeKey))

section

omit [JsNumber R]

theorem Operation.live_perform (store : Store R) (operation : Operation) :
    (operation.perform store).1.live = store.live ∨ ∃ nodeKey after,
      Operation.LiveWrite store operation nodeKey after ∧
        (operation.perform store).1.live =
          update store.live nodeKey after := by
  cases operation with
  | firmware request =>
    left
    show (firmwareMaintenance request store).live = _
    rw [firmwareMaintenance_frame]
  | rearm request =>
    left
    show (rearmAfterEarlyEnd request store).1.live = _
    rw [rearmAfterEarlyEnd_frame]
  | telemetry request => exact .inr ⟨_, _, .telemetry, rfl⟩
  | sweepStale nodeKey => exact .inr ⟨_, _, .sweepStale, rfl⟩
  | retireAssignment nodeKey revision =>
    exact .inr ⟨_, _, .retireAssignment, rfl⟩
  | resolveDirection nodeKey direction =>
    exact .inr ⟨_, _, .resolveDirection, rfl⟩
  | resetDirection nodeKey => exact .inr ⟨_, _, .resetDirection, rfl⟩
  | persistDirection request =>
    left
    show (persistResolvedSessionDirection request store).live = _
    rcases persistResolvedSessionDirection_cases request store with
      same | ⟨_, _, -, -, -, same⟩ <;> rw [same]
  | configure registry => exact .inl rfl

end

def Outcome.GoesOn {Request : Type} (good : Store R → Request → Prop)
    (outcome : Outcome R Request) : Prop :=
  ∀ rest, outcome.next = some rest → good outcome.store rest

namespace Outcome

variable {Smaller Larger : Type}

section

omit [JsNumber R]

@[simp] theorem goesOn_none (good : Store R → Smaller → Prop)
    (store : Store R) (events : List Event) :
    GoesOn good
      { store
        next := none
        events } := by
  rintro rest ⟨⟩

@[simp] theorem goesOn_some (good : Store R → Smaller → Prop)
    (store : Store R) (rest : Smaller) (events : List Event) :
    GoesOn good
        { store
          next := some rest
          events } ↔ good store rest := by
  constructor
  · intro goesOn
    exact goesOn rest rfl
  · rintro holds _ ⟨⟩
    exact holds

theorem goesOn_map {good : Store R → Larger → Prop}
    {wrap : Smaller → Larger} {outcome : Outcome R Smaller}
    (goesOn : outcome.GoesOn fun store rest => good store (wrap rest)) :
    (outcome.map wrap).GoesOn good := by
  intro rest continues
  obtain ⟨smaller, found, rfl⟩ := Option.map_eq_some_iff.mp continues
  exact goesOn smaller found

end

end Outcome

omit [JsNumber R] in
@[simp] theorem StartProcess.goesOn_goOn (request : StartRequest)
    (good : Store R → StartProcess R → Prop) (store : Store R)
    (step : StartStep R) :
    (goOn request store step).GoesOn good ↔ good store { request, step } :=
  Outcome.goesOn_some good store _ []

/-- What an engine step goes on with: only a completion and a checkpoint carry
something on. -/
theorem EngineStep.goesOn_advance {step : EngineStep R}
    {good : Store R → EngineStep R → Prop}
    (read : ∀ event data update, step = .read event →
      store.live event.nodeKey = some data →
      processLiveSnapshot config event data = some update →
      (update.tripState = .completed → good store (.complete update)) ∧
        good store (.persist update))
    (recorded : ∀ update after completion, step = .complete update →
      completeSession config update ambient.now store =
        some (after, completion) →
      good after (.publishCompletion update completion))
    (publish : ∀ after update, good after (.publish update))
    (retire : ∀ after nodeKey sessionId,
      good after (.retire nodeKey sessionId)) :
    (step.advance config ambient store).GoesOn good := by
  cases step with
  | read event =>
    simp only [advance]
    split
    · simp
    · rename_i update found
      obtain ⟨data, present, reduced⟩ := Option.bind_eq_some_iff.mp found
      have kept := read event data update rfl present reduced
      refine (Outcome.goesOn_some _ _ _ _).mpr ?_
      split
      · rename_i completed
        exact kept.1 (beq_iff_eq.mp completed)
      · split
        · exact publish _ _
        · exact kept.2
  | persist update =>
    simp only [advance]
    split
    · exact (Outcome.goesOn_some _ _ _ _).mpr (publish _ _)
    · simp
  | publish | retire => simp [advance]
  | complete update =>
    simp only [advance]
    split
    · simp
    · rename_i done
      exact (Outcome.goesOn_some _ _ _ _).mpr (recorded _ _ _ rfl done)
  | publishCompletion update completion =>
    exact (Outcome.goesOn_some _ _ _ _).mpr (retire _ _ _)

def World.running (world : World R) : Label R → Option (Process R)
  | .run pid _ => world.processes pid
  | _ => none

theorem World.inFlight_of_took (good : World R → Process R → Prop)
    (took : World.Took config world label next)
    (before : ∀ pid process, world.processes pid = some process →
      good world process)
    (stable : ∀ process, good world process → good next process)
    (begins : ∀ pid request, label = .accept pid request →
      good next request.begin)
    (advances : ∀ pid ambient process, label = .run pid ambient →
      world.processes pid = some process →
      (process.advance config ambient world.store).GoesOn fun _ rest =>
        good next rest) :
    ∀ pid process, next.processes pid = some process → good next process := by
  intro pid process inFlight
  cases took with
  | @accept accepted request free =>
    by_cases same : pid = accepted
    · subst same
      simp only [update_self] at inFlight
      cases inFlight
      exact begins pid request rfl
    · simp only [update_of_ne same] at inFlight
      exact stable _ (before pid process inFlight)
  | @run ran ambient running found =>
    by_cases same : pid = ran
    · subst same
      simp only [update_self] at inFlight
      exact advances pid ambient running rfl found process inFlight
    · simp only [update_of_ne same] at inFlight
      exact stable _ (before pid process inFlight)
  | @crash crashed =>
    by_cases same : pid = crashed
    · subst same
      simp only [update_self] at inFlight
      cases inFlight
    · simp only [update_of_ne same] at inFlight
      exact stable _ (before pid process inFlight)
  | perform => exact stable _ (before pid process inFlight)

theorem World.nodes_of_took (good : String → LiveBus R → Prop)
    (took : World.Took config world label next)
    (before : ∀ nodeKey live, world.store.live nodeKey = some live →
      good nodeKey live)
    (runs : ∀ pid ambient process nodeKey live, label = .run pid ambient →
      world.processes pid = some process →
      Process.LiveWrite config ambient world.store process nodeKey
        (some live) → good nodeKey live)
    (performs : ∀ operation nodeKey live, label = .perform operation →
      Operation.LiveWrite world.store operation nodeKey (some live) →
      good nodeKey live) :
    ∀ nodeKey live, next.store.live nodeKey = some live →
      good nodeKey live := by
  intro nodeKey live found
  have written : ∀ {nodes : String → Option (LiveBus R)} {key : String}
      {after : Option (LiveBus R)},
      nodes = update world.store.live key after →
      nodes nodeKey = some live →
      (nodeKey = key ∧ after = some live) ∨ good nodeKey live := by
    intro nodes key after same present
    rw [same] at present
    by_cases here : nodeKey = key
    · subst here
      rw [update_self] at present
      exact .inl ⟨rfl, present⟩
    · rw [update_of_ne here] at present
      exact .inr (before nodeKey live present)
  cases took with
  | accept | crash => exact before nodeKey live found
  | @run pid ambient process inFlight =>
    rcases process.live_advance config ambient world.store with
      same | ⟨key, after, write, same⟩
    · exact before nodeKey live (by rwa [← same])
    · rcases written same found with ⟨rfl, rfl⟩ | kept
      · exact runs pid ambient process nodeKey live rfl inFlight write
      · exact kept
  | @perform operation =>
    rcases Operation.live_perform world.store operation with
      same | ⟨key, after, write, same⟩
    · exact before nodeKey live (by rwa [← same])
    · rcases written same found with ⟨rfl, rfl⟩ | kept
      · exact performs operation nodeKey live rfl write
      · exact kept

omit [JsNumber R] in
theorem holds_of_map {good : LiveBus R → Prop} {node : Option (LiveBus R)}
    {update : LiveBus R → LiveBus R} {live : LiveBus R}
    (before : ∀ live, node = some live → good live)
    (found : node.map update = some live)
    (keeps : ∀ live, good live → good (update live)) : good live := by
  obtain ⟨earlier, present, rfl⟩ := Option.map_eq_some_iff.mp found
  exact keeps earlier (before earlier present)

end Eki
