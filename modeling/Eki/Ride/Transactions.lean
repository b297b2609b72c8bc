import Eki.Ride.World

/-!
# What each transaction does

One lemma for each transaction that can refuse: what it found in the store when
it went through, and the store it left.  Nothing later unfolds a transaction.
-/

namespace Eki

open Bool (not_eq_false not_eq_true not_eq_true' or_eq_true)

variable {R : Type}

@[simp] theorem lockSession_none : lockSession none = none := rfl

@[simp] theorem lockSession_ride (lock : RideLock) :
    lockSession (some (.ride lock)) = some lock.sessionId := rfl

@[simp] theorem lockSession_firmware (deviceId routeId : String) :
    lockSession (some (.firmware deviceId routeId)) = none := rfl

theorem ride_of_lockSession {lock : Option BusLock} {sessionId : String}
    (names : lockSession lock = some sessionId) :
    ∃ held, lock = some (.ride held) ∧ held.sessionId = sessionId := by
  cases lock with
  | none => cases names
  | some lock =>
    cases lock with
    | ride held =>
      cases names
      exact ⟨held, rfl, rfl⟩
    | firmware => cases names

@[simp] theorem updateLive_live (store : Store R) (nodeKey : String)
    (update : Option (LiveBus R) → Option (LiveBus R)) :
    (store.updateLive nodeKey update).live =
      Function.update store.live nodeKey (update (store.live nodeKey)) := rfl

namespace Firestore

variable {firestore : Firestore R} {sessionId : String}

theorem isOpen_iff :
    firestore.isOpen sessionId = true ↔
      ∃ session, firestore.sessions sessionId = some session ∧
        session.status.terminal = false := by
  simp [isOpen, Option.any_eq_true]

theorem hasEnded_iff :
    firestore.hasEnded sessionId = true ↔
      ∃ session, firestore.sessions sessionId = some session ∧
        session.status.terminal = true := by
  simp [hasEnded, Option.any_eq_true]

theorem hasEnded_of_stored {session : RideSession}
    (stored : firestore.sessions sessionId = some session) :
    firestore.hasEnded sessionId = session.status.terminal := by
  simp [hasEnded, stored]

end Firestore

structure ReusedLock (config : RideConfig R) (request : StartRequest)
    (store next : Store R) (claim : LockClaim) (held : RideLock)
    (session : RideSession) : Prop where
  locked : store.locks request.assignment.busId = some (.ride held)
  named : held.sessionId = claim.sessionId
  stored : store.sessions claim.sessionId = some session
  isOpen : session.status.terminal = false
  status : claim.status = session.status
  notCreated : claim.created = false
  sessions : next.sessions =
    Function.update store.sessions claim.sessionId
      (some { session with direction := claim.direction })
  locks : ∃ direction, next.locks =
    Function.update store.locks request.assignment.busId
      (some (.ride { held with direction }))
  activeRides : next.activeRides = store.activeRides
  creationKeys : next.creationKeys =
    request.bindKey config claim.sessionId store.creationKeys
  busLocations : next.busLocations =
    Function.update store.busLocations request.assignment.busId
      (request.resumeAutomaticService
        (store.busLocations request.assignment.busId))
  completedTrips : next.completedTrips = store.completedTrips
  live : next.live = store.live

structure CreatedSession (config : RideConfig R) (request : StartRequest)
    (store next : Store R) (claim : LockClaim) : Prop where
  verified : request.verify store = true
  free : store.locks request.assignment.busId = none
  unbound : (request.keyRef config).bind store.creationKeys = none
  fresh : store.sessions claim.sessionId = none
  autoId : isAutoId claim.sessionId = true
  status : claim.status = .pending
  created : claim.created = true
  next : next =
    { store with
      creationKeys :=
        request.bindKey config claim.sessionId store.creationKeys
      sessions :=
        Function.update store.sessions claim.sessionId
          (some
            { toServiceAssignment := request.assignment
              status := .pending
              direction := claim.direction })
      locks :=
        Function.update store.locks request.assignment.busId
          (some
            (.ride
              { toServiceAssignment := request.assignment
                sessionId := claim.sessionId
                direction := claim.direction }))
      busLocations :=
        Function.update store.busLocations request.assignment.busId
          { request.resumeAutomaticService
              (store.busLocations request.assignment.busId) with
            terminalJourney := none } }

variable {config : RideConfig R} {request : StartRequest}
  {store next : Store R} {claim : LockClaim}

theorem reuseLock_eq_some {requested : Option RideDirection} {held : RideLock}
    (locked : store.locks request.assignment.busId = some (.ride held))
    (done : reuseLock config request requested held store =
      some (next, claim)) :
    ∃ session, ReusedLock config request store next claim held session := by
  unfold reuseLock at done
  simp only at done
  split at done
  · cases done
  · split at done
    · cases done
    · rename_i session stored
      split at done
      · cases done
      · rename_i admitted
        simp only [or_eq_true, not_or, not_eq_true] at admitted
        cases done
        refine ⟨session, locked, rfl, stored, admitted.1, rfl, rfl, ?_, ?_,
          rfl, rfl, rfl, rfl, rfl⟩
        · cases direction : session.direction with
          | none =>
            cases requested with
            | none =>
              have same : { session with direction := none } = session := by
                rw [← direction]
              simp [same, ← stored]
            | some resolved => simp
          | some stillResolved =>
            have same :
                { session with direction := some stillResolved } =
                  session := by
              rw [← direction]
            simp [same, ← stored]
        · cases direction : session.direction with
          | none =>
            cases requested with
            | none => exact ⟨held.direction, by simp [← locked]⟩
            | some resolved => exact ⟨some resolved, by simp⟩
          | some stillResolved =>
            exact ⟨held.direction, by simp [← locked]⟩

variable {direction : Option RideDirection}

theorem createSession_eq_some {sessionId : String}
    (verified : request.verify store = true)
    (free : store.locks request.assignment.busId = none)
    (unbound : (request.keyRef config).bind store.creationKeys = none)
    (done : createSession config request direction sessionId store =
      some (next, claim)) :
    CreatedSession config request store next claim := by
  unfold createSession at done
  simp only at done
  split at done
  · cases done
  · rename_i admitted
    simp only [or_eq_true, not_eq_true', not_or,
      not_eq_false, not_eq_true, Option.isSome_eq_false_iff,
      Option.isNone_iff_eq_none] at admitted
    cases done
    exact ⟨verified, free, unbound, admitted.2, admitted.1, rfl, rfl, rfl⟩

variable {current : Option (LiveBus R)}

variable {pinned : Option String}

theorem claimLock_eq_some {route : RouteDocument} {sessionId : String}
    (done : claimLock config request pinned current route direction sessionId
      store = some (next, claim)) :
    (∃ held session, ReusedLock config request store next claim held session) ∨
      CreatedSession config request store next claim := by
  unfold claimLock at done
  simp only at done
  split at done
  · cases done
  · rename_i admitted
    simp only [or_eq_true, not_or, not_eq_true, Bool.not_eq_false'] at admitted
    obtain ⟨⟨⟨⟨verified, -⟩, binding⟩, -⟩, -⟩ := admitted
    split at done
    · cases done
    · rename_i held locked
      exact .inl ⟨held, reuseLock_eq_some locked done⟩
    · rename_i free
      refine .inr (createSession_eq_some verified free ?_ done)
      cases bound : (request.keyRef config).bind store.creationKeys with
      | none => rfl
      | some prior => simp [bound, free] at binding

theorem resumeLock_eq_some {current : LiveBus R} {sessionId : String}
    (done : resumeLock config request current sessionId store = some next) :
    store.hasEnded sessionId = false ∧
      ((request.keyRef config).isSome = true →
        (store.sessions sessionId).isSome = true) ∧
      (store.locks request.assignment.busId = none ∨
        lockSession (store.locks request.assignment.busId) = some sessionId) ∧
      next =
        { store with
          creationKeys :=
            request.bindKey config sessionId store.creationKeys
          locks :=
            Function.update store.locks request.assignment.busId
              (some
                (.ride
                  { toServiceAssignment := request.assignment
                    sessionId
                    direction := current.direction })) } := by
  unfold resumeLock at done
  simp only at done
  split at done
  · cases done
  · rename_i admitted
    simp only [or_eq_true, not_or, not_eq_true,
      Bool.and_eq_false_iff, bne_eq_false_iff_eq] at admitted
    obtain ⟨⟨⟨⟨-, -⟩, known⟩, running⟩, held⟩ := admitted
    cases done
    refine ⟨running, ?_, ?_, rfl⟩
    · intro keyed
      rcases known with unkeyed | known
      · rw [keyed] at unkeyed
        cases unkeyed
      · simpa using known
    · rcases held with free | held
      · exact .inl (by simpa using free)
      · exact .inr held

theorem afterLiveRead_eq_some {step : StartStep R}
    (found : StartProcess.afterLiveRead request config pinned current =
      some step) :
    (∃ live sessionId, current = some live ∧
        live.sessionId = some sessionId ∧ live.riding = true ∧
        step = .resumeLock live sessionId) ∨
      step = .readRoute pinned current := by
  unfold StartProcess.afterLiveRead at found
  simp only at found
  split at found
  · cases found
  · split at found
    · cases found
    · split at found
      · cases found
      · split at found
        · rename_i sessionId carried
          split at found
          · cases found
            rw [Option.filter_eq_some_iff] at carried
            obtain ⟨carried, admitted⟩ := carried
            simp only [Bool.and_eq_true] at admitted
            cases current with
            | none => cases carried
            | some live => exact .inl ⟨live, sessionId, rfl, carried, admitted.1, rfl⟩
          · cases found
        · cases found
          exact .inr rfl

variable {node : Option (LiveBus R)}

variable {live : LiveBus R}

theorem claimLive_eq_some {lifecycle : ClaimedLifecycle}
    (done : claimLive config request current claim lifecycle node =
      some live) :
    (node.any fun before => before.riding && before.sessionId.isSome) = false ∧
      live.sessionId = some claim.sessionId ∧
      live.toDelay = lifecycle.toDelay ∧ live.previousSessionId = none := by
  unfold claimLive at done
  simp only at done
  split at done
  · cases done
  · rename_i admitted
    simp only [or_eq_true, not_or, not_eq_true] at admitted
    cases done
    refine ⟨?_, rfl, rfl, rfl⟩
    cases node with
    | none => rfl
    | some before => simpa using admitted.2

theorem commitCreationProjections_eq_some {projection : Projection}
    {nodeKey : String}
    (done : commitCreationProjections request projection nodeKey node store =
      some next) :
    ∃ stored live, store.sessions projection.sessionId = some stored ∧
      node = some live ∧ stored.status.terminal = false ∧
      nodeKey = stored.rideId ∧
      live.sessionId = some projection.sessionId ∧ live.riding = true ∧
      (∀ ride, projection.ride = some ride → ∀ active,
        store.activeRides projection.assignment.rideId = some active →
        active.sessionId = projection.sessionId) ∧
      next =
        { store with
          sessions :=
            Function.update store.sessions projection.sessionId
              ((projection.overSession stored).mergeSession (some stored))
          activeRides :=
            match projection.ride with
            | none => store.activeRides
            | some ride =>
              Function.update store.activeRides projection.assignment.rideId
                (some (projection.mergeRide
                  (ride.overRide
                    (store.activeRides projection.assignment.rideId) live)
                  (store.activeRides projection.assignment.rideId))) } := by
  unfold commitCreationProjections at done
  split at done
  · rename_i stored live known
    simp only at done
    split at done
    · cases done
    · rename_i admitted
      simp only [or_eq_true, not_or, not_eq_true, Bool.not_eq_false',
        bne_eq_false_iff_eq, Bool.and_eq_false_iff] at admitted
      obtain ⟨⟨⟨⟨⟨-, running⟩, key⟩, carried⟩, riding⟩, own⟩ := admitted
      cases done
      refine ⟨stored, live, known, rfl, running, key, carried, riding, ?_, rfl⟩
      intro ride present active held
      rcases own with absent | own
      · simp [present] at absent
      · simpa [held] using own
  · cases done

theorem stopSession_eq_some {request : StopRequest} {pauses : Bool}
    (done : stopSession request store = some (next, pauses)) :
    ∃ current, store.sessions request.sessionId = some current ∧
      request.names current = true ∧ current.status ≠ .completed ∧
      current.status ≠ .failed ∧
      next =
        { store with
          sessions :=
            Function.update store.sessions request.sessionId
              (some { current with status := .interrupted })
          activeRides :=
            if (store.activeRides request.nodeKey).map ActiveRide.sessionId ==
                some request.sessionId then
              Function.update store.activeRides request.nodeKey none
            else store.activeRides
          locks :=
            if lockSession (store.locks request.busId) ==
                some request.sessionId then
              Function.update store.locks request.busId none
            else store.locks
          busLocations :=
            if pauses then
              Function.update store.busLocations request.busId
                { store.busLocations request.busId with
                  automaticServicePaused := true }
            else store.busLocations } := by
  unfold stopSession at done
  split at done
  · cases done
  · rename_i current stored
    simp only at done
    split at done
    · cases done
    · rename_i admitted
      simp only [or_eq_true, not_or, beq_iff_eq, not_eq_true',
        not_eq_false] at admitted
      cases done
      exact ⟨current, stored, admitted.1.1, admitted.1.2, admitted.2, rfl⟩

/-- The reconciler interrupts an open session or writes nothing. -/
theorem reconcileSession_cases (sessionId busId routeId : String)
    (inactive : Bool) (store : Store R) :
    reconcileSession sessionId busId routeId inactive store = store ∨
      ∃ session, store.sessions sessionId = some session ∧
        session.status.terminal = false ∧
        reconcileSession sessionId busId routeId inactive store =
          { store with
            sessions :=
              Function.update store.sessions sessionId
                (some { session with status := .interrupted })
            activeRides :=
              if (store.activeRides (activeRideId busId routeId)).map
                  ActiveRide.sessionId == some sessionId then
                Function.update store.activeRides
                  (activeRideId busId routeId) none
              else store.activeRides
            locks :=
              if lockSession (store.locks busId) == some sessionId then
                Function.update store.locks busId none
              else store.locks } := by
  unfold reconcileSession
  simp only
  split
  · exact .inl rfl
  · rename_i session stored
    split
    · exact .inl rfl
    · rename_i admitted
      simp only [or_eq_true, not_or, not_eq_true] at admitted
      exact .inr ⟨session, stored, admitted.1, rfl⟩

theorem persistResolvedSessionDirection_cases (request : DirectionRequest)
    (store : Store R) :
    persistResolvedSessionDirection request store = store ∨
      ∃ session lock, store.sessions request.sessionId = some session ∧
        store.locks request.assignment.busId = some (.ride lock) ∧
        session.status.terminal = false ∧
        persistResolvedSessionDirection request store =
          { store with
            sessions :=
              Function.update store.sessions request.sessionId
                (some { session with direction := some request.direction })
            locks :=
              Function.update store.locks request.assignment.busId
                (some (.ride
                  { lock with direction := some request.direction })) } := by
  unfold persistResolvedSessionDirection
  simp only
  split
  · rename_i session lock stored locked
    split
    · exact .inl rfl
    · rename_i admitted
      simp only [or_eq_true, not_or, not_eq_true] at admitted
      exact .inr ⟨session, lock, stored, locked, admitted.1.2, rfl⟩
  · exact .inl rfl

theorem firmwareMaintenance_cases (request : FirmwareRequest)
    (store : Store R) :
    firmwareMaintenance request store = store ∨
      (request.action = .release ∧
        (∃ routeId, store.locks request.busId =
          some (.firmware request.deviceId routeId)) ∧
        firmwareMaintenance request store =
          { store with
            locks := Function.update store.locks request.busId none }) ∨
      (request.action = .acquire ∧ store.locks request.busId = none ∧
        firmwareMaintenance request store =
          { store with
            locks :=
              Function.update store.locks request.busId
                (some (.firmware request.deviceId request.routeId)) }) := by
  unfold firmwareMaintenance
  simp only
  split
  · rename_i action
    split
    · rename_i own
      obtain ⟨lock, held, owned⟩ := (Option.any_eq_true _ _).mp own
      cases lock with
      | ride lock => cases owned
      | firmware deviceId routeId =>
        have same : deviceId = request.deviceId := beq_iff_eq.mp owned
        exact .inr (.inl ⟨action, ⟨routeId, by rw [held, same]⟩, rfl⟩)
    · exact .inl rfl
  · rename_i action
    split
    · exact .inl rfl
    · rename_i admitted
      simp only [or_eq_true, not_or, not_eq_true,
        Option.isSome_eq_false_iff, Option.isNone_iff_eq_none] at admitted
      exact .inr (.inr ⟨action, admitted.1.2, rfl⟩)

/-- Firmware maintenance only holds and frees locks. -/
theorem firmwareMaintenance_frame (request : FirmwareRequest)
    (store : Store R) :
    firmwareMaintenance request store =
      { store with locks := (firmwareMaintenance request store).locks } := by
  rcases firmwareMaintenance_cases request store with
    same | ⟨-, -, same⟩ | ⟨-, -, same⟩ <;> rw [same]

theorem persistDelay_cases (rideKey sessionId : String) (delay : Delay)
    (store : Store R) :
    persistDelay rideKey sessionId delay store = store ∨
      ∃ activeRide, store.activeRides rideKey = some activeRide ∧
        activeRide.sessionId = sessionId ∧
        activeRide.delayUpdatedAt ≤ delay.delayUpdatedAt ∧
        persistDelay rideKey sessionId delay store =
          { store with
            activeRides :=
              Function.update store.activeRides rideKey
                (some { activeRide with toDelay := delay }) } := by
  unfold persistDelay
  split
  · exact .inl rfl
  · rename_i activeRide stored
    split
    · exact .inl rfl
    · rename_i admitted
      simp only [or_eq_true, not_or, bne_iff_ne, ne_eq,
        Decidable.not_not, decide_eq_true_eq, not_lt] at admitted
      exact .inr ⟨activeRide, stored, admitted.1, admitted.2, rfl⟩

/-- An announced delay only reaches the ride's document. -/
theorem persistDelay_frame (rideKey sessionId : String) (delay : Delay)
    (store : Store R) :
    persistDelay rideKey sessionId delay store =
      { store with
        activeRides :=
          (persistDelay rideKey sessionId delay store).activeRides } := by
  rcases persistDelay_cases rideKey sessionId delay store with
    same | ⟨_, -, -, -, same⟩ <;> rw [same]

theorem rearmAfterEarlyEnd_rearmed {request : RearmRequest}
    (answer : (rearmAfterEarlyEnd request store).2 = .rearmed) :
    (store.busLocations request.busId).automaticServicePaused = false ∧
      (store.busLocations request.busId).automaticServiceEpoch =
        request.generation ∧
      ∃ terminalJourney,
        (terminalJourney = none ∨ terminalJourney =
          (store.busLocations request.busId).terminalJourney) ∧
        (rearmAfterEarlyEnd request store).1 =
          { store with
            busLocations :=
              Function.update store.busLocations request.busId
                { automaticServicePaused := false
                  automaticServiceEpoch := request.generation + 1
                  terminalJourney } } := by
  unfold rearmAfterEarlyEnd at answer ⊢
  simp only at answer ⊢
  split at answer
  · cases answer
  · split at answer
    · cases answer
    · split at answer
      · cases answer
      · rename_i running sameEpoch sameMarker
        simp only [bne_iff_ne, ne_eq, Decidable.not_not] at sameEpoch
        simp only [not_eq_true] at running
        simp only [running, sameEpoch, sameMarker, bne_self_eq_false,
          Bool.false_eq_true, ↓reduceIte, true_and]
        refine ⟨_, ?_, rfl⟩
        split
        · exact .inl rfl
        · exact .inr rfl

/-- A rearm succeeds exactly on a running bus in the epoch that its caller
read, with the return marker that it releases. -/
theorem rearmAfterEarlyEnd_iff (request : RearmRequest) (store : Store R) :
    (rearmAfterEarlyEnd request store).2 = .rearmed ↔
      (store.busLocations request.busId).automaticServicePaused = false ∧
        (store.busLocations request.busId).automaticServiceEpoch =
          request.generation ∧
        (request.consumedBy = none ∨
          (store.busLocations request.busId).terminalJourney.bind
            TerminalJourney.consumedBy = request.consumedBy) := by
  unfold rearmAfterEarlyEnd
  simp only
  split
  · simp_all
  · split
    · simp_all
    · cases consumed : request.consumedBy with
      | none => simp_all
      | some marker => split <;> simp_all

theorem rearmAfterEarlyEnd_otherwise {request : RearmRequest}
    (answer : (rearmAfterEarlyEnd request store).2 ≠ .rearmed) :
    (rearmAfterEarlyEnd request store).1 = store := by
  unfold rearmAfterEarlyEnd at answer ⊢
  simp only at answer ⊢
  split
  · rfl
  · split
    · rfl
    · split
      · rfl
      · simp_all

/-- A rearmed service only changes what is kept of its bus. -/
theorem rearmAfterEarlyEnd_frame (request : RearmRequest) (store : Store R) :
    (rearmAfterEarlyEnd request store).1 =
      { store with
        busLocations :=
          (rearmAfterEarlyEnd request store).1.busLocations } := by
  by_cases answer : (rearmAfterEarlyEnd request store).2 = .rearmed
  · obtain ⟨-, -, _, -, same⟩ := rearmAfterEarlyEnd_rearmed answer
    rw [same]
  · rw [rearmAfterEarlyEnd_otherwise answer]

structure CreatedReturn (turnaround : Turnaround) (store next : Store R)
    (journey : TerminalJourney) (completed : RideSession) : Prop where
  free : store.locks turnaround.assignment.busId = none
  stored : store.sessions turnaround.previousSessionId = some completed
  follows : turnaround.follows completed = true
  recorded :
    (store.busLocations turnaround.assignment.busId).terminalJourney =
      some journey
  unconsumed : turnaround.mayConsume journey = true
  fresh : store.sessions turnaround.sessionRef = none
  autoId : isAutoId turnaround.sessionRef = true
  sessions : next.sessions =
    Function.update store.sessions turnaround.sessionRef
      (some
        { toServiceAssignment := turnaround.assignment
          status := .armed
          direction :=
            some (oppositeRideDirection turnaround.previousDirection)
          automaticTurnaround := true
          previousSessionId := some turnaround.previousSessionId })
  locks : next.locks =
    Function.update store.locks turnaround.assignment.busId
      (some
        (.ride
          { toServiceAssignment := turnaround.assignment
            sessionId := turnaround.sessionRef
            direction :=
              some (oppositeRideDirection turnaround.previousDirection) }))
  activeRides : next.activeRides =
    Function.update store.activeRides turnaround.assignment.rideId
      (some
        { toServiceAssignment := turnaround.assignment
          toDelay := .zero
          sessionId := turnaround.sessionRef
          direction := oppositeRideDirection turnaround.previousDirection
          tripState := .preDeparture
          currentStopIndex := 0
          hasDepartedOrigin := false
          automaticTurnaround := true
          previousSessionId := some turnaround.previousSessionId })
  creationKeys : next.creationKeys = store.creationKeys
  busLocations : next.busLocations =
    Function.update store.busLocations turnaround.assignment.busId
      { store.busLocations turnaround.assignment.busId with
        terminalJourney :=
          some { journey with consumedBy := some turnaround.sessionRef } }
  completedTrips : next.completedTrips = store.completedTrips
  live : next.live = store.live

theorem create_eq_some {turnaround : Turnaround}
    (done : turnaround.create store = some next) :
    ∃ journey completed,
      CreatedReturn turnaround store next journey completed := by
  unfold Turnaround.create at done
  simp only at done
  split at done
  · cases done
  · rename_i journey recorded
    split at done
    · cases done
    · rename_i admitted
      simp only [or_eq_true, not_or, not_eq_true',
        not_eq_true, not_eq_false, Option.isSome_eq_false_iff,
        Option.isNone_iff_eq_none] at admitted
      obtain ⟨⟨⟨⟨⟨⟨free, completed⟩, unconsumed⟩, -⟩, -⟩, autoId⟩, fresh⟩ :=
        admitted
      obtain ⟨session, stored, follows⟩ :=
        (Option.any_eq_true _ _).mp completed
      cases done
      exact ⟨journey, session, free, stored, follows, recorded, unconsumed,
        fresh, autoId, rfl, rfl, rfl, rfl, rfl, rfl, rfl⟩

variable {request : RestoreRequest}

theorem stored_of_readLifecycle {ride : ActiveRide R}
    (found : readLifecycle request store = some (.ride ride)) :
    store.activeRides request.nodeKey = some ride := by
  unfold readLifecycle at found
  split at found
  · rename_i stored present
    split at found
    · cases found
      exact (Option.filter_eq_some_iff.mp present).1
    · cases found
  · split at found
    · cases found
    · split at found
      · cases found
      · split at found <;> cases found

section Engine

variable [JsNumber R]

structure ReducedSnapshot (config : RideConfig R) (event : EngineEvent R)
    (data : LiveBus R) (update : EngineUpdate R) : Prop where
  sameEvent : update.event = event
  sameData : update.data = data
  direction : data.direction = some update.direction
  running : data.tripState ≠ some .completed
  active : data.status = .active
  progress : update.progress =
    if event.isNewTelemetry then
      (reduceTripState config.terminalArrivalConfirmationMs
        (event.sample.toInput event.stops data.progress)).carried
    else data.progress
  completed : update.tripState = .completed →
    update.progress.tripState = .completed

variable {update : EngineUpdate R}

theorem processLiveSnapshot_eq_some {event : EngineEvent R} {data : LiveBus R}
    (done : processLiveSnapshot config event data = some update) :
    ReducedSnapshot config event data update := by
  unfold processLiveSnapshot at done
  split at done
  · cases done
  · rename_i admitted
    simp only [or_eq_true, not_or, beq_iff_eq] at admitted
    obtain ⟨running, online⟩ := admitted
    have active : data.status = .active := by
      cases status : data.status with
      | active => rfl
      | offline => exact absurd status online
    split at done
    · cases done
    · rename_i direction resolved
      split at done
      · rename_i fresh
        cases done
        exact ⟨rfl, rfl, resolved, running, active, by simp [fresh], id⟩
      · rename_i replayed
        obtain ⟨tripState, carried, same⟩ := Option.map_eq_some_iff.mp done
        cases same
        refine ⟨rfl, rfl, resolved, running, active, by simp [replayed], ?_⟩
        intro completed
        simp only at completed
        rw [carried, completed] at running
        exact absurd rfl running

theorem persistActiveRideLifecycle_cases (update : EngineUpdate R)
    (store : Store R) :
    persistActiveRideLifecycle update store = (store, none) ∨
      ∃ sessionId driverId, update.data.sessionId = some sessionId ∧
        update.data.driverId = some driverId ∧
        lockSession (store.locks update.data.busId) = some sessionId ∧
        (persistActiveRideLifecycle update store).1 =
          { store with
            sessions :=
              match store.sessions sessionId with
              | none => store.sessions
              | some session =>
                if !session.status.terminal &&
                    (update.checkpoint
                      (store.activeRides update.rideKey)).tripState ==
                        .inService then
                  Function.update store.sessions sessionId
                    (some { session with status := .active })
                else store.sessions
            activeRides :=
              Function.update store.activeRides update.rideKey
                (some (update.document sessionId driverId
                  (store.activeRides update.rideKey))) } := by
  unfold persistActiveRideLifecycle
  simp only
  split
  · rename_i sessionId driverId carried driven
    split
    · exact .inl rfl
    · rename_i admitted
      simp only [or_eq_true, not_or, bne_iff_ne, ne_eq,
        Decidable.not_not] at admitted
      exact .inr ⟨sessionId, driverId, carried, driven, admitted.2, rfl⟩
  · exact .inl rfl

theorem persistActiveRideLifecycle_live (update : EngineUpdate R)
    (store : Store R) :
    (persistActiveRideLifecycle update store).1.live = store.live := by
  rcases persistActiveRideLifecycle_cases update store with
    same | ⟨sessionId, driverId, -, -, -, same⟩
  · rw [same]
  · rw [same]

/-- The session that a restore brings back. -/
def DurableLifecycle.sessionId : DurableLifecycle R → String
  | .ride durable => durable.sessionId
  | .terminal journey => journey.sessionId

section

omit [JsNumber R]

theorem sessionId_of_publishLifecycle {lifecycle : DurableLifecycle R}
    (done : publishLifecycle request lifecycle node = some live) :
    live.sessionId = some lifecycle.sessionId := by
  unfold publishLifecycle at done
  cases lifecycle with
  | ride | terminal =>
    simp only at done
    split at done
    · cases done
    · cases done
      rfl

variable {completion : Completion}

theorem recoverCompletion_eq_some {sessionId : String}
    (done : recoverCompletion config update sessionId store =
      some completion) :
    ∃ completed, store.completedTrips sessionId = some completed ∧
      completion.completedAtMs = completed.completedAt ∧
      completion.eligibleAt =
        completed.automaticTurnaroundEligibleAt.getD
          (completed.completedAt + config.automaticTurnaroundDwellMs) := by
  unfold recoverCompletion at done
  simp only at done
  split at done
  · cases done
  · rename_i completed recorded
    split at done
    · cases done
    · cases done
      exact ⟨completed, recorded, rfl, rfl⟩

theorem recordCompletion_sessionless (absent : update.data.sessionId = none)
    (completion : Completion) (store : Store R) :
    recordCompletion update completion store =
      { store with
        completedTrips :=
          Function.update store.completedTrips update.event.nodeKey
            (some (update.completedTrip completion)) } := by
  simp [recordCompletion, absent]

theorem recordCompletion_session {sessionId : String}
    (carried : update.data.sessionId = some sessionId)
    (completion : Completion) (store : Store R) :
    recordCompletion update completion store =
      { store with
        completedTrips :=
          Function.update store.completedTrips sessionId
            (some (update.completedTrip completion))
        sessions :=
          Function.update store.sessions sessionId
            ((store.sessions sessionId).map fun session =>
              { session with
                status := .completed
                terminalArrivalConfirmedAt := some completion.completedAtMs })
        activeRides :=
          if (store.activeRides update.rideKey).map ActiveRide.sessionId ==
              some sessionId then
            Function.update store.activeRides update.rideKey none
          else store.activeRides
        locks :=
          if lockSession (store.locks update.data.busId) ==
              some sessionId then
            Function.update store.locks update.data.busId none
          else store.locks
        busLocations :=
          match update.data.driverId with
          | none => store.busLocations
          | some driverId =>
            Function.update store.busLocations update.data.busId
              { store.busLocations update.data.busId with
                terminalJourney :=
                  some (update.terminalJourney completion driverId
                    sessionId) } } := by
  dsimp only [recordCompletion]
  rewrite [carried]
  rfl

theorem completeSession_eq_some {now : Nat}
    (done : completeSession config update now store =
      some (next, completion)) :
    (update.data.sessionId = none ∧
        next = recordCompletion update completion store) ∨
      ∃ sessionId, update.data.sessionId = some sessionId ∧
        ((store.statusOf sessionId = some .completed ∧
            recoverCompletion config update sessionId store =
              some completion ∧ next = store) ∨
          (store.isOpen sessionId = true ∧
            lockSession (store.locks update.data.busId) = some sessionId ∧
            completion.eligibleAt = completion.completedAtMs +
              config.automaticTurnaroundDwellMs ∧
            next = recordCompletion update completion store)) := by
  unfold completeSession at done
  simp only at done
  split at done
  · rename_i absent
    cases done
    exact .inl ⟨absent, rfl⟩
  · rename_i sessionId carried
    refine .inr ⟨sessionId, carried, ?_⟩
    split at done
    · rename_i ended
      obtain ⟨stored, recovered, same⟩ := Option.map_eq_some_iff.mp done
      cases same
      exact .inl ⟨by simpa using ended, recovered, rfl⟩
    · split at done
      · cases done
      · rename_i admitted
        simp only [or_eq_true, not_or, not_eq_true',
          not_eq_false, bne_iff_ne, ne_eq, Decidable.not_not]
          at admitted
        cases done
        exact .inr ⟨admitted.1, admitted.2, rfl, rfl⟩

end

end Engine

end Eki
