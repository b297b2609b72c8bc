import Eki.Ride.DurableProgress

/-!
# Checkpoint and restore

A ride outlives its live node: the engine keeps a durable copy, and a restore
publishes it again.  Two lists of fields have to agree for that, the one the
engine persists and the one the restore reads.  The copy may be further than
the node, since it is written first; then the restored ride is as far as the
copy.
-/

namespace Eki

open Transition
open Option (any_eq_true bind_some getD_some)

variable {R : Type} [JsNumber R]

/-- Delay fields as stored; `none` where there is no integer. -/
structure DelayFields where
  delayMinutes : Option Int
  delayUpdatedAt : Option Int
  deriving DecidableEq

def validDelayMinutes (value : Option Int) : Option Nat :=
  (value.filter fun minutes => decide (0 ≤ minutes ∧ minutes ≤ 1440)).map
    Int.toNat

def validDelayRevision (value : Option Int) : Nat :=
  ((value.filter fun revision =>
    decide (0 ≤ revision ∧ revision ≤ maxSafeInteger)).map Int.toNat).getD 0

def freshestDelayMinutes (live durable : Option DelayFields) : Delay :=
  let liveMinutes := validDelayMinutes (live.bind (·.delayMinutes))
  let durableMinutes := validDelayMinutes (durable.bind (·.delayMinutes))
  let liveAt := validDelayRevision (live.bind (·.delayUpdatedAt))
  let durableAt := validDelayRevision (durable.bind (·.delayUpdatedAt))
  match durableMinutes with
  | some minutes =>
    if liveMinutes.isNone || decide (durableAt > liveAt) then
      { delayMinutes := minutes
        delayUpdatedAt := durableAt }
    else
      { delayMinutes := liveMinutes.getD minutes
        delayUpdatedAt := liveAt }
  | none =>
    { delayMinutes := liveMinutes.getD 0
      delayUpdatedAt := liveAt }

/-- The fields of a delay, and the bounds within which they are read back. -/
def Delay.fields (delay : Delay) : DelayFields where
  delayMinutes := some delay.delayMinutes
  delayUpdatedAt := some delay.delayUpdatedAt

structure Delay.Valid (delay : Delay) : Prop where
  minutes : delay.delayMinutes ≤ 1440
  revision : (delay.delayUpdatedAt : Int) ≤ maxSafeInteger

theorem Delay.Valid.read {delay : Delay} (valid : delay.Valid) :
    validDelayMinutes delay.fields.delayMinutes = some delay.delayMinutes ∧
      validDelayRevision delay.fields.delayUpdatedAt =
        delay.delayUpdatedAt := by
  have minutes := valid.minutes
  have revision := valid.revision
  constructor
  · simp only [validDelayMinutes, Delay.fields, Option.filter]
    rw [if_pos (decide_eq_true (by omega))]
    rfl
  · simp only [validDelayRevision, Delay.fields, Option.filter]
    rw [if_pos (decide_eq_true (by omega))]
    rfl

theorem freshestDelayMinutes_of_valid {live durable : Delay}
    (liveValid : live.Valid) (durableValid : durable.Valid) :
    freshestDelayMinutes (some live.fields) (some durable.fields) =
      live.newer durable := by
  obtain ⟨liveMinutes, liveAt⟩ := liveValid.read
  obtain ⟨durableMinutes, durableAt⟩ := durableValid.read
  unfold freshestDelayMinutes Delay.newer
  simp only [bind_some, liveMinutes, liveAt, durableMinutes, durableAt,
    Option.isNone_some, Bool.false_or, decide_eq_true_eq, getD_some]

theorem freshestDelayMinutes_of_removed {durable : Delay}
    (valid : durable.Valid) :
    freshestDelayMinutes none (some durable.fields) = durable := by
  obtain ⟨minutes, updatedAt⟩ := valid.read
  unfold freshestDelayMinutes
  simp only [Option.bind_none, bind_some, minutes, updatedAt]
  rfl

def restoreRemoved (data : LiveBus R) (store : Store R) : Option (LiveBus R) :=
  let request : RestoreRequest :=
    { busId := data.busId
      routeId := data.routeId
      recoverTerminal := false }
  let removed := store.updateLive request.nodeKey fun _ => none
  (readLifecycle request removed).bind fun lifecycle =>
    publishLifecycle request lifecycle (removed.live request.nodeKey)

structure OwnedRide (data : LiveBus R) (store : Store R) : Prop where
  owns : ∃ sessionId driverId owner record,
    data.sessionId = some sessionId ∧ data.driverId = some driverId ∧
    store.locks data.busId = some (.ride owner) ∧
    owner.sessionId = sessionId ∧
    owner.toServiceAssignment = ⟨driverId, data.busId, data.routeId⟩ ∧
    store.sessions sessionId = some record ∧
    record.toServiceAssignment = ⟨driverId, data.busId, data.routeId⟩ ∧
    record.status.terminal = false

/-- The durable copy of the session that the node carries. -/
def LiveBus.durable (data : LiveBus R) (store : Store R) :
    Option (ActiveRide R) :=
  (store.activeRides (activeRideId data.busId data.routeId)).filter
    fun ride => data.sessionId == some ride.sessionId

/-- The copy is not further than the node. -/
structure NotAhead (event : EngineEvent R) (data : LiveBus R)
    (durable : Option (ActiveRide R)) : Prop where
  index : ∃ index, data.currentStopIndex = some index ∧ 0 ≤ index ∧
    ∀ ride, durable = some ride → durableIndex event.stops ride ≤ index
  tripState : ∀ ride, durable = some ride → ride.tripState = .inService →
    data.tripState = some .inService
  departed : ∀ ride, durable = some ride → ride.hasDepartedOrigin = true →
    data.hasDepartedOrigin = true
  terminal : ∀ ride evidence timestamp, durable = some ride →
    ride.terminalArrival = some evidence →
    event.sample.timestamp = some timestamp →
    ¬ evidence.lastSampledAt > timestamp

structure SameRide (data restored : LiveBus R) : Prop where
  tripState : restored.tripState = data.tripState
  currentStopIndex : restored.currentStopIndex = data.currentStopIndex
  hasDepartedOrigin : restored.hasDepartedOrigin = data.hasDepartedOrigin
  terminalArrival : restored.terminalArrival = data.terminalArrival

structure RoundTrip (event : EngineEvent R) (data : LiveBus R)
    (store : Store R) (restored : LiveBus R) : Prop where
  sessionId : restored.sessionId = data.sessionId
  busId : restored.busId = data.busId
  routeId : restored.routeId = data.routeId
  driverId : restored.driverId = data.driverId
  direction : restored.direction = data.direction
  status : restored.status = data.status
  gnssGap : liveGnssGapSince restored = liveGnssGapSince data
  /-- The progress of the node, or of a copy that was further. -/
  tripState : restored.tripState =
    if (data.durable store).any fun ride => ride.tripState == .inService then
      some .inService
    else data.tripState
  currentStopIndex : restored.currentStopIndex =
    some (max (data.currentStopIndex.getD 0)
      (((data.durable store).map (durableIndex event.stops)).getD 0))
  hasDepartedOrigin : restored.hasDepartedOrigin =
    (data.hasDepartedOrigin ||
      (data.durable store).any ActiveRide.hasDepartedOrigin)
  terminalArrival : restored.terminalArrival = data.terminalArrival ∨
    ∃ ride evidence timestamp, data.durable store = some ride ∧
      ride.terminalArrival = some evidence ∧
      event.sample.timestamp = some timestamp ∧
      evidence.lastSampledAt > timestamp ∧
      restored.terminalArrival = some evidence
  same : NotAhead event data (data.durable store) → SameRide data restored
  delay : restored.toDelay =
    match store.activeRides (activeRideId data.busId data.routeId) with
    | none => data.toDelay
    | some ride => data.toDelay.newer ride.toDelay

variable {data : LiveBus R}

theorem processLiveSnapshot_replayed {config : RideConfig R}
    {event : EngineEvent R} {update : EngineUpdate R}
    (replayed : event.isNewTelemetry = false)
    (read : processLiveSnapshot config event data = some update) :
    ∃ direction tripState,
      update = { event := event, data := data, direction := direction,
                 tripState := tripState, progress := data.progress } ∧
      data.direction = some direction ∧ data.tripState = some tripState ∧
      tripState ≠ .completed ∧ data.status = .active := by
  have reduced := processLiveSnapshot_eq_some read
  unfold processLiveSnapshot at read
  split at read
  · cases read
  · rename_i admitted
    simp only [Bool.or_eq_true, not_or, beq_iff_eq] at admitted
    split at read
    · cases read
    · rename_i direction resolved
      rw [replayed] at read
      simp only [Bool.false_eq_true, if_false] at read
      obtain ⟨tripState, carried, rfl⟩ := Option.map_eq_some_iff.mp read
      refine ⟨direction, tripState, rfl, resolved, carried, ?_, reduced.active⟩
      intro completed
      rw [carried, completed] at admitted
      exact admitted.1 rfl

/-- The node that a restore makes of a durable copy. -/
def ActiveRide.restored (ride : ActiveRide R) (busId routeId : String) :
    LiveBus R where
  toDelay := ride.toDelay
  busId := busId
  routeId := routeId
  driverId := some ride.driverId
  sessionId := some ride.sessionId
  status := .active
  tripState := some ride.tripState
  direction := some ride.direction
  currentStopIndex := some ride.currentStopIndex
  hasDepartedOrigin := ride.hasDepartedOrigin
  terminalArrival := ride.terminalArrival
  gnssGap := ride.gnssGapSince.map fun since =>
    { sessionId := ride.sessionId
      since }
  routeVersion :=
    if 0 < ride.lastRouteVersion then ride.lastRouteVersion + 1 else 0
  automaticTurnaround := ride.automaticTurnaround
  previousSessionId := ride.previousSessionId

omit [JsNumber R] in
theorem liveGnssGapSince_restored (ride : ActiveRide R)
    (busId routeId : String) :
    liveGnssGapSince (ride.restored busId routeId) = ride.gnssGapSince := by
  unfold liveGnssGapSince ActiveRide.restored
  cases ride.gnssGapSince with
  | none => rfl
  | some since => simp [Option.filter]

variable {store : Store R}

omit [JsNumber R] in
theorem restoreRemoved_eq_some {ride : ActiveRide R}
    (owned : OwnedRide data store)
    (stored : store.activeRides (activeRideId data.busId data.routeId) =
      some ride) (session : data.sessionId = some ride.sessionId)
    (driver : data.driverId = some ride.driverId)
    (unfinished : ride.tripState ≠ .completed) :
    restoreRemoved data store =
      some (ride.restored data.busId data.routeId) := by
  obtain ⟨sessionId, driverId, owner, record, carried, driven, locked,
    ownerSession, ownerBus, found, recordBus, unended⟩ := owned.owns
  rw [session] at carried
  rw [driver] at driven
  cases carried
  cases driven
  unfold restoreRemoved
  simp only [RestoreRequest.nodeKey, Store.updateLive, Function.update_self]
  have owns : ownsBus
      { busId := data.busId, routeId := data.routeId,
        recoverTerminal := false }
      { store with
        live := Function.update store.live
          (activeRideId data.busId data.routeId) none } ride = true := by
    simp [ownsBus, locked, ownerSession, ownerBus, found, recordBus, unended]
  unfold readLifecycle
  simp only [RestoreRequest.nodeKey, stored, Option.filter, bne_iff_ne, ne_eq,
    unfinished, not_false_eq_true, if_true, owns, bind_some]
  unfold publishLifecycle
  simp [LiveBus.blank, ActiveRide.restored]

omit [JsNumber R] in
/-- The durable write leaves the lock, and the session open. -/
theorem OwnedRide.persisted [JsNumber R] (update : EngineUpdate R)
    (owned : OwnedRide update.data store) :
    OwnedRide update.data (persistActiveRideLifecycle update store).1 := by
  rcases persistActiveRideLifecycle_cases update store with
    nothing | ⟨sessionId, driverId, carried, driven, -, written⟩
  · rw [nothing]
    exact owned
  · obtain ⟨ownSession, ownDriver, owner, record, ownCarried, ownDriven,
      locked, ownerSession, ownerBus, found, recordBus, unended⟩ := owned.owns
    rw [carried] at ownCarried
    cases ownCarried
    rw [written]
    simp only [found, unended, Bool.not_false, Bool.true_and]
    split
    · exact ⟨sessionId, ownDriver, owner, _, carried, ownDriven, locked,
        ownerSession, ownerBus, Function.update_self _ _ _, recordBus, rfl⟩
    · exact ⟨sessionId, ownDriver, owner, record, carried, ownDriven, locked,
        ownerSession, ownerBus, found, recordBus, unended⟩

/-- The checkpoint of a ride that is persisted as it is: its own progress, or
that of a copy that is further. -/
structure Merged (event : EngineEvent R) (data : LiveBus R)
    (durable : Option (ActiveRide R)) (tripState : TripState)
    (checkpoint : RideCheckpoint R) : Prop where
  tripState : checkpoint.tripState =
    if durable.any fun ride => ride.tripState == .inService then .inService
    else tripState
  currentStopIndex : checkpoint.currentStopIndex =
    max (data.currentStopIndex.getD 0)
      ((durable.map (durableIndex event.stops)).getD 0)
  hasDepartedOrigin : checkpoint.hasDepartedOrigin =
    (data.hasDepartedOrigin || durable.any ActiveRide.hasDepartedOrigin)
  terminalArrival : checkpoint.terminalArrival = data.terminalArrival ∨
    ∃ ride evidence timestamp, durable = some ride ∧
      ride.terminalArrival = some evidence ∧
      event.sample.timestamp = some timestamp ∧
      evidence.lastSampledAt > timestamp ∧
      checkpoint.terminalArrival = some evidence

theorem merged_checkpoint (event : EngineEvent R) (store : Store R)
    (direction : RideDirection) {tripState : TripState}
    (carried : data.tripState = some tripState) :
    Merged event data (data.durable store) tripState
      ((EngineUpdate.mk event data direction tripState
        data.progress).checkpoint
          (store.activeRides (activeRideId data.busId data.routeId))) := by
  have own : ((store.activeRides (activeRideId data.busId data.routeId)).filter
      fun ride => data.sessionId == some ride.sessionId) =
      data.durable store := rfl
  unfold EngineUpdate.checkpoint
  simp only [own]
  cases data.durable store with
  | none =>
    constructor
    · simp [LiveBus.progress, carried]
    · rfl
    · simp [LiveBus.progress]
    · exact .inl rfl
  | some ride =>
    constructor
    · simp [LiveBus.progress, carried]
    · rfl
    · rfl
    · simp only
      split
      · rename_i evidence timestamp known reported
        split
        · rename_i later
          exact .inr ⟨ride, evidence, timestamp, rfl, known, reported,
            later, rfl⟩
        · exact .inl rfl
      · exact .inl rfl

namespace Merged

variable {event : EngineEvent R} {data : LiveBus R}
  {durable : Option (ActiveRide R)} {tripState : TripState}
  {checkpoint : RideCheckpoint R}

/-- A ride that has not finished stays so. -/
theorem unfinished (merged : Merged event data durable tripState checkpoint)
    (running : tripState ≠ .completed) :
    checkpoint.tripState ≠ .completed := by
  rw [merged.tripState]
  split
  · intro same
    cases same
  · exact running

theorem same (merged : Merged event data durable tripState checkpoint)
    (carried : data.tripState = some tripState)
    (behind : NotAhead event data durable) :
    some checkpoint.tripState = data.tripState ∧
      some checkpoint.currentStopIndex = data.currentStopIndex ∧
      checkpoint.hasDepartedOrigin = data.hasDepartedOrigin ∧
      checkpoint.terminalArrival = data.terminalArrival := by
  obtain ⟨index, known, nonneg, bounded⟩ := behind.index
  refine ⟨?_, ?_, ?_, ?_⟩
  · rw [merged.tripState]
    split
    · rename_i serving
      obtain ⟨ride, found, inService⟩ := (any_eq_true _ _).mp serving
      exact (behind.tripState ride found (by simpa using inService)).symm
    · exact carried.symm
  · rw [merged.currentStopIndex, known]
    cases found : durable with
    | none => simp [max_eq_left nonneg]
    | some ride => simp [max_eq_left (bounded ride found)]
  · rw [merged.hasDepartedOrigin]
    cases found : durable.any ActiveRide.hasDepartedOrigin with
    | false => exact Bool.or_false _
    | true =>
      obtain ⟨ride, known, departed⟩ := (any_eq_true _ _).mp found
      rw [behind.departed ride known departed]
      rfl
  · rcases merged.terminalArrival with own |
      ⟨ride, evidence, timestamp, found, stored, reported, later, -⟩
    · exact own
    · exact absurd later
        (behind.terminal ride evidence timestamp found stored reported)

end Merged

/-- **Checkpoint and restore round-trip**: an owned live ride that is persisted
as it is and loses its node is restored with its identity, its GNSS gap, the
newer delay, and its progress or that of a copy that was further. -/
theorem checkpoint_round_trip {config : RideConfig R} {event : EngineEvent R}
    {store : Store R} {data : LiveBus R} {update : EngineUpdate R}
    {checkpoint : RideCheckpoint R}
    (replayed : event.isNewTelemetry = false)
    (read : processLiveSnapshot config event data = some update)
    (persisted : (persistActiveRideLifecycle update store).2 = some checkpoint)
    (owned : OwnedRide data store) :
    ∃ restored,
      restoreRemoved data (persistActiveRideLifecycle update store).1 =
        some restored ∧
      RoundTrip event data store restored := by
  obtain ⟨direction, tripState, rfl, resolved, carried, running, active⟩ :=
    processLiveSnapshot_replayed replayed read
  have kept := OwnedRide.persisted
    (EngineUpdate.mk event data direction tripState data.progress) owned
  have merged := merged_checkpoint event store direction carried
  rcases persistActiveRideLifecycle_cases
      (EngineUpdate.mk event data direction tripState data.progress) store with
    nothing | ⟨sessionId, driverId, session, driver, -, written⟩
  · rw [nothing] at persisted
    cases persisted
  · have stored := congrArg (fun store : Store R => store.activeRides
      (activeRideId data.busId data.routeId)) written
    simp only [EngineUpdate.rideKey, Function.update_self] at stored
    refine ⟨_, restoreRemoved_eq_some kept stored session driver
      (merged.unfinished running), ?_⟩
    constructor
    · exact session.symm
    · rfl
    · rfl
    · exact driver.symm
    · exact resolved.symm
    · exact active.symm
    · exact liveGnssGapSince_restored _ _ _
    · apply (congrArg some merged.tripState).trans
      split
      · rfl
      · exact carried.symm
    · exact congrArg some merged.currentStopIndex
    · exact merged.hasDepartedOrigin
    · exact merged.terminalArrival
    · intro behind
      obtain ⟨sameState, sameIndex, sameDeparted, sameTerminal⟩ :=
        merged.same carried behind
      exact ⟨sameState, sameIndex, sameDeparted, sameTerminal⟩
    · rfl

omit [JsNumber R] in
theorem publishLifecycle_delay {request : RestoreRequest} {ride : ActiveRide R}
    {live next : LiveBus R} (liveValid : live.toDelay.Valid)
    (rideValid : ride.toDelay.Valid)
    (published : publishLifecycle request (.ride ride) (some live) =
      some next) :
    next.toDelay = freshestDelayMinutes
      (if live.sessionId = some ride.sessionId then some live.toDelay.fields
        else none) (some ride.toDelay.fields) := by
  unfold publishLifecycle at published
  simp only [getD_some] at published
  split at published
  · cases published
  · cases published
    simp only [beq_iff_eq]
    split
    · rw [freshestDelayMinutes_of_valid liveValid rideValid]
    · rw [freshestDelayMinutes_of_removed rideValid]

def demoReplay (nodeKey : String) : EngineEvent ℚ where
  nodeKey := nodeKey
  sample :=
    { lat := 0
      lng := 1 / 100
      previousPosition := none
      motionState := .stopped
      timestamp := some 1000
      now := none
      gpsHdop := some 1
      speed := some 0
      heading := none
      assumedGapSince := none }
  stops := longStops
  endpointVersion := some "v"
  isNewTelemetry := false

/-- Every live ride that a run reaches is restored as it was. -/
def RoundTrips (config : RideConfig ℚ) (same : LiveBus ℚ → LiveBus ℚ → Prop) :
    Prop :=
  ∀ (world : World ℚ) (event : EngineEvent ℚ) (data : LiveBus ℚ)
    (update : EngineUpdate ℚ) (checkpoint : RideCheckpoint ℚ),
    System.Steps (World.step config) (fun _ _ => True) .empty world →
    world.store.live event.nodeKey = some data →
    event.nodeKey = activeRideId data.busId data.routeId →
    event.isNewTelemetry = false →
    processLiveSnapshot config event data = some update →
    (persistActiveRideLifecycle update world.store).2 = some checkpoint →
    ∃ restored,
      restoreRemoved data (persistActiveRideLifecycle update world.store).1 =
        some restored ∧
      same data restored

/-- The engine makes a fix durable and stops before it publishes it. -/
def unpublishedFix : List (Label ℚ) :=
  keyedRide ++ [.accept 1 (demoFix longStops 1000)] ++
    runSteps 1 2 firstRide ++ [.crash 1]

def reassignedSession : List (Label ℚ) :=
  collidingResume ++ runSteps 0 2 firstRide

/-- A check of ownership. -/
def ownedBy (data : LiveBus R) (store : Store R) : Bool :=
  match data.sessionId, data.driverId, store.locks data.busId with
  | some sessionId, some driverId, some (.ride owner) =>
    let assignment : ServiceAssignment :=
      ⟨driverId, data.busId, data.routeId⟩
    owner.sessionId == sessionId &&
      decide (owner.toServiceAssignment = assignment) &&
      (store.sessions sessionId).any fun record =>
        decide (record.toServiceAssignment = assignment) &&
          !record.status.terminal
  | _, _, _ => false

omit [JsNumber R] in
theorem ownedRide_of_ownedBy (checked : ownedBy data store = true) :
    OwnedRide data store := by
  unfold ownedBy at checked
  split at checked
  · rename_i sessionId driverId owner session driver locked
    simp only [Bool.and_eq_true, beq_iff_eq, decide_eq_true_eq,
      any_eq_true, Bool.not_eq_true'] at checked
    obtain ⟨⟨ownerSession, ownerBus⟩, record, found, recordBus, unended⟩ :=
      checked
    exact ⟨sessionId, driverId, owner, record, session, driver, locked,
      ownerSession, ownerBus, found, recordBus, unended⟩
  · cases checked

theorem checkpoint_round_trip_keyed :
    ∃ (world : World ℚ) (data restored : LiveBus ℚ),
      System.Steps (World.step demoConfig) (fun _ _ => True) .empty world ∧
      world.store.live "a_r" = some data ∧
      RoundTrip (demoReplay "a_r") data world.store restored := by
  have decided : (System.run (World.step demoConfig) (fun _ _ => true) .empty
      keyedRide).any (fun world =>
        (world.store.live "a_r").any fun data =>
          (processLiveSnapshot demoConfig (demoReplay "a_r") data).any
            fun update =>
              (persistActiveRideLifecycle update world.store).2.isSome &&
                ownedBy data world.store) = true := by
    decide +kernel
  obtain ⟨world, steps, carried⟩ := System.exists_of_run decided
  obtain ⟨data, live, read⟩ := (any_eq_true _ _).mp carried
  obtain ⟨update, reads, checked⟩ := (any_eq_true _ _).mp read
  obtain ⟨written, owned⟩ := Bool.and_eq_true_iff.mp checked
  obtain ⟨checkpoint, persisted⟩ := Option.isSome_iff_exists.mp written
  obtain ⟨restored, -, roundTrip⟩ := checkpoint_round_trip rfl reads persisted
    (ownedRide_of_ownedBy owned)
  exact ⟨world, data, restored, steps.mono fun _ _ _ => trivial, live,
    roundTrip⟩

/-- Whether a replayed event of the node is persisted, and the restore then
passes a check. -/
def replays (nodeKey : String)
    (check : LiveBus ℚ → Option (LiveBus ℚ) → Bool) (world : World ℚ) : Bool :=
  (world.store.live nodeKey).any fun data =>
    decide (nodeKey = activeRideId data.busId data.routeId) &&
      (processLiveSnapshot demoConfig (demoReplay nodeKey) data).any
        fun update =>
          (persistActiveRideLifecycle update world.store).2.isSome &&
            check data (restoreRemoved data
              (persistActiveRideLifecycle update world.store).1)

theorem not_roundTrips {labels : List (Label ℚ)} {nodeKey : String}
    {check : LiveBus ℚ → Option (LiveBus ℚ) → Bool}
    {same : LiveBus ℚ → LiveBus ℚ → Prop}
    (decided : (System.run (World.step demoConfig) (fun _ _ => true) .empty
      labels).any (replays nodeKey check) = true)
    (fails : ∀ data restored, check data (some restored) = true →
      ¬ same data restored) :
    ¬ RoundTrips demoConfig same := by
  intro claimed
  obtain ⟨world, steps, observed⟩ := System.exists_of_run decided
  obtain ⟨data, live, read⟩ := (any_eq_true _ _).mp observed
  obtain ⟨keyed, read⟩ := Bool.and_eq_true_iff.mp read
  obtain ⟨update, reads, checked⟩ := (any_eq_true _ _).mp read
  obtain ⟨written, checked⟩ := Bool.and_eq_true_iff.mp checked
  obtain ⟨checkpoint, persisted⟩ := Option.isSome_iff_exists.mp written
  obtain ⟨restored, publishes, agrees⟩ := claimed world (demoReplay nodeKey)
    data update checkpoint (steps.mono fun _ _ _ => trivial) live
    (of_decide_eq_true keyed) rfl reads persisted
  rw [publishes] at checked
  exact fails data restored checked agrees

/-- A copy that was made durable but not published is further than the node,
and a ride whose session names another bus is not restored. -/
theorem round_trip_fails :
    ¬ RoundTrips demoConfig SameRide ∧
      ¬ RoundTrips demoConfig fun _ _ => True := by
  constructor
  · have decided : (System.run (World.step demoConfig) (fun _ _ => true)
        .empty unpublishedFix).any (replays "a_r" fun data restored =>
          decide (restored.bind (·.currentStopIndex) ≠
            data.currentStopIndex)) = true := by
      decide +kernel
    apply not_roundTrips decided
    intro data restored further same
    exact of_decide_eq_true further same.currentStopIndex
  · have decided : (System.run (World.step demoConfig) (fun _ _ => true)
        .empty reassignedSession).any (replays "a_b_c" fun _ restored =>
          restored.isNone) = true := by
      decide +kernel
    apply not_roundTrips decided
    intro data restored refused
    cases refused

end Eki
