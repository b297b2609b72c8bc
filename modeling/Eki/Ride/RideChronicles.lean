import Eki.Ride.RideHistory
import Eki.Ride.UnobservedStops

/-!
# What a ride's history vouches for

While its session holds the lock of its bus, the history of a ride vouches for
every copy of its progress: the stored ride, the node, the queued snapshots,
the event in flight and the restores in flight.  So every commit, whichever of
them it comes from, ends with an entry for each stop that it has reached.
-/

namespace Eki

open Transition
open Function (update_of_ne update_self)
open Option (any_eq_true map_eq_some_iff map_some)

variable {R : Type} [JsNumber R]

/-- Other writers of the documents do not move the ride: they neither give it
a lock nor end it with its lock in place, and keep its progress. -/
structure Firestore.LeavesRide (sessionId : String)
    (before after : Firestore R) : Prop where
  locks : ∀ bus, lockSession (after.locks bus) = some sessionId →
    lockSession (before.locks bus) = some sessionId ∧
      (before.isOpen sessionId = true → after.isOpen sessionId = true)
  rides : ∀ key ride, after.activeRides key = some ride →
    ride.sessionId = sessionId →
    ∃ stored, before.activeRides key = some stored ∧
      stored.sessionId = sessionId ∧ stored.tripState = ride.tripState ∧
      stored.currentStopIndex = ride.currentStopIndex

/-- Other writers of the node keep whose ride it shows and how far it is. -/
structure LiveBus.SameRide (before after : LiveBus R) : Prop where
  busId : after.busId = before.busId
  driverId : after.driverId = before.driverId
  tripState : after.tripState = before.tripState
  currentStopIndex : after.currentStopIndex = before.currentStopIndex

namespace Journey

/-- The progress of the session is the engine's: an event of a swept receiver
has an old fix, a node that had no session is not published over the ride's,
and other writers leave the ride alone. -/
def OfEngine (nodeKey sessionId : String) (journey : Journey R) :
    JourneyLabel R → Prop
  | .enqueue event _ => event.old
  | .advance _ =>
    ∀ update live, journey.engine = some (.publish update) →
      update.data.sessionId = none → journey.node nodeKey = some live →
      live.sessionId ≠ some sessionId
  | .document next =>
    Firestore.LeavesRide sessionId journey.store.toFirestore next
  | .claim live => live.sessionId ≠ some sessionId
  | .rewrite live =>
    ∀ before, journey.node nodeKey = some before →
      live.sessionId = some sessionId → LiveBus.SameRide before live
  | _ => True

def knownStops (journey : Journey R) (sessionId : String) : List Nat :=
  historyStops (journey.stopsReached sessionId)

def Holds (journey : Journey R) (sessionId busId : String) : Prop :=
  lockSession (journey.store.locks busId) = some sessionId

end Journey

/-- A snapshot of the session's node: one that a driver drives on its bus, for
whose progress the history vouches. -/
def LiveBus.Told (sessionId busId : String) (known : List Nat)
    (data : LiveBus R) : Prop :=
  data.sessionId = some sessionId →
    data.busId = busId ∧ data.driverId.isSome = true ∧ data.Vouched known

/-- What the engine is about to do is something the history will vouch for. -/
def JourneyStep.Told (sessionId busId : String) (known : List Nat)
    (step : JourneyStep R) : Prop :=
  step.update.data.sessionId = some sessionId →
    step.update.data.Told sessionId busId known ∧
      match step with
      | .persist update =>
        update.data.status = .active ∧
          update.progress.tripState ≠ .completed ∧
          Committable known update.event.stops.length
            update.progress.tripState update.progress.currentStopIndex
      | .publish update =>
        Vouches known update.progress.tripState
          update.progress.currentStopIndex
      | .complete update =>
        update.tripState = .completed ∧
          0 ≤ update.progress.currentStopIndex ∧
          update.progress.currentStopIndex < update.event.stops.length
      | .publishCompletion _ _ => False

section Mono

variable {sessionId busId : String} {known more : List Nat}

omit [JsNumber R] in
theorem LiveBus.Told.mono {data : LiveBus R}
    (told : data.Told sessionId busId known) (grows : known ⊆ more) :
    data.Told sessionId busId more := by
  intro mine
  obtain ⟨bus, driven, vouched⟩ := told mine
  exact ⟨bus, driven, vouched.mono grows⟩

end Mono

namespace Journey

/-- The history vouches for every copy of the ride's progress. -/
structure Told (nodeKey sessionId busId : String) (journey : Journey R) :
    Prop where
  rides : ∀ key ride, journey.store.activeRides key = some ride →
    ride.sessionId = sessionId →
    Vouches (journey.knownStops sessionId) ride.tripState
        ride.currentStopIndex ∧
      ride.tripState ≠ .completed
  node : ∀ live, journey.node nodeKey = some live →
    live.Told sessionId busId (journey.knownStops sessionId)
  queue : ∀ queued ∈ journey.queue, ∀ data record,
    queued.snapshot = some (data, record) →
    data.Told sessionId busId (journey.knownStops sessionId)
  engine : ∀ step, journey.engine = some step →
    step.Told sessionId busId (journey.knownStops sessionId)
  restores : ∀ pid request lifecycle,
    journey.restores pid = some (request, lifecycle) →
    lifecycle.sessionId = sessionId →
    ∃ ride, lifecycle = .ride ride ∧ request.busId = busId ∧
      Vouches (journey.knownStops sessionId) ride.tripState
        ride.currentStopIndex

structure Chronicles (nodeKey sessionId busId : String)
    (journey : Journey R) : Prop where
  locked : ∀ bus, lockSession (journey.store.locks bus) = some sessionId →
    bus = busId ∧ journey.store.isOpen sessionId = true
  once : (journey.knownStops sessionId).Nodup
  old : ∀ queued ∈ journey.queue, queued.event.old
  told : journey.Holds sessionId busId → journey.Told nodeKey sessionId busId

end Journey

section Commits

variable {update : EngineUpdate R} {store next : Store R}
  {checkpoint : RideCheckpoint R}

/-- What a durable write that found its lock leaves. -/
structure Persisted (update : EngineUpdate R) (store next : Store R)
    (checkpoint : RideCheckpoint R) (sessionId : String) : Prop where
  carried : update.data.sessionId = some sessionId
  held : lockSession (store.locks update.data.busId) = some sessionId
  merged : checkpoint = update.checkpoint (store.activeRides update.rideKey)
  sameLocks : next.locks = store.locks
  sameLive : next.live = store.live
  sameOpen : ∀ other, next.isOpen other = store.isOpen other
  rides : ∃ driverId, next.activeRides =
    Function.update store.activeRides update.rideKey
      (some (update.document sessionId driverId
        (store.activeRides update.rideKey)))

theorem persisted_of_eq
    (written : persistActiveRideLifecycle update store =
      (next, some checkpoint)) :
    ∃ sessionId, Persisted update store next checkpoint sessionId := by
  unfold persistActiveRideLifecycle at written
  simp only at written
  split at written
  · rename_i sessionId driverId carried driven
    split at written
    · cases written
    · rename_i admitted
      simp only [Bool.or_eq_true, not_or, bne_iff_ne, ne_eq,
        Decidable.not_not] at admitted
      cases written
      refine ⟨sessionId, carried, admitted.2, rfl, rfl, rfl, ?_, driverId, rfl⟩
      intro other
      unfold Firestore.isOpen
      cases present : store.sessions sessionId with
      | none => rfl
      | some session =>
        simp only
        split
        · rename_i activating
          simp only [Bool.and_eq_true, Bool.not_eq_true'] at activating
          by_cases same : other = sessionId
          · subst same
            rw [update_self, present]
            simp only [Option.any_some, activating.1, Bool.not_false]
            rfl
          · rw [update_of_ne same]
        · rfl
  · cases written

theorem persist_isSome {sessionId : String}
    (carried : update.data.sessionId = some sessionId)
    (driven : update.data.driverId.isSome = true)
    (active : update.data.status = .active)
    (held : lockSession (store.locks update.data.busId) = some sessionId) :
    ∃ next checkpoint, persistActiveRideLifecycle update store =
      (next, some checkpoint) := by
  obtain ⟨driverId, drives⟩ := Option.isSome_iff_exists.mp driven
  unfold persistActiveRideLifecycle
  simp only [carried, drives, active, held, bne_self_eq_false, Bool.or_self,
    Bool.false_eq_true, if_false]
  exact ⟨_, _, rfl⟩

end Commits

omit [JsNumber R] in
theorem Firestore.not_completed_of_isOpen {firestore : Firestore R}
    {sessionId : String} (opened : firestore.isOpen sessionId = true) :
    firestore.statusOf sessionId ≠ some .completed := by
  obtain ⟨session, stored, running⟩ := Firestore.isOpen_iff.mp opened
  intro ended
  rw [Firestore.statusOf, stored, map_some, Option.some.injEq] at ended
  rw [ended] at running
  cases running

section Recorded

variable {update : EngineUpdate R} {completion : Completion} {store : Store R}
  {sessionId : String}

section

omit [JsNumber R]

theorem lock_of_recordCompletion {bus : String}
    (held : lockSession ((recordCompletion update completion store).locks
      bus) = some sessionId) :
    lockSession (store.locks bus) = some sessionId ∧
      (update.data.sessionId = some sessionId → bus ≠ update.data.busId) := by
  cases carried : update.data.sessionId with
  | none =>
    rw [recordCompletion_sessionless carried] at held
    exact ⟨held, by simp⟩
  | some completed =>
    rw [recordCompletion_session carried] at held
    simp only at held
    split at held
    · rename_i own
      by_cases same : bus = update.data.busId
      · rw [same, update_self] at held
        cases held
      · rw [update_of_ne same] at held
        exact ⟨held, fun _ => same⟩
    · rename_i other
      refine ⟨held, ?_⟩
      rintro mine same
      rw [same, ← mine] at held
      exact other (by simp [held])

theorem isOpen_of_recordCompletion
    (other : update.data.sessionId ≠ some sessionId) :
    (recordCompletion update completion store).isOpen sessionId =
      store.isOpen sessionId := by
  cases carried : update.data.sessionId with
  | none =>
    rw [recordCompletion_sessionless carried]
    rfl
  | some completed =>
    rw [recordCompletion_session carried]
    unfold Firestore.isOpen
    simp only
    rw [update_of_ne]
    rintro rfl
    exact other carried

theorem ride_of_recordCompletion {key : String} {ride : ActiveRide R}
    (stored : (recordCompletion update completion store).activeRides key =
      some ride) : store.activeRides key = some ride := by
  cases carried : update.data.sessionId with
  | none =>
    rw [recordCompletion_sessionless carried] at stored
    exact stored
  | some completed =>
    rw [recordCompletion_session carried] at stored
    simp only at stored
    split at stored
    · by_cases same : key = update.rideKey
      · rw [same, update_self] at stored
        cases stored
      · rwa [update_of_ne same] at stored
    · exact stored

end

end Recorded

section Restores

variable {request : RestoreRequest} {store : Store R}

omit [JsNumber R] in
theorem owned_of_readLifecycle {ride : ActiveRide R}
    (read : readLifecycle request store = some (.ride ride)) :
    store.activeRides request.nodeKey = some ride ∧
      lockSession (store.locks request.busId) = some ride.sessionId := by
  refine ⟨stored_of_readLifecycle read, ?_⟩
  unfold readLifecycle at read
  split at read
  · split at read
    · rename_i owns
      cases read
      simp only [ownsBus, Bool.and_eq_true] at owns
      have lock := owns.1
      split at lock
      · rename_i owner held
        rw [held]
        simp only [Bool.and_eq_true, beq_iff_eq] at lock
        exact congrArg some lock.1
      · cases lock
    · cases read
  · split at read
    · cases read
    · split at read
      · cases read
      · split at read <;> cases read

omit [JsNumber R] in
theorem ended_of_readLifecycle {terminal : TerminalJourney}
    (read : readLifecycle request store = some (.terminal terminal)) :
    store.statusOf terminal.sessionId = some .completed := by
  unfold readLifecycle at read
  split at read
  · split at read <;> cases read
  · split at read
    · cases read
    · split at read
      · cases read
      · split at read
        · rename_i recovers
          cases read
          simp only [mayRecover, Bool.and_eq_true] at recovers
          obtain ⟨session, stored, completed⟩ :=
            (any_eq_true _ _).mp recovers.1.1.1.1.2
          simp only [Bool.and_eq_true, beq_iff_eq] at completed
          rw [Firestore.statusOf, stored, map_some, completed.1.1.1]
        · cases read

end Restores

namespace Journey.Chronicles

variable {config : RideConfig R} {nodeKey sessionId busId : String}
  {journey : Journey R}

section

variable (chronicles : Chronicles nodeKey sessionId busId journey)

include chronicles

theorem noted :
    Chronicles nodeKey sessionId busId (journey.published nodeKey) := by
  unfold Journey.published
  split
  · exact chronicles
  · split
    · exact chronicles
    · refine ⟨chronicles.locked, chronicles.once, chronicles.old, ?_⟩
      intro held
      have told := chronicles.told held
      exact ⟨told.rides, told.node, told.queue, told.engine, told.restores⟩

theorem wrote {after : Option (LiveBus R)}
    (written : journey.Holds sessionId busId → ∀ live, after = some live →
      live.Told sessionId busId (journey.knownStops sessionId)) :
    Chronicles nodeKey sessionId busId (journey.write nodeKey after) := by
  refine ⟨chronicles.locked, chronicles.once, chronicles.old, ?_⟩
  intro held
  have told := chronicles.told held
  refine ⟨told.rides, ?_, told.queue, told.engine, told.restores⟩
  intro live present
  rw [write_node] at present
  exact written held live present

theorem goesOn {engine : Option (JourneyStep R)}
    (begun : journey.Holds sessionId busId → ∀ step, engine = some step →
      step.Told sessionId busId (journey.knownStops sessionId)) :
    Chronicles nodeKey sessionId busId { journey with engine } := by
  refine ⟨chronicles.locked, chronicles.once, chronicles.old, ?_⟩
  intro held
  have told := chronicles.told held
  exact ⟨told.rides, told.node, told.queue, begun held, told.restores⟩

theorem done :
    Chronicles nodeKey sessionId busId { journey with engine := none } := by
  apply chronicles.goesOn
  rintro held step ⟨⟩

theorem shorten {queue : List (QueuedEvent R)} (part : queue ⊆ journey.queue) :
    Chronicles nodeKey sessionId busId { journey with queue } := by
  refine ⟨chronicles.locked, chronicles.once, ?_, ?_⟩
  · intro queued member
    exact chronicles.old queued (part member)
  · intro held
    have told := chronicles.told held
    refine ⟨told.rides, told.node, ?_, told.engine, told.restores⟩
    intro queued member
    exact told.queue queued (part member)

theorem enqueue {event : EngineEvent R} (old : event.old) (replayed : Bool) :
    Chronicles nodeKey sessionId busId
      { journey with
        queue :=
          journey.queue ++
            [{ event
               snapshot :=
                 if replayed then none else journey.snapshot nodeKey }] } := by
  refine ⟨chronicles.locked, chronicles.once, ?_, ?_⟩
  · intro queued member
    rcases List.mem_append.mp member with earlier | latest
    · exact chronicles.old queued earlier
    · rw [List.mem_singleton.mp latest]
      exact old
  · intro held
    have told := chronicles.told held
    refine ⟨told.rides, told.node, ?_, told.engine, told.restores⟩
    intro queued member data record taken
    rcases List.mem_append.mp member with earlier | latest
    · exact told.queue queued earlier data record taken
    · rw [List.mem_singleton.mp latest] at taken
      simp only at taken
      split at taken
      · cases taken
      · obtain ⟨live, present, same⟩ := map_eq_some_iff.mp taken
        cases same
        exact told.node data present

end

variable {update : JourneyUpdate R}

theorem told_begin {event : EngineEvent R} {record : Option UnobservedStops}
    {data : LiveBus R} {known : List Nat}
    (read : readJourney config event record data = some update)
    (old : event.old) (told : data.Told sessionId busId known) :
    update.begin.Told sessionId busId known := by
  obtain ⟨snapshot, processed, same⟩ := map_eq_some_iff.mp read
  have sameUpdate : update.toEngineUpdate = snapshot := by rw [← same]
  rw [← sameUpdate] at processed
  have reduced := processLiveSnapshot_eq_some processed
  have carries : update.data.Told sessionId busId known :=
    reduced.sameData ▸ told
  have derives : update.data.sessionId = some sessionId →
      ReadOfVouched known update.toEngineUpdate := fun mine =>
    readOfVouched processed (told (reduced.sameData ▸ mine)).2.2
  unfold JourneyUpdate.begin
  split
  · rename_i completed
    have ended : update.tripState = .completed := by simpa using completed
    intro mine
    have committable := (derives mine).committable
    rw [← (derives mine).same, ended] at committable
    exact ⟨carries, ended, committable⟩
  · rename_i running
    split
    · rename_i replayed
      intro mine
      refine ⟨carries, (derives mine).replayed replayed ?_⟩
      exact reduced.sameEvent ▸ old
    · intro mine
      refine ⟨carries, reduced.sameData ▸ reduced.active, ?_,
        (derives mine).committable⟩
      intro ended
      apply running
      rw [(derives mine).same, ended]
      rfl

theorem read (chronicles : Chronicles nodeKey sessionId busId journey)
    {queued : QueuedEvent R} {rest : List (QueuedEvent R)}
    (waiting : journey.queue = queued :: rest) :
    Chronicles nodeKey sessionId busId
      { journey with
        queue := rest
        engine :=
          ((journey.snapshotOf nodeKey queued).bind fun (data, record) =>
            readJourney config queued.event record data).map
            JourneyUpdate.begin } := by
  have first : queued ∈ journey.queue := by simp [waiting]
  have shorter : rest ⊆ journey.queue := by simp [waiting]
  apply (chronicles.shorten shorter).goesOn
  intro held step begun
  have told := chronicles.told held
  obtain ⟨update, found, rfl⟩ := map_eq_some_iff.mp begun
  obtain ⟨⟨data, record⟩, taken, read⟩ := Option.bind_eq_some_iff.mp found
  apply told_begin read (chronicles.old queued first)
  unfold Journey.snapshotOf at taken
  cases snapshot : queued.snapshot with
  | some stored =>
    rw [snapshot, Option.some_or] at taken
    cases taken
    exact told.queue queued first data record snapshot
  | none =>
    rw [snapshot, Option.none_or] at taken
    obtain ⟨live, present, same⟩ := map_eq_some_iff.mp taken
    cases same
    exact told.node data present

omit [JsNumber R] in
theorem grown {next : Journey R}
    (told : journey.Told nodeKey sessionId busId)
    (grows : journey.knownStops sessionId ⊆ next.knownStops sessionId)
    (sameNode : next.node nodeKey = journey.node nodeKey)
    (sameQueue : next.queue = journey.queue)
    (sameRestores : next.restores = journey.restores)
    (rides : ∀ key ride, next.store.activeRides key = some ride →
      ride.sessionId = sessionId →
      journey.store.activeRides key = some ride ∨
        Vouches (next.knownStops sessionId) ride.tripState
            ride.currentStopIndex ∧
          ride.tripState ≠ .completed)
    (engine : ∀ step, next.engine = some step →
      step.Told sessionId busId (next.knownStops sessionId)) :
    next.Told nodeKey sessionId busId := by
  refine ⟨?_, ?_, ?_, engine, ?_⟩
  · intro key ride stored mine
    rcases rides key ride stored mine with kept | written
    · obtain ⟨vouches, running⟩ := told.rides key ride kept mine
      exact ⟨vouches.mono grows, running⟩
    · exact written
  · intro live present
    rw [sameNode] at present
    exact (told.node live present).mono grows
  · intro queued member data record taken
    rw [sameQueue] at member
    exact (told.queue queued member data record taken).mono grows
  · intro pid request lifecycle pending mine
    rw [sameRestores] at pending
    obtain ⟨ride, same, bus, vouches⟩ :=
      told.restores pid request lifecycle pending mine
    exact ⟨ride, same, bus, vouches.mono grows⟩

theorem committed_of_persist
    (chronicles : Chronicles nodeKey sessionId busId journey) {store : Store R}
    {checkpoint : RideCheckpoint R}
    (inFlight : journey.engine = some (.persist update))
    (persisted : Persisted update.toEngineUpdate journey.store store
      checkpoint sessionId) :
    journey.Holds sessionId busId ∧ checkpoint.tripState ≠ .completed ∧
      Vouches (historyStops (journey.stopsReached sessionId ++
          journey.lifecycleHistory update checkpoint sessionId))
        checkpoint.tripState checkpoint.currentStopIndex ∧
      (checkpoint.tripState ≠ .preDeparture →
        ∀ stop ≤ lastReached checkpoint.tripState checkpoint.currentStopIndex,
          stop ∈ historyStops (journey.stopsReached sessionId ++
            journey.lifecycleHistory update checkpoint sessionId)) := by
  obtain ⟨bus, opened⟩ := chronicles.locked _ persisted.held
  have held : journey.Holds sessionId busId := bus ▸ persisted.held
  have told := chronicles.told held
  obtain ⟨-, -, running, committable⟩ :=
    told.engine _ inFlight persisted.carried
  have stored : ∀ ride, journey.store.activeRides update.rideKey = some ride →
      update.data.sessionId = some ride.sessionId →
      Vouches (journey.knownStops sessionId) ride.tripState
          ride.currentStopIndex ∧
        ride.tripState ≠ .completed := by
    intro ride present own
    rw [persisted.carried] at own
    exact told.rides _ ride present (Option.some.inj own).symm
  obtain ⟨merges, stays⟩ :=
    committable_checkpoint running committable stored
  rw [← persisted.merged] at merges stays
  have history : journey.lifecycleHistory update checkpoint sessionId =
      missingStopHistory update.event.stops checkpoint.tripState
        checkpoint.currentStopIndex (journey.stopsReached sessionId)
        update.data.currentStopIndex update.skippedStopIndices
        update.unobservedStopIndices := by
    unfold Journey.lifecycleHistory
    rw [opened, if_pos rfl]
  have reached : checkpoint.tripState ≠ .preDeparture →
      ∀ stop ≤ lastReached checkpoint.tripState checkpoint.currentStopIndex,
        stop ∈ historyStops (journey.stopsReached sessionId ++
          journey.lifecycleHistory update checkpoint sessionId) := by
    intro left
    rw [history]
    exact vouches_of_committed merges left
  refine ⟨held, stays, ?_, reached⟩
  generalize historyStops (journey.stopsReached sessionId ++
    journey.lifecycleHistory update checkpoint sessionId) = known at reached ⊢
  cases state : checkpoint.tripState with
  | preDeparture =>
    rw [state] at merges
    exact merges
  | inService =>
    rw [state] at reached
    exact reached (by simp)
  | completed => trivial

omit [JsNumber R] in
theorem nodup_lifecycleHistory {checkpoint : RideCheckpoint R}
    (once : (journey.knownStops sessionId).Nodup) :
    (historyStops (journey.stopsReached sessionId ++
      journey.lifecycleHistory update checkpoint sessionId)).Nodup := by
  unfold Journey.lifecycleHistory
  split
  · exact nodup_remember once
  · rwa [List.append_nil]

/-- After a durable write the history vouches for what it wrote. -/
theorem persist (chronicles : Chronicles nodeKey sessionId busId journey)
    {update : JourneyUpdate R}
    (inFlight : journey.engine = some (.persist update)) :
    Chronicles nodeKey sessionId busId (journey.persist update) := by
  unfold Journey.persist
  split
  · rename_i store unwritten
    apply chronicles.goesOn
    rintro held step ⟨⟩ mine
    have carried : update.data.sessionId = some sessionId := mine
    obtain ⟨data, active, -⟩ := (chronicles.told held).engine _ inFlight mine
    obtain ⟨bus, driven, -⟩ := data mine
    have locked : lockSession (journey.store.locks update.data.busId) =
        some sessionId := bus ▸ held
    obtain ⟨next, checkpoint, written⟩ :=
      persist_isSome carried driven active locked
    rw [written] at unwritten
    cases unwritten
  · rename_i store checkpoint written
    obtain ⟨carrier, persisted⟩ := persisted_of_eq written
    obtain ⟨driverId, rides⟩ := persisted.rides
    have bus : ∀ bus, lockSession (store.locks bus) = some sessionId →
        bus = busId ∧ store.isOpen sessionId = true := by
      intro bus held
      rw [persisted.sameOpen]
      exact chronicles.locked bus (persisted.sameLocks ▸ held)
    simp only [persisted.carried]
    by_cases mine : carrier = sessionId
    · subst mine
      obtain ⟨held, stays, vouches, -⟩ :=
        chronicles.committed_of_persist inFlight persisted
      have told := chronicles.told held
      have known : (journey.remember carrier
          (journey.lifecycleHistory update checkpoint carrier)).knownStops
            carrier =
          historyStops (journey.stopsReached carrier ++
            journey.lifecycleHistory update checkpoint carrier) := by
        simp only [Journey.knownStops, Journey.remember, update_self]
      have grows : journey.knownStops carrier ⊆
          historyStops (journey.stopsReached carrier ++
            journey.lifecycleHistory update checkpoint carrier) := by
        rw [historyStops_append]
        exact List.subset_append_left _ _
      refine ⟨bus, ?_, chronicles.old, fun _ => grown told ?_ ?_ rfl rfl ?_ ?_⟩
      · exact known ▸ nodup_lifecycleHistory chronicles.once
      · exact known ▸ grows
      · exact congrFun persisted.sameLive nodeKey
      · intro key ride stored own
        change store.activeRides key = some ride at stored
        rw [rides] at stored
        by_cases same : key = update.rideKey
        · rw [same, update_self] at stored
          cases stored
          right
          simp only [EngineUpdate.document, ← persisted.merged]
          exact ⟨known ▸ vouches, stays⟩
        · rw [update_of_ne same] at stored
          exact .inl stored
      · rintro step ⟨⟩ own
        refine ⟨?_, known ▸ vouches⟩
        exact ((told.engine _ inFlight persisted.carried).1).mono
          (known ▸ grows)
    · have known : (journey.remember carrier
          (journey.lifecycleHistory update checkpoint carrier)).knownStops
            sessionId = journey.knownStops sessionId := by
        simp only [Journey.knownStops, Journey.remember,
          update_of_ne (Ne.symm mine)]
      refine ⟨bus, ?_, chronicles.old, ?_⟩
      · exact known ▸ chronicles.once
      · intro held
        have before : lockSession (journey.store.locks busId) =
            some sessionId := persisted.sameLocks ▸ held
        have told := chronicles.told before
        refine grown told ?_ ?_ rfl rfl ?_ ?_
        · exact known ▸ List.Subset.refl _
        · exact congrFun persisted.sameLive nodeKey
        · intro key ride stored own
          change store.activeRides key = some ride at stored
          rw [rides] at stored
          by_cases same : key = update.rideKey
          · rw [same, update_self] at stored
            cases stored
            exact absurd own mine
          · rw [update_of_ne same] at stored
            exact .inl stored
        · rintro step ⟨⟩ own
          have carried : update.data.sessionId = some sessionId := own
          rw [persisted.carried] at carried
          exact absurd (Option.some.inj carried) mine

omit [JsNumber R] in
theorem nodup_completionHistory (once : (journey.knownStops sessionId).Nodup) :
    (historyStops (journey.stopsReached sessionId ++
      journey.completionHistory update sessionId)).Nodup := by
  unfold Journey.completionHistory
  split
  · exact nodup_remember once
  · rwa [List.append_nil]

/-- A completion of the session takes its lock; any other leaves the ride. -/
theorem complete (chronicles : Chronicles nodeKey sessionId busId journey)
    (update : JourneyUpdate R) (now : Nat) :
    Chronicles nodeKey sessionId busId
      (journey.complete config update now) := by
  unfold Journey.complete
  split
  · exact chronicles.done
  · rename_i store completion completed
    have sameLive := completeSession_live completed
    rcases completeSession_eq_some completed with
      ⟨carried, rfl⟩ | ⟨carrier, carried, outcome⟩
    · simp only [carried]
      have locks : ∀ bus, lockSession ((recordCompletion update.toEngineUpdate
          completion journey.store).locks bus) = some sessionId →
          lockSession (journey.store.locks bus) = some sessionId :=
        fun bus held => (lock_of_recordCompletion held).1
      refine ⟨?_, chronicles.once, chronicles.old, ?_⟩
      · intro bus held
        rw [isOpen_of_recordCompletion (by simp [carried])]
        exact chronicles.locked bus (locks bus held)
      · intro held
        have told := chronicles.told (locks busId held)
        refine grown told (List.Subset.refl _) ?_ rfl rfl ?_ ?_
        · exact congrFun sameLive nodeKey
        · intro key ride stored own
          exact .inl (ride_of_recordCompletion stored)
        · rintro step ⟨⟩ own
          have mine : update.data.sessionId = some sessionId := own
          rw [carried] at mine
          cases mine
    · simp only [carried]
      have locks : ∀ bus, lockSession (store.locks bus) = some sessionId →
          lockSession (journey.store.locks bus) = some sessionId ∧
            carrier ≠ sessionId ∧
            store.isOpen sessionId = journey.store.isOpen sessionId := by
        intro bus held
        rcases outcome with ⟨ended, -, rfl⟩ | ⟨-, locked, -, rfl⟩
        · refine ⟨held, ?_, rfl⟩
          rintro rfl
          have opened := (chronicles.locked bus held).2
          exact absurd ended (Firestore.not_completed_of_isOpen opened)
        · obtain ⟨before, elsewhere⟩ := lock_of_recordCompletion held
          have other : carrier ≠ sessionId := by
            rintro rfl
            apply elsewhere carried
            rw [(chronicles.locked bus before).1,
              (chronicles.locked _ locked).1]
          refine ⟨before, other, isOpen_of_recordCompletion ?_⟩
          rw [carried]
          simpa using other
      have rides : ∀ key ride, store.activeRides key = some ride →
          journey.store.activeRides key = some ride := by
        intro key ride stored
        rcases outcome with ⟨-, -, rfl⟩ | ⟨-, -, -, rfl⟩
        · exact stored
        · exact ride_of_recordCompletion stored
      refine ⟨?_, ?_, chronicles.old, ?_⟩
      · intro bus held
        obtain ⟨before, -, same⟩ := locks bus held
        rw [same]
        exact chronicles.locked bus before
      · by_cases mine : carrier = sessionId
        · subst mine
          simp only [Journey.knownStops, Journey.remember, update_self]
          exact nodup_completionHistory chronicles.once
        · simp only [Journey.knownStops, Journey.remember,
            update_of_ne (Ne.symm mine)]
          exact chronicles.once
      · intro held
        obtain ⟨before, other, -⟩ := locks busId held
        have told := chronicles.told before
        have known : (journey.remember carrier
            (journey.completionHistory update carrier)).knownStops
              sessionId = journey.knownStops sessionId := by
          simp only [Journey.knownStops, Journey.remember,
            update_of_ne (Ne.symm other)]
        refine grown told ?_ ?_ rfl rfl ?_ ?_
        · exact known ▸ List.Subset.refl _
        · exact congrFun sameLive nodeKey
        · intro key ride stored own
          exact .inl (rides key ride stored)
        · rintro step ⟨⟩ own
          have mine : update.data.sessionId = some sessionId := own
          rw [carried] at mine
          exact absurd (Option.some.inj mine) other

theorem publish (chronicles : Chronicles nodeKey sessionId busId journey)
    (inFlight : journey.engine = some (.publish update)) (otherwise : Bool)
    (carries : ∀ live, update.data.sessionId = none →
      journey.node nodeKey = some live → live.sessionId ≠ some sessionId) :
    Chronicles nodeKey sessionId busId
      (journey.publish nodeKey update otherwise) := by
  unfold Journey.publish
  simp only
  split
  · exact chronicles.done
  · rename_i live present
    split
    · exact chronicles.done
    · rename_i admitted
      simp only [Bool.or_eq_true, not_or, Bool.not_eq_true] at admitted
      obtain ⟨after, published, session, index⟩ :=
        publishProgress_accepted admitted.2
      have written : Chronicles nodeKey sessionId busId
          ({ journey with engine := none }.write nodeKey
            (publishProgress update.toEngineUpdate (some live))) := by
        apply chronicles.done.wrote
        intro held next same
        rw [published] at same
        cases same
        intro mine
        have told := chronicles.told held
        have before : live.sessionId = some sessionId := session ▸ mine
        have owner : update.data.sessionId = some sessionId := by
          cases carried : update.data.sessionId with
          | none => exact absurd before (carries live carried present)
          | some carrier =>
            have accepted := admitted.2
            simp only [JourneyUpdate.refused, carried, Option.isSome_some,
              Bool.true_and, Bool.or_eq_false_iff, bne_eq_false_iff_eq]
              at accepted
            rw [← before, accepted.1.1.1]
        obtain ⟨-, vouches⟩ := told.engine _ inFlight owner
        obtain ⟨bus, driven, shown⟩ := told.node live present before
        have state := published
        unfold publishProgress at state
        simp only [map_some, Option.some.injEq] at state
        split at state
        · subst state
          exact ⟨bus, driven, shown⟩
        · subst state
          exact ⟨bus, driven, vouches⟩
      apply noted
      refine ⟨written.locked, written.once, written.old, ?_⟩
      intro held
      have told := written.told held
      exact ⟨told.rides, told.node, told.queue, told.engine, told.restores⟩

/-- The live write of a completion comes after the lock is gone. -/
theorem publishCompletion
    (chronicles : Chronicles nodeKey sessionId busId journey)
    {completion : Completion} (inFlight : journey.engine =
      some (.publishCompletion update completion)) :
    Chronicles nodeKey sessionId busId
      (journey.publishCompletion nodeKey update completion) := by
  unfold Journey.publishCompletion
  simp only
  split
  · exact chronicles.done
  · rename_i live present
    split
    · exact chronicles.done
    · rename_i sameSession
      have own : live.sessionId = update.data.sessionId := by
        simpa using sameSession
      obtain ⟨after, written, keeps, -⟩ :=
        publishCompletion_own completion own
      apply noted
      apply chronicles.done.wrote
      intro held next same
      rw [written] at same
      cases same
      intro mine
      rw [keeps, own] at mine
      exact absurd ((chronicles.told held).engine _ inFlight mine).2 id

theorem restore (chronicles : Chronicles nodeKey sessionId busId journey)
    (pid : Nat) (request : RestoreRequest) :
    Chronicles nodeKey sessionId busId
      { journey with
        restores :=
          Function.update journey.restores pid
            ((readLifecycle request journey.store).map fun lifecycle =>
              (request, lifecycle)) } := by
  refine ⟨chronicles.locked, chronicles.once, chronicles.old, ?_⟩
  intro held
  have told := chronicles.told held
  refine ⟨told.rides, told.node, told.queue, told.engine, ?_⟩
  intro other asked lifecycle pending mine
  by_cases same : other = pid
  · simp only [same, update_self] at pending
    obtain ⟨found, read, pair⟩ := map_eq_some_iff.mp pending
    cases pair
    cases lifecycle with
    | ride ride =>
      obtain ⟨stored, locked⟩ := owned_of_readLifecycle read
      have own : ride.sessionId = sessionId := mine
      refine ⟨ride, rfl, ?_, (told.rides _ ride stored own).1⟩
      exact (chronicles.locked _ (own ▸ locked)).1
    | terminal terminal =>
      have ended := ended_of_readLifecycle read
      have own : terminal.sessionId = sessionId := mine
      have opened := (chronicles.locked busId held).2
      exact absurd (own ▸ ended) (Firestore.not_completed_of_isOpen opened)
  · simp only [update_of_ne same] at pending
    exact told.restores other asked lifecycle pending mine

theorem publishRestore
    (chronicles : Chronicles nodeKey sessionId busId journey) {pid : Nat}
    {request : RestoreRequest} {lifecycle : DurableLifecycle R}
    (pending : journey.restores pid = some (request, lifecycle)) :
    Chronicles nodeKey sessionId busId
      { journey with restores := Function.update journey.restores pid none } ∧
      ∀ live, publishLifecycle request lifecycle (journey.node nodeKey) =
        some live → journey.Holds sessionId busId →
        live.Told sessionId busId (journey.knownStops sessionId) := by
  constructor
  · refine ⟨chronicles.locked, chronicles.once, chronicles.old, ?_⟩
    intro held
    have told := chronicles.told held
    refine ⟨told.rides, told.node, told.queue, told.engine, ?_⟩
    intro other asked left stays mine
    by_cases same : other = pid
    · simp only [same, update_self] at stays
      cases stays
    · simp only [update_of_ne same] at stays
      exact told.restores other asked left stays mine
  · intro live written held mine
    have told := chronicles.told held
    have own : lifecycle.sessionId = sessionId := by
      rw [sessionId_of_publishLifecycle written] at mine
      exact Option.some.inj mine
    obtain ⟨ride, rfl, bus, vouches⟩ :=
      told.restores pid request lifecycle pending own
    unfold publishLifecycle at written
    simp only at written
    split at written
    · cases written
    · cases written
      exact ⟨bus, rfl, vouches⟩

theorem document (chronicles : Chronicles nodeKey sessionId busId journey)
    {next : Firestore R}
    (leaves : Firestore.LeavesRide sessionId journey.store.toFirestore next) :
    Chronicles nodeKey sessionId busId
      { journey with store := { journey.store with toFirestore := next } } := by
  refine ⟨?_, chronicles.once, chronicles.old, ?_⟩
  · intro bus held
    obtain ⟨before, opens⟩ := leaves.locks bus held
    obtain ⟨same, opened⟩ := chronicles.locked bus before
    exact ⟨same, opens opened⟩
  · intro held
    have told := chronicles.told (leaves.locks busId held).1
    refine ⟨?_, told.node, told.queue, told.engine, told.restores⟩
    intro key ride stored mine
    obtain ⟨before, present, own, state, index⟩ :=
      leaves.rides key ride stored mine
    rw [← state, ← index]
    exact told.rides key before present own

theorem step (chronicles : Chronicles nodeKey sessionId busId journey)
    {label : JourneyLabel R} {next : Journey R}
    (allowed : journey.OfEngine nodeKey sessionId label)
    (taken : Journey.step config nodeKey journey label = some next) :
    Chronicles nodeKey sessionId busId next := by
  cases label with
  | enqueue event replayed =>
    simp only [Journey.step] at taken
    split at taken
    · cases taken
    · cases taken
      exact chronicles.enqueue allowed replayed
  | read =>
    simp only [Journey.step] at taken
    split at taken
    · rename_i queued rest idle waiting
      cases taken
      exact chronicles.read waiting
    · cases taken
  | advance ambient =>
    obtain ⟨step, inFlight, rfl⟩ := map_eq_some_iff.mp taken
    cases step with
    | persist update => exact chronicles.persist inFlight
    | publish update =>
      apply chronicles.publish inFlight ambient.observed
      intro live absent present
      exact allowed update live inFlight absent present
    | complete update => exact chronicles.complete update ambient.now
    | publishCompletion update completion =>
      exact chronicles.publishCompletion inFlight
  | lose =>
    cases taken
    exact chronicles.done
  | handoff =>
    cases taken
    exact (chronicles.shorten (List.nil_subset _)).done
  | restore pid request =>
    simp only [Journey.step] at taken
    split at taken
    · cases taken
    · cases taken
      exact chronicles.restore pid request
  | publishRestore pid =>
    obtain ⟨⟨request, lifecycle⟩, pending, same⟩ :=
      map_eq_some_iff.mp taken
    obtain ⟨rest, shows⟩ := chronicles.publishRestore pending
    simp only at same
    split at same
    · cases same
      exact rest
    · rename_i live written
      cases same
      apply noted
      apply rest.wrote
      rintro held found ⟨⟩
      exact shows live written held
  | document firestore =>
    cases taken
    exact chronicles.document allowed
  | claim live =>
    cases taken
    apply noted
    apply chronicles.wrote
    rintro held found ⟨⟩ mine
    exact absurd mine allowed
  | rewrite live =>
    simp only [Journey.step] at taken
    split at taken
    · rename_i keeps
      cases taken
      obtain ⟨before, present, same⟩ := (any_eq_true _ _).mp keeps
      apply chronicles.wrote
      rintro held found ⟨⟩ mine
      have sameRide := allowed before present mine
      simp only [Journey.keeps, mine, Option.isNone_some, Bool.false_or,
        Bool.and_eq_true, beq_iff_eq] at same
      obtain ⟨bus, driven, vouched⟩ :=
        (chronicles.told held).node before present same.1.symm
      refine ⟨sameRide.busId ▸ bus, sameRide.driverId ▸ driven, ?_⟩
      unfold LiveBus.Vouched LiveBus.progress at vouched ⊢
      simp only [sameRide.tripState, sameRide.currentStopIndex]
      exact vouched
    · cases taken
  | remove =>
    cases taken
    apply chronicles.wrote
    rintro held live ⟨⟩

end Journey.Chronicles

end Eki
