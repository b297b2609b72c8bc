import Eki.Ride.Checkpoints
import Eki.Ride.RideDocuments

/-!
# One return for each completed ride

Replicas may claim a turnaround again and again; the transaction that creates
the return decides, and every later activation or restore names the session
that it created.  Only a plain projection that reopens an ended session brings
a second checkpoint about, and only a merge into the document of another
session's return lets a node name the wrong one.
-/

namespace Eki

open Transition

variable {R : Type} [JsNumber R]

namespace Firestore

variable (firestore : Firestore R)

/-- A stored ride that is marked as a return is the return it is marked as. -/
def RideFollows (ride : ActiveRide R) : Prop :=
  ∀ previous, ride.previousSessionId = some previous →
    firestore.previousOf ride.sessionId = some previous

/-- A node that is marked as a return carries the return it is marked as. -/
def NodeFollows (live : LiveBus R) : Prop :=
  ∀ previous, live.previousSessionId = some previous →
    ∃ sessionId, live.sessionId = some sessionId ∧
      firestore.previousOf sessionId = some previous

end Firestore

/-- What an activation or a restore in flight will put on its node. -/
def Process.Follows (firestore : Firestore R) : Process R → Prop
  | .turnaround (.activate armed) =>
    firestore.previousOf armed.sessionRef = some armed.previousSessionId
  | .restore { step := .publish (.ride ride), .. } =>
    firestore.RideFollows ride
  | _ => True

/-- The document that the step merges a session's ride into, where it does not
compare the session stored there. -/
def Process.mergesInto (firestore : Firestore R) :
    Process R → Option (String × String)
  | .start { step := .mergeRide projection _, .. } =>
    projection.ride.map fun _ =>
      (projection.assignment.rideId, projection.sessionId)
  | .engine (.persist update) =>
    (update.owner firestore).map fun sessionId =>
      (update.rideKey, sessionId)
  | _ => none

/-- The step leaves another session's return alone. -/
def Process.MergesOwn (firestore : Firestore R) (process : Process R) : Prop :=
  ∀ rideKey sessionId,
    process.mergesInto firestore = some (rideKey, sessionId) →
    ∀ ride, firestore.activeRides rideKey = some ride →
      ride.sessionId = sessionId ∨ ride.previousSessionId = none

section Rides

variable {before after : Firestore R}

omit [JsNumber R]

theorem Firestore.RideFollows.keeps {ride : ActiveRide R}
    (follows : before.RideFollows ride)
    (keeps : ∀ sessionId previous,
      before.previousOf sessionId = some previous →
      after.previousOf sessionId = some previous) :
    after.RideFollows ride :=
  fun previous marked => keeps _ _ (follows previous marked)

theorem Firestore.NodeFollows.keeps {live : LiveBus R}
    (follows : before.NodeFollows live)
    (keeps : ∀ sessionId previous,
      before.previousOf sessionId = some previous →
      after.previousOf sessionId = some previous) :
    after.NodeFollows live := by
  intro previous marked
  obtain ⟨sessionId, carried, returned⟩ := follows previous marked
  exact ⟨sessionId, carried, keeps _ _ returned⟩

end Rides

variable {before : Firestore R}

omit [JsNumber R] in
private theorem rideFollows_of_merge {after : Firestore R}
    {document : Option (ActiveRide R)} {merged : ActiveRide R}
    (stored : ∀ ride, document = some ride → before.RideFollows ride)
    (keeps : ∀ sessionId previous,
      before.previousOf sessionId = some previous →
      after.previousOf sessionId = some previous)
    (mark : merged.previousSessionId =
      document.bind ActiveRide.previousSessionId)
    (own : ∀ ride, document = some ride →
      ride.sessionId = merged.sessionId ∨ ride.previousSessionId = none) :
    after.RideFollows merged := by
  intro previous marked
  rw [mark] at marked
  obtain ⟨ride, found, marked⟩ := Option.bind_eq_some_iff.mp marked
  have follows := stored ride found previous marked
  rcases own ride found with same | unmarked
  · rw [same] at follows
    exact keeps _ _ follows
  · rw [unmarked] at marked
    cases marked

variable {store : Store R} {process : Process R}

variable {ride : ActiveRide R} {rideKey : String}

theorem rideFollows_of_write {next : Firestore R}
    (write : Process.RideWrite store next process rideKey (some ride))
    (own : process.MergesOwn store.toFirestore) (keeps : ∀ sessionId previous,
      store.previousOf sessionId = some previous →
      next.previousOf sessionId = some previous)
    (follows : ∀ ride, store.activeRides rideKey = some ride →
      store.RideFollows ride) : next.RideFollows ride := by
  cases write with
  | @mergeRide request projection part sessionToo projected =>
    apply rideFollows_of_merge follows keeps
    · cases store.activeRides projection.assignment.rideId <;> rfl
    · intro stored held
      have named := own projection.assignment.rideId projection.sessionId
        (by simp [Process.mergesInto, projected]) stored held
      rw [held]
      exact named
  | commitBatch projected =>
    rintro previous ⟨⟩
  | @commitProjections request projection part nodeKey live projected running
      ownRide =>
      apply rideFollows_of_merge follows keeps
      · cases store.activeRides projection.assignment.rideId <;> rfl
      · intro stored held
        left
        rw [ownRide stored held, held]
        rfl
  | persistDelay held =>
    intro previous marked
    exact keeps _ _ (follows _ held previous marked)
  | @persist update sessionId driverId carried locked =>
    apply rideFollows_of_merge follows keeps rfl
    intro stored held
    exact own update.rideKey sessionId
      (by simp [Process.mergesInto, update.owner_eq_some carried locked])
      stored held
  | createReturn created same =>
    rintro previous ⟨⟩
    rw [same]
    simp [Firestore.previousOf, created.sessions]

section Nodes

variable {firestore : Firestore R}

omit [JsNumber R]

theorem Firestore.NodeFollows.unmarked {live : LiveBus R}
    (unmarked : live.previousSessionId = none) :
    firestore.NodeFollows live := by
  intro previous marked
  rw [unmarked] at marked
  cases marked

end Nodes

variable {live : LiveBus R} {after : Option (LiveBus R)}
  {config : RideConfig R} {nodeKey : String}

omit [JsNumber R] in
theorem nodeFollows_of_liveWrite {ambient : Ambient}
    (write : Process.LiveWrite config ambient store process nodeKey after)
    (planned : process.Follows store.toFirestore)
    (follows : ∀ live, store.live nodeKey = some live →
      store.NodeFollows live) (found : after = some live) :
    store.NodeFollows live := by
  cases write with
  | claimLive done =>
    cases found
    exact .unmarked (claimLive_eq_some done).2.2.2
  | completeSetup | publish | publishCompletion | retireCompleted | release =>
    apply holds_of_map follows found
    intro live marked
    split <;> exact marked
  | retire =>
    apply holds_of_map follows found
    intro live marked
    split
    · exact .unmarked rfl
    · exact marked
  | @announce request current sessionId delay present =>
    cases found
    exact follows current present
  | reconcile => cases found
  | @claimReturn turnaround before claimed present done =>
    cases found
    unfold Turnaround.claim at done
    simp only at done
    split at done
    · cases done
    · cases done
      exact follows before present
  | activate =>
    apply holds_of_map follows found
    intro live marked
    split
    · exact marked
    · rintro previous ⟨⟩
      exact ⟨_, rfl, planned⟩
  | @restore request lifecycle restored done =>
    cases found
    cases lifecycle with
    | ride ride =>
      simp only [publishLifecycle] at done
      split at done
      · cases done
      · cases done
        intro previous marked
        exact ⟨ride.sessionId, rfl, planned previous marked⟩
    | terminal journey =>
      simp only [publishLifecycle] at done
      split at done
      · cases done
      · rename_i vacant
        simp only [Bool.or_eq_true, not_or, Bool.not_eq_true,
          Option.isSome_eq_false_iff, Option.isNone_iff_eq_none]
          at vacant
        cases done
        apply Firestore.NodeFollows.unmarked
        -- A vacant node is not marked.
        cases node : store.live request.nodeKey with
        | none => rfl
        | some before =>
          cases marked : before.previousSessionId with
          | none => exact marked
          | some previous =>
            obtain ⟨sessionId, carried, -⟩ :=
              follows before node previous marked
            simp [node, carried] at vacant

omit [JsNumber R] in
theorem nodeFollows_of_operation {operation : Operation}
    (write : Operation.LiveWrite store operation nodeKey after)
    (follows : ∀ live, store.live nodeKey = some live →
      store.NodeFollows live) (found : after = some live) :
    store.NodeFollows live := by
  cases write with
  | @telemetry request =>
    unfold persistTelemetry at found
    simp only at found
    split at found
    · exact follows live found
    · cases found
      cases node : store.live
          (activeRideId request.busId request.routeId) with
      | none => exact .unmarked rfl
      | some before => exact follows before node
  | sweepStale =>
    obtain ⟨before, present, swept⟩ := Option.bind_eq_some_iff.mp found
    split at swept
    · cases swept
      exact follows before present
    · cases swept
  | retireAssignment | resolveDirection | resetDirection =>
    apply holds_of_map follows found
    intro live marked
    split <;> exact marked

/-- No plain projection is written over an ended session, and no ride is merged
into the return of another session. -/
def World.keepsReturns (world : World R) (label : Label R) : Bool :=
  (world.running label).all fun process =>
    (process.projects.all fun sessionId =>
        !world.store.hasEnded sessionId) &&
      (process.mergesInto world.store.toFirestore).all fun merged =>
        (world.store.activeRides merged.1).all fun ride =>
          ride.sessionId == merged.2 || ride.previousSessionId.isNone

section Condition

variable {world : World R} {label : Label R}

omit [JsNumber R]

theorem projectsOpen_of_keepsReturns
    (allowed : world.keepsReturns label = true) (sessionId : String) :
    world.projectsOpen sessionId label = true := by
  unfold World.keepsReturns at allowed
  unfold World.projectsOpen
  cases running : world.running label with
  | none => rfl
  | some process =>
    simp only [running, Option.all_some, Bool.and_eq_true] at allowed ⊢
    by_cases projected : process.projects = some sessionId
    · simpa [projected] using allowed.1
    · simp [projected]

theorem mergesOwn_of_keepsReturns (allowed : world.keepsReturns label = true)
    (running : world.running label = some process) :
    process.MergesOwn world.store.toFirestore := by
  intro rideKey sessionId merged ride stored
  simp only [World.keepsReturns, running, Option.all_some, merged, stored,
    Bool.and_eq_true, Bool.or_eq_true, beq_iff_eq,
    Option.isNone_iff_eq_none] at allowed
  exact allowed.2

end Condition

structure World.ReturnsOnce (world : World R) : Prop where
  returns : world.store.Returns
  returned : ∀ sessionId previous,
    world.store.previousOf sessionId = some previous ↔
      (sessionId, previous) ∈ world.returned
  once : (world.returned.map Prod.snd).Nodup
  rides : ∀ rideKey ride, world.store.activeRides rideKey = some ride →
    world.store.RideFollows ride
  nodes : ∀ nodeKey live, world.store.live nodeKey = some live →
    world.store.NodeFollows live
  inFlight : ∀ pid process, world.processes pid = some process →
    process.Follows world.store.toFirestore

omit [JsNumber R] in
theorem World.ReturnsOnce.empty : (World.empty : World R).ReturnsOnce := by
  have noJourney : ∀ busId,
      (World.empty : World R).store.journeyOf busId = none := fun _ => rfl
  have noReturn : ∀ sessionId,
      (World.empty : World R).store.previousOf sessionId = none :=
    fun _ => rfl
  refine ⟨⟨?_, ?_, ?_, ?_, ?_, ?_⟩, ?_, .nil, ?_, ?_, ?_⟩
  · simp [noJourney]
  · simp [noJourney]
  · simp [noReturn]
  · simp [noReturn]
  · simp [noJourney]
  · simp [noReturn]
  · intro sessionId previous
    rw [noReturn]
    simp [World.returned, World.empty]
  · intro rideKey ride stored
    cases stored
  · intro nodeKey live found
    cases found
  · intro pid process inFlight
    cases inFlight

omit [JsNumber R] in
theorem Request.begin_follows (firestore : Firestore R)
    (request : Request R) : request.begin.Follows firestore := by
  cases request <;> trivial

theorem Process.follows_advance (config : RideConfig R) (ambient : Ambient)
    (process : Process R)
    (rides : ∀ rideKey ride, store.activeRides rideKey = some ride →
      store.RideFollows ride) :
    (process.advance config ambient store).GoesOn fun next rest =>
      rest.Follows next.toFirestore := by
  cases process with
  | turnaround step =>
    apply Outcome.goesOn_map
    cases step with
    | read nodeKey endpointVersion =>
      intro rest continues
      obtain ⟨turnaround, -, rfl⟩ := Option.map_eq_some_iff.mp continues
      trivial
    | activate | release => simp [TurnaroundStep.advance]
    | claim turnaround =>
      simp only [TurnaroundStep.advance]
      split
      · simp
      · exact (Outcome.goesOn_some _ _ _ _).mpr trivial
    | create turnaround =>
      simp only [TurnaroundStep.advance]
      split
      · exact (Outcome.goesOn_some _ _ _ _).mpr trivial
      · rename_i next done
        obtain ⟨journey, completed, created⟩ := create_eq_some done
        refine (Outcome.goesOn_some _ _ _ _).mpr ?_
        simp [Follows, Firestore.previousOf, created.sessions]
  | restore process =>
    apply Outcome.goesOn_map
    obtain ⟨request, step⟩ := process
    cases step with
    | read =>
      intro rest continues
      obtain ⟨lifecycle, found, rfl⟩ :=
        Option.map_eq_some_iff.mp continues
      cases lifecycle with
      | ride ride => exact rides _ ride (stored_of_readLifecycle found)
      | terminal journey => trivial
    | publish lifecycle =>
      simp only [RestoreProcess.advance]
      split <;> simp
  | _ =>
    apply Outcome.goesOn_map
    intro rest _
    trivial

omit [JsNumber R] in
theorem Process.Follows.keeps {after : Firestore R}
    (follows : process.Follows before) (keeps : ∀ sessionId previous,
      before.previousOf sessionId = some previous →
      after.previousOf sessionId = some previous) : process.Follows after := by
  unfold Process.Follows at follows ⊢
  split
  · exact keeps _ _ follows
  · exact Firestore.RideFollows.keeps follows keeps
  · trivial

namespace World.ReturnsOnce

variable {config : RideConfig R} {world next : World R} {label : Label R}

private theorem rides_step (once : world.ReturnsOnce)
    (allowed : world.keepsReturns label = true)
    (took : World.Took config world label next) (keeps : ∀ sessionId previous,
      world.store.previousOf sessionId = some previous →
      next.store.previousOf sessionId = some previous)
    (stored : next.store.activeRides rideKey = some ride) :
    next.store.RideFollows ride := by
  cases took with
  | accept | crash => exact once.rides rideKey ride stored
  | @run pid ambient process inFlight =>
    have step := Process.rides_of_writes
      (process.writes_advance config ambient world.store)
    rcases step.cases stored with earlier | write
    · exact (once.rides rideKey ride earlier).keeps keeps
    · exact rideFollows_of_write write
        (mergesOwn_of_keepsReturns allowed inFlight) keeps
        (once.rides rideKey)
  | @perform operation =>
    have same := (records_of_operation
      (operation.writes_perform world.store)).1
    rw [same] at stored
    exact (once.rides rideKey ride stored).keeps keeps

theorem step (once : world.ReturnsOnce)
    (allowed : world.keepsReturns label = true)
    (took : World.Took config world label next) : next.ReturnsOnce := by
  obtain ⟨returned, created, history⟩ := returnStep_of_took took
  have keeps : ∀ sessionId previous,
      world.store.previousOf sessionId = some previous →
      next.store.previousOf sessionId = some previous :=
    fun sessionId previous earlier =>
      (created.previousOf_iff sessionId previous).mpr (.inr earlier)
  refine ⟨?_, ?_, ?_, ?_, ?_, ?_⟩
  · apply created.returns once.returns
    intro sessionId
    exact ended_of_took took (projectsOpen_of_keepsReturns allowed sessionId)
  · intro sessionId previous
    rw [created.previousOf_iff, once.returned, history, List.mem_append]
  · obtain ⟨alone, first⟩ := created.not_returned once.returns
    rw [history, List.map_append, List.nodup_append]
    refine ⟨alone, once.once, ?_⟩
    rintro previous now _ earlier rfl
    obtain ⟨⟨sessionId, _⟩, found, rfl⟩ := List.mem_map.mp now
    obtain ⟨⟨other, _⟩, before, same⟩ := List.mem_map.mp earlier
    refine first _ found other ?_
    rw [← same]
    exact (once.returned other _).mpr before
  · intro rideKey ride
    exact once.rides_step allowed took keeps
  · intro nodeKey live found
    apply Firestore.NodeFollows.keeps ?_ keeps
    apply World.nodes_of_took (fun _ live => world.store.NodeFollows live)
      took once.nodes ?_ ?_ nodeKey live found
    · intro pid ambient process key written _ inFlight write
      exact nodeFollows_of_liveWrite write (once.inFlight pid process inFlight)
        (once.nodes key) rfl
    · intro operation key written _ write
      exact nodeFollows_of_operation write (once.nodes key) rfl
  · apply World.inFlight_of_took
      (fun world process => process.Follows world.store.toFirestore)
      took once.inFlight
    · intro process follows
      exact follows.keeps keeps
    · intro pid request _
      exact request.begin_follows _
    · intro pid ambient process same inFlight rest continues
      subst same
      have goesOn := process.follows_advance config ambient once.rides
        rest continues
      cases took with
      | run found =>
        rw [inFlight] at found
        cases found
        exact goesOn

end World.ReturnsOnce

/-- What holds of the returns from a completed session between two states of a
run. -/
structure ReturnedOnce (previous : String) (first last : World R) : Prop where
  createdOnce : (last.returned.map Prod.snd).count previous ≤ 1
  stored : ∀ sessionId, last.store.previousOf sessionId = some previous ↔
    (sessionId, previous) ∈ last.returned
  marked : ∀ busId journey sessionId,
    last.store.journeyOf busId = some journey →
    journey.sessionId = previous → journey.consumedBy = some sessionId →
    (sessionId, previous) ∈ last.returned
  markedOnce : ∀ busId journey sessionId otherBusId other,
    first.store.journeyOf busId = some journey →
    journey.sessionId = previous → journey.consumedBy = some sessionId →
    last.store.journeyOf otherBusId = some other →
    other.sessionId = previous → other.consumedBy = some sessionId
  activated : ∀ nodeKey live, last.store.live nodeKey = some live →
    live.previousSessionId = some previous →
    ∃ sessionId, live.sessionId = some sessionId ∧
      (sessionId, previous) ∈ last.returned

private theorem returnsOnce_of_steps {first last : World R}
    (steps : System.Steps (World.step config)
      (fun world label => world.keepsReturns label = true) first last)
    (once : first.ReturnsOnce) :
    last.ReturnsOnce ∧ ∀ sessionId previous,
      first.store.previousOf sessionId = some previous →
      last.store.previousOf sessionId = some previous := by
  induction steps with
  | refl => exact ⟨once, fun _ _ => id⟩
  | step before allowed taken induction =>
    obtain ⟨middle, keeps⟩ := induction
    have took := World.took_of_step taken
    refine ⟨middle.step allowed took, ?_⟩
    intro sessionId previous found
    obtain ⟨returned, created, -⟩ := returnStep_of_took took
    exact (created.previousOf_iff sessionId previous).mpr
      (.inr (keeps sessionId previous found))

/-- **A completed session is returned from at most once**, and only the return
that was created is ever activated for it, in every run that projects plainly
to open sessions only and merges no ride into the return of another session. -/
theorem turnaround_happens_once (config : RideConfig R)
    {first last : World R}
    (reached : System.Steps (World.step config)
      (fun world label => world.keepsReturns label = true) .empty first)
    (steps : System.Steps (World.step config)
      (fun world label => world.keepsReturns label = true) first last)
    (previous : String) : ReturnedOnce previous first last := by
  obtain ⟨firstOnce, -⟩ := returnsOnce_of_steps reached .empty
  obtain ⟨lastOnce, keeps⟩ := returnsOnce_of_steps steps firstOnce
  refine ⟨List.nodup_iff_count.mp lastOnce.once previous, ?_, ?_, ?_, ?_⟩
  · intro sessionId
    exact lastOnce.returned sessionId previous
  · rintro busId journey sessionId found rfl marker
    rw [← lastOnce.returned]
    exact lastOnce.returns.marked busId journey sessionId found marker
  · rintro busId journey sessionId otherBusId other found rfl marker
      otherFound same
    have returned := keeps _ _
      (firstOnce.returns.marked busId journey sessionId found marker)
    exact lastOnce.returns.consumed sessionId _ otherBusId other returned
      otherFound same
  · intro nodeKey live found marked
    obtain ⟨sessionId, carried, returned⟩ :=
      lastOnce.nodes nodeKey live found previous marked
    exact ⟨sessionId, carried, (lastOnce.returned _ _).mp returned⟩

def secondSession : String := "sessionsession000002"

def thirdSession : String := "sessionsession000003"

/-- The demo bus drives back and arrives at the first terminal. -/
def homewardArrival (pid now : Nat) : List (Label ℚ) :=
  let stops := demoStops.reverse
  demoArrival pid now (demoFixAt stops (1 / 200) .moving (now - 4000))
    (demoFixAt stops 0 .stopped (now - 3000))
    (demoFixAt stops 0 .stopped now)

def demoTurnaround (pid now : Nat) (sessionRef : String) : List (Label ℚ) :=
  [.accept pid (.turnaround "a_r" (some "v"))] ++
    runSteps pid 4
      { autoId := sessionRef
        now }

def completedRide : List (Label ℚ) :=
  demoFleet ++ [.accept 0 (demoStart none)] ++ runSteps 0 8 firstRide ++
    outwardArrival 3 8000

/-- Two replicas claim its turnaround, the second one after the claim of the
first one has gone stale; the second one creates the return. -/
def racedTurnaround : List (Label ℚ) :=
  [.accept 4 (.turnaround "a_r" (some "v"))] ++
    runSteps 4 2
      { autoId := thirdSession
        now := 40000 } ++
    demoTurnaround 5 110000 secondSession ++ runSteps 4 2 firstRide

def returnBeforeResume : List (Label ℚ) :=
  completedBeforeResume ++ demoTurnaround 4 40000 secondSession ++
    homewardArrival 3 45000

def secondReturn : List (Label ℚ) :=
  secondCompletion ++ demoTurnaround 4 90000 thirdSession

/-- The unconditional statement: a completed session is returned from at most
once. -/
def TurnaroundHappensOnce (config : RideConfig R) : Prop :=
  ∀ (first last : World R) (previous : String),
    System.Steps (World.step config) (fun _ _ => True) .empty first →
    System.Steps (World.step config) (fun _ _ => True) first last →
    ReturnedOnce previous first last

theorem turnaround_happens_once_raced :
    ∃ first last : World ℚ,
      last.returned = [(secondSession, firstSession)] ∧
      ReturnedOnce firstSession first last := by
  have completed :
      (System.run (World.step demoConfig) World.keepsReturns .empty
        completedRide).isSome = true := by
    decide +kernel
  have returned :
      (System.run (World.step demoConfig) World.keepsReturns .empty
          (completedRide ++ racedTurnaround)).map World.returned =
        some [(secondSession, firstSession)] := by
    decide +kernel
  obtain ⟨first, ran⟩ := Option.isSome_iff_exists.mp completed
  rw [System.run_append, ran] at returned
  obtain ⟨last, ranOn, same⟩ := Option.map_eq_some_iff.mp returned
  exact ⟨first, last, same, turnaround_happens_once demoConfig
    (System.steps_of_run ran fun _ _ => id)
    (System.steps_of_run ranOn fun _ _ => id) firstSession⟩

/-- A ride that is reopened after its return is returned from twice. -/
theorem turnaround_happens_twice : ¬ TurnaroundHappensOnce demoConfig := by
  intro once
  have twice :
      (System.run (World.step demoConfig) (fun _ _ => true) .empty
          (returnBeforeResume ++ secondReturn)).map World.returned =
        some [(thirdSession, firstSession),
          (secondSession, firstSession)] := by
    decide +kernel
  obtain ⟨world, ran, returned⟩ := Option.map_eq_some_iff.mp twice
  have bound := (once .empty world firstSession (.refl _)
    (System.steps_of_run ran fun _ _ _ => trivial)).createdOnce
  rw [returned] at bound
  exact absurd bound (by decide)

end Eki
