import Eki.Fleet.Services
import Eki.Routing.SavedOnce

/-!
# Route edits exclude rides

An edit commits only when no lock and no active ride names its route, and a
start claims its lock only on the route that it read.  So no edit falls between
a session and the end points that it was created with, whichever commits first.
A return takes its stops from the worker's memory and does not compare them with
the stored route; it keeps the law where they are still the stored ones.
-/

namespace Eki.Fleet

open Transition Documents
open Option (all_some bind_eq_some_iff map_eq_some_iff mem_toList)

variable {R : Type}

def routeLockScanLimit : Nat := 50

namespace ServiceStore

variable (store : ServiceStore)

/-- The owner check of a route save. -/
def rideOwnsRoute (routeId : String) : Bool :=
  Collection.any store.activeRides (·.routeId == routeId) ||
    (Collection.query store.locks routeLockScanLimit
      (lockedRoute · == routeId)).any (·.sessionId.isSome)

def Owns (sessionId routeId : String) : Prop :=
  (∃ busId lock, store.locks.lookup busId = some (.ride lock) ∧
    lock.sessionId = sessionId ∧ lock.routeId = routeId) ∨
  ∃ id ride, store.activeRides.lookup id = some ride ∧
    ride.sessionId = sessionId ∧ ride.routeId = routeId

/-- No more locks name the route than a save looks at. -/
def withinScan (routeId : String) : Bool :=
  decide ((Collection.matching store.locks
    (lockedRoute · == routeId)).length ≤ routeLockScanLimit)

end ServiceStore

/-- A route edit that was committed, with the documents at that moment. -/
structure RouteEdit where
  routeId : String
  store : ServiceStore

/-- A session that a start or a return created, with the route that was stored
at that moment. -/
structure Creation (R : Type) where
  session : ServiceSession
  route : Option (RouteData R)

inductive ServiceProcess (R : Type) where
  | starting (assignment : ServiceAssignment) (keyed : Bool)
  | claiming (assignment : ServiceAssignment) (keyed : Bool)
    (read : RouteRead R)
  | projecting (keyed : Bool) (projection : ServiceProjection)
  | returning (turnaround : Turnaround R)
  /-- The worker has read a route to remember its stops. -/
  | loading (routeId : String) (stops : Option (List (RouteStop R)))

/-- What a step finds besides the documents: the direction that the telemetry
shows, a generated id, and whether the ride is under way. -/
structure ServiceAmbient where
  direction : Option RideDirection := none
  sessionId : String := ""
  inService : Bool := false

structure RouteWorld (R : Type) where
  saves : RouteSaves R
  store : ServiceStore
  /-- The stops of the routes that the worker has in memory. -/
  remembered : String → Option (List (RouteStop R))
  processes : Nat → Option (ServiceProcess R)
  edits : List RouteEdit
  creations : List (Creation R)

inductive RouteWorldLabel (R : Type) where
  | save (label : RouteSaveLabel R)
  | start (pid : Nat) (assignment : ServiceAssignment) (keyed : Bool)
  /-- The worker turns to a completed ride. -/
  | turnAround (pid : Nat) (assignment : ServiceAssignment)
    (previousSessionId : String) (previousDirection : RideDirection)
    (sessionId : String)
  | load (pid : Nat) (routeId : String)
  | advance (pid : Nat) (ambient : ServiceAmbient)
  | complete (arrived : ArrivedService) (now : Nat)
  | crash (pid : Nat)
  /-- Anything else that writes these documents. -/
  | elsewhere (store : ServiceStore)

/-- The stops that `cacheRoute` keeps: those on the globe. -/
def cacheableStops [JsNumber R] (stops : List (RouteStop R)) :
    List (RouteStop R) :=
  stops.filter fun stop =>
    JsNumber.isFinite stop.lat && decide (-(90 : R) ≤ stop.lat) &&
      decide (stop.lat ≤ (90 : R)) && JsNumber.isFinite stop.lng &&
      decide (-(180 : R) ≤ stop.lng) && decide (stop.lng ≤ (180 : R))

namespace RouteWorld

/-- Any stored routes and documents, with nothing in flight. -/
def start (routes : String → Option (RouteData R)) (store : ServiceStore) :
    RouteWorld R where
  saves := .start routes
  store := store
  remembered := fun _ => none
  processes := fun _ => none
  edits := []
  creations := []

variable (world : RouteWorld R)

def setProcess (pid : Nat) (process : Option (ServiceProcess R)) :
    RouteWorld R :=
  { world with processes := Function.update world.processes pid process }

/-- A save is told the owners that its transaction finds. -/
def answersOwners : RouteSaveLabel R → Bool
  | .claim pid _ rideOwnsRoute _ =>
    (world.saves.attempts pid).all fun attempt =>
      rideOwnsRoute == world.store.rideOwnsRoute attempt.request.routeId
  | .commit pid rideOwnsRoute _ =>
    (world.saves.attempts pid).all fun attempt =>
      rideOwnsRoute == world.store.rideOwnsRoute attempt.request.routeId
  | _ => true

def editsOf (saves : RouteSaves R) : List RouteEdit :=
  let added := saves.commits.length - world.saves.commits.length
  ((saves.commits.take added).filter (·.mode == .edit)).map fun commit =>
    { routeId := commit.routeId, store := world.store }

def save (config : RouteSaveConfig R) (label : RouteSaveLabel R) :
    Option (RouteWorld R) :=
  if world.answersOwners label then
    (RouteSaves.step config world.saves label).map fun saves =>
      { world with
        saves := saves
        edits := world.editsOf saves ++ world.edits }
  else none

def created (next : ServiceStore) (sessionId routeId : String) :
    List (Creation R) :=
  (next.sessions.lookup sessionId).toList.map fun session =>
    { session := session, route := world.saves.routes routeId }

variable [JsNumber R] (toFixed : R → String)

def readStart (pid : Nat) (assignment : ServiceAssignment) (keyed : Bool) :
    RouteWorld R :=
  world.setProcess pid
    ((readRoute toFixed (world.saves.routes assignment.routeId)).map
      fun read => .claiming assignment keyed read)

def claimStart (pid : Nat) (ambient : ServiceAmbient)
    (assignment : ServiceAssignment) (keyed : Bool) (read : RouteRead R) :
    RouteWorld R :=
  match claimLock toFixed assignment read ambient.direction ambient.sessionId
      (world.saves.routes assignment.routeId) world.store with
  | none => world.setProcess pid none
  | some (next, claim) =>
    { world.setProcess pid
        (some (.projecting keyed
          (claim.projection toFixed assignment read ambient.inService))) with
      store := next
      creations :=
        (if claim.created then
          world.created next claim.sessionId assignment.routeId
        else []) ++ world.creations }

def projectStart (pid : Nat) (keyed : Bool) (projection : ServiceProjection) :
    RouteWorld R :=
  let next :=
    if keyed then projection.commitCreationProjections world.store
    else some (projection.commitBatch world.store)
  { world.setProcess pid none with store := next.getD world.store }

def createReturn (pid : Nat) (turnaround : Turnaround R) : RouteWorld R :=
  match turnaround.create toFixed world.store with
  | none => world.setProcess pid none
  | some next =>
    { world.setProcess pid none with
      store := next
      creations :=
        world.created next turnaround.sessionId turnaround.routeId ++
          world.creations }

def finishLoad (pid : Nat) (routeId : String)
    (stops : Option (List (RouteStop R))) : RouteWorld R :=
  { world.setProcess pid none with
    remembered := Function.update world.remembered routeId stops }

def advance (pid : Nat) (ambient : ServiceAmbient) :
    ServiceProcess R → RouteWorld R
  | .starting assignment keyed =>
    world.readStart toFixed pid assignment keyed
  | .claiming assignment keyed read =>
    world.claimStart toFixed pid ambient assignment keyed read
  | .projecting keyed projection => world.projectStart pid keyed projection
  | .returning turnaround => world.createReturn toFixed pid turnaround
  | .loading routeId stops => world.finishLoad pid routeId stops

/-- Take up a request under a number that is free. -/
def accept (pid : Nat) (process : ServiceProcess R) : Option (RouteWorld R) :=
  if (world.processes pid).isSome then none
  else some (world.setProcess pid (some process))

def step (config : RouteSaveConfig R) :
    System (RouteWorld R) (RouteWorldLabel R) :=
  fun world label =>
    match label with
    | .save label => world.save config label
    | .start pid assignment keyed =>
      if world.store.operates assignment.driverId assignment.busId &&
          world.store.serves assignment.busId assignment.routeId then
        world.accept pid (.starting assignment keyed)
      else none
    | .turnAround pid assignment previousSessionId previousDirection
        sessionId =>
        (world.remembered assignment.routeId).bind fun naturalStops =>
          if naturalStops.isEmpty then none
          else
            world.accept pid
              (.returning
                { toServiceAssignment := assignment
                  previousSessionId
                  previousDirection
                  naturalStops
                  sessionId })
    | .load pid routeId =>
      world.accept pid
        (.loading routeId
          ((world.saves.routes routeId).map fun route =>
            cacheableStops route.stops))
    | .advance pid ambient =>
      (world.processes pid).map (world.advance toFixed pid ambient)
    | .complete arrived now =>
      (world.remembered arrived.routeId).bind fun naturalStops =>
        (completeRide toFixed naturalStops arrived now world.store).map
          fun next => { world with store := next }
    | .crash pid => some (world.setProcess pid none)
    | .elsewhere store => some { world with store := store }

/-! ## The law -/

def locksWithinScan : RouteWorldLabel R → Bool
  | .save (.commit pid _ _) =>
    (world.saves.attempts pid).all fun attempt =>
      world.store.withinScan attempt.request.routeId
  | _ => true

def returnsOnStored (turnaround : Turnaround R) : Bool :=
  (world.saves.routes turnaround.routeId).any fun route =>
    (endpointSnapshotVersion toFixed route.stops).isSome &&
      endpointSnapshotVersion toFixed route.stops ==
        endpointSnapshotVersion toFixed turnaround.naturalStops

/-- Besides, a return that goes through finds the stops that it has. -/
def keepsRoutes (label : RouteWorldLabel R) : Bool :=
  world.locksWithinScan label &&
    match label with
    | .advance pid _ =>
      (world.processes pid).all fun process =>
        match process with
        | .returning turnaround =>
          !turnaround.mayReturn toFixed world.store ||
            world.returnsOnStored toFixed turnaround
        | _ => true
    | _ => true

end RouteWorld

def RouteEdit.Excludes (edit : RouteEdit) : Prop :=
  ∀ sessionId session, edit.store.sessions.lookup sessionId = some session →
    session.status.terminal = false →
    ¬edit.store.Owns sessionId edit.routeId

/-- The session has the end points of the route that was stored. -/
def Creation.Matches [JsNumber R] (toFixed : R → String)
    (creation : Creation R) : Prop :=
  ∃ route, creation.route = some route ∧
    creation.session.toEndpoints =
      endpointsIn toFixed route.stops creation.session.direction

/-- What holds of every edit and every creation so far. -/
structure RouteWorld.Lawful [JsNumber R] (toFixed : R → String)
    (world : RouteWorld R) : Prop where
  excludes : ∀ edit ∈ world.edits, edit.Excludes
  creations : ∀ creation ∈ world.creations, creation.Matches toFixed

/-! ## Edits -/

/-- A save that finds no owner, within the locks that it looks at, excludes
all. -/
theorem excludes_of_unowned {store : ServiceStore} {routeId : String}
    (few : store.withinScan routeId = true)
    (unowned : store.rideOwnsRoute routeId = false) :
    RouteEdit.Excludes { routeId := routeId, store := store } := by
  unfold ServiceStore.rideOwnsRoute at unowned
  obtain ⟨unlisted, unlocked⟩ := Bool.or_eq_false_iff.mp unowned
  have few := of_decide_eq_true few
  intro sessionId session _ _ owns
  rcases owns with ⟨busId, lock, stored, _, named⟩ |
    ⟨id, ride, stored, _, named⟩
  · have names : (lockedRoute (.ride lock) == routeId) = true := by
      simpa [lockedRoute] using named
    have found : BusLock.ride lock ∈ Collection.query store.locks
        routeLockScanLimit (lockedRoute · == routeId) :=
      Collection.mem_query_of_few few stored names
    have free := List.any_eq_false.mp unlocked _ found
    exact free rfl
  · have other := Collection.any_eq_false_iff.mp unlisted id ride stored
    rw [named] at other
    simp at other

variable {config : RouteSaveConfig R} {label : RouteSaveLabel R}

theorem commits_of_save {saves next : RouteSaves R}
    (taken : RouteSaves.step config saves label = some next) :
    next.commits = saves.commits ∨
      ∃ pid rideOwnsRoute answer attempt commit,
        label = .commit pid rideOwnsRoute answer ∧
        saves.attempts pid = some attempt ∧
        next.commits = commit :: saves.commits ∧
        commit.routeId = attempt.request.routeId ∧
        commit.mode = attempt.request.mode ∧
        (attempt.request.mode == .edit && rideOwnsRoute) = false := by
  cases label with
  | openRoute | interrupt | deleteRoute =>
    obtain ⟨_, _, rfl⟩ := map_eq_some_iff.mp taken
    exact .inl rfl
  | submit pid request editor =>
    left
    simp only [RouteSaves.step, RouteSaves.submit] at taken
    split at taken
    · cases taken
      rfl
    · obtain ⟨_, _, rfl⟩ := map_eq_some_iff.mp taken
      rfl
  | claim pid now rideOwnsRoute answer =>
    left
    obtain ⟨attempt, _, taken⟩ := bind_eq_some_iff.mp taken
    split at taken
    · cases taken
      simp only [RouteSaves.claim]
      split <;> rfl
    · cases taken
  | compute pid computed =>
    left
    obtain ⟨attempt, _, taken⟩ := bind_eq_some_iff.mp taken
    split at taken
    · cases taken
      rfl
    · cases taken
  | commit pid rideOwnsRoute answer =>
    obtain ⟨attempt, inFlight, taken⟩ := bind_eq_some_iff.mp taken
    split at taken
    · rename_i routeData result _
      cases taken
      simp only [RouteSaves.commit]
      split
      · exact .inl rfl
      · rename_i operation done
        obtain ⟨_, _, _, _, free, _, _⟩ :=
          RouteSaveRequest.commit_eq_ok done
        right
        exact ⟨pid, rideOwnsRoute, answer, attempt, _, rfl, inFlight, rfl,
          rfl, rfl, free⟩
    · cases taken
  | recordFailure pid =>
    left
    obtain ⟨attempt, _, taken⟩ := bind_eq_some_iff.mp taken
    split at taken
    · cases taken
      simp only [RouteSaves.recordFailure]
      split <;> rfl
    · cases taken
  | crash | sweep =>
    cases taken
    exact .inl rfl

theorem excludes_of_save {world : RouteWorld R} {saves : RouteSaves R}
    (told : world.answersOwners label = true)
    (few : world.locksWithinScan (.save label) = true)
    (taken : RouteSaves.step config world.saves label = some saves) :
    ∀ edit ∈ world.editsOf saves, edit.Excludes := by
  rcases commits_of_save taken with same |
    ⟨pid, rideOwnsRoute, answer, attempt, commit, rfl, inFlight, added, route,
      mode, free⟩
  · intro edit member
    simp only [RouteWorld.editsOf, same, Nat.sub_self, List.take_zero] at member
    cases member
  · intro edit member
    simp only [RouteWorld.editsOf, added, List.length_cons,
      Nat.add_sub_cancel_left, List.take_succ_cons, List.take_zero] at member
    obtain ⟨other, chosen, rfl⟩ := List.mem_map.mp member
    obtain ⟨only, edits⟩ := List.mem_filter.mp chosen
    cases List.mem_singleton.mp only
    -- The save is an edit, so its transaction found no owner.
    rw [mode] at edits
    rw [edits, Bool.true_and] at free
    simp only [RouteWorld.answersOwners, inFlight, all_some,
      beq_iff_eq] at told
    simp only [RouteWorld.locksWithinScan, inFlight, all_some] at few
    rw [route]
    apply excludes_of_unowned few
    rw [← told, free]

/-! ## Creations -/

section Creations

variable [JsNumber R] {toFixed : R → String} {world : RouteWorld R}

/-- A start goes to its lock only with a route that has end points. -/
structure RouteWorld.Sound (toFixed : R → String)
    (world : RouteWorld R) : Prop extends world.Lawful toFixed where
  reads : ∀ pid assignment keyed read,
    world.processes pid = some (.claiming assignment keyed read) →
    (endpointSnapshotVersion toFixed read.naturalStops).isSome = true

namespace RouteWorld.Sound

theorem start (routes : String → Option (RouteData R))
    (store : ServiceStore) :
    RouteWorld.Sound toFixed (RouteWorld.start routes store) where
  excludes := by rintro edit ⟨⟩
  creations := by rintro creation ⟨⟩
  reads := by rintro pid assignment keyed read ⟨⟩

theorem setProcess (sound : world.Sound toFixed) {pid : Nat}
    {process : Option (ServiceProcess R)}
    (valid : ∀ assignment keyed read,
      process = some (.claiming assignment keyed read) →
      (endpointSnapshotVersion toFixed read.naturalStops).isSome = true) :
    (world.setProcess pid process).Sound toFixed := by
  refine ⟨⟨sound.excludes, sound.creations⟩, ?_⟩
  intro other assignment keyed read inFlight
  have inFlight : Function.update world.processes pid process other =
      some (.claiming assignment keyed read) := inFlight
  by_cases same : other = pid
  · subst same
    rw [Function.update_self] at inFlight
    exact valid assignment keyed read inFlight
  · rw [Function.update_of_ne same] at inFlight
    exact sound.reads other assignment keyed read inFlight

theorem withStore (sound : world.Sound toFixed) (store : ServiceStore) :
    RouteWorld.Sound toFixed { world with store := store } :=
  ⟨⟨sound.excludes, sound.creations⟩, sound.reads⟩

theorem withCreations (sound : world.Sound toFixed) (store : ServiceStore)
    {added : List (Creation R)}
    (matching : ∀ creation ∈ added, creation.Matches toFixed) :
    RouteWorld.Sound toFixed
      { world with
        store := store
        creations := added ++ world.creations } := by
  refine ⟨⟨sound.excludes, ?_⟩, sound.reads⟩
  intro creation member
  rcases List.mem_append.mp member with new | earlier
  · exact matching creation new
  · exact sound.creations creation earlier

theorem accept (sound : world.Sound toFixed) {pid : Nat}
    {process : ServiceProcess R} {next : RouteWorld R}
    (accepted : world.accept pid process = some next)
    (valid : ∀ assignment keyed read,
      process ≠ .claiming assignment keyed read) :
    next.Sound toFixed := by
  unfold RouteWorld.accept at accepted
  split at accepted
  · cases accepted
  · cases accepted
    apply sound.setProcess
    intro assignment keyed read same
    exact absurd (Option.some.inj same) (valid assignment keyed read)

section

variable (sound : world.Sound toFixed)

include sound

theorem save {next : RouteWorld R}
    (few : world.locksWithinScan (.save label) = true)
    (saved : world.save config label = some next) : next.Sound toFixed := by
  unfold RouteWorld.save at saved
  split at saved
  · rename_i told
    obtain ⟨saves, taken, rfl⟩ := map_eq_some_iff.mp saved
    refine ⟨⟨?_, sound.creations⟩, sound.reads⟩
    intro edit member
    rcases List.mem_append.mp member with new | earlier
    · exact excludes_of_save told few taken edit new
    · exact sound.excludes edit earlier
  · cases saved

theorem readStart (pid : Nat) (assignment : ServiceAssignment) (keyed : Bool) :
    (world.readStart toFixed pid assignment keyed).Sound toFixed := by
  apply sound.setProcess
  intro other otherKeyed read same
  obtain ⟨found, reads, same⟩ := map_eq_some_iff.mp same
  cases same
  exact endpoints_of_readRoute reads

theorem claimStart (pid : Nat) (ambient : ServiceAmbient)
    {assignment : ServiceAssignment} {keyed : Bool} {read : RouteRead R}
    (valid : (endpointSnapshotVersion toFixed read.naturalStops).isSome =
      true) :
    (world.claimStart toFixed pid ambient assignment keyed read).Sound
      toFixed := by
  unfold RouteWorld.claimStart
  split
  · apply sound.setProcess
    rintro _ _ _ ⟨⟩
  · rename_i next claim claims
    have projecting : (world.setProcess pid
        (some (.projecting keyed
          (claim.projection toFixed assignment read
            ambient.inService)))).Sound toFixed := by
      apply sound.setProcess
      rintro _ _ _ ⟨⟩
    apply projecting.withCreations next
    intro creation member
    split at member
    · rename_i created
      obtain ⟨session, stored, rfl⟩ := List.mem_map.mp member
      obtain ⟨holds, endpoints⟩ := session_of_claimLock claims created
      obtain ⟨route, latest, same⟩ := RouteRead.endpoints_of_holds valid holds
      refine ⟨route, latest, ?_⟩
      rw [endpoints session (mem_toList.mp stored)]
      exact same session.direction
    · cases member

theorem projectStart (pid : Nat) (keyed : Bool)
    (projection : ServiceProjection) :
    (world.projectStart pid keyed projection).Sound toFixed := by
  apply withStore
  apply sound.setProcess
  rintro _ _ _ ⟨⟩

end

theorem createReturn (sound : world.Sound toFixed) (pid : Nat)
    {turnaround : Turnaround R}
    (stored : turnaround.mayReturn toFixed world.store = false ∨
      world.returnsOnStored toFixed turnaround = true) :
    (world.createReturn toFixed pid turnaround).Sound toFixed := by
  have ended : (world.setProcess pid none).Sound toFixed := by
    apply sound.setProcess
    rintro _ _ _ ⟨⟩
  unfold RouteWorld.createReturn
  split
  · exact ended
  · rename_i next creates
    obtain ⟨may, created⟩ := turnaround.session_of_create creates
    rcases stored with refused | stored
    · rw [refused] at may
      cases may
    · apply ended.withCreations next
      intro creation member
      obtain ⟨session, found, rfl⟩ := List.mem_map.mp member
      rw [created] at found
      cases mem_toList.mp found
      obtain ⟨route, latest, versions⟩ := (Option.any_eq_true _ _).mp stored
      rw [Bool.and_eq_true, beq_iff_eq] at versions
      obtain ⟨valid, same⟩ := versions
      obtain ⟨version, has⟩ := Option.isSome_iff_exists.mp valid
      refine ⟨route, latest, ?_⟩
      exact endpointsIn_congr (same ▸ has) has (some turnaround.direction)

theorem finishLoad (sound : world.Sound toFixed) (pid : Nat)
    (routeId : String) (stops : Option (List (RouteStop R))) :
    (world.finishLoad pid routeId stops).Sound toFixed := by
  have ended : (world.setProcess pid none).Sound toFixed := by
    apply sound.setProcess
    rintro _ _ _ ⟨⟩
  exact ⟨⟨ended.excludes, ended.creations⟩, ended.reads⟩

theorem advance (sound : world.Sound toFixed) {pid : Nat}
    {process : ServiceProcess R} (inFlight : world.processes pid =
      some process) (ambient : ServiceAmbient)
    (allowed : world.keepsRoutes toFixed (.advance pid ambient) = true) :
    (world.advance toFixed pid ambient process).Sound toFixed := by
  cases process with
  | starting assignment keyed => exact sound.readStart pid assignment keyed
  | claiming assignment keyed read =>
    exact sound.claimStart pid ambient
      (sound.reads pid assignment keyed read inFlight)
  | projecting keyed projection =>
    exact sound.projectStart pid keyed projection
  | returning turnaround =>
    apply sound.createReturn
    simpa [RouteWorld.keepsRoutes, RouteWorld.locksWithinScan, inFlight]
      using allowed
  | loading routeId stops => exact sound.finishLoad pid routeId stops

theorem step (sound : world.Sound toFixed) {config : RouteSaveConfig R}
    {label : RouteWorldLabel R} {next : RouteWorld R}
    (allowed : world.keepsRoutes toFixed label = true)
    (taken : RouteWorld.step toFixed config world label = some next) :
    next.Sound toFixed := by
  cases label with
  | save label =>
    have few := (Bool.and_eq_true_iff.mp allowed).1
    exact sound.save few taken
  | start pid assignment keyed =>
    simp only [RouteWorld.step] at taken
    split at taken
    · apply sound.accept taken
      rintro _ _ _ ⟨⟩
    · cases taken
  | turnAround pid assignment previousSessionId previousDirection sessionId =>
    obtain ⟨naturalStops, _, taken⟩ := bind_eq_some_iff.mp taken
    split at taken
    · cases taken
    · apply sound.accept taken
      rintro _ _ _ ⟨⟩
  | load pid routeId =>
    apply sound.accept taken
    rintro _ _ _ ⟨⟩
  | advance pid ambient =>
    obtain ⟨process, inFlight, rfl⟩ := map_eq_some_iff.mp taken
    exact sound.advance inFlight ambient allowed
  | complete arrived now =>
    obtain ⟨naturalStops, _, taken⟩ := bind_eq_some_iff.mp taken
    obtain ⟨store, _, rfl⟩ := map_eq_some_iff.mp taken
    exact sound.withStore store
  | crash pid =>
    cases taken
    apply sound.setProcess
    rintro _ _ _ ⟨⟩
  | elsewhere store =>
    cases taken
    exact sound.withStore store

end RouteWorld.Sound

/-- **Route edits exclude rides** and every session is created on the stored
route, in a run whose saves look at all locks of their route and whose returns
find the stops that they took from memory stored. -/
theorem route_edits_exclude_rides (toFixed : R → String)
    (config : RouteSaveConfig R) (routes : String → Option (RouteData R))
    (store : ServiceStore) {last : RouteWorld R}
    (steps : System.Steps (RouteWorld.step toFixed config)
      (fun world label => world.keepsRoutes toFixed label = true)
      (.start routes store) last) :
    last.Lawful toFixed := by
  have sound : last.Sound toFixed := by
    apply steps.invariant (RouteWorld.Sound.start routes store)
    intro world label next holds allowed taken
    exact holds.step allowed taken
  exact sound.toLawful

end Creations

/-- Edits are lawful in all runs whose locks stay within the scan. -/
def RouteEditsExcludeRides [JsNumber R] (toFixed : R → String)
    (config : RouteSaveConfig R) : Prop :=
  ∀ (routes : String → Option (RouteData R)) (store : ServiceStore)
    (last : RouteWorld R),
    System.Steps (RouteWorld.step toFixed config)
      (fun world label => world.locksWithinScan label = true)
      (.start routes store) last →
    last.Lawful toFixed

/-- `toFixed(6)` on whole numbers. -/
def wholeToFixed (value : ℚ) : String :=
  toString value.num ++ ".000000"

def storedRoute : RouteData ℚ where
  name := "Loop"
  color := "#000000"
  stops := savedStops
  geometry := some savedGeometry
  geometrySignature := none
  configVersion := some 1
  geometryVersion := some 1

def servedLoop : ServiceAssignment where
  busId := "b"
  routeId := "r"
  driverId := "d"

def servedStore : ServiceStore :=
  { ServiceStore.empty with
    buses := ServiceStore.empty.buses.insert "b"
      { name := "Bus"
        assignedRoutes := some ["r"] }
    drivers := ServiceStore.empty.drivers.insert "d"
      { name := "Driver"
        authUid := "u"
        assignedBusId := some "b" } }

def servedWorld : RouteWorld ℚ :=
  .start (fun routeId => if routeId = "r" then some storedRoute else none)
    servedStore

/-- A ride goes to its last stop and the worker turns to its return. -/
def rideAndTurn : List (RouteWorldLabel ℚ) :=
  [.load 0 "r", .advance 0 { }, .start 1 servedLoop false, .advance 1 { },
    .advance 1
      { direction := some .forward
        sessionId := "s"
        inService := true },
    .advance 1 { inService := true },
    .complete
      { toServiceAssignment := servedLoop
        sessionId := "s"
        direction := .forward } 0,
    .turnAround 2 servedLoop "s" .forward "t"]

def editBetween (stops : List (RouteStop ℚ)) : List (RouteWorldLabel ℚ) :=
  (saving 0 { edition "e" "edited" with stops } none).map .save

/-- A first edit, a ride and its return. -/
theorem route_edits_exclude_rides_returned :
    ∃ last : RouteWorld ℚ, last.edits.length = 1 ∧
      last.creations.map (·.session.originStopId) = [some "x", some "y"] ∧
      last.Lawful wholeToFixed := by
  have decided :
      ((RouteWorld.step wholeToFixed routeSaveConfig).run
        (fun world label => world.keepsRoutes wholeToFixed label) servedWorld
        (editBetween savedStops.reverse ++ rideAndTurn ++
          [.advance 2 { }])).any
        (fun last =>
          last.edits.length == 1 &&
            last.creations.map (·.session.originStopId) ==
              [some "x", some "y"]) = true := by
    decide +kernel
  obtain ⟨last, steps, ends⟩ := System.exists_of_run decided
  rw [Bool.and_eq_true, beq_iff_eq, beq_iff_eq] at ends
  exact ⟨last, ends.1, ends.2,
    route_edits_exclude_rides wholeToFixed routeSaveConfig _ _ steps⟩

/-- A return is created with the end points from before the edit. -/
theorem return_on_edited_route :
    ¬ RouteEditsExcludeRides wholeToFixed routeSaveConfig := by
  intro excludes
  have decided :
      ((RouteWorld.step wholeToFixed routeSaveConfig).run
        (fun world label => world.locksWithinScan label) servedWorld
        (rideAndTurn ++ editBetween savedStops.reverse ++
          [.advance 2 { }])).any
        (fun last => last.creations.any fun creation =>
          creation.route.all fun route =>
            creation.session.toEndpoints !=
              endpointsIn wholeToFixed route.stops
                creation.session.direction) = true := by
    decide +kernel
  obtain ⟨last, steps, ends⟩ := System.exists_of_run decided
  obtain ⟨creation, member, differs⟩ := List.any_eq_true.mp ends
  obtain ⟨route, stored, same⟩ :=
    (excludes _ _ last steps).creations creation member
  rw [stored, same] at differs
  simp at differs

end Eki.Fleet
