import Eki.Routing.Reroutes
import Eki.Ride.UnobservedStops

/-!
# Route versions

The version of a session's route only grows, and a reroute whose claim has been
superseded stays without effect however late its answer comes.  Both rest on
the node; a restore brings back the version that the durable copy knows, so the
copy must have caught up with the node.
-/

namespace Eki

open Transition
open Function (update update_of_ne update_self)
open Option (all_some any_eq_true bind_eq_some_iff bind_some filter_eq_some_iff
  map_eq_some_iff)
open Bool (and_eq_true not_eq_false not_eq_true' or_eq_true)

variable {R : Type} [JsNumber R]

/-- The node of a bus with its route, the matches and the reroutes in flight,
the engine's durable write and the restores, and the versions that each session
has shown, which no step reads. -/
structure Routing (R : Type) where
  store : Store R
  context : RouteContext
  fix : Option Fix
  matchings : Nat → Option (Matching R)
  reroutes : Nat → Option Reroute
  engine : Option (EngineUpdate R)
  restores : Nat → Option (RestoreRequest × DurableLifecycle R)
  nextRequestId : Nat
  shown : List (String × Nat)

def Routing.empty : Routing R :=
  { store := .empty
    context := {}
    fix := none
    matchings := fun _ => none
    reroutes := fun _ => none
    engine := none
    restores := fun _ => none
    nextRequestId := 0
    shown := [] }

/-- `current` says that the route catalog of the replica has not changed, and
that a publication is fresh. -/
inductive RoutingLabel (R : Type) where
  | resolveDirection (direction : Option RideDirection)
  | resetDirection
  | read (pid : Nat) (route : StoredRoute)
  | matched (pid : Nat) (reading : RouteReading R)
  | reroute (pid : Nat) (task : RerouteTask) (now : Nat) (random : ℚ)
  | departure (pid : Nat) (task : RerouteTask) (now : Nat)
  | activate (pid : Nat) (now : Nat) (current : Bool)
  /-- The provider fails, or its answer cannot be used. -/
  | reject (pid : Nat)
  | fail (pid : Nat) (now : Nat) (random : ℚ)
  | crash (pid : Nat)
  | readEngine (event : EngineEvent R)
  | commit
  | restore (pid : Nat) (request : RestoreRequest)
  | publishRestore (pid : Nat)
  | document (next : Firestore R)
  /-- A start or a return takes the node for a ride. -/
  | claim (live : LiveBus R)
  /-- Any other writer of the node, telemetry with its fix among them. -/
  | rewrite (live : LiveBus R) (fix : Option Fix)
  | remove

/-- A direction is open only before departure, or without a session. -/
def directionResolutionIsEligible (live : LiveBus R) : Bool :=
  live.tripState != some .completed &&
    (live.sessionId.isNone ||
      (live.direction.isNone && live.status == .active &&
        live.tripState == some .preDeparture))

namespace Routing

variable (routing : Routing R) (nodeKey : String)

def node : Option (LiveBus R) :=
  routing.store.live nodeKey

def write (after : Option (LiveBus R)) (context : RouteContext) : Routing R :=
  { routing with
    store := routing.store.updateLive nodeKey fun _ => after
    context }

def noted : Routing R :=
  match routing.node nodeKey with
  | none => routing
  | some live =>
    match live.sessionId with
    | none => routing
    | some sessionId =>
      { routing with
        shown := (sessionId, live.routeVersion) :: routing.shown }

def claimed (pid : Nat)
    (claim : LiveBus R → RouteContext → Option (RouteContext × Reroute)) :
    Option (Routing R) :=
  (routing.node nodeKey).bind fun live =>
    (claim live routing.context).map fun (context, reroute) =>
      { routing.write nodeKey (some live) context with
        reroutes := update routing.reroutes pid (some reroute)
        nextRequestId := routing.nextRequestId + 1 }

/-- A direction that stays open or is refused takes the route context with
it; the version stays. -/
def resolveDirection (direction : Option RideDirection) : Routing R :=
  routing.write nodeKey
    (resolvePendingDirection direction (routing.node nodeKey))
    (if direction.isNone &&
        (routing.node nodeKey).any directionResolutionIsEligible then
      {}
    else routing.context)

def resetDirection : Routing R :=
  routing.write nodeKey (resetRefusedDirection (routing.node nodeKey))
    (if (routing.node nodeKey).any fun live =>
        live.tripState == some .preDeparture then
      {}
    else routing.context)

def readMatching (pid : Nat) (route : StoredRoute) : Routing R :=
  { routing with
    matchings :=
      update routing.matchings pid
        ((routing.node nodeKey).bind fun live =>
          if live.tripState == some .completed then none
          else
            match routing.fix, live.direction with
            | some fix, some direction =>
              some
                { live
                  context := routing.context
                  fix
                  direction
                  route }
            | _, _ => none) }

/-- The transaction of a telemetry match. -/
def writeMatching (config : RoutingConfig R) (pid : Nat)
    (matching : Matching R) (reading : RouteReading R) : Routing R :=
  let done :=
    { routing with
      matchings := update routing.matchings pid none }
  match routing.node nodeKey with
  | none => done
  | some live =>
    if !matching.isCurrent live routing.fix then done
    else
      done.write nodeKey
        (some { live with routeVersion := matching.routeVersion reading })
        (matching.matched config reading routing.context)

/-- The activation; a reroute that is refused goes on to give its claim
back. -/
def activate (pid : Nat) (reroute : Reroute) (now : Nat) (current : Bool) :
    Routing R :=
  let settle (after : Option Reroute) :=
    { routing with
      reroutes := update routing.reroutes pid after }
  match (routing.node nodeKey).bind fun live =>
      if current then reroute.activate now live routing.context else none with
  | none => settle (some { reroute with failing := true })
  | some (live, context) => (settle none).write nodeKey (some live) context

/-- The failed reroute gives its claim back. -/
def fail (pid : Nat) (reroute : Reroute) (now : Nat) (random : ℚ) :
    Routing R :=
  let done :=
    { routing with
      reroutes := update routing.reroutes pid none }
  match routing.node nodeKey with
  | none => done
  | some live =>
    done.write nodeKey (some live)
      (reroute.fail now random live routing.context)

def publishRestore (pid : Nat) (request : RestoreRequest)
    (lifecycle : DurableLifecycle R) : Routing R :=
  let done :=
    { routing with
      restores := update routing.restores pid none }
  match publishLifecycle request lifecycle (routing.node nodeKey) with
  | none => done
  | some live =>
    done.write nodeKey (some live)
      (if (routing.node nodeKey).any fun before =>
          before.sessionId == live.sessionId then
        routing.context
      else {})

/-- Other writers keep the session and its version, or take the session off
the node. -/
def keeps (before after : LiveBus R) : Bool :=
  after.sessionId.isNone ||
    (after.sessionId == before.sessionId &&
      after.routeVersion == before.routeVersion)

def act (config : RoutingConfig R) (nodeKey : String) (routing : Routing R) :
    RoutingLabel R → Option (Routing R)
  | .resolveDirection direction =>
    some (routing.resolveDirection nodeKey direction)
  | .resetDirection => some (routing.resetDirection nodeKey)
  | .read pid route => some (routing.readMatching nodeKey pid route)
  | .matched pid reading =>
    (routing.matchings pid).map fun matching =>
      routing.writeMatching nodeKey config pid matching reading
  | .reroute pid task now random =>
    routing.claimed nodeKey pid
      (requestReroute config task routing.nextRequestId now random)
  | .departure pid task now =>
    routing.claimed nodeKey pid
      (refreshDepartureRoute config task routing.nextRequestId now)
  | .activate pid now current =>
    ((routing.reroutes pid).filter fun reroute => !reroute.failing).map
      fun reroute => routing.activate nodeKey pid reroute now current
  | .reject pid =>
    (routing.reroutes pid).map fun reroute =>
      { routing with
        reroutes :=
          update routing.reroutes pid
            (some { reroute with failing := true }) }
  | .fail pid now random =>
    ((routing.reroutes pid).filter Reroute.failing).map fun reroute =>
      routing.fail nodeKey pid reroute now random
  | .crash pid =>
    some
      { routing with
        matchings := update routing.matchings pid none
        reroutes := update routing.reroutes pid none }
  | .readEngine event =>
    some
      { routing with
        engine :=
          (routing.node nodeKey).bind
            (processLiveSnapshot config.toRideConfig event) }
  | .commit =>
    routing.engine.map fun update =>
      { routing with
        store := (persistActiveRideLifecycle update routing.store).1
        engine := none }
  | .restore pid request =>
    if request.nodeKey != nodeKey then none
    else
      some
        { routing with
          restores :=
            update routing.restores pid
              ((readLifecycle request routing.store).map fun lifecycle =>
                (request, lifecycle)) }
  | .publishRestore pid =>
    (routing.restores pid).map fun (request, lifecycle) =>
      routing.publishRestore nodeKey pid request lifecycle
  | .document next =>
    some
      { routing with
        store := { routing.store with toFirestore := next } }
  | .claim live =>
    some (routing.write nodeKey (some { live with routeVersion := 0 }) {})
  | .rewrite live fix =>
    if (routing.node nodeKey).any fun before => keeps before live then
      some
        { routing.write nodeKey (some live) routing.context with
          fix }
    else none
  | .remove => some (routing.write nodeKey none {})

def step (config : RoutingConfig R) (nodeKey : String) :
    System (Routing R) (RoutingLabel R) :=
  fun routing label =>
    (routing.act config nodeKey label).map fun next => next.noted nodeKey

end Routing

def DurableLifecycle.restoredVersion (node : Option (LiveBus R)) :
    DurableLifecycle R → Nat
  | .ride durable =>
    if 0 < durable.lastRouteVersion then durable.lastRouteVersion + 1
    else
      (node.filter fun live =>
        live.sessionId == some durable.sessionId).elim 0
          LiveBus.routeVersion
  | .terminal _ => 0

variable {live : LiveBus R}

variable {request : RestoreRequest} {lifecycle : DurableLifecycle R}

omit [JsNumber R] in
theorem routeVersion_of_publishLifecycle {node : Option (LiveBus R)}
    (done : publishLifecycle request lifecycle node = some live) :
    live.routeVersion = lifecycle.restoredVersion node := by
  unfold publishLifecycle at done
  cases lifecycle with
  | ride ride =>
    simp only at done
    split at done
    · cases done
    · cases done
      simp only [DurableLifecycle.restoredVersion]
      cases node with
      | none => simp [LiveBus.blank]
      | some live =>
        by_cases same : live.sessionId = some ride.sessionId
        · simp [Option.filter, same]
        · simp [Option.filter, same]
  | terminal journey =>
    simp only at done
    split at done
    · cases done
    · cases done
      rfl

def RouteContext.Settled (context : RouteContext) : Prop :=
  ∀ departure, context.departureRoute = some departure →
    departure.state = .ready → departure.requestId = none

def Reroute.claim (reroute : Reroute) (context : RouteContext) : Option Nat :=
  match reroute.kind with
  | .deviation _ _ => context.rerouteRequestId
  | .departure _ _ => context.departureRoute.bind DepartureRoute.requestId

namespace Routing

def caughtUp (nodeKey : String) (routing : Routing R)
    (lifecycle : DurableLifecycle R) : Bool :=
  routing.shown.all fun (sessionId, version) =>
    sessionId != lifecycle.sessionId ||
      decide (version ≤ lifecycle.restoredVersion (routing.node nodeKey))

/-- A restore finds a copy that has caught up, and a start takes the node for a
session without a version. -/
def keepsVersion (nodeKey : String) (routing : Routing R) :
    RoutingLabel R → Bool
  | .publishRestore pid =>
    (routing.restores pid).all fun (request, lifecycle) =>
      (publishLifecycle request lifecycle (routing.node nodeKey)).isNone ||
        routing.caughtUp nodeKey lifecycle
  | .claim live =>
    live.sessionId.all fun claimed =>
      routing.shown.all fun (sessionId, version) =>
        sessionId != claimed || version == 0
  | _ => true

structure Holds (routing : Routing R) (nodeKey : String) (reroute : Reroute) :
    Prop where
  claim : reroute.claim routing.context = some reroute.requestId
  node : ∃ live, routing.node nodeKey = some live ∧
    live.sessionId = some reroute.sessionId ∧
    live.routeVersion = reroute.routeVersion

structure Issued (nodeKey : String) (reroute : Reroute)
    (routing : Routing R) : Prop where
  given : reroute.requestId < routing.nextRequestId
  version : reroute.claim routing.context = some reroute.requestId →
    ∀ live, routing.node nodeKey = some live →
    live.sessionId = some reroute.sessionId →
    reroute.routeVersion ≤ live.routeVersion

/-- What holds of every state whose restores found a copy that had caught
up. -/
structure Sound (nodeKey : String) (routing : Routing R) : Prop where
  shown : ∀ live sessionId, routing.node nodeKey = some live →
    live.sessionId = some sessionId →
    (sessionId, live.routeVersion) ∈ routing.shown ∧
      ∀ version, (sessionId, version) ∈ routing.shown →
        version ≤ live.routeVersion
  settled : routing.context.Settled
  matchings : ∀ pid matching, routing.matchings pid = some matching →
    matching.context.Settled
  issued : ∀ pid reroute, routing.reroutes pid = some reroute →
    Issued nodeKey reroute routing

/-- The node stays on its session, or goes without one. -/
def StaysOn (before after : Option (LiveBus R)) : Prop :=
  ∀ live sessionId, after = some live → live.sessionId = some sessionId →
    ∃ earlier, before = some earlier ∧ earlier.sessionId = some sessionId

/-- A claim is kept while the node stays on its session, is given up, or is a
new one. -/
def MovesClaim (nodeKey : String) (routing next : Routing R)
    (before after : Option Nat) : Prop :=
  ∀ requestId, after = some requestId →
    (before = some requestId ∧
        StaysOn (routing.node nodeKey) (next.node nodeKey)) ∨
      routing.nextRequestId ≤ requestId

/-- What every step does to versions and claims. -/
structure Moves (nodeKey : String) (routing next : Routing R) : Prop where
  shown : next.shown = routing.shown
  supply : routing.nextRequestId ≤ next.nextRequestId
  version : ∀ live sessionId, next.node nodeKey = some live →
    live.sessionId = some sessionId →
    ∀ version, (sessionId, version) ∈ routing.shown →
      version ≤ live.routeVersion
  reroute : MovesClaim nodeKey routing next routing.context.rerouteRequestId
    next.context.rerouteRequestId
  departure : MovesClaim nodeKey routing next
    (routing.context.departureRoute.bind DepartureRoute.requestId)
    (next.context.departureRoute.bind DepartureRoute.requestId)
  settled : next.context.Settled
  matchings : ∀ pid matching, next.matchings pid = some matching →
    matching.context.Settled
  issued : ∀ pid reroute, next.reroutes pid = some reroute →
    (∃ earlier, routing.reroutes pid = some earlier ∧
        reroute = { earlier with failing := reroute.failing }) ∨
      (routing.nextRequestId ≤ reroute.requestId ∧
        reroute.requestId < next.nextRequestId ∧
        ∀ live, next.node nodeKey = some live →
          reroute.routeVersion ≤ live.routeVersion)

namespace Moves

variable {nodeKey : String} {routing next : Routing R} {reroute : Reroute}

section

omit [JsNumber R]

theorem claimed_before (moves : Moves nodeKey routing next)
    (given : reroute.requestId < routing.nextRequestId)
    (claim : reroute.claim next.context = some reroute.requestId) :
    reroute.claim routing.context = some reroute.requestId ∧
      StaysOn (routing.node nodeKey) (next.node nodeKey) := by
  unfold Reroute.claim at claim ⊢
  split at claim
  · rcases moves.reroute _ claim with kept | fresh
    · exact kept
    · omega
  · rcases moves.departure _ claim with kept | fresh
    · exact kept
    · omega

variable (moves : Moves nodeKey routing next) (sound : Sound nodeKey routing)

include moves sound

theorem version_le {before after : LiveBus R} {sessionId : String}
    (there : routing.node nodeKey = some before)
    (on : before.sessionId = some sessionId)
    (here : next.node nodeKey = some after)
    (stays : after.sessionId = some sessionId) :
    before.routeVersion ≤ after.routeVersion :=
  moves.version after sessionId here stays _
    (sound.shown before sessionId there on).1

theorem issue (issued : Issued nodeKey reroute routing) :
    Issued nodeKey reroute next := by
  refine ⟨Nat.lt_of_lt_of_le issued.given moves.supply, ?_⟩
  intro claim live here session
  obtain ⟨earlier, stays⟩ := moves.claimed_before issued.given claim
  obtain ⟨before, there, on⟩ := stays live reroute.sessionId here session
  exact Nat.le_trans (issued.version earlier before there on)
    (moves.version_le sound there on here session)

/-- A claim that has been superseded stays so. -/
theorem not_holds (issued : Issued nodeKey reroute routing)
    (stale : ¬ routing.Holds nodeKey reroute) :
    ¬ next.Holds nodeKey reroute := by
  rintro ⟨claim, after, here, session, version⟩
  obtain ⟨earlier, stays⟩ := moves.claimed_before issued.given claim
  obtain ⟨before, there, on⟩ := stays after reroute.sessionId here session
  have lower := issued.version earlier before there on
  have upper := moves.version_le sound there on here session
  exact stale ⟨earlier, before, there, on, by omega⟩

end

end Moves

omit [JsNumber R] in
theorem Sound.next {nodeKey : String} {routing next : Routing R}
    (sound : Sound nodeKey routing) (moves : Moves nodeKey routing next) :
    Sound nodeKey (next.noted nodeKey) := by
  have issued : ∀ pid reroute, next.reroutes pid = some reroute →
      Issued nodeKey reroute next := by
    intro pid reroute inFlight
    rcases moves.issued pid reroute inFlight with
      ⟨earlier, before, same⟩ | ⟨-, given, version⟩
    · have kept := moves.issue sound (sound.issued pid earlier before)
      rw [same]
      exact ⟨kept.given, kept.version⟩
    · exact ⟨given, fun _ live here _ => version live here⟩
  unfold noted
  split
  · rename_i absent
    refine ⟨?_, moves.settled, moves.matchings, issued⟩
    intro live sessionId here
    rw [absent] at here
    cases here
  · rename_i live here
    split
    · rename_i none
      refine ⟨?_, moves.settled, moves.matchings, issued⟩
      intro other sessionId there session
      rw [here] at there
      cases there
      rw [none] at session
      cases session
    · rename_i sessionId session
      refine ⟨?_, moves.settled, moves.matchings, fun pid reroute inFlight =>
        ⟨(issued pid reroute inFlight).given,
          (issued pid reroute inFlight).version⟩⟩
      intro other otherSession there otherOn
      have there : next.node nodeKey = some other := there
      rw [here] at there
      cases there
      rw [session] at otherOn
      cases otherOn
      refine ⟨List.mem_cons_self, ?_⟩
      intro version member
      rcases List.mem_cons.mp member with same | earlier
      · cases same
        exact Nat.le_refl _
      · rw [moves.shown] at earlier
        exact moves.version live sessionId here session version earlier

omit [JsNumber R] in
@[simp] theorem write_node (routing : Routing R) (nodeKey : String)
    (after : Option (LiveBus R)) (context : RouteContext) :
    (routing.write nodeKey after context).node nodeKey = after := by
  simp only [write, node, Store.updateLive, update_self]

/-- The node stays on its session at a version that is no lower. -/
def Follows (before after : Option (LiveBus R)) : Prop :=
  ∀ live sessionId, after = some live → live.sessionId = some sessionId →
    ∃ earlier, before = some earlier ∧ earlier.sessionId = some sessionId ∧
      earlier.routeVersion ≤ live.routeVersion

def Narrows (before after : Nat → Option Reroute) : Prop :=
  ∀ pid reroute, after pid = some reroute →
    ∃ earlier, before pid = some earlier ∧
      reroute = { earlier with failing := reroute.failing }

section Steps

variable {config : RoutingConfig R} {nodeKey : String}
  {routing next : Routing R}

omit [JsNumber R] in
theorem Follows.refl (node : Option (LiveBus R)) : Follows node node :=
  fun live _ here session => ⟨live, here, session, Nat.le_refl _⟩

theorem Narrows.refl (reroutes : Nat → Option Reroute) :
    Narrows reroutes reroutes :=
  fun _ reroute inFlight => ⟨reroute, inFlight, rfl⟩

theorem narrows_update (reroutes : Nat → Option Reroute) (pid : Nat)
    {after : Option Reroute}
    (same : ∀ reroute, after = some reroute →
      ∃ earlier, reroutes pid = some earlier ∧
        reroute = { earlier with failing := reroute.failing }) :
    Narrows reroutes (update reroutes pid after) := by
  intro other reroute inFlight
  by_cases here : other = pid
  · subst here
    rw [update_self] at inFlight
    exact same reroute inFlight
  · rw [update_of_ne here] at inFlight
    exact ⟨reroute, inFlight, rfl⟩

theorem narrows_remove (reroutes : Nat → Option Reroute) (pid : Nat) :
    Narrows reroutes (update reroutes pid none) := by
  apply narrows_update
  rintro reroute ⟨⟩

variable {pid : Nat}

omit [JsNumber R] in
theorem settled_update {matchings : Nat → Option (Matching R)}
    {after : Option (Matching R)}
    (settled : ∀ pid matching, matchings pid = some matching →
      matching.context.Settled)
    (new : ∀ matching, after = some matching → matching.context.Settled) :
    ∀ other matching, update matchings pid after other =
      some matching → matching.context.Settled := by
  intro other matching inFlight
  by_cases here : other = pid
  · subst here
    rw [update_self] at inFlight
    exact new matching inFlight
  · rw [update_of_ne here] at inFlight
    exact settled other matching inFlight

theorem settled_empty : RouteContext.Settled {} := by
  rintro departure ⟨⟩

omit [JsNumber R] in
/-- A step that stays on the session and makes no claim. -/
theorem Moves.of_follows (sound : Sound nodeKey routing)
    (follows : Follows (routing.node nodeKey) (next.node nodeKey))
    (shown : next.shown = routing.shown)
    (supply : next.nextRequestId = routing.nextRequestId)
    (reroute : next.context.rerouteRequestId = none ∨
      next.context.rerouteRequestId = routing.context.rerouteRequestId)
    (departure :
      next.context.departureRoute.bind DepartureRoute.requestId = none ∨
        next.context.departureRoute.bind DepartureRoute.requestId =
          routing.context.departureRoute.bind DepartureRoute.requestId)
    (settled : next.context.Settled)
    (matchings : ∀ pid matching, next.matchings pid = some matching →
      matching.context.Settled)
    (narrows : Narrows routing.reroutes next.reroutes) :
    Moves nodeKey routing next := by
  have stays : StaysOn (routing.node nodeKey) (next.node nodeKey) := by
    intro live sessionId here session
    obtain ⟨earlier, there, on, -⟩ := follows live sessionId here session
    exact ⟨earlier, there, on⟩
  refine ⟨shown, Nat.le_of_eq supply.symm, ?_, ?_, ?_, settled, matchings,
    fun pid reroute inFlight => .inl (narrows pid reroute inFlight)⟩
  · intro live sessionId here session version member
    obtain ⟨earlier, there, on, upper⟩ := follows live sessionId here session
    exact Nat.le_trans ((sound.shown earlier sessionId there on).2 version
      member) upper
  · intro requestId claim
    rcases reroute with gone | kept
    · rw [gone] at claim
      cases claim
    · exact .inl ⟨kept.symm.trans claim, stays⟩
  · intro requestId claim
    rcases departure with gone | kept
    · rw [gone] at claim
      cases claim
    · exact .inl ⟨kept.symm.trans claim, stays⟩

variable {context : RouteContext}

section

omit [JsNumber R]

theorem Moves.of_write (sound : Sound nodeKey routing)
    {after : Option (LiveBus R)}
    (follows : Follows (routing.node nodeKey) after)
    (same : context = {} ∨ context = routing.context) :
    Moves nodeKey routing (routing.write nodeKey after context) := by
  apply Moves.of_follows sound
  · rwa [write_node]
  · rfl
  · rfl
  · rcases same with rfl | rfl
    · exact .inl rfl
    · exact .inr rfl
  · rcases same with rfl | rfl
    · exact .inl rfl
    · exact .inr rfl
  · rcases same with rfl | rfl
    · exact settled_empty
    · exact sound.settled
  · exact sound.matchings
  · exact .refl _

theorem Moves.of_same (sound : Sound nodeKey routing)
    (sameNode : next.node nodeKey = routing.node nodeKey)
    (sameContext : next.context = routing.context)
    (shown : next.shown = routing.shown)
    (supply : next.nextRequestId = routing.nextRequestId)
    (matchings : ∀ pid matching, next.matchings pid = some matching →
      matching.context.Settled)
    (narrows : Narrows routing.reroutes next.reroutes) :
    Moves nodeKey routing next := by
  apply Moves.of_follows sound _ shown supply _ _ _ matchings narrows
  · rw [sameNode]
    exact .refl _
  · exact .inr (by rw [sameContext])
  · exact .inr (by rw [sameContext])
  · rw [sameContext]
    exact sound.settled

theorem follows_of_map {node : Option (LiveBus R)}
    {change : LiveBus R → LiveBus R}
    (session : ∀ live, (change live).sessionId = live.sessionId)
    (version : ∀ live, (change live).routeVersion = live.routeVersion) :
    Follows node (node.map change) := by
  intro live sessionId here on
  obtain ⟨before, there, rfl⟩ := map_eq_some_iff.mp here
  refine ⟨before, there, (session before).symm.trans on, ?_⟩
  exact Nat.le_of_eq (version before).symm

theorem moves_resolveDirection (sound : Sound nodeKey routing)
    (direction : Option RideDirection) :
    Moves nodeKey routing (routing.resolveDirection nodeKey direction) := by
  unfold resolveDirection
  apply Moves.of_write sound
  · unfold resolvePendingDirection
    apply follows_of_map
    · intro live
      split <;> rfl
    · intro live
      split <;> rfl
  · split
    · exact .inl rfl
    · exact .inr rfl

theorem moves_resetDirection (sound : Sound nodeKey routing) :
    Moves nodeKey routing (routing.resetDirection nodeKey) := by
  unfold resetDirection
  apply Moves.of_write sound
  · unfold resetRefusedDirection
    apply follows_of_map
    · intro live
      split <;> rfl
    · intro live
      split <;> rfl
  · split
    · exact .inl rfl
    · exact .inr rfl

theorem moves_readMatching (sound : Sound nodeKey routing) (pid : Nat)
    (route : StoredRoute) :
    Moves nodeKey routing (routing.readMatching nodeKey pid route) := by
  apply Moves.of_same sound <;> try rfl
  · apply settled_update sound.matchings
    intro matching taken
    obtain ⟨live, here, taken⟩ := bind_eq_some_iff.mp taken
    split at taken
    · cases taken
    · split at taken
      · cases taken
        exact sound.settled
      · cases taken
  · exact .refl _

end

variable {now : Nat}

omit [JsNumber R] in
theorem ready_of_reuse {route : StoredRoute} {plan : DeparturePlan}
    (planned : departureRoutePlan config route now live context = some plan)
    (reuse : plan.reuse = true) :
    ∃ departure, context.departureRoute = some departure ∧
      departure.state = .ready := by
  unfold departureRoutePlan at planned
  split at planned
  · split at planned
    · cases planned
    · cases planned
      simp only [and_eq_true, any_eq_true, beq_iff_eq] at reuse
      obtain ⟨-, departure, present, ⟨-, ready⟩, -⟩ := reuse
      exact ⟨departure, present, ready⟩
  · cases planned

theorem departureRoute_matched (config : RoutingConfig R)
    (matching : Matching R)
    (reading : RouteReading R) (current : RouteContext) :
    (matching.matched config reading current).departureRoute = none ∨
      (matching.matched config reading current).departureRoute =
        current.departureRoute ∨
      ∃ departure, matching.context.departureRoute = some departure ∧
        departure.state = .ready ∧
        ∃ plan : DeparturePlan,
          (matching.matched config reading current).departureRoute =
            some { departure with
              context := plan.context
              phase := plan.phase } := by
  unfold Matching.matched
  simp only
  split
  · exact .inl rfl
  · split
    · exact .inr (.inl rfl)
    · rename_i plan reused
      obtain ⟨planned, reuse⟩ := filter_eq_some_iff.mp reused
      unfold Matching.departurePlan at planned
      split at planned
      · cases planned
      · obtain ⟨departure, present, ready⟩ := ready_of_reuse planned reuse
        refine .inr (.inr ⟨departure, present, ready, plan, ?_⟩)
        rw [present]
        rfl

omit [JsNumber R] in
theorem routeVersion_le (matching : Matching R) (reading : RouteReading R) :
    matching.live.routeVersion ≤ matching.routeVersion reading := by
  unfold Matching.routeVersion
  split
  · omega
  · omega

theorem moves_writeMatching (sound : Sound nodeKey routing)
    {matching : Matching R} (taken : routing.matchings pid = some matching)
    (reading : RouteReading R) :
    Moves nodeKey routing
      (routing.writeMatching nodeKey config pid matching reading) := by
  have matchings : ∀ other found,
      update routing.matchings pid none other = some found →
      found.context.Settled := by
    apply settled_update sound.matchings
    rintro found ⟨⟩
  unfold writeMatching
  simp only
  split
  · exact Moves.of_same sound rfl rfl rfl rfl matchings (.refl _)
  · rename_i live here
    split
    · exact Moves.of_same sound rfl rfl rfl rfl matchings (.refl _)
    · rename_i isCurrent
      simp only [Matching.isCurrent, not_eq_true', not_eq_false,
        and_eq_true, beq_iff_eq] at isCurrent
      have departure := departureRoute_matched config matching reading
        routing.context
      apply Moves.of_follows sound
      · rw [write_node, here]
        intro after sessionId same session
        cases same
        refine ⟨live, rfl, session, ?_⟩
        rw [isCurrent.2]
        exact routeVersion_le matching reading
      · rfl
      · rfl
      · simp only [write, Matching.matched]
        split
        · exact .inl rfl
        · exact .inr rfl
      · rcases departure with gone | kept | ⟨ready, present, state, plan, same⟩
        · exact .inl (by simp only [write, gone, Option.bind_none])
        · exact .inr (by simp only [write, kept])
        · refine .inl ?_
          simp only [write, same, bind_some]
          exact sound.matchings pid matching taken ready present state
      · intro found present state
        rcases departure with gone | kept | ⟨ready, read, -, plan, same⟩
        · simp only [write, gone] at present
          cases present
        · simp only [write, kept] at present
          exact sound.settled found present state
        · simp only [write, same] at present
          cases present
          exact sound.matchings pid matching taken ready read state
      · exact matchings
      · exact .refl _

/-- What a claim of the request id does to the context: it takes the id for
the reroute or for the departure, and leaves the other one. -/
def ClaimsIn (requestId : Nat) (before after : RouteContext) : Prop :=
  (after.rerouteRequestId = some requestId ∧
      after.departureRoute = before.departureRoute) ∨
    (after.rerouteRequestId = before.rerouteRequestId ∧
      ∃ departure, after.departureRoute = some departure ∧
        departure.state = .pending ∧ departure.requestId = some requestId)

variable {reroute : Reroute}

omit [JsNumber R] in
theorem Moves.of_claim (sound : Sound nodeKey routing)
    (here : routing.node nodeKey = some live)
    (sameNode : next.node nodeKey = routing.node nodeKey)
    (shown : next.shown = routing.shown)
    (supply : next.nextRequestId = routing.nextRequestId + 1)
    (matchings : next.matchings = routing.matchings)
    (inFlight : next.reroutes =
      update routing.reroutes pid (some reroute))
    (given : reroute.requestId = routing.nextRequestId)
    (version : reroute.routeVersion = live.routeVersion)
    (claims : ClaimsIn reroute.requestId routing.context next.context) :
    Moves nodeKey routing next := by
  have stays : StaysOn (routing.node nodeKey) (next.node nodeKey) := by
    rw [sameNode]
    exact fun after sessionId there session => ⟨after, there, session⟩
  have new : routing.nextRequestId ≤ reroute.requestId := by omega
  refine ⟨shown, by omega, ?_, ?_, ?_, ?_, ?_, ?_⟩
  · intro after sessionId there session
    rw [sameNode] at there
    exact (sound.shown after sessionId there session).2
  · intro requestId holds
    rcases claims with ⟨taken, -⟩ | ⟨kept, -⟩
    · rw [taken] at holds
      cases holds
      exact .inr new
    · rw [kept] at holds
      exact .inl ⟨holds, stays⟩
  · intro requestId holds
    rcases claims with ⟨-, kept⟩ | ⟨-, departure, taken, -, claim⟩
    · rw [kept] at holds
      exact .inl ⟨holds, stays⟩
    · rw [taken, bind_some, claim] at holds
      cases holds
      exact .inr new
  · intro found present state
    rcases claims with ⟨-, kept⟩ | ⟨-, departure, taken, pending, -⟩
    · rw [kept] at present
      exact sound.settled found present state
    · rw [taken] at present
      cases present
      rw [pending] at state
      cases state
  · rw [matchings]
    exact sound.matchings
  · intro other found there
    rw [inFlight] at there
    by_cases same : other = pid
    · subst same
      rw [update_self] at there
      cases there
      refine .inr ⟨new, by omega, ?_⟩
      intro after present
      rw [sameNode, here] at present
      cases present
      exact Nat.le_of_eq version
    · rw [update_of_ne same] at there
      exact .inl ⟨found, there, rfl⟩

omit [JsNumber R] in
theorem moves_claimed (sound : Sound nodeKey routing)
    {claim : LiveBus R → RouteContext → Option (RouteContext × Reroute)}
    (claims : ∀ live context reroute,
      claim live routing.context = some (context, reroute) →
      reroute.requestId = routing.nextRequestId ∧
        reroute.routeVersion = live.routeVersion ∧
        ClaimsIn reroute.requestId routing.context context)
    (done : routing.claimed nodeKey pid claim = some next) :
    Moves nodeKey routing next := by
  obtain ⟨live, here, found⟩ := bind_eq_some_iff.mp done
  obtain ⟨⟨context, reroute⟩, claimed, rfl⟩ := map_eq_some_iff.mp found
  obtain ⟨given, version, takes⟩ := claims live context reroute claimed
  apply Moves.of_claim sound here
  · exact (write_node routing nodeKey (some live) context).trans here.symm
  · rfl
  · rfl
  · rfl
  · rfl
  · exact given
  · exact version
  · exact takes

variable {before : RouteContext}

section

omit [JsNumber R]

variable {task : RerouteTask} {requestId : Nat} {after : RouteContext}

theorem requestReroute_claims {random : ℚ}
    (done : requestReroute config task requestId now random live before =
      some (after, reroute)) :
    reroute.requestId = requestId ∧
      reroute.routeVersion = live.routeVersion ∧
      ClaimsIn reroute.requestId before after := by
  unfold requestReroute at done
  simp only at done
  split at done
  · cases done
  · rename_i allowed
    simp only [or_eq_true, not_or, bne_iff_ne, ne_eq, not_not] at allowed
    cases done
    exact ⟨rfl, allowed.1.1.1.1.1.2.symm, .inl ⟨rfl, rfl⟩⟩

theorem refreshDepartureRoute_claims
    (done : refreshDepartureRoute config task requestId now live before =
      some (after, reroute)) :
    reroute.requestId = requestId ∧
      reroute.routeVersion = live.routeVersion ∧
      ClaimsIn reroute.requestId before after := by
  unfold refreshDepartureRoute at done
  split at done
  · cases done
  · split at done
    · cases done
    · rename_i allowed
      simp only [or_eq_true, not_or, bne_iff_ne, ne_eq, not_not]
        at allowed
      cases done
      exact ⟨rfl, allowed.1.1.2.symm, .inr ⟨rfl, _, rfl, rfl, rfl⟩⟩

theorem claim_of_isCurrent (current : reroute.isCurrent live context = true) :
    reroute.claim context = some reroute.requestId ∧
      live.sessionId = some reroute.sessionId ∧
      live.routeVersion = reroute.routeVersion := by
  unfold Reroute.isCurrent at current
  unfold Reroute.claim
  cases kind : reroute.kind with
  | deviation retryContext failures =>
    rw [kind] at current
    simp only [Reroute.rerouteContextIsCurrent, and_eq_true,
      beq_iff_eq] at current
    exact ⟨current.1.1.1.2, current.1.2, current.1.1.2⟩
  | departure departureContext phase =>
    rw [kind] at current
    simp only [Reroute.departureIsCurrent, and_eq_true, beq_iff_eq,
      any_eq_true] at current
    obtain ⟨⟨⟨⟨⟨⟨⟨-, session⟩, -⟩, version⟩, departure, present, claim, -⟩,
      -⟩, -⟩, -⟩ := current
    refine ⟨?_, session, version⟩
    simp only [present, bind_some]
    exact claim

theorem activate_eq_some {after : LiveBus R}
    (done : reroute.activate now live before = some (after, context)) :
    reroute.isCurrent live before = true ∧
      after.sessionId = live.sessionId ∧
      reroute.routeVersion < after.routeVersion ∧
      context.rerouteRequestId = none ∧
      (context.departureRoute = before.departureRoute ∨
        ∀ departure, context.departureRoute = some departure →
          departure.requestId = none) := by
  unfold Reroute.activate at done
  split at done
  · cases done
  · rename_i allowed
    simp only [or_eq_true, not_or, not_eq_true', not_eq_false]
      at allowed
    cases done
    refine ⟨allowed.1, rfl, ?_, rfl, ?_⟩
    · simp only
      omega
    · simp only
      split
      · exact .inl rfl
      · refine .inr ?_
        intro departure present
        obtain ⟨earlier, -, rfl⟩ := map_eq_some_iff.mp present
        rfl

theorem moves_activate (sound : Sound nodeKey routing)
    (inFlight : routing.reroutes pid = some reroute) (now : Nat)
    (current : Bool) :
    Moves nodeKey routing
      (routing.activate nodeKey pid reroute now current) := by
  unfold Routing.activate
  simp only
  split
  · have narrows : Narrows routing.reroutes
        (update routing.reroutes pid
          (some { reroute with failing := true })) := by
      apply narrows_update
      rintro later ⟨⟩
      exact ⟨reroute, inFlight, rfl⟩
    exact Moves.of_same sound rfl rfl rfl rfl sound.matchings narrows
  · rename_i after context done
    obtain ⟨live, here, done⟩ := bind_eq_some_iff.mp done
    split at done
    · obtain ⟨valid, session, version, claim, departure⟩ :=
        activate_eq_some done
      obtain ⟨-, -, before⟩ := claim_of_isCurrent valid
      apply Moves.of_follows sound
      · rw [write_node, here]
        intro found sessionId same on
        cases same
        exact ⟨live, rfl, session.symm.trans on, by omega⟩
      · rfl
      · rfl
      · exact .inl claim
      · rcases departure with kept | gone
        · exact .inr (by simp only [write, kept])
        · refine .inl ?_
          rw [Option.bind_eq_none_iff]
          exact gone
      · intro found present state
        rcases departure with kept | gone
        · exact sound.settled found (kept.symm.trans present) state
        · exact gone found present
      · exact sound.matchings
      · exact narrows_remove _ _
    · cases done

theorem fail_claims (reroute : Reroute) (now : Nat) (random : ℚ)
    (live : LiveBus R) (before : RouteContext) :
    ((reroute.fail now random live before).rerouteRequestId = none ∨
        (reroute.fail now random live before).rerouteRequestId =
          before.rerouteRequestId) ∧
      ((reroute.fail now random live before).departureRoute =
          before.departureRoute ∨
        ∃ departure later,
          before.departureRoute = some departure ∧
          (reroute.fail now random live before).departureRoute = some later ∧
          ((later = departure) ∨
            later.requestId = none ∧ later.state = .failed)) := by
  unfold Reroute.fail
  split
  · split
    · exact ⟨.inr rfl, .inl rfl⟩
    · exact ⟨.inl rfl, .inl rfl⟩
  · split
    · exact ⟨.inr rfl, .inl rfl⟩
    · refine ⟨.inr rfl, ?_⟩
      cases present : before.departureRoute with
      | none => exact .inl (by simp)
      | some departure =>
        refine .inr ⟨departure, _, rfl, rfl, ?_⟩
        by_cases own : departure.requestId = some reroute.requestId
        · exact .inr (by simp [own])
        · exact .inl (by simp [own])

theorem moves_fail (sound : Sound nodeKey routing) (pid : Nat)
    (reroute : Reroute) (now : Nat) (random : ℚ) :
    Moves nodeKey routing (routing.fail nodeKey pid reroute now random) := by
  unfold Routing.fail
  simp only
  split
  · exact Moves.of_same sound rfl rfl rfl rfl sound.matchings
      (narrows_remove _ _)
  · rename_i live here
    obtain ⟨claim, departure⟩ :=
      fail_claims reroute now random live routing.context
    apply Moves.of_follows sound
    · rw [write_node, here]
      exact .refl _
    · rfl
    · rfl
    · exact claim
    · rcases departure with kept | ⟨earlier, later, was, present, same⟩
      · exact .inr (by simp only [write, kept])
      · simp only [write, present, was, bind_some]
        rcases same with rfl | ⟨released, -⟩
        · exact .inr rfl
        · exact .inl released
    · intro found present state
      rcases departure with kept | ⟨earlier, later, was, now, same⟩
      · exact sound.settled found (kept.symm.trans present) state
      · have taken : some later = some found := now.symm.trans present
        cases taken
        rcases same with rfl | ⟨released, -⟩
        · exact sound.settled found was state
        · exact released
    · exact sound.matchings
    · exact narrows_remove _ _

theorem Moves.of_takeOver (sound : Sound nodeKey routing)
    (shown : next.shown = routing.shown)
    (supply : next.nextRequestId = routing.nextRequestId)
    (version : ∀ live sessionId, next.node nodeKey = some live →
      live.sessionId = some sessionId →
      ∀ version, (sessionId, version) ∈ routing.shown →
        version ≤ live.routeVersion)
    (same : next.context = {} ∨ next.context = routing.context ∧
      StaysOn (routing.node nodeKey) (next.node nodeKey))
    (matchings : next.matchings = routing.matchings)
    (reroutes : next.reroutes = routing.reroutes) :
    Moves nodeKey routing next := by
  refine ⟨shown, Nat.le_of_eq supply.symm, version, ?_, ?_, ?_, ?_, ?_⟩
  · intro requestId claim
    rcases same with empty | ⟨kept, stays⟩
    · rw [empty] at claim
      cases claim
    · rw [kept] at claim
      exact .inl ⟨claim, stays⟩
  · intro requestId claim
    rcases same with empty | ⟨kept, stays⟩
    · rw [empty] at claim
      cases claim
    · rw [kept] at claim
      exact .inl ⟨claim, stays⟩
  · rcases same with empty | ⟨kept, -⟩
    · rw [empty]
      exact settled_empty
    · rw [kept]
      exact sound.settled
  · rw [matchings]
    exact sound.matchings
  · rw [reroutes]
    exact fun pid reroute inFlight => .inl ⟨reroute, inFlight, rfl⟩

theorem moves_publishRestore (sound : Sound nodeKey routing) (pid : Nat)
    (request : RestoreRequest) (lifecycle : DurableLifecycle R)
    (allowed : (publishLifecycle request lifecycle
        (routing.node nodeKey)).isNone = true ∨
      routing.caughtUp nodeKey lifecycle = true) :
    Moves nodeKey routing
      (routing.publishRestore nodeKey pid request lifecycle) := by
  unfold Routing.publishRestore
  simp only
  split
  · exact Moves.of_same sound rfl rfl rfl rfl sound.matchings (.refl _)
  · rename_i live written
    have session := sessionId_of_publishLifecycle written
    have caughtUp : routing.caughtUp nodeKey lifecycle = true := by
      rcases allowed with refused | caughtUp
      · rw [written] at refused
        cases refused
      · exact caughtUp
    apply Moves.of_takeOver sound
    · rfl
    · rfl
    · intro after sessionId present on version member
      rw [write_node] at present
      cases present
      rw [session] at on
      cases on
      have upper := List.all_eq_true.mp caughtUp _ member
      simp only [bne_self_eq_false, Bool.false_or, decide_eq_true_eq] at upper
      rwa [routeVersion_of_publishLifecycle written]
    · simp only [write]
      split
      · rename_i same
        refine .inr ⟨rfl, ?_⟩
        intro after sessionId present on
        obtain ⟨before, there, own⟩ := (any_eq_true _ _).mp same
        have present : some live = some after :=
          (write_node routing nodeKey (some live) {}).symm.trans present
        cases present
        exact ⟨before, there, (beq_iff_eq.mp own).trans on⟩
      · exact .inl rfl
    · rfl
    · rfl

theorem restore_lowers
    (written : publishLifecycle request lifecycle (routing.node nodeKey) =
      some live) (behind : routing.caughtUp nodeKey lifecycle = false) :
    ∃ sessionId version, live.sessionId = some sessionId ∧
      (sessionId, version) ∈ routing.shown ∧ live.routeVersion < version := by
  obtain ⟨⟨sessionId, version⟩, member, fails⟩ :=
    List.all_eq_false.mp behind
  simp only [or_eq_true, bne_iff_ne, ne_eq, decide_eq_true_eq, not_or,
    not_not, Nat.not_le] at fails
  obtain ⟨same, lower⟩ := fails
  refine ⟨sessionId, version, ?_, member, ?_⟩
  · rw [sessionId_of_publishLifecycle written, same]
  · rwa [routeVersion_of_publishLifecycle written]

theorem moves_claim (sound : Sound nodeKey routing) (live : LiveBus R)
    (allowed : ∀ claimed, live.sessionId = some claimed →
      ∀ version, (claimed, version) ∈ routing.shown → version = 0) :
    Moves nodeKey routing
      (routing.write nodeKey (some { live with routeVersion := 0 }) {}) := by
  apply Moves.of_takeOver sound
  · rfl
  · rfl
  · intro after sessionId present on version member
    rw [write_node] at present
    cases present
    exact Nat.le_of_eq (allowed sessionId on version member)
  · exact .inl rfl
  · rfl
  · rfl

theorem moves_rewrite (sound : Sound nodeKey routing) {fix : Option Fix}
    (keeping : ((routing.node nodeKey).any fun before =>
      keeps before live) = true) :
    Moves nodeKey routing
      { routing.write nodeKey (some live) routing.context with fix } := by
  obtain ⟨before, there, kept⟩ := (any_eq_true _ _).mp keeping
  simp only [keeps, or_eq_true, and_eq_true, beq_iff_eq,
    Option.isNone_iff_eq_none] at kept
  have follows : Follows (routing.node nodeKey) (some live) := by
    intro after sessionId same session
    cases same
    rcases kept with off | ⟨on, version⟩
    · rw [off] at session
      cases session
    · exact ⟨before, there, on.symm.trans session, Nat.le_of_eq version.symm⟩
  apply Moves.of_follows sound
  · intro after sessionId present session
    have present : some live = some after :=
      (write_node routing nodeKey (some live) {}).symm.trans present
    exact follows after sessionId present session
  · rfl
  · rfl
  · exact .inr rfl
  · exact .inr rfl
  · exact sound.settled
  · exact sound.matchings
  · exact .refl _

end

/-- The step lemma: what any step does to versions and claims. -/
theorem moves_of_act (sound : Sound nodeKey routing) {label : RoutingLabel R}
    (allowed : routing.keepsVersion nodeKey label = true)
    (taken : routing.act config nodeKey label = some next) :
    Moves nodeKey routing next := by
  cases label with
  | resolveDirection direction =>
    cases taken
    exact moves_resolveDirection sound direction
  | resetDirection =>
    cases taken
    exact moves_resetDirection sound
  | read pid route =>
    cases taken
    exact moves_readMatching sound pid route
  | matched pid reading =>
    obtain ⟨matching, inFlight, rfl⟩ := map_eq_some_iff.mp taken
    exact moves_writeMatching sound inFlight reading
  | reroute pid task now random =>
    apply moves_claimed sound _ taken
    intro live context reroute done
    exact requestReroute_claims done
  | departure pid task now =>
    apply moves_claimed sound _ taken
    intro live context reroute done
    exact refreshDepartureRoute_claims done
  | activate pid now current =>
    obtain ⟨reroute, pending, rfl⟩ := map_eq_some_iff.mp taken
    have inFlight := (filter_eq_some_iff.mp pending).1
    exact moves_activate sound inFlight now current
  | reject pid =>
    obtain ⟨reroute, inFlight, rfl⟩ := map_eq_some_iff.mp taken
    have narrows : Narrows routing.reroutes
        (update routing.reroutes pid
          (some { reroute with failing := true })) := by
      apply narrows_update
      rintro later ⟨⟩
      exact ⟨reroute, inFlight, rfl⟩
    exact Moves.of_same sound rfl rfl rfl rfl sound.matchings narrows
  | fail pid now random =>
    obtain ⟨reroute, pending, rfl⟩ := map_eq_some_iff.mp taken
    exact moves_fail sound pid reroute now random
  | crash pid =>
    cases taken
    have matchings : ∀ other found,
        update routing.matchings pid none other = some found →
        found.context.Settled := by
      apply settled_update sound.matchings
      rintro found ⟨⟩
    exact Moves.of_same sound rfl rfl rfl rfl matchings (narrows_remove _ _)
  | readEngine | document =>
    cases taken
    exact Moves.of_same sound rfl rfl rfl rfl sound.matchings (.refl _)
  | commit =>
    obtain ⟨update, inFlight, rfl⟩ := map_eq_some_iff.mp taken
    have sameNode :
        (persistActiveRideLifecycle update routing.store).1.live nodeKey =
          routing.store.live nodeKey :=
      congrFun (persistActiveRideLifecycle_live update routing.store) nodeKey
    exact Moves.of_same sound sameNode rfl rfl rfl sound.matchings (.refl _)
  | restore pid request =>
    simp only [Routing.act] at taken
    split at taken
    · cases taken
    · cases taken
      exact Moves.of_same sound rfl rfl rfl rfl sound.matchings (.refl _)
  | publishRestore pid =>
    obtain ⟨⟨request, lifecycle⟩, pending, rfl⟩ :=
      map_eq_some_iff.mp taken
    simp only [keepsVersion, pending, all_some, or_eq_true]
      at allowed
    exact moves_publishRestore sound pid request lifecycle allowed
  | claim live =>
    cases taken
    apply moves_claim sound live
    intro claimed session version member
    simp only [keepsVersion, session, all_some] at allowed
    have unversioned := List.all_eq_true.mp allowed _ member
    simpa using unversioned
  | rewrite live fix =>
    simp only [Routing.act] at taken
    split at taken
    · rename_i keeping
      cases taken
      exact moves_rewrite sound keeping
    · cases taken
  | remove =>
    cases taken
    apply Moves.of_write sound
    · rintro live sessionId ⟨⟩
    · exact .inl rfl

end Steps

section Noted

variable (routing : Routing R) (nodeKey : String)

section

omit [JsNumber R]

/-- The memory of versions changes nothing else. -/
theorem noted_eq : ∃ shown,
    routing.noted nodeKey = { routing with shown } ∧
      routing.shown ⊆ shown := by
  unfold noted
  split
  · exact ⟨routing.shown, rfl, List.Subset.refl _⟩
  · split
    · exact ⟨routing.shown, rfl, List.Subset.refl _⟩
    · exact ⟨_, rfl, List.subset_cons_self _ _⟩

@[simp] theorem noted_node :
    (routing.noted nodeKey).node nodeKey = routing.node nodeKey := by
  obtain ⟨shown, same, -⟩ := routing.noted_eq nodeKey
  rw [same]
  rfl

@[simp] theorem noted_context :
    (routing.noted nodeKey).context = routing.context := by
  obtain ⟨shown, same, -⟩ := routing.noted_eq nodeKey
  rw [same]

variable {reroute : Reroute}

theorem noted_holds (holds : (routing.noted nodeKey).Holds nodeKey reroute) :
    routing.Holds nodeKey reroute := by
  obtain ⟨claim, node⟩ := holds
  rw [noted_context] at claim
  rw [noted_node] at node
  exact ⟨claim, node⟩

theorem Issued.noted (issued : Issued nodeKey reroute routing) :
    Issued nodeKey reroute (routing.noted nodeKey) := by
  obtain ⟨shown, same, -⟩ := routing.noted_eq nodeKey
  rw [same]
  exact ⟨issued.given, issued.version⟩

end

end Noted

/-- What a run does: it remembers the versions that were shown, and a claim
that has been superseded stays so. -/
structure Continues (nodeKey : String) (first last : Routing R) : Prop where
  shown : first.shown ⊆ last.shown
  issued : ∀ reroute, Issued nodeKey reroute first →
    Issued nodeKey reroute last
  superseded : ∀ reroute, Issued nodeKey reroute first →
    ¬ first.Holds nodeKey reroute → ¬ last.Holds nodeKey reroute

namespace Continues

variable {nodeKey : String} {first middle last : Routing R}

section

omit [JsNumber R]

theorem refl (routing : Routing R) : Continues nodeKey routing routing :=
  ⟨List.Subset.refl _, fun _ => id, fun _ _ => id⟩

theorem trans (front : Continues nodeKey first middle)
    (back : Continues nodeKey middle last) : Continues nodeKey first last where
  shown := List.Subset.trans front.shown back.shown
  issued reroute issued := back.issued reroute (front.issued reroute issued)
  superseded reroute issued stale :=
    back.superseded reroute (front.issued reroute issued)
      (front.superseded reroute issued stale)

theorem of_moves (sound : Sound nodeKey first)
    (moves : Moves nodeKey first middle) :
    Continues nodeKey first (middle.noted nodeKey) := by
  refine ⟨?_, ?_, ?_⟩
  · obtain ⟨shown, same, keeps⟩ := middle.noted_eq nodeKey
    rw [same, ← moves.shown]
    exact keeps
  · intro reroute issued
    exact (moves.issue sound issued).noted
  · intro reroute issued stale holds
    exact moves.not_holds sound issued stale
      (middle.noted_holds nodeKey holds)

end

end Continues

section Runs

variable {config : RoutingConfig R} {nodeKey : String}
  {first last : Routing R}

omit [JsNumber R] in
theorem Sound.empty : Sound nodeKey (.empty : Routing R) := by
  refine ⟨?_, settled_empty, ?_, ?_⟩
  · rintro live sessionId ⟨⟩
  · rintro pid matching ⟨⟩
  · rintro pid reroute ⟨⟩

theorem Sound.step (sound : Sound nodeKey first) {label : RoutingLabel R}
    (allowed : first.keepsVersion nodeKey label = true)
    (taken : Routing.step config nodeKey first label = some last) :
    Sound nodeKey last ∧ Continues nodeKey first last := by
  obtain ⟨middle, acted, rfl⟩ := map_eq_some_iff.mp taken
  have moves := moves_of_act sound allowed acted
  exact ⟨sound.next moves, .of_moves sound moves⟩

theorem Sound.run (sound : Sound nodeKey first)
    (steps : System.Steps (Routing.step config nodeKey)
      (fun routing label => routing.keepsVersion nodeKey label = true)
      first last) :
    Sound nodeKey last ∧ Continues nodeKey first last := by
  induction steps with
  | refl => exact ⟨sound, .refl _⟩
  | step _ allowed taken induction =>
    obtain ⟨reached, before⟩ := induction
    obtain ⟨sound, after⟩ := reached.step allowed taken
    exact ⟨sound, before.trans after⟩

end Runs

end Routing

/-- The reroute that a step brings to an end. -/
def RoutingLabel.settles : RoutingLabel R → Option Nat
  | .activate pid _ _ => some pid
  | .fail pid _ _ => some pid
  | _ => none

namespace Routing

variable {config : RoutingConfig R} {nodeKey : String}
  {routing next : Routing R}

variable {reroute : Reroute}

variable {now : Nat}

section

variable (here : routing.node nodeKey = some live)
  (stale : ¬ routing.Holds nodeKey reroute)

include here stale

omit [JsNumber R] in
theorem fail_of_superseded {random : ℚ} :
    reroute.fail now random live routing.context = routing.context := by
  cases kind : reroute.kind with
  | deviation context failures =>
    unfold Reroute.fail
    rw [kind]
    simp only
    split
    · rfl
    · rename_i current
      rw [not_eq_true', not_eq_false] at current
      have valid : reroute.isCurrent live routing.context = true := by
        unfold Reroute.isCurrent
        rw [kind]
        exact current
      obtain ⟨claim, session, version⟩ := claim_of_isCurrent valid
      exact absurd ⟨claim, live, here, session, version⟩ stale
  | departure context phase =>
    unfold Reroute.fail
    rw [kind]
    simp only
    split
    · rfl
    · rename_i same
      simp only [or_eq_true, not_or, bne_iff_ne, ne_eq, not_not]
        at same
      have other : ∀ departure,
          routing.context.departureRoute = some departure →
          departure.requestId ≠ some reroute.requestId := by
        intro departure present own
        refine stale ⟨?_, live, here, same.1, same.2⟩
        unfold Reroute.claim
        rw [kind]
        simp only [present, bind_some, own]
      refine congrArg (fun departureRoute =>
        { routing.context with departureRoute }) ?_
      refine (Option.map_congr ?_).trans Option.map_id_apply
      intro departure present
      simp only [bne_iff_ne, ne_eq, other departure present,
        not_false_eq_true, if_true, id_eq]

omit [JsNumber R] in
theorem activate_of_superseded :
    reroute.activate now live routing.context = none := by
  cases done : reroute.activate now live routing.context with
  | none => rfl
  | some written =>
    obtain ⟨after, context⟩ := written
    obtain ⟨claim, session, version⟩ :=
      claim_of_isCurrent (activate_eq_some done).1
    exact absurd ⟨claim, live, here, session, version⟩ stale

end

theorem settle_of_superseded {pid : Nat}
    (inFlight : routing.reroutes pid = some reroute)
    (stale : ¬ routing.Holds nodeKey reroute) {label : RoutingLabel R}
    (settles : label.settles = some pid)
    (taken : Routing.step config nodeKey routing label = some next) :
    next.node nodeKey = routing.node nodeKey ∧
      next.context = routing.context := by
  obtain ⟨middle, acted, rfl⟩ := map_eq_some_iff.mp taken
  rw [noted_node, noted_context]
  cases label with
  | activate other now current =>
    cases settles
    obtain ⟨found, pending, rfl⟩ := map_eq_some_iff.mp acted
    rw [inFlight] at pending
    cases (filter_eq_some_iff.mp pending).1
    unfold Routing.activate
    simp only
    split
    · exact ⟨rfl, rfl⟩
    · rename_i live context done
      obtain ⟨before, here, done⟩ := bind_eq_some_iff.mp done
      split at done
      · rw [activate_of_superseded here stale] at done
        cases done
      · cases done
  | fail other now random =>
    cases settles
    obtain ⟨found, pending, rfl⟩ := map_eq_some_iff.mp acted
    rw [inFlight] at pending
    cases (filter_eq_some_iff.mp pending).1
    unfold Routing.fail
    simp only
    split
    · exact ⟨rfl, rfl⟩
    · rename_i live here
      rw [write_node]
      exact ⟨here.symm, fail_of_superseded here stale⟩
  | _ => cases settles

/-- What holds of versions and reroutes between two states of a run. -/
structure RouteKept (config : RoutingConfig R) (nodeKey : String)
    (first last : Routing R) : Prop where
  version : ∀ before after sessionId,
    first.node nodeKey = some before → before.sessionId = some sessionId →
    last.node nodeKey = some after → after.sessionId = some sessionId →
    before.routeVersion ≤ after.routeVersion
  superseded : ∀ pid reroute, first.reroutes pid = some reroute →
    ¬ first.Holds nodeKey reroute → ¬ last.Holds nodeKey reroute
  harmless : ∀ pid reroute, last.reroutes pid = some reroute →
    ¬ last.Holds nodeKey reroute →
    ∀ label next, label.settles = some pid →
    Routing.step config nodeKey last label = some next →
    next.node nodeKey = last.node nodeKey ∧ next.context = last.context

end Routing

/-- **Versions grow and superseded reroutes stay without effect** in a run whose
restores read a copy that had caught up. -/
theorem route_is_kept (config : RoutingConfig R) (nodeKey : String)
    {first last : Routing R}
    (reached : System.Steps (Routing.step config nodeKey)
      (fun routing label => routing.keepsVersion nodeKey label = true)
      .empty first)
    (steps : System.Steps (Routing.step config nodeKey)
      (fun routing label => routing.keepsVersion nodeKey label = true)
      first last) :
    Routing.RouteKept config nodeKey first last := by
  have sound : Routing.Sound nodeKey first :=
    (Routing.Sound.empty.run reached).1
  obtain ⟨lastSound, continues⟩ := sound.run steps
  refine ⟨?_, ?_, ?_⟩
  · intro before after sessionId there on here stays
    have shown := (sound.shown before sessionId there on).1
    exact (lastSound.shown after sessionId here stays).2 _
      (continues.shown shown)
  · intro pid reroute inFlight
    exact continues.superseded reroute (sound.issued pid reroute inFlight)
  · intro pid reroute inFlight stale label next settles taken
    exact Routing.settle_of_superseded inFlight stale settles taken

/-- The route is kept from any state to any later one. -/
def RouteIsKept (config : RoutingConfig R) (nodeKey : String) : Prop :=
  ∀ first last : Routing R,
    System.Steps (Routing.step config nodeKey) (fun _ _ => True)
      .empty first →
    System.Steps (Routing.step config nodeKey) (fun _ _ => True) first last →
    Routing.RouteKept config nodeKey first last

def routingConfig : RoutingConfig ℚ :=
  { demoConfig with
    digest := String.join
    liveDepartureRoutesEnabled := true }

def storedRoute : StoredRoute where
  configVersion := 1
  geometryVersion := "g"
  geometrySignature := "signature"

def matchedAt (distanceToRouteM : ℚ) (now : Nat) : RoutingLabel ℚ :=
  .matched 0
    { found :=
        some
          { isAmbiguous := false
            distanceToRouteM
            matchConfidence := 1 }
      reliablyMoving := true
      now }

def rerouteTask : RerouteTask where
  direction := .forward
  routeVersion := 1
  sessionId := "s"
  route := storedRoute

/-- A ride whose configured route is matched and made durable. -/
def matchedRide : List (RoutingLabel ℚ) :=
  [.document journeyDocuments, .claim journeyNode,
    .rewrite journeyNode (some { timestamp := 1, seq := 1 }),
    .read 0 storedRoute, matchedAt 0 1,
    .readEngine (journeyFix (1 / 100) 1000), .commit]

/-- The bus leaves its route and gets a reroute. -/
def reroutedRide (pid : Nat) : List (RoutingLabel ℚ) :=
  [.read 0 storedRoute, matchedAt 200 2, .reroute pid rerouteTask 2000 0]

/-- The node is removed and comes back. -/
def restoredRide : List (RoutingLabel ℚ) :=
  [.remove,
    .restore 2
      { busId := "b"
        routeId := "r"
        recoverTerminal := false },
    .publishRestore 2]

def shownVersion (routing : Routing ℚ) : Option Nat :=
  ((routing.node "b_r").filter fun live =>
    live.sessionId == some "s").map LiveBus.routeVersion

/-- The bus comes back to its route before the provider answers, leaves it
again, and the durable copy follows the activation before the restore. -/
def overtakenReroute : List (RoutingLabel ℚ) :=
  reroutedRide 3 ++
    [.activate 1 900000 true, .fail 1 900000 0, .activate 3 1000000 true,
      .readEngine (journeyFix (11 / 1000) 2000), .commit] ++
    restoredRide

theorem route_is_kept_overtaken :
    ∃ first last : Routing ℚ,
      shownVersion first = some 1 ∧ shownVersion last = some 1000001 ∧
        Routing.RouteKept routingConfig "b_r" first last := by
  have returned :
      (System.run (Routing.step routingConfig "b_r")
          (fun routing label => routing.keepsVersion "b_r" label) .empty
          (matchedRide ++ reroutedRide 1 ++
            [.read 0 storedRoute, matchedAt 0 3])).bind shownVersion =
        some 1 := by
    decide +kernel
  have restored :
      (System.run (Routing.step routingConfig "b_r")
          (fun routing label => routing.keepsVersion "b_r" label) .empty
          (matchedRide ++ reroutedRide 1 ++
            [.read 0 storedRoute, matchedAt 0 3] ++
            overtakenReroute)).bind shownVersion =
        some 1000001 := by
    decide +kernel
  obtain ⟨first, ran, before⟩ := bind_eq_some_iff.mp returned
  rw [System.run_append, ran] at restored
  obtain ⟨last, ranOn, after⟩ := bind_eq_some_iff.mp restored
  exact ⟨first, last, before, after, route_is_kept routingConfig "b_r"
    (System.steps_of_run ran fun _ _ => id)
    (System.steps_of_run ranOn fun _ _ => id)⟩

theorem exists_of_shownVersion {routing : Routing ℚ} {version : Nat}
    (shows : shownVersion routing = some version) :
    ∃ live, routing.node "b_r" = some live ∧ live.sessionId = some "s" ∧
      live.routeVersion = version := by
  obtain ⟨live, found, same⟩ := map_eq_some_iff.mp shows
  obtain ⟨here, session⟩ := filter_eq_some_iff.mp found
  exact ⟨live, here, beq_iff_eq.mp session, same⟩

/-- A restore from a copy that has not seen the reroute takes the version
back. -/
theorem route_version_falls : ¬ RouteIsKept routingConfig "b_r" := by
  intro kept
  have activated :
      (System.run (Routing.step routingConfig "b_r") (fun _ _ => true) .empty
          (matchedRide ++ reroutedRide 1 ++
            [.activate 1 1000000 true])).bind shownVersion =
        some 1000000 := by
    decide +kernel
  have restored :
      (System.run (Routing.step routingConfig "b_r") (fun _ _ => true) .empty
          (matchedRide ++ reroutedRide 1 ++ [.activate 1 1000000 true] ++
            restoredRide)).bind shownVersion =
        some 2 := by
    decide +kernel
  obtain ⟨first, ran, shows⟩ := bind_eq_some_iff.mp activated
  rw [System.run_append, ran] at restored
  obtain ⟨last, ranOn, shown⟩ := bind_eq_some_iff.mp restored
  obtain ⟨before, there, on, high⟩ := exists_of_shownVersion shows
  obtain ⟨after, here, stays, low⟩ := exists_of_shownVersion shown
  have grows := (kept first last
    (System.steps_of_run ran fun _ _ _ => trivial)
    (System.steps_of_run ranOn fun _ _ _ => trivial)).version before after "s"
      there on here stays
  omega

end Eki
