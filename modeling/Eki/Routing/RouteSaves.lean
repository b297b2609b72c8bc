import Eki.Library.Transition
import Eki.Library.Versioned
import Eki.Trip.Geometry

/-!
# Route saves

An administrator saves a route under an operation id.  A save claims its
operation, computes the geometry outside of any transaction, and commits route
and operation together.  Whoever lost the answer asks again under the same id.
-/

namespace Eki

open Transition
open Function (update)

variable {R : Type}

structure RouteStop (R : Type) extends TripRouteStop R where
  id : String
  name : String
  shortName : String

/-- The road geometry of one travel direction. -/
structure DirectedGeometry (R : Type) where
  polyline : String
  distanceMeters : R
  duration : String

structure DirectionalRouteGeometry (R : Type) where
  forward : DirectedGeometry R
  reverse : DirectedGeometry R

/-- A stored route; `geometry` is `none` where what is stored is not valid, a
version where it is no integer. -/
structure RouteData (R : Type) where
  name : String
  color : String
  stops : List (RouteStop R)
  geometry : Option (DirectionalRouteGeometry R)
  geometrySignature : Option String
  configVersion : Option Int
  geometryVersion : Option Int

def readVersion (version : Option Int) : Nat :=
  ((version.filter fun version =>
    decide (0 ≤ version ∧ version ≤ maxSafeInteger)).map Int.toNat).getD 0

def routeDocumentVersion (route : Option (RouteData R)) : Nat :=
  readVersion (route.bind RouteData.configVersion)

def routeGeometryVersion (route : Option (RouteData R)) : Nat :=
  readVersion (route.bind RouteData.geometryVersion)

inductive RouteErrorPhase where
  | validation
  | routing
  | persistence
  deriving DecidableEq, Repr

structure RouteErrorPayload where
  error : String
  code : String
  phase : RouteErrorPhase
  outcomeUnknown : Bool := false
  currentVersion : Option Nat := none
  deriving DecidableEq, Repr

structure RouteApiError where
  status : Nat
  payload : RouteErrorPayload
  deriving DecidableEq, Repr

inductive RouteSaveOperationStatus where
  | processing
  | succeeded
  | failed
  deriving DecidableEq, Repr

structure RouteSaveResult (R : Type) where
  saveId : String
  routeId : String
  configVersion : Nat
  geometryVersion : Nat
  geometryReused : Bool
  geometry : DirectionalRouteGeometry R

structure RouteSaveOperation (R : Type) where
  routeId : String
  payloadHash : String
  status : RouteSaveOperationStatus
  leaseOwner : Nat
  leaseUntil : Nat
  attemptCount : Nat
  result : Option (RouteSaveResult R) := none
  error : Option RouteErrorPayload := none
  httpStatus : Option Nat := none

inductive RouteSaveOperationDecision (R : Type) where
  | claim
  | processing
  | replay (result : Option (RouteSaveResult R))
  | failed (error : Option RouteErrorPayload) (httpStatus : Nat)
  | conflict

def decideRouteSaveOperation (operation : Option (RouteSaveOperation R))
    (payloadHash : String) (now : Nat) : RouteSaveOperationDecision R :=
  match operation with
  | none => .claim
  | some operation =>
    if operation.payloadHash != payloadHash then .conflict
    else
      match operation.status with
      | .succeeded => .replay operation.result
      | .failed =>
        -- The outcome is unknown to the client, but the failure was
        -- recorded under the lease: nothing was committed.
        if operation.error.any RouteErrorPayload.outcomeUnknown then .claim
        else .failed operation.error (operation.httpStatus.getD 409)
      | .processing =>
        if now < operation.leaseUntil then .processing else .claim

inductive RouteSaveMode where
  | create
  | edit
  deriving DecidableEq, Repr

structure RouteSavePayload (R : Type) where
  routeId : String
  mode : RouteSaveMode
  expectedVersion : Nat
  name : String
  color : String
  stops : List (RouteStop R)

/-- A save whose body has passed validation. -/
structure RouteSaveRequest (R : Type) extends RouteSavePayload R where
  saveId : String
  safe : (expectedVersion : Int) ≤ maxSafeInteger
  unversioned : mode = .create → expectedVersion = 0

structure RouteSaveConfig (R : Type) where
  routeSavePayloadHash : RouteSavePayload R → String
  routeGeometrySignature : List (TripRouteStop R) → String

def routeSaveLeaseMs : Nat := 30000

inductive RouteSaveClaim (R : Type) where
  | conflict
  | processing
  | replay (result : Option (RouteSaveResult R))
  | failed (error : Option RouteErrorPayload) (httpStatus : Nat)
  | alreadyExists
  | notFound
  | stale (currentVersion : Nat)
  | activeRide
  | claimed (existingRoute : Option (RouteData R))

namespace RouteSaveRequest

variable (request : RouteSaveRequest R)

/-- The route is there for an edit, missing for a creation, and at the version
that is expected. -/
def finds (route : Option (RouteData R)) : Bool :=
  !(request.mode == .create && route.isSome) &&
    !(request.mode == .edit && route.isNone) &&
    routeDocumentVersion route == request.expectedVersion

def claim (payloadHash : String) (leaseOwner now : Nat)
    (rideOwnsRoute : Bool) (operation : Option (RouteSaveOperation R))
    (route : Option (RouteData R)) :
    RouteSaveClaim R × Option (RouteSaveOperation R) :=
  match decideRouteSaveOperation operation payloadHash now with
  | .conflict => (.conflict, none)
  | .processing => (.processing, none)
  | .replay result => (.replay result, none)
  | .failed error httpStatus => (.failed error httpStatus, none)
  | .claim =>
    if request.mode == .create && route.isSome then (.alreadyExists, none)
    else if request.mode == .edit && route.isNone then (.notFound, none)
    else if routeDocumentVersion route != request.expectedVersion then
      (.stale (routeDocumentVersion route), none)
    else if request.mode == .edit && rideOwnsRoute then (.activeRide, none)
    else
      (.claimed route,
        some
          { routeId := request.routeId
            payloadHash
            status := .processing
            leaseOwner
            leaseUntil := now + routeSaveLeaseMs
            attemptCount :=
              (operation.elim 0 RouteSaveOperation.attemptCount) + 1 })

end RouteSaveRequest

inductive RouteSaveAnswer (R : Type) where
  | saved (result : Option (RouteSaveResult R))
  | processing
  | failure (error : RouteApiError)

/-- An exception that is no `RouteApiError`. -/
def routePersistenceFailed : RouteApiError where
  status := 503
  payload :=
    { error :=
        "The route save could not be confirmed. Retry with the same operation."
      code := "ROUTE_PERSISTENCE_FAILED"
      phase := .persistence
      outcomeUnknown := true }

inductive RouteSaveStage (R : Type) where
  | claiming
  | computing (existingRoute : Option (RouteData R))
  | committing (routeData : RouteData R) (result : RouteSaveResult R)
  /-- The claimed operation is to record its failure. -/
  | failing (failure : RouteApiError)
  | answered (answer : RouteSaveAnswer R)

def RouteSaveClaim.stage : RouteSaveClaim R → RouteSaveStage R
  | .conflict =>
    .answered
      (.failure
        { status := 409
          payload :=
            { error := "This save operation ID is already bound to different route content."
              code := "IDEMPOTENCY_KEY_REUSED"
              phase := .validation } })
  | .processing => .answered .processing
  | .replay result => .answered (.saved result)
  | .failed error httpStatus =>
    .answered
      (.failure
        { status := httpStatus
          payload :=
            (error.filter fun failure =>
              failure.code != "" && failure.error != "").getD
              { error := "The previous save attempt failed. Start a new save operation."
                code := "ROUTE_SAVE_FAILED"
                phase := .persistence } })
  | .alreadyExists =>
    .answered
      (.failure
        { status := 409
          payload :=
            { error := "A route with this ID already exists."
              code := "ROUTE_ALREADY_EXISTS"
              phase := .validation } })
  | .notFound =>
    .answered
      (.failure
        { status := 404
          payload :=
            { error := "The route no longer exists."
              code := "ROUTE_NOT_FOUND"
              phase := .validation } })
  | .stale currentVersion =>
    .answered
      (.failure
        { status := 409
          payload :=
            { error := "The route changed after this editor was opened. Reload before saving."
              code := "STALE_ROUTE_VERSION"
              phase := .validation
              currentVersion := some currentVersion } })
  | .activeRide =>
    .answered
      (.failure
        { status := 409
          payload :=
            { error := "An active ride route cannot be edited before its final stop."
              code := "ACTIVE_RIDE_ROUTE_EDIT"
              phase := .validation } })
  | .claimed existingRoute => .computing existingRoute

def reusableDirectionalGeometry (route : RouteData R) (signature : String) :
    Option (DirectionalRouteGeometry R) :=
  if route.geometrySignature != some signature then none else route.geometry

namespace RouteSaveRequest

variable (config : RouteSaveConfig R) (request : RouteSaveRequest R)

def geometrySignature : String :=
  config.routeGeometrySignature
    (request.stops.map RouteStop.toTripRouteStop)

def reusedGeometry (existingRoute : Option (RouteData R)) :
    Option (DirectionalRouteGeometry R) :=
  existingRoute.bind fun route =>
    reusableDirectionalGeometry route (request.geometrySignature config)

/-- The route and the result that a claimed save goes to commit with. -/
def prepare (existingRoute : Option (RouteData R))
    (geometry : DirectionalRouteGeometry R) : RouteSaveStage R :=
  let reusedGeometry := request.reusedGeometry config existingRoute
  let nextConfigVersion := request.expectedVersion + 1
  let nextGeometryVersion :=
    if reusedGeometry.isSome then routeGeometryVersion existingRoute
    else routeGeometryVersion existingRoute + 1
  .committing
    { name := request.name
      color := request.color
      stops := request.stops
      geometry := some geometry
      geometrySignature := some (request.geometrySignature config)
      configVersion := some nextConfigVersion
      geometryVersion := some nextGeometryVersion }
    { saveId := request.saveId
      routeId := request.routeId
      configVersion := nextConfigVersion
      geometryVersion := nextGeometryVersion
      geometryReused := reusedGeometry.isSome
      geometry }

/-- Geometry that is stored for the same stops is used again; any other is
computed. -/
def compute (existingRoute : Option (RouteData R))
    (computed : Except RouteApiError (DirectionalRouteGeometry R)) :
    RouteSaveStage R :=
  match request.reusedGeometry config existingRoute, computed with
  | some geometry, _ => request.prepare config existingRoute geometry
  | none, .ok geometry => request.prepare config existingRoute geometry
  | none, .error failure => .failing failure

end RouteSaveRequest

namespace RouteSaveOperation

def isHeld (leaseOwner : Nat) (payloadHash : String)
    (operation : RouteSaveOperation R) : Bool :=
  operation.status == .processing && operation.leaseOwner == leaseOwner &&
    operation.payloadHash == payloadHash

def fail (failure : RouteApiError) (operation : RouteSaveOperation R) :
    RouteSaveOperation R :=
  { operation with
    status := .failed
    error := some failure.payload
    httpStatus := some failure.status
    leaseUntil := 0 }

end RouteSaveOperation

/-- The commit transaction: the operation that it writes along with the route,
or what it throws. -/
def RouteSaveRequest.commit (request : RouteSaveRequest R)
    (payloadHash : String) (leaseOwner : Nat) (rideOwnsRoute : Bool)
    (result : RouteSaveResult R) (operation : Option (RouteSaveOperation R))
    (route : Option (RouteData R)) :
    Except RouteApiError (RouteSaveOperation R) :=
  match operation.filter (·.isHeld leaseOwner payloadHash) with
  | none =>
    .error
      { status := 409
        payload :=
          { error := "The save lease expired before commit. Retry to reconcile the final state."
            code := "ROUTE_SAVE_LEASE_LOST"
            phase := .persistence
            outcomeUnknown := true } }
  | some operation =>
    if !request.finds route then
      .error
        { status := 409
          payload :=
            { error := "The route changed while geometry was being calculated. Reload before saving."
              code := "STALE_ROUTE_VERSION"
              phase := .persistence
              currentVersion := some (routeDocumentVersion route) } }
    else if request.mode == .edit && rideOwnsRoute then
      .error
        { status := 409
          payload :=
            { error := "A ride started while this route was being saved; the route was not changed."
              code := "ACTIVE_RIDE_ROUTE_EDIT"
              phase := .persistence } }
    else
      .ok
        { operation with
          status := .succeeded
          result := some result
          leaseUntil := 0 }

/-- A route as an editor read it, and how often it had been deleted before,
which no step reads. -/
structure OpenedRoute (R : Type) where
  routeId : String
  route : RouteData R
  deletions : Nat

def OpenedRoute.version (opened : OpenedRoute R) : Nat :=
  routeDocumentVersion (some opened.route)

/-- A save under way.  `opened` is what the editor of an edit had read. -/
structure RouteSaveAttempt (R : Type) where
  request : RouteSaveRequest R
  leaseOwner : Nat
  opened : Option (OpenedRoute R)
  stage : RouteSaveStage R

/-- A save that was committed, the route before and after, and what its editor
had read. -/
structure RouteSaveCommit (R : Type) where
  saveId : String
  routeId : String
  mode : RouteSaveMode
  opened : Option (OpenedRoute R)
  before : Option (RouteData R)
  after : RouteData R

/-- The stored routes and operations and the saves under way, with the commits
and the deletions that have taken place. -/
structure RouteSaves (R : Type) where
  routes : String → Option (RouteData R)
  operations : String → Option (RouteSaveOperation R)
  attempts : Nat → Option (RouteSaveAttempt R)
  nextLeaseOwner : Nat
  opened : List (OpenedRoute R)
  deletions : String → Nat
  commits : List (RouteSaveCommit R)

/-- What becomes of the answer to a transaction that has taken effect: it
comes, the transaction runs once more, or it is lost. -/
inductive Acknowledgement where
  | received
  | repeated
  | lost
  deriving DecidableEq, Repr

/-- How a save goes on. -/
def Acknowledgement.next (answer : Acknowledgement)
    (received repeated lost : RouteSaveStage R) : RouteSaveStage R :=
  match answer with
  | .received => received
  | .repeated => repeated
  | .lost => lost

inductive RouteSaveLabel (R : Type) where
  /-- An editor reads a route. -/
  | openRoute (routeId : String)
  /-- A save comes in, for an edit with the editor that it comes from. -/
  | submit (pid : Nat) (request : RouteSaveRequest R) (editor : Option Nat)
  | claim (pid now : Nat) (rideOwnsRoute : Bool) (answer : Acknowledgement)
  | compute (pid : Nat)
      (computed : Except RouteApiError (DirectionalRouteGeometry R))
  | commit (pid : Nat) (rideOwnsRoute : Bool) (answer : Acknowledgement)
  | recordFailure (pid : Nat)
  /-- A transaction that takes no effect throws. -/
  | interrupt (pid : Nat)
  | crash (pid : Nat)
  | deleteRoute (routeId : String)
  /-- The retention sweep deletes an old operation. -/
  | sweep (saveId : String)

namespace RouteSaves

/-- Before the first save, over any stored routes. -/
def start (routes : String → Option (RouteData R)) : RouteSaves R :=
  { routes
    operations := fun _ => none
    attempts := fun _ => none
    nextLeaseOwner := 0
    opened := []
    deletions := fun _ => 0
    commits := [] }

variable (saves : RouteSaves R)

def setAttempt (pid : Nat) (attempt : Option (RouteSaveAttempt R)) :
    RouteSaves R :=
  { saves with attempts := update saves.attempts pid attempt }

def writeOperation (saveId : String)
    (operation : Option (RouteSaveOperation R)) : RouteSaves R :=
  { saves with
    operations := update saves.operations saveId operation }

def writeRoute (routeId : String) (route : Option (RouteData R)) :
    RouteSaves R :=
  { saves with routes := update saves.routes routeId route }

def writeCommit (request : RouteSaveRequest R)
    (opened : Option (OpenedRoute R)) (routeData : RouteData R)
    (operation : RouteSaveOperation R) : RouteSaves R :=
  { (saves.writeRoute request.routeId (some routeData)).writeOperation
      request.saveId (some operation) with
    commits :=
      { saveId := request.saveId
        routeId := request.routeId
        mode := request.mode
        opened
        before := saves.routes request.routeId
        after := routeData } :: saves.commits }

/-- An edit comes from an editor that read its route at the version that it
expects, or from elsewhere. -/
def submit (pid : Nat) (request : RouteSaveRequest R)
    (editor : Option Nat) : Option (RouteSaves R) :=
  let accept (opened : Option (OpenedRoute R)) : RouteSaves R :=
    { saves.setAttempt pid
        (some
          { request
            leaseOwner := saves.nextLeaseOwner
            opened
            stage := .claiming }) with
      nextLeaseOwner := saves.nextLeaseOwner + 1 }
  match editor with
  | none => some (accept none)
  | some editor =>
    (saves.opened[editor]?.filter fun opened =>
      opened.routeId == request.routeId &&
        opened.version == request.expectedVersion).map fun opened =>
      accept (some opened)

def claim (config : RouteSaveConfig R) (pid : Nat)
    (attempt : RouteSaveAttempt R) (now : Nat) (rideOwnsRoute : Bool)
    (answer : Acknowledgement) : RouteSaves R :=
  let request := attempt.request
  let (claim, written) :=
    request.claim (config.routeSavePayloadHash request.toRouteSavePayload)
      attempt.leaseOwner now rideOwnsRoute (saves.operations request.saveId)
      (saves.routes request.routeId)
  -- Without an answer the save does not know that it has claimed, and records
  -- no failure.
  let stage :=
    answer.next claim.stage .claiming
      (.answered (.failure routePersistenceFailed))
  let after :=
    match written with
    | none => saves
    | some operation => saves.writeOperation request.saveId (some operation)
  after.setAttempt pid (some { attempt with stage })

def commit (config : RouteSaveConfig R) (pid : Nat)
    (attempt : RouteSaveAttempt R) (routeData : RouteData R)
    (result : RouteSaveResult R) (rideOwnsRoute : Bool)
    (answer : Acknowledgement) : RouteSaves R :=
  let request := attempt.request
  match request.commit
      (config.routeSavePayloadHash request.toRouteSavePayload)
      attempt.leaseOwner rideOwnsRoute result
      (saves.operations request.saveId) (saves.routes request.routeId) with
  | .error failure =>
    saves.setAttempt pid (some { attempt with stage := .failing failure })
  | .ok operation =>
    let stage :=
      answer.next (.answered (.saved (some result)))
        (.committing routeData result) (.failing routePersistenceFailed)
    (saves.writeCommit request attempt.opened routeData operation).setAttempt
      pid (some { attempt with stage })

def recordFailure (config : RouteSaveConfig R) (pid : Nat)
    (attempt : RouteSaveAttempt R) (failure : RouteApiError) : RouteSaves R :=
  let request := attempt.request
  let payloadHash := config.routeSavePayloadHash request.toRouteSavePayload
  let after :=
    match (saves.operations request.saveId).filter
        (·.isHeld attempt.leaseOwner payloadHash) with
    | none => saves
    | some operation =>
      saves.writeOperation request.saveId (some (operation.fail failure))
  after.setAttempt pid
    (some { attempt with stage := .answered (.failure failure) })

/-- What an exception leads to: a save that has claimed records it. -/
def interrupted : RouteSaveStage R → RouteSaveStage R
  | .claiming => .answered (.failure routePersistenceFailed)
  | .computing _ => .failing routePersistenceFailed
  | .committing _ _ => .failing routePersistenceFailed
  | .failing failure => .answered (.failure failure)
  | .answered answer => .answered answer

def step (config : RouteSaveConfig R) :
    System (RouteSaves R) (RouteSaveLabel R) :=
  fun saves label =>
    match label with
    | .openRoute routeId =>
      (saves.routes routeId).map fun route =>
        { saves with
          opened :=
            saves.opened ++
              [{ routeId
                 route
                 deletions := saves.deletions routeId }] }
    | .submit pid request editor => saves.submit pid request editor
    | .claim pid now rideOwnsRoute answer =>
      (saves.attempts pid).bind fun attempt =>
        match attempt.stage with
        | .claiming =>
          some (saves.claim config pid attempt now rideOwnsRoute answer)
        | _ => none
    | .compute pid computed =>
      (saves.attempts pid).bind fun attempt =>
        match attempt.stage with
        | .computing existingRoute =>
          some
            (saves.setAttempt pid
              (some
                { attempt with
                  stage :=
                    attempt.request.compute config existingRoute
                      computed }))
        | _ => none
    | .commit pid rideOwnsRoute answer =>
      (saves.attempts pid).bind fun attempt =>
        match attempt.stage with
        | .committing routeData result =>
          some
            (saves.commit config pid attempt routeData result rideOwnsRoute
              answer)
        | _ => none
    | .recordFailure pid =>
      (saves.attempts pid).bind fun attempt =>
        match attempt.stage with
        | .failing failure =>
          some (saves.recordFailure config pid attempt failure)
        | _ => none
    | .interrupt pid =>
      (saves.attempts pid).map fun attempt =>
        saves.setAttempt pid
          (some { attempt with stage := interrupted attempt.stage })
    | .crash pid => some (saves.setAttempt pid none)
    | .deleteRoute routeId =>
      (saves.routes routeId).map fun _ =>
        { saves.writeRoute routeId none with
          deletions :=
            update saves.deletions routeId
              (saves.deletions routeId + 1) }
    | .sweep saveId => some (saves.writeOperation saveId none)

end RouteSaves

end Eki
