import Eki.Feedback.Policy
import Eki.Library.Transition
import Eki.Ride.Records
import Eki.Trip.JsValue

/-!
# Last known locations

The last accepted fix of a bus is kept twice: with the session that it was
taken in, and in `bus_locations`.  Both are written when a receiver goes
offline, the first one also when a ride is completed or stopped.  Every writer
compares its fix with the session's copy; none reads the other one.
-/

namespace Eki.Fleet

open Transition
open Function (update)

variable {R : Type} [JsNumber R]

/-- A raw fix as it is kept, with its number and when it was received. -/
structure KnownLocation (R : Type) where
  lat : R
  lng : R
  sampledAt : R
  seq : Option R
  receivedAt : Option R
  deriving DecidableEq

/-- `rawLocation`, if it is an object, or else the node itself. -/
def rawFix (data : JsRecord R) : JsRecord R :=
  match data.get "rawLocation" with
  | .object fields => fields
  | .array _ => []
  | _ => data

def coordinate (limit : R) : JsValue R → Option R
  | .number value =>
    if JsNumber.isFinite value && !decide (limit < JsNumber.abs value) then
      some value
    else none
  | _ => none

def sampleTime : JsValue R → Option R
  | .number value =>
    if JsNumber.isFinite value && !decide (value ≤ 0) then some value
    else none
  | _ => none

def sequenceNumber : JsValue R → Option R
  | .number value =>
    if JsNumber.isSafeInteger value then some value else none
  | _ => none

def receivedTime : JsValue R → Option R
  | .number value => some value
  | _ => none

/-- The raw, last accepted fix of a node. -/
def journeyLocation (data : JsRecord R) : Option (KnownLocation R) :=
  let raw := rawFix data
  match coordinate 90 (raw.get "lat"), coordinate 180 (raw.get "lng"),
    sampleTime ((raw.get "sampledAt").orElse (data.get "timestamp")) with
  | some lat, some lng, some sampledAt =>
    some
      { lat
        lng
        sampledAt
        seq := sequenceNumber ((raw.get "seq").orElse (data.get "seq"))
        receivedAt := receivedTime (data.get "backendReceivedAt") }
  | _, _, _ => none

/-- Both numbers are known and the fix has the lower one. -/
def KnownLocation.lowerSeq (location prior : KnownLocation R) : Bool :=
  location.seq.any fun seq =>
    prior.seq.any fun priorSeq => decide (seq < priorSeq)

/-- The fix of a node, unless the existing one is newer. -/
def newerJourneyLocation (data : JsRecord R)
    (existing : Option (KnownLocation R)) : Option (KnownLocation R) :=
  (journeyLocation data).filter fun location =>
    !decide (location.sampledAt <
        (existing.map KnownLocation.sampledAt).getD 0) &&
      !existing.any fun prior =>
        location.sampledAt == prior.sampledAt && location.lowerSeq prior

def normalizeIdentifier : JsValue R → Option String
  | .string text =>
    if safeId (Feedback.trim text) then some (Feedback.trim text) else none
  | _ => none

/-- The documents that the writers of a location read, and its two copies. -/
structure LocationStore (R : Type) where
  sessions : String → Option RideSession
  locks : String → Option BusLock
  sessionLocations : String → Option (KnownLocation R)
  busLocations : String → Option (KnownLocation R)

def LocationStore.empty : LocationStore R :=
  { sessions := fun _ => none
    locks := fun _ => none
    sessionLocations := fun _ => none
    busLocations := fun _ => none }

/-- A manual stop by the ride's driver, or by an administrator without one. -/
structure LocationStop where
  driverId : Option String
  busId : String
  routeId : String
  sessionId : String

namespace LocationStore

variable (store : LocationStore R)

def lockSessionId (busId : String) : Option String :=
  (lockSession (store.locks busId)).bind fun sessionId =>
    normalizeIdentifier (R := R) (.string sessionId)

def sessionCopy (sessionId : String) : Option (KnownLocation R) :=
  (store.sessions sessionId).bind fun _ => store.sessionLocations sessionId

/-- Keep the fix of a node in both copies, unless the session's one is newer;
without a session there is nothing to compare it with. -/
def record (data : JsRecord R) (busId : String) (sessionId : Option String) :
    LocationStore R :=
  match newerJourneyLocation data (sessionId.bind store.sessionCopy) with
  | none => store
  | some location =>
    { store with
      busLocations :=
        update store.busLocations busId (some location)
      sessionLocations :=
        match sessionId.filter fun id => (store.sessions id).isSome with
        | none => store.sessionLocations
        | some id =>
          update store.sessionLocations id (some location) }

/-- The bus and the session for which `persistFleetState` keeps a fix: those of
an offline receiver whose stored session holds the lock. -/
def fleetTarget (data : JsRecord R) : Option (String × Option String) :=
  match normalizeIdentifier (data.get "busId"),
    normalizeIdentifier (data.get "sessionId") with
  | some busId, some sessionId =>
    if store.lockSessionId busId != some sessionId ||
        !(data.get "deviceState").isText "offline" ||
        (store.sessions sessionId).isNone then
      none
    else some (busId, some sessionId)
  | _, _ => none

/-- The bus and the session for which `persistOfflineFleetState` keeps a fix,
unless another session has the lock. -/
def offlineTarget (data : JsRecord R) : Option (String × Option String) :=
  (normalizeIdentifier (data.get "busId")).bind fun busId =>
    let expected := normalizeIdentifier (data.get "sessionId")
    if (store.locks busId).isSome &&
        (expected.isNone || store.lockSessionId busId != expected) then
      none
    else some (busId, expected)

def persistFleetState (data : JsRecord R) : LocationStore R :=
  match store.fleetTarget data with
  | none => store
  | some (busId, sessionId) => store.record data busId sessionId

/-- For a live offline node, a swept node and a removed one. -/
def persistOfflineFleetState (data : JsRecord R) : LocationStore R :=
  match store.offlineTarget data with
  | none => store
  | some (busId, sessionId) => store.record data busId sessionId

def endRide (sessionId busId : String) (status : SessionStatus)
    (data : Option (JsRecord R)) : LocationStore R :=
  { store with
    sessions :=
      update store.sessions sessionId
        ((store.sessions sessionId).map fun session =>
          { session with status })
    locks :=
      if lockSession (store.locks busId) == some sessionId then
        update store.locks busId none
      else store.locks
    sessionLocations :=
      match data.bind fun fix =>
        newerJourneyLocation fix (store.sessionCopy sessionId) with
      | none => store.sessionLocations
      | some location =>
        update store.sessionLocations sessionId (some location) }

/-- The completion transaction of the engine. -/
def completeRide (data : JsRecord R) : LocationStore R :=
  match data.get "sessionId", data.get "busId" with
  | .string sessionId, .string busId =>
    if (store.sessions sessionId).any (fun session =>
          !session.status.terminal) &&
        lockSession (store.locks busId) == some sessionId then
      store.endRide sessionId busId .completed (some data)
    else store
  | _, _ => store

/-- The transaction of a manual stop; `liveAtEnd` is the node as it was read
before. -/
def stopRide (request : LocationStop) (liveAtEnd : Option (JsRecord R)) :
    LocationStore R :=
  if (store.sessions request.sessionId).any fun session =>
      request.driverId.all (· == session.driverId) &&
        session.busId == request.busId && session.routeId == request.routeId &&
        !session.status.terminal then
    store.endRide request.sessionId request.busId .interrupted
      (liveAtEnd.filter fun data =>
        (data.get "sessionId").isText request.sessionId)
  else store

end LocationStore

/-- One transaction; `other` is any writer that has no fix to keep. -/
inductive LocationLabel (R : Type) where
  | fleet (data : JsRecord R)
  | offline (data : JsRecord R)
  | complete (data : JsRecord R)
  | stop (request : LocationStop) (liveAtEnd : Option (JsRecord R))
  | other (sessions : String → Option RideSession)
      (locks : String → Option BusLock)

namespace LocationStore

/-- The events may be late, replayed or of any session. -/
def step : System (LocationStore R) (LocationLabel R) :=
  fun store label =>
    match label with
    | .fleet data => some (store.persistFleetState data)
    | .offline data => some (store.persistOfflineFleetState data)
    | .complete data => some (store.completeRide data)
    | .stop request liveAtEnd => some (store.stopRide request liveAtEnd)
    | .other sessions locks => some { store with sessions, locks }

end LocationStore

end Eki.Fleet
