import Eki.Library.Insertion
import Eki.Telemetry.Assignment

/-!
# The credential cache of a replica

A replica verifies the secret of a device against the registry and caches the
outcome, verified and rejected credentials apart.  Callers with the same
credential share one fill; a fill that was invalidated since it began publishes
nothing.  A credential that verified before is refilled in a lane of its own,
and is served for some time longer where that lane is full.  Every clock reading
is one of its own.
-/

namespace Eki.Devices

open Insertion Transition

def credentialCacheMs : Int := 60000

def credentialStaleGraceMs : Int := 600000

def negativeCacheMs : Int := 5000

def maxCredentialCacheEntries : Nat := 1000

/-- A buffer. -/
abbrev Digest := List UInt8

/-- The hash functions of the runtime. -/
structure CredentialTools where
  /-- SHA-256. -/
  sha256 : String → Digest
  /-- `scrypt` of a secret and a salt, 64 bytes. -/
  scrypt : String → String → Digest

def digestSecret (tools : CredentialTools) (secret : String) : Digest :=
  tools.sha256 secret

def hexByte (byte : UInt8) : List Char :=
  [Nat.digitChar (byte.toNat / 16), Nat.digitChar (byte.toNat % 16)]

def Digest.hex (digest : Digest) : String :=
  String.ofList (digest.flatMap hexByte)

def credentialCacheKey (deviceId : String) (secretDigest : Digest) : String :=
  deviceId ++ ":" ++ Digest.hex secretDigest

/-! ## The registry -/

/-- A document of `devices`; a hash that is no text is `none`. -/
structure CredentialDocument extends RegisteredDevice where
  secretHash : Option String := none

/-- What a refill reads of a document of `buses`. -/
structure CredentialBus where
  assignedRoutes : Option (List String) := none
  assignedRouteId : Option String := none

def CredentialBus.routes (bus : CredentialBus) : List String :=
  match bus.assignedRoutes with
  | some routes => routes
  | none => bus.assignedRouteId.toList

def hexValue (digit : Char) : Option Nat :=
  if '0' ≤ digit ∧ digit ≤ '9' then some (digit.toNat - '0'.toNat)
  else if 'a' ≤ digit ∧ digit ≤ 'f' then some (digit.toNat - 'a'.toNat + 10)
  else if 'A' ≤ digit ∧ digit ≤ 'F' then some (digit.toNat - 'A'.toNat + 10)
  else none

def isHex (length : Nat) (text : List Char) : Bool :=
  decide (text.length = length) && text.all fun digit =>
    (hexValue digit).isSome

/-- `Buffer.from(text, "hex")` of an even number of digits. -/
def fromHex : List Char → Digest
  | high :: low :: rest =>
    UInt8.ofNat ((hexValue high).getD 0 * 16 + (hexValue low).getD 0) ::
      fromHex rest
  | _ => []

def storedHash (encodedHash : Option String) : Option (String × Digest) :=
  (encodedHash.map fun encoded => encoded.toList.splitOn ':').bind fun parts =>
    match parts with
    | [candidateSalt, candidateKey] =>
      if isHex 32 candidateSalt && isHex 128 candidateKey then
        some (String.ofList candidateSalt, fromHex candidateKey)
      else none
    | _ => none

/-- A hash that is not well formed is compared as well, and never matches. -/
def verifyDeviceSecretHash (tools : CredentialTools) (secret : String)
    (encodedHash : Option String) : Bool :=
  (storedHash encodedHash).any fun stored =>
    tools.scrypt secret stored.1 == stored.2

/-! ## The caches -/

/-- Every writer of an entry sets its digest. -/
structure CredentialCacheEntry where
  assignment : Option DeviceAssignment
  unassigned : Bool
  secretDigest : Digest
  expiresAt : Int
  expiresMonotonicAt : Int
  deriving DecidableEq

structure Publication where
  deviceId : String
  entry : CredentialCacheEntry
  readBegan : Nat
  step : Nat
  deriving DecidableEq

def Publication.key (publication : Publication) : String :=
  credentialCacheKey publication.deviceId publication.entry.secretDigest

abbrev CredentialEntries := OrderedMap String Publication

inductive DeviceCredentialResult where
  | invalid
  | unassigned
  | assigned (assignment : DeviceAssignment)
  deriving DecidableEq

def CredentialCacheEntry.answer (cached : CredentialCacheEntry)
    (suppliedDigest : Digest) : DeviceCredentialResult :=
  if suppliedDigest = cached.secretDigest then
    match cached.assignment with
    | some assignment => .assigned assignment
    | none => if cached.unassigned then .unassigned else .invalid
  else .invalid

/-! ## Fills -/

inductive FillError where
  /-- `SingleFlightCapacityError`. -/
  | capacity
  /-- `WorkCapacityError`. -/
  | workCapacity
  /-- `SingleFlightDeadlineError`. -/
  | deadline
  /-- `DeviceCredentialVerificationInvalidatedError`. -/
  | invalidated
  /-- What a dependency throws. -/
  | other
  deriving DecidableEq

inductive FillPhase where
  | created
  /-- The registry read is under way. -/
  | reading (readBegan : Nat) (fillStartedAt : Int)
  /-- The key derivation is under way. -/
  | verifying (readBegan : Nat) (fillStartedAt : Int)
      (device : Option CredentialDocument)
  /-- The reads of the bus and the route are under way. -/
  | resolving (readBegan : Nat) (fillStartedAt : Int)
      (assignment : DeviceAssignment)
  | settled (outcome : Except FillError DeviceCredentialResult)

def FillPhase.readBegan : FillPhase → Option Nat
  | .created => none
  | .reading readBegan _ => some readBegan
  | .verifying readBegan _ _ => some readBegan
  | .resolving readBegan _ _ => some readBegan
  | .settled _ => none

def FillPhase.mayFail : FillPhase → FillError → Bool
  | .reading .., .other | .resolving .., .other => true
  | .verifying .., .workCapacity | .verifying .., .deadline |
      .verifying .., .other => true
  | _, _ => false

structure Fill where
  reserved : Bool
  deviceId : String
  secret : String
  now : Int
  startedAt : Int
  current : Bool := true
  waiters : Nat := 0
  phase : FillPhase := .created
  /-- The flight is still in the map of its lane. -/
  held : Bool := true

def responseMs : Int := 5000

def maxWaitersPerFill : Nat := 64

/-- Verified credentials have a lane of their own. -/
def maxFills (reserved : Bool) : Nat :=
  if reserved then 8 else 16

def Fill.key (tools : CredentialTools) (fill : Fill) : String :=
  credentialCacheKey fill.deviceId (digestSecret tools fill.secret)

def Fill.isCurrent (fill : Fill) (reading : Int) : Bool :=
  fill.current && decide (reading - fill.startedAt < responseMs)

/-! ## Callers -/

inductive CallerPhase where
  | waiting (fill : Nat)
  | threw (error : FillError)
  | done
  deriving DecidableEq

structure Caller where
  deviceId : String
  secret : String
  now : Int
  previouslyVerified : Option Publication
  reserved : Bool
  phase : CallerPhase

inductive AnswerSource where
  | refused
  | cached (publication : Publication)
  | filled
  | staleGrace (publication : Publication)
  deriving DecidableEq

def AnswerSource.publication : AnswerSource → Option Publication
  | .refused => none
  | .cached publication => some publication
  | .filled => none
  | .staleGrace publication => some publication

structure CredentialAnswer where
  deviceId : String
  result : DeviceCredentialResult
  source : AnswerSource
  step : Nat
  deriving DecidableEq

structure Invalidation where
  scope : Option String
  step : Nat
  deriving DecidableEq

def Invalidation.covers (invalidation : Invalidation) (deviceId : String) :
    Bool :=
  invalidation.scope.all fun scope => scope == deviceId

def Invalidation.deletes (invalidation : Invalidation) (key : String) : Bool :=
  invalidation.scope.all fun scope =>
    (scope ++ ":").toList.isPrefixOf key.toList

/-! ## A replica -/

/-- The caches, the flights and the callers of a replica; and the steps taken,
with what was invalidated, published and answered so far, the last first. -/
structure CredentialReplica where
  credentialCache : CredentialEntries
  rejectedCredentialCache : CredentialEntries
  fills : List Fill
  callers : List Caller
  time : Nat
  invalidations : List Invalidation
  publications : List Publication
  answers : List CredentialAnswer

namespace CredentialReplica

def start : CredentialReplica where
  credentialCache := .empty
  rejectedCredentialCache := .empty
  fills := []
  callers := []
  time := 0
  invalidations := []
  publications := []
  answers := []

def setFill (index : Nat) (fill : Fill) (replica : CredentialReplica) :
    CredentialReplica :=
  { replica with fills := replica.fills.set index fill }

def setCaller (index : Nat) (caller : Caller) (replica : CredentialReplica) :
    CredentialReplica :=
  { replica with callers := replica.callers.set index caller }

def record (deviceId : String) (result : DeviceCredentialResult)
    (source : AnswerSource) (replica : CredentialReplica) :
    CredentialReplica :=
  { replica with
    answers :=
      { deviceId, result, source, step := replica.time } :: replica.answers }

def cacheCredential (cacheKey : String) (value : Publication)
    (replica : CredentialReplica) : CredentialReplica :=
  if value.entry.assignment.isSome then
    { replica with
      rejectedCredentialCache :=
        replica.rejectedCredentialCache.delete cacheKey
      credentialCache := replica.credentialCache.setWithin
        maxCredentialCacheEntries cacheKey value }
  else
    { replica with
      credentialCache := replica.credentialCache.delete cacheKey
      rejectedCredentialCache := replica.rejectedCredentialCache.setWithin
        maxCredentialCacheEntries cacheKey value }

/-! ### Single flights -/

def flight (tools : CredentialTools) (reserved : Bool) (key : String)
    (replica : CredentialReplica) : Option Nat :=
  replica.fills.findIdx? fun fill =>
    fill.held && fill.reserved == reserved && fill.key tools == key

def activeFills (reserved : Bool) (replica : CredentialReplica) : Nat :=
  replica.fills.countP fun fill => fill.held && fill.reserved == reserved

/-- A caller joins a flight. -/
def join (index : Nat) (joinedAt : Int) (replica : CredentialReplica) :
    Except FillError Nat × CredentialReplica :=
  match replica.fills[index]? with
  | none => (.error .other, replica)
  | some fill =>
    if fill.waiters ≥ maxWaitersPerFill then (.error .capacity, replica)
    else if responseMs - (joinedAt - fill.startedAt) ≤ 0 then
      (.error .deadline, replica)
    else
      (.ok index,
        replica.setFill index { fill with waiters := fill.waiters + 1 })

/-- What a caller does before it waits: it joins the flight of its key, or
starts one that it joins. -/
def fillDeviceCredentials (tools : CredentialTools) (reserved : Bool)
    (deviceId secret : String) (now createdAt joinedAt : Int)
    (replica : CredentialReplica) :
    Except FillError Nat × CredentialReplica :=
  let key := credentialCacheKey deviceId (digestSecret tools secret)
  match replica.flight tools reserved key with
  | some index => replica.join index joinedAt
  | none =>
    if replica.activeFills reserved ≥ maxFills reserved then
      (.error .capacity, replica)
    else
      let fill : Fill :=
        { reserved, deviceId, secret, now, startedAt := createdAt }
      { replica with fills := replica.fills ++ [fill] }.join
        replica.fills.length joinedAt

/-! ### Callers -/

def cached (cacheKey : String) (replica : CredentialReplica) :
    Option Publication :=
  (replica.credentialCache.get cacheKey).or
    (replica.rejectedCredentialCache.get cacheKey)

/-- A pair that verified before is refilled in the reserved lane. -/
def isReserved (suppliedDigest : Digest)
    (previouslyVerified : Option Publication) : Bool :=
  previouslyVerified.any fun previous =>
    previous.entry.assignment.isSome &&
      suppliedDigest == previous.entry.secretDigest

def checkDeviceCredentials (tools : CredentialTools)
    (deviceId secret : String) (now cachedAt createdAt joinedAt : Int)
    (replica : CredentialReplica) : CredentialReplica :=
  if reservedDocumentId deviceId then
    replica.record deviceId .invalid .refused
  else
    let suppliedDigest := digestSecret tools secret
    let cacheKey := credentialCacheKey deviceId suppliedDigest
    match (replica.cached cacheKey).filter fun cached =>
        decide (cached.entry.expiresAt > now) &&
          decide (cached.entry.expiresMonotonicAt > cachedAt) with
    | some cached =>
      replica.record deviceId (cached.entry.answer suppliedDigest)
        (.cached cached)
    | none =>
      let previouslyVerified := replica.credentialCache.get cacheKey
      let reserved := isReserved suppliedDigest previouslyVerified
      let joined := replica.fillDeviceCredentials tools reserved deviceId
        secret now createdAt joinedAt
      let phase :=
        match joined.1 with
        | .ok fill => CallerPhase.waiting fill
        | .error error => .threw error
      { joined.2 with
        callers := joined.2.callers ++
          [{ deviceId, secret, now, previouslyVerified, reserved, phase }] }

def leave (index fill : Nat) (caller : Caller) (phase : CallerPhase)
    (replica : CredentialReplica) : CredentialReplica :=
  match replica.fills[fill]? with
  | none => replica.setCaller index { caller with phase }
  | some flight =>
    (replica.setFill fill { flight with waiters := flight.waiters - 1 }).setCaller
      index { caller with phase }

/-- The promise of a flight has settled; its value comes too late after the
response deadline. -/
def wake (index : Nat) (wokenAt : Int) (replica : CredentialReplica) :
    Option CredentialReplica := do
  let caller ← replica.callers[index]?
  match caller.phase with
  | .waiting fill =>
    let flight ← replica.fills[fill]?
    guard (!flight.held)
    match flight.phase with
    | .settled (.error error) =>
      some (replica.leave index fill caller (.threw error))
    | .settled (.ok result) =>
      if wokenAt - flight.startedAt ≥ responseMs then
        some (replica.leave index fill caller (.threw .deadline))
      else
        some ((replica.leave index fill caller .done).record
          caller.deviceId result .filled)
    | _ => none
  | _ => none

/-- The timer of a caller fires before its flight settles. -/
def timeout (index : Nat) (replica : CredentialReplica) :
    Option CredentialReplica := do
  let caller ← replica.callers[index]?
  match caller.phase with
  | .waiting fill =>
    some (replica.leave index fill caller (.threw .deadline))
  | _ => none

/-- An expired entry that was never invalidated may answer for some time while
its reserved lane is full. -/
def staleGrace (tools : CredentialTools) (caller : Caller) (error : FillError)
    (caughtAt : Int) (replica : CredentialReplica) : Option Publication :=
  caller.previouslyVerified.filter fun previous =>
    caller.reserved && previous.entry.assignment.isSome &&
      replica.credentialCache.get (credentialCacheKey caller.deviceId
        (digestSecret tools caller.secret)) == some previous &&
      (error == .capacity || error == .workCapacity) &&
      decide (previous.entry.expiresAt + credentialStaleGraceMs > caller.now) &&
      decide (previous.entry.expiresMonotonicAt + credentialStaleGraceMs >
        caughtAt)

/-- A caller handles the error that it waited for; without an entry to answer
with, it throws the error again. -/
def recover (tools : CredentialTools) (index : Nat) (caughtAt : Int)
    (replica : CredentialReplica) : Option CredentialReplica := do
  let caller ← replica.callers[index]?
  match caller.phase with
  | .threw error =>
    let handled := replica.setCaller index { caller with phase := .done }
    match replica.staleGrace tools caller error caughtAt with
    | none => some handled
    | some previous =>
      some (handled.record caller.deviceId
        ((previous.entry.assignment.map .assigned).getD .invalid)
        (.staleGrace previous))
  | _ => none

/-! ### The work of a fill -/

def settleWith (index : Nat) (fill : Fill)
    (outcome : Except FillError DeviceCredentialResult)
    (replica : CredentialReplica) : CredentialReplica :=
  replica.setFill index { fill with phase := .settled outcome }

/-- The last thing that the work of a fill does. -/
def publish (tools : CredentialTools) (index : Nat) (fill : Fill)
    (readBegan : Nat) (fillStartedAt : Int)
    (assignment : Option DeviceAssignment) (unassigned : Bool)
    (publishedAt : Int) (replica : CredentialReplica) : CredentialReplica :=
  let span := if assignment.isSome then credentialCacheMs else negativeCacheMs
  let result :=
    match assignment with
    | some assignment => DeviceCredentialResult.assigned assignment
    | none => if unassigned then .unassigned else .invalid
  let publication : Publication :=
    { deviceId := fill.deviceId
      entry :=
        { assignment
          unassigned
          secretDigest := digestSecret tools fill.secret
          expiresAt := fill.now + span
          expiresMonotonicAt := fillStartedAt + span }
      readBegan
      step := replica.time }
  if fill.isCurrent publishedAt then
    let settled := (replica.cacheCredential (fill.key tools)
      publication).settleWith index fill (.ok result)
    { settled with publications := publication :: settled.publications }
  else replica.settleWith index fill (.error .invalidated)

/-- The work of a new flight begins with the registry read. -/
def beginFill (index : Nat) (currentAt fillStartedAt : Int)
    (replica : CredentialReplica) : Option CredentialReplica := do
  let fill ← replica.fills[index]?
  match fill.phase with
  | .created =>
    if fill.isCurrent currentAt then
      some (replica.setFill index
        { fill with phase := .reading replica.time fillStartedAt })
    else some (replica.settleWith index fill (.error .deadline))
  | _ => none

/-- The registry read returns what it finds. -/
def readDevice (index : Nat) (device : Option CredentialDocument)
    (assertedAt : Int) (replica : CredentialReplica) :
    Option CredentialReplica := do
  let fill ← replica.fills[index]?
  match fill.phase with
  | .reading readBegan fillStartedAt =>
    if fill.isCurrent assertedAt then
      some (replica.setFill index
        { fill with phase := .verifying readBegan fillStartedAt device })
    else some (replica.settleWith index fill (.error .invalidated))
  | _ => none

/-- The key derivation returns. -/
def verified (tools : CredentialTools) (index : Nat)
    (assertedAt publishedAt : Int) (replica : CredentialReplica) :
    Option CredentialReplica := do
  let fill ← replica.fills[index]?
  match fill.phase with
  | .verifying readBegan fillStartedAt device =>
    if fill.isCurrent assertedAt then
      let secretMatches := verifyDeviceSecretHash tools fill.secret
        (device.bind CredentialDocument.secretHash)
      match (device.bind fun device => assignmentFromDevice fill.deviceId
          device.toRegisteredDevice).filter fun _ => secretMatches with
      | none =>
        let unassigned := secretMatches && device.all fun device =>
          device.enabled
        some (replica.publish tools index fill readBegan fillStartedAt none
          unassigned publishedAt)
      | some assignment =>
        some (replica.setFill index { fill with
          phase := .resolving readBegan fillStartedAt assignment })
    else some (replica.settleWith index fill (.error .invalidated))
  | _ => none

def resolved (tools : CredentialTools) (index : Nat)
    (bus : Option CredentialBus) (routeExists : Bool) (publishedAt : Int)
    (replica : CredentialReplica) : Option CredentialReplica := do
  let fill ← replica.fills[index]?
  match fill.phase with
  | .resolving readBegan fillStartedAt assignment =>
    if (bus.any fun bus => bus.routes.contains assignment.routeId) &&
        routeExists then
      some (replica.publish tools index fill readBegan fillStartedAt
        (some assignment) false publishedAt)
    else
      some (replica.publish tools index fill readBegan fillStartedAt none
        true publishedAt)
  | _ => none

/-- A read or the key derivation fails. -/
def failFill (index : Nat) (error : FillError) (replica : CredentialReplica) :
    Option CredentialReplica := do
  let fill ← replica.fills[index]?
  guard (fill.phase.mayFail error)
  some (replica.settleWith index fill (.error error))

/-- A settled flight leaves the map of its lane. -/
def settle (index : Nat) (replica : CredentialReplica) :
    Option CredentialReplica := do
  let fill ← replica.fills[index]?
  match fill.phase with
  | .settled _ => some (replica.setFill index { fill with held := false })
  | _ => none

/-! ### Invalidations -/

/-- The flights in the maps of the lanes are no longer current. -/
def invalidateFills (invalidation : Invalidation)
    (replica : CredentialReplica) : CredentialReplica :=
  { replica with
    fills := replica.fills.map fun fill =>
      if fill.held && invalidation.covers fill.deviceId then
        { fill with current := false }
      else fill }

/-- The entries of a device go, or all entries where the listener failed. -/
def invalidate (scope : Option String) (replica : CredentialReplica) :
    CredentialReplica :=
  let invalidation : Invalidation := { scope, step := replica.time }
  let stale := replica.invalidateFills invalidation
  { stale with
    credentialCache := stale.credentialCache.keep fun key =>
      !invalidation.deletes key
    rejectedCredentialCache := stale.rejectedCredentialCache.keep fun key =>
      !invalidation.deletes key
    invalidations := invalidation :: stale.invalidations }

def invalidateDeviceCredentialCache (deviceId : String)
    (replica : CredentialReplica) : CredentialReplica :=
  replica.invalidate (some deviceId)

/-- The error handler of the invalidation listener. -/
def handleError (replica : CredentialReplica) : CredentialReplica :=
  replica.invalidate none

end CredentialReplica

inductive CredentialLabel where
  | check (deviceId secret : String) (now cachedAt createdAt joinedAt : Int)
  | wake (caller : Nat) (wokenAt : Int)
  | timeout (caller : Nat)
  | recover (caller : Nat) (caughtAt : Int)
  | work (fill : Nat) (currentAt fillStartedAt : Int)
  | read (fill : Nat) (device : Option CredentialDocument) (assertedAt : Int)
  | verified (fill : Nat) (assertedAt publishedAt : Int)
  | resolved (fill : Nat) (bus : Option CredentialBus) (routeExists : Bool)
      (publishedAt : Int)
  | fail (fill : Nat) (error : FillError)
  | settle (fill : Nat)
  | invalidate (deviceId : String)
  | listenerError

namespace CredentialReplica

def act (tools : CredentialTools) (replica : CredentialReplica) :
    CredentialLabel → Option CredentialReplica
  | .check deviceId secret now cachedAt createdAt joinedAt =>
    some (replica.checkDeviceCredentials tools deviceId secret now cachedAt
      createdAt joinedAt)
  | .wake caller wokenAt => replica.wake caller wokenAt
  | .timeout caller => replica.timeout caller
  | .recover caller caughtAt => replica.recover tools caller caughtAt
  | .work fill currentAt fillStartedAt =>
    replica.beginFill fill currentAt fillStartedAt
  | .read fill device assertedAt => replica.readDevice fill device assertedAt
  | .verified fill assertedAt publishedAt =>
    replica.verified tools fill assertedAt publishedAt
  | .resolved fill bus routeExists publishedAt =>
    replica.resolved tools fill bus routeExists publishedAt
  | .fail fill error => replica.failFill fill error
  | .settle fill => replica.settle fill
  | .invalidate deviceId =>
    some (replica.invalidateDeviceCredentialCache deviceId)
  | .listenerError => some replica.handleError

def step (tools : CredentialTools) :
    System CredentialReplica CredentialLabel :=
  fun replica label => (replica.act tools label).map fun next =>
    { next with time := next.time + 1 }

end CredentialReplica

end Eki.Devices
