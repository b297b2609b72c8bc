import Eki.Library.Documents
import Eki.Library.Transition
import Eki.Retention.RealtimeRecords

/-!
# The retention sweep of the realtime database

A sweep reads pages of records, dates each record by its own times or by when it
was first observed unchanged, and deletes what is old.  A geometry version also
stays while the live node points to it.  Meanwhile publishers write geometry and
point live nodes to it, and other writers of a live node change its version.
-/

namespace Eki.Retention

open Documents Transition
open Function (update)

inductive LegacyRoot where
  | users
  | messages
  deriving DecidableEq

inductive RetentionPath where
  | legacy (root : LegacyRoot) (key : String)
  | geometry (nodeKey version : String)
  deriving DecidableEq

/-- A fingerprint in the inventory, with its prefix. -/
inductive Observed (F : Type) where
  | plain (fingerprint : F)
  | unreferenced (fingerprint : F)
  | referenced (fingerprint : F)
  deriving DecidableEq

structure InventoryRecord (F : Type) where
  fingerprint : Observed F
  firstSeenAt : Int

/-- An observation, at the time of its sweep. -/
structure Observation (F : Type) where
  path : RetentionPath
  observed : Observed F
  now : Int

/-- A deletion by a sweep, the version that the live node points to, and what
had been observed when the sweep decided. -/
structure Deletion (F : Type) where
  path : RetentionPath
  value : RtdbValue
  now : Int
  time : Nat
  routeVersion : Option Nat
  observations : List (Observation F)

/-! ## Sweeps -/

abbrev Entry := String × RtdbValue

/-- What a sweep still has to do with a record that it has inspected. -/
inductive SweepItem (F : Type) where
  /-- Old enough; the observations are those of the decision. -/
  | removing (path : RetentionPath) (value : RtdbValue)
      (observations : List (Observation F))
  | forgetting (path : RetentionPath)

inductive SweepPosition where
  | legacy (root : LegacyRoot) (page : List Entry)
  | nodes (page : List (String × List Entry))
  | versions (nodeKey : String) (routeVersion : Option Nat)
      (entries : List Entry) (page : List (String × List Entry))
  | orphans (page : List RetentionPath)
  | done

structure Sweep (F : Type) where
  now : Int
  dryRun : Bool
  position : SweepPosition
  item : Option (SweepItem F) := none

/-- `String(live?.routeVersion)` -/
def versionText (routeVersion : Option Nat) : String :=
  (routeVersion.map toString).getD "undefined"

def pageSize : Nat := 25

/-! ## Publishers -/

inductive PublisherPhase where
  | claimed
  | computed (nextVersion publicationCreatedAt : Nat)
  | written (nextVersion publicationCreatedAt : Nat)
  | finished
  deriving DecidableEq

structure Publisher where
  nodeKey : String
  expectedVersion : Nat
  phase : PublisherPhase := .claimed
  deriving DecidableEq

/-- What a publisher says of its geometry. -/
structure GeometryDetails where
  polyline : String
  routeId : String
  direction : String
  sessionId : String
  firstStopIndex : Nat

def GeometryDetails.record (details : GeometryDetails)
    (nextVersion publicationCreatedAt createdAt : Nat) : RtdbValue :=
  .object
    (.cons "computedAt" (.number publicationCreatedAt)
    (.cons "createdAt" (.number createdAt)
    (.cons "direction" (.text details.direction)
    (.cons "firstStopIndex" (.number details.firstStopIndex)
    (.cons "polyline" (.text details.polyline)
    (.cons "routeId" (.text details.routeId)
    (.cons "routeVersion" (.number nextVersion)
    (.cons "sessionId" (.text details.sessionId)
    (.cons "source" (.text "dynamic-reroute") .nil)))))))))

/-! ## The database -/

structure LiveNode where
  routeVersion : Option Nat := none
  deriving DecidableEq

/-- A time that the clock can show. -/
structure Epoch where
  ms : Nat
  recent : minTimestamp ≤ ms
  representable : ms ≤ 8640000000000000

/-- The records, the live nodes and the versions in the checkpoints of their
sessions; the inventory of the sweeps; who is at work; and what was observed and
deleted so far, the last first. -/
structure RtdbWorld (F : Type) where
  time : Nat
  legacy : LegacyRoot → Collection RtdbValue
  geometry : String → Collection RtdbValue
  live : String → Option LiveNode
  checkpoints : String → List Nat
  inventory : RetentionPath → Option (InventoryRecord F)
  sweeps : List (Sweep F)
  publishers : List Publisher
  observations : List (Observation F)
  deletions : List (Deletion F)

namespace RtdbWorld

variable {F : Type}

def start (epoch : Epoch) (legacy : LegacyRoot → Collection RtdbValue)
    (geometry : String → Collection RtdbValue)
    (live : String → Option LiveNode) (checkpoints : String → List Nat) :
    RtdbWorld F where
  time := epoch.ms
  legacy := legacy
  geometry := geometry
  live := live
  checkpoints := checkpoints
  inventory := fun _ => none
  sweeps := []
  publishers := []
  observations := []
  deletions := []

def stored (world : RtdbWorld F) : RetentionPath → Option RtdbValue
  | .legacy root key => (world.legacy root).lookup key
  | .geometry nodeKey version => (world.geometry nodeKey).lookup version

def erase (path : RetentionPath) (world : RtdbWorld F) : RtdbWorld F :=
  match path with
  | .legacy root key =>
    { world with
      legacy :=
        update world.legacy root ((world.legacy root).erase key) }
  | .geometry nodeKey version =>
    { world with
      geometry :=
        update world.geometry nodeKey
          ((world.geometry nodeKey).erase version) }

def routeVersion (world : RtdbWorld F) (nodeKey : String) : Option Nat :=
  (world.live nodeKey).bind LiveNode.routeVersion

def pointed (world : RtdbWorld F) : RetentionPath → Option Nat
  | .legacy _ _ => none
  | .geometry nodeKey _ => world.routeVersion nodeKey

def setSweep (index : Nat) (sweep : Sweep F) (world : RtdbWorld F) :
    RtdbWorld F :=
  { world with sweeps := world.sweeps.set index sweep }

def setLive (nodeKey : String) (live : Option LiveNode)
    (world : RtdbWorld F) : RtdbWorld F :=
  { world with live := update world.live nodeKey live }

/-! ### The sweep -/

variable [DecidableEq F] (tools : RetentionTools F)

def observedAt (path : RetentionPath) (observed : Observed F) (now : Int)
    (world : RtdbWorld F) : Int :=
  ((world.inventory path).filter fun record =>
    decide (record.fingerprint = observed) &&
      isSafeInteger record.firstSeenAt).elim now InventoryRecord.firstSeenAt

def observe (path : RetentionPath) (observed : Observed F) (now : Int)
    (dryRun : Bool) (world : RtdbWorld F) : RtdbWorld F :=
  if dryRun then world
  else
    { world with
      inventory :=
        update world.inventory path
          (some
            { fingerprint := observed
              firstSeenAt := world.observedAt path observed now })
      observations := { path, observed, now } :: world.observations }

/-- A record that is dated goes by its time, another one by its observation. -/
def isAged (now : Int) (knownTime : Option Int) (firstSeen : Int)
    (geometry : Bool) : Bool :=
  let age := knownTime.getD firstSeen
  decide (age < now - rtdbRetentionMs) && isSafeInteger age &&
    decide (minTimestamp ≤ age) &&
    !(geometry && decide (now - firstSeen < geometryPublicationGraceMs))

def inspect (index : Nat) (sweep : Sweep F) (path : RetentionPath)
    (value : RtdbValue) (knownTime : Option Int) (geometry : Bool)
    (position : SweepPosition) (world : RtdbWorld F) : RtdbWorld F :=
  let fingerprint := tools.fingerprint value
  let observed :=
    if geometry then Observed.unreferenced fingerprint else .plain fingerprint
  let firstSeen := world.observedAt path observed sweep.now
  let seen := world.observe path observed sweep.now sweep.dryRun
  let item :=
    if isAged sweep.now knownTime firstSeen geometry && !sweep.dryRun then
      some (SweepItem.removing path value seen.observations)
    else none
  seen.setSweep index { sweep with position, item }

/-- A page of up to so many records, as they are now. -/
def readPage (keys : List String) (sweep : Sweep F) (world : RtdbWorld F) :
    Option SweepPosition :=
  match sweep.position with
  | .legacy root [] =>
    some (.legacy root (keys.filterMap fun key =>
      ((world.legacy root).lookup key).map fun value => (key, value)))
  | .nodes [] =>
    some (.nodes (keys.map fun nodeKey =>
      (nodeKey, (world.geometry nodeKey).entries.map fun entry =>
        (entry.1, entry.2))))
  | _ => none

/-- After the last page of a loop comes the next loop. -/
def nextPosition : SweepPosition → Option SweepPosition
  | .legacy .users [] => some (.legacy .messages [])
  | .legacy .messages [] => some (.nodes [])
  | .versions _ _ [] page => some (.nodes page)
  | .nodes [] => some (.orphans [])
  | .orphans [] => some .done
  | _ => none

def visitNext (index : Nat) (sweep : Sweep F) (world : RtdbWorld F) :
    Option (RtdbWorld F) :=
  match sweep.position with
  | .legacy root (entry :: page) =>
    match tools.newestRecordTimestamp entry.2 with
    | none =>
      some (world.setSweep index { sweep with position := .legacy root page })
    | some lastActivity =>
      some (world.inspect tools index sweep (.legacy root entry.1) entry.2
        lastActivity false (.legacy root page))
  | .nodes ((nodeKey, entries) :: page) =>
    some (world.setSweep index
      { sweep with
        position :=
          .versions nodeKey (world.routeVersion nodeKey) entries page })
  | .versions nodeKey routeVersion (entry :: entries) page =>
    let position := SweepPosition.versions nodeKey routeVersion entries page
    let path := RetentionPath.geometry nodeKey entry.1
    if versionText routeVersion = entry.1 then
      let seen := world.observe path
        (.referenced (tools.fingerprint entry.2)) sweep.now sweep.dryRun
      some (seen.setSweep index { sweep with position })
    else
      some (world.inspect tools index sweep path entry.2
        (tools.geometryTime entry.1 entry.2) true position)
  | .orphans (path :: page) =>
    let item :=
      if !sweep.dryRun && (world.stored path).isNone then
        some (SweepItem.forgetting path)
      else none
    some (world.setSweep index { sweep with position := .orphans page, item })
  | _ => none

/-- The transaction deletes the record if it is what was inspected. -/
def removeIfUnchanged (index : Nat) (sweep : Sweep F) (path : RetentionPath)
    (value : RtdbValue) (observations : List (Observation F))
    (world : RtdbWorld F) : RtdbWorld F :=
  match (world.stored path).filter fun current =>
      decide (tools.fingerprint current = tools.fingerprint value) with
  | none => world.setSweep index { sweep with item := none }
  | some current =>
    let erased := world.erase path
    { erased.setSweep index { sweep with item := some (.forgetting path) }
      with
      deletions :=
        { path
          value := current
          now := sweep.now
          time := world.time
          routeVersion := world.pointed path
          observations } :: world.deletions }

/-- What is left to do with the inspected record. -/
def finishItem (index : Nat) (sweep : Sweep F) (world : RtdbWorld F) :
    Option (RtdbWorld F) :=
  match sweep.item with
  | none => none
  | some (.removing path value observations) =>
    some (world.removeIfUnchanged tools index sweep path value observations)
  | some (.forgetting path) =>
    some
      { world.setSweep index { sweep with item := none } with
        inventory := update world.inventory path none }

/-! ### Publications and live nodes -/

/-- A version of a live node counts from one. -/
def validVersion (routeVersion : Option Nat) : Option Nat :=
  routeVersion.filter fun version =>
    decide (0 < version) && isSafeInteger version

/-- The version that a telemetry match gives a live node. -/
def matchedVersion (previous : Option Nat)
    (contextChanged missingDynamicGeometry : Bool) : Nat :=
  ((validVersion previous).elim 1 fun version =>
    version + if contextChanged then 1 else 0) +
    if !contextChanged && missingDynamicGeometry then 1 else 0

def setPublisher (index : Nat) (publisher : Publisher)
    (world : RtdbWorld F) : RtdbWorld F :=
  { world with publishers := world.publishers.set index publisher }

def writeGeometry (index : Nat) (publisher : Publisher)
    (details : GeometryDetails) (world : RtdbWorld F) :
    Option (RtdbWorld F) :=
  match publisher.phase with
  | .computed nextVersion publicationCreatedAt =>
    some
      { world.setPublisher index
          { publisher with
            phase := .written nextVersion publicationCreatedAt } with
        geometry :=
          update world.geometry publisher.nodeKey
            ((world.geometry publisher.nodeKey).insert
              (toString nextVersion)
              (details.record nextVersion publicationCreatedAt world.time)) }
  | _ => none

/-- The activation; `current` is what the node says of the request. -/
def activateReroute (index : Nat) (publisher : Publisher) (current : Bool)
    (world : RtdbWorld F) : Option (RtdbWorld F) :=
  match publisher.phase with
  | .written nextVersion publicationCreatedAt =>
    let finished := world.setPublisher index
      { publisher with phase := .finished }
    if current &&
        geometryPublicationIsFresh publicationCreatedAt world.time &&
        world.routeVersion publisher.nodeKey ==
          some publisher.expectedVersion then
      some (finished.setLive publisher.nodeKey
        (some { routeVersion := some nextVersion }))
    else some finished
  | _ => none

end RtdbWorld

inductive RetentionLabel where
  | startSweep (now : Nat) (dryRun legacyRetired : Bool)
  | readPage (sweep : Nat) (keys : List String)
  | readOrphans (sweep : Nat) (paths : List RetentionPath)
  | nextLoop (sweep : Nat)
  | visit (sweep : Nat)
  | finish (sweep : Nat)
  /-- The deleting transaction aborts, on an empty local cache for one. -/
  | abort (sweep : Nat)
  | stop (sweep : Nat)
  | claim (nodeKey : String)
  | compute (publisher : Nat)
  | write (publisher : Nat) (details : GeometryDetails)
  | activate (publisher : Nat) (current : Bool)
  | rematch (nodeKey : String) (contextChanged missingDynamicGeometry : Bool)
  | checkpoint (nodeKey : String)
  | restore (nodeKey : String) (lastRouteVersion : Nat)
  /-- A new session begins without a route context. -/
  | clear (nodeKey : String)
  /-- A direction reset keeps a valid version. -/
  | resetDirection (nodeKey : String)
  | disappear (nodeKey : String)
  | writeLegacy (root : LegacyRoot) (key : String) (value : Option RtdbValue)
  | advance (ms : Nat)

namespace RtdbWorld

variable {F : Type} [DecidableEq F]

/-- A sweep that is not about to deal with an inspected record. -/
def idleSweep (index : Nat) (world : RtdbWorld F) : Option (Sweep F) :=
  (world.sweeps[index]?).filter fun sweep => sweep.item.isNone

/-- The version that a live node gets from a restored session. -/
def restoredVersion (lastRouteVersion : Nat) (before : Option Nat) :
    Option Nat :=
  if (validVersion (some lastRouteVersion)).isSome then
    some (lastRouteVersion + 1)
  else before

def step (tools : RetentionTools F) :
    System (RtdbWorld F) RetentionLabel := fun world label =>
  match label with
  | .startSweep now dryRun legacyRetired =>
    if now ≤ world.time then
      let position :=
        if legacyRetired then SweepPosition.legacy .users [] else .nodes []
      some
        { world with
          sweeps := world.sweeps ++ [{ now, dryRun, position }] }
    else none
  | .readPage index keys =>
    (world.idleSweep index).bind fun sweep =>
      if keys.length ≤ pageSize then
        (world.readPage keys sweep).map fun position =>
          world.setSweep index { sweep with position }
      else none
  | .readOrphans index paths =>
    (world.idleSweep index).bind fun sweep =>
      match sweep.position with
      | .orphans [] =>
        if paths.length ≤ pageSize then
          some (world.setSweep index
            { sweep with
              position := .orphans (paths.filter fun path =>
                (world.inventory path).isSome) })
        else none
      | _ => none
  | .nextLoop index =>
    (world.idleSweep index).bind fun sweep =>
      (nextPosition sweep.position).map fun position =>
        world.setSweep index { sweep with position }
  | .visit index =>
    (world.idleSweep index).bind fun sweep =>
      world.visitNext tools index sweep
  | .finish index =>
    (world.sweeps[index]?).bind fun sweep =>
      world.finishItem tools index sweep
  | .abort index =>
    (world.sweeps[index]?).map fun sweep =>
      world.setSweep index { sweep with item := none }
  | .stop index =>
    (world.sweeps[index]?).map fun sweep =>
      world.setSweep index { sweep with position := .done, item := none }
  | .claim nodeKey =>
    (world.routeVersion nodeKey).map fun expectedVersion =>
      { world with
        publishers := world.publishers ++ [{ nodeKey, expectedVersion }] }
  | .compute index =>
    ((world.publishers[index]?).filter fun publisher =>
      decide (publisher.phase = .claimed)).map fun publisher =>
        world.setPublisher index
          { publisher with
            phase :=
              .computed (max (publisher.expectedVersion + 1) world.time)
                world.time }
  | .write index details =>
    (world.publishers[index]?).bind fun publisher =>
      world.writeGeometry index publisher details
  | .activate index current =>
    (world.publishers[index]?).bind fun publisher =>
      world.activateReroute index publisher current
  | .rematch nodeKey contextChanged missingDynamicGeometry =>
    (world.live nodeKey).map fun live =>
      world.setLive nodeKey
        (some
          { routeVersion :=
              some (matchedVersion live.routeVersion contextChanged
                missingDynamicGeometry) })
  | .checkpoint nodeKey =>
    some
      { world with
        checkpoints :=
          update world.checkpoints nodeKey
            ((validVersion (world.routeVersion nodeKey)).getD 0 ::
              world.checkpoints nodeKey) }
  | .restore nodeKey lastRouteVersion =>
    if (world.checkpoints nodeKey).contains lastRouteVersion then
      some (world.setLive nodeKey
        (some
          { routeVersion :=
              restoredVersion lastRouteVersion
                (world.routeVersion nodeKey) }))
    else none
  | .clear nodeKey => some (world.setLive nodeKey (some {}))
  | .resetDirection nodeKey =>
    some (world.setLive nodeKey
      ((world.live nodeKey).map fun live =>
        { routeVersion := validVersion live.routeVersion }))
  | .disappear nodeKey => some (world.setLive nodeKey none)
  | .writeLegacy root key value =>
    some
      { world with
        legacy :=
          update world.legacy root
            (value.elim ((world.legacy root).erase key)
              fun value => (world.legacy root).insert key value) }
  | .advance ms =>
    if world.time + ms ≤ 8640000000000000 then
      some { world with time := world.time + ms }
    else none

end RtdbWorld

end Eki.Retention
