import Eki.Library.Transition

/-!
# Publications of a user's authorization

A publication blocks the user's authorization in Firestore and in the realtime
database, revokes the refresh tokens, writes the new claims and then activates
the new authorization under a fresh version.  The calls for one user come one
after another, but each may fail or crash anywhere, and a write that nobody
waits for any more may still take effect.
-/

namespace Eki.Authorization

open Transition
open Function (update)

/-- The custom claims of an account, and of every token issued for it. -/
structure Claims where
  role : Option String := none
  admin : Bool := false
  driverId : Option String := none
  assignedBusId : Option String := none
  authorizationVersion : Option Nat := none
  deriving DecidableEq

/-- An entry of `_userAuthorization`. -/
structure AuthorizationRecord where
  version : Nat
  role : String
  driverId : Option String := none
  assignedBusId : Option String := none
  deriving DecidableEq

def AuthorizationRecord.blocked (version : Nat) : AuthorizationRecord where
  version := version
  role := "blocked"

/-- What a caller wants to publish. -/
structure Grant where
  role : String
  admin : Bool := false
  driverId : Option String := none
  assignedBusId : Option String := none
  unblocked : role ≠ "blocked"

namespace Grant

def nextClaims (grant : Grant) (version : Nat) : Claims where
  role := some grant.role
  admin := grant.admin
  driverId := grant.driverId
  assignedBusId := grant.assignedBusId
  authorizationVersion := some version

def authorizationFor (grant : Grant) (version : Nat) :
    AuthorizationRecord where
  version := version
  role := grant.role
  driverId := grant.driverId
  assignedBusId := grant.assignedBusId

end Grant

/-! ## Where an authorization is enforced -/

def Claims.agrees (claims : Claims) (record : AuthorizationRecord) : Bool :=
  claims.authorizationVersion == some record.version &&
    claims.role == some record.role && claims.driverId == record.driverId &&
    claims.assignedBusId == record.assignedBusId

/-- The backend's check. -/
def authorizationIsCurrent (claims : Claims)
    (document mirror : Option AuthorizationRecord) : Bool :=
  claims.authorizationVersion.isSome && document.any claims.agrees &&
    mirror.any claims.agrees

/-- The check of the Firestore rules; `profileRole` is the role of the user's
profile. -/
def hasCurrentRole (token : Claims) (document : Option AuthorizationRecord)
    (profileRole : Option String) (role : String) : Bool :=
  token.role == some role && token.authorizationVersion.isSome &&
    document.any (fun record =>
      token.authorizationVersion == some record.version &&
        record.role == role) &&
    profileRole == some role

def isAdmin (token : Claims) (document : Option AuthorizationRecord)
    (profileRole : Option String) : Bool :=
  hasCurrentRole token document profileRole "admin" && token.admin

/-- A document of `drivers`, as far as the rules read it. -/
structure DriverDocument where
  authUid : String
  assignedBusId : Option String
  deriving DecidableEq

def isAssignedDriver (uid : String) (token : Claims)
    (document : Option AuthorizationRecord) (profileRole : Option String)
    (driver : Option DriverDocument) (driverId busId : String) : Bool :=
  hasCurrentRole token document profileRole "driver" &&
    token.driverId == some driverId && token.assignedBusId == some busId &&
    document.any (fun record =>
      record.driverId == some driverId &&
        record.assignedBusId == some busId) &&
    driver.any fun data =>
      data.authUid == uid && data.assignedBusId == some busId

/-- The rule of the realtime database for the administrators' fleet view. -/
def readsPublicRouteBuses (token : Claims)
    (mirror : Option AuthorizationRecord) : Bool :=
  token.admin && token.role == some "admin" &&
    token.authorizationVersion.isSome &&
    mirror.any fun record =>
      token.authorizationVersion == some record.version &&
        record.role == "admin"

/-! ## Writes -/

inductive Store where
  | firestore
  | realtime
  deriving DecidableEq

inductive Write where
  | set (store : Store) (record : AuthorizationRecord)
  /-- A write that is conditional on the version stored. -/
  | update (store : Store) (version : Nat) (value : AuthorizationRecord)
  | revokeRefreshTokens
  | setCustomUserClaims (claims : Claims)

/-- What a conditional write leaves, and whether it counts as done. -/
def updated (store : Store) (version : Nat) (value : AuthorizationRecord)
    (current : Option AuthorizationRecord) :
    Option AuthorizationRecord × Bool :=
  match current with
  | some record =>
    if record.version = version then (some value, true)
    else (some record, false)
  | none =>
    match store with
    | .firestore => (none, false)
    -- The proposal for an absent record is the blocked one.
    | .realtime =>
      (some (.blocked version), value == .blocked version)

inductive WriteState where
  | pending
  | done
  | failed
  deriving DecidableEq

inductive Stage where
  | blocking (writes : Store → WriteState)
  | revoking
  | claiming
  | activating (writes : Store → WriteState)
  | rollingBack (writes : Store → WriteState)

/-- A call of `publishUserAuthorization`. -/
structure Publication where
  version : Nat
  grant : Grant
  stage : Stage

namespace Publication

variable (publication : Publication)

def writes : Option (Store → WriteState) :=
  match publication.stage with
  | .blocking writes | .activating writes | .rollingBack writes => some writes
  | .revoking | .claiming => none

def write (store : Store) : Write :=
  match publication.stage with
  | .blocking _ => .set store (.blocked publication.version)
  | .activating _ =>
    .update store publication.version
      (publication.grant.authorizationFor publication.version)
  | .rollingBack _ =>
    .update store publication.version (.blocked publication.version)
  | .revoking => .revokeRefreshTokens
  | .claiming =>
    .setCustomUserClaims
      (publication.grant.nextClaims publication.version)

def pendingWrites : List Write :=
  match publication.writes with
  | some writes =>
    ([.firestore, .realtime].filter (writes · == .pending)).map
      publication.write
  | none => [publication.write .firestore]

def settle (store : Store) (state : WriteState) : Publication :=
  { publication with
    stage :=
      match publication.stage with
      | .blocking writes => .blocking (update writes store state)
      | .activating writes => .activating (update writes store state)
      | .rollingBack writes =>
        .rollingBack (update writes store state)
      | stage => stage }

end Publication

/-- What was acknowledged, for statements about whole runs; no step reads
it. -/
inductive Event where
  | blocked (version : Nat)
  | revoked (version : Nat)
  | claimed (version : Nat) (grant : Grant)

/-- All that there is about one user. -/
structure UserAuthorization where
  records : Store → Option AuthorizationRecord
  customClaims : Claims
  tokens : List Claims
  call : Option Publication
  /-- Writes that were dispatched and that nobody waits for. -/
  late : List Write
  published : Nat
  history : List Event

inductive Label where
  | publish (grant : Grant)
  /-- A write of the stage takes effect, or is given up with its outcome
  unknown. -/
  | settle (store : Store) (acknowledged : Bool)
  | proceed
  | revoke (acknowledged : Bool)
  | claim (acknowledged : Bool)
  | crash
  | late (n : Nat)
  | issue
  /-- A bootstrap repairs the claims of a passenger. -/
  | ensurePassengerRoleClaim

/-- The claims that a bootstrap writes; `none` where it leaves them. -/
def passengerClaims (existing : Claims) : Option Claims :=
  if existing.admin || existing.role == some "admin" ||
      existing.role == some "driver" then
    none
  else if existing.role == some "passenger" && existing.driverId.isNone &&
      existing.assignedBusId.isNone then
    none
  else
    some
      { role := some "passenger"
        authorizationVersion := existing.authorizationVersion }

namespace UserAuthorization

/-- Nothing is published yet; the claims carry no version. -/
def start (role : Option String) (admin : Bool)
    (driverId assignedBusId : Option String) : UserAuthorization where
  records := fun _ => none
  customClaims :=
    { role := role
      admin := admin
      driverId := driverId
      assignedBusId := assignedBusId }
  tokens := []
  call := none
  late := []
  published := 0
  history := []

variable (state : UserAuthorization)

def setRecord (store : Store) (record : Option AuthorizationRecord) :
    UserAuthorization :=
  { state with records := update state.records store record }

/-- The effect of a write, and whether it counts as done. -/
def apply : Write → UserAuthorization × Bool
  | .set store record => (state.setRecord store (some record), true)
  | .update store version value =>
    let result := updated store version value (state.records store)
    (state.setRecord store result.1, result.2)
  | .revokeRefreshTokens => (state, true)
  | .setCustomUserClaims claims =>
    ({ state with customClaims := claims }, true)

/-- The call has ended; its writes may still be under way. -/
def stop (publication : Publication) : UserAuthorization :=
  { state with
    call := none
    late := publication.pendingWrites ++ state.late }

def goOn (publication : Publication) (stage : Stage) : UserAuthorization :=
  { state with call := some { publication with stage } }

def allPending : Store → WriteState := fun _ => .pending

/-- The two writes of a stage have settled. -/
def proceed (publication : Publication) : Option UserAuthorization :=
  match publication.writes with
  | none => none
  | some writes =>
    if writes .firestore = .pending ∨ writes .realtime = .pending then none
    else
      let all := writes .firestore == .done && writes .realtime == .done
      some
        (match publication.stage with
        | .blocking _ =>
          if all then
            { state.goOn publication .revoking with
              history := .blocked publication.version :: state.history }
          else { state with call := none }
        | .activating _ =>
          if all then { state with call := none }
          else state.goOn publication (.rollingBack allPending)
        | _ => { state with call := none })

def step : System UserAuthorization Label
  | state, .publish grant =>
    if state.call.isSome then none
    else
      some
        { state with
          call :=
            some
              { version := state.published
                grant
                stage := .blocking allPending }
          published := state.published + 1 }
  | state, .settle store acknowledged =>
    state.call.bind fun publication =>
      if publication.writes.any (· store == .pending) then
        some
          (if acknowledged then
            let result := state.apply (publication.write store)
            { result.1 with
              call :=
                some
                  (publication.settle store
                    (if result.2 then .done else .failed)) }
          else
            { state with
              call := some (publication.settle store .failed)
              late := publication.write store :: state.late })
      else none
  | state, .proceed => state.call.bind state.proceed
  | state, .revoke acknowledged =>
    match state.call with
    | some ⟨version, grant, .revoking⟩ =>
      some
        (if acknowledged then
          { state.goOn ⟨version, grant, .revoking⟩ .claiming with
            history := .revoked version :: state.history }
        else state.stop ⟨version, grant, .revoking⟩)
    | _ => none
  | state, .claim acknowledged =>
    match state.call with
    | some ⟨version, grant, .claiming⟩ =>
      some
        (if acknowledged then
          { state.goOn ⟨version, grant, .claiming⟩
              (.activating allPending) with
            customClaims := grant.nextClaims version
            history := .claimed version grant :: state.history }
        else state.stop ⟨version, grant, .claiming⟩)
    | _ => none
  | state, .crash => state.call.map state.stop
  | state, .late n =>
    state.late[n]?.map fun write =>
      { (state.apply write).1 with late := state.late.eraseIdx n }
  | state, .issue =>
    some { state with tokens := state.customClaims :: state.tokens }
  | state, .ensurePassengerRoleClaim =>
    (passengerClaims state.customClaims).map fun claims =>
      { state with late := .setCustomUserClaims claims :: state.late }

end UserAuthorization

end Eki.Authorization
