import Eki.Library.Slots
import Eki.Trip.JsValue

/-!
# Restores of live nodes

A restore publishes a durable lifecycle on the live node of its bus and route,
whatever value the node has by then.  Any number of callers ask for restores; a
bounded number run at once, and the others wait in line.
-/

namespace Eki.Restoring

open Capacity Transition
open Function (update update_of_ne)

variable {R : Type} [JsNumber R]

/-- The lifecycle of a document of `active_rides`. -/
def durableLifecycle (value : JsRecord R) : Option (JsRecord R) :=
  let stringOrNull (field : String) : JsValue R :=
    if (value.get field).isString then value.get field else .null
  let isTrue (field : String) : JsValue R :=
    .bool ((value.get field).strictEq (.bool true))
  let numberOrZero (field : String) : JsValue R :=
    if (value.get field).isNumber then value.get field else .number 0
  if !(value.get "status").isText "active" ||
      !(value.get "sessionId").isString || !(value.get "driverId").isString ||
      (!(value.get "tripState").isText "pre_departure" &&
        !(value.get "tripState").isText "in_service") ||
      (!(value.get "direction").isText "forward" &&
        !(value.get "direction").isText "reverse") then
    none
  else
    some
      ([("sessionId", value.get "sessionId"),
        ("driverId", value.get "driverId"),
        ("status", .string "active"),
        ("direction", value.get "direction"),
        ("originStopId", stringOrNull "originStopId"),
        ("destinationStopId", stringOrNull "destinationStopId"),
        ("automaticTurnaround", isTrue "automaticTurnaround"),
        ("directionState", .string "resolved"),
        ("directionEndpointVersion", stringOrNull "directionEndpointVersion"),
        ("directionFirestoreSynced", isTrue "directionFirestoreSynced"),
        ("previousSessionId", stringOrNull "previousSessionId"),
        ("completedAt", .null),
        ("turnaroundEligibleAt", .null),
        ("turnaroundSampledAt", .null),
        ("turnaroundClaimId", .null),
        ("turnaroundClaimedAt", .null),
        ("tripState", value.get "tripState"),
        ("currentStopIndex",
          if (value.get "currentStopIndex").isInteger then
            value.get "currentStopIndex"
          else .number 0),
        ("hasDepartedOrigin", isTrue "hasDepartedOrigin"),
        ("terminalArrival", (value.get "terminalArrival").orElse .null),
        ("gnssGap",
          if (value.get "gnssGapSince").isNumber then
            .object
              [("sessionId", value.get "sessionId"),
                ("since", value.get "gnssGapSince")]
          else .null)] ++
        (match value.get "lastRouteVersion" with
          | .number version =>
            if JsNumber.isSafeInteger version && decide (0 < version) then
              [("routeVersion", .number (version + 1))]
            else []
          | _ => []) ++
        [("delayMinutes", numberOrZero "delayMinutes"),
          ("delayUpdatedAt", numberOrZero "delayUpdatedAt")])

/-- The lifecycle of the terminal checkpoint of a bus, unless it is consumed. -/
def durableTerminalLifecycle (value : JsRecord R) : Option (JsRecord R) :=
  if !(value.get "consumedBy").strictEq .null ||
      (!(value.get "direction").isText "forward" &&
        !(value.get "direction").isText "reverse") ||
      !(value.get "sessionId").isString || !(value.get "driverId").isString ||
      !(value.get "directionEndpointVersion").isString ||
      !(value.get "completedAt").isFinite ||
      !(value.get "turnaroundEligibleAt").isFinite ||
      !(value.get "turnaroundSampledAt").isFinite ||
      !(value.get "hasDepartedOrigin").strictEq (.bool true) ||
      !(value.get "currentStopIndex").isInteger then
    none
  else
    some
      (value.spread
        [("status", .string "offline"),
          ("tripState", .string "completed"),
          ("terminalArrival", .null),
          ("terminalArrivalConfirmedAt", value.get "completedAt"),
          ("directionState", .string "resolved"),
          ("turnaroundClaimId", .null),
          ("turnaroundClaimedAt", .null),
          ("lastCompletedSessionId", value.get "sessionId"),
          ("lastCompletedAt", value.get "completedAt"),
          ("lastCompletedRouteId", value.get "routeId")])

/-- The lifecycle that a restore goes on with: the active ride's, or else the
terminal checkpoint's. -/
def readLifecycle (recoverTerminal : Bool)
    (activeRide terminalJourney : Option (JsRecord R)) :
    Option (JsRecord R) :=
  (activeRide.bind durableLifecycle).or
    (if recoverTerminal then terminalJourney.bind durableTerminalLifecycle
    else none)

/-- The session can be asked for; asking for an empty id throws. -/
def namesSession (lifecycle : JsRecord R) : Bool :=
  !(lifecycle.get "sessionId").isText ""

/-- The node shows the session. -/
def sameSession (lifecycle : JsRecord R) (live : JsValue R) : Bool :=
  (live.field "sessionId").strictEq (lifecycle.get "sessionId")

def onTheWay (live : JsValue R) : Bool :=
  (live.field "tripState").spells "pre_departure" ||
    (live.field "tripState").spells "in_service"

def hasEnded (live : JsValue R) : Bool :=
  (live.field "tripState").spells "completed" ||
    (live.field "tripState").spells "interrupted"

def isTombstone (live : JsValue R) : Bool :=
  (live.field "retiredAssignmentRevision").isNumber

def replaceable (lifecycle : JsRecord R) (live : JsValue R) : Bool :=
  (live.field "tripState").isText "completed" &&
    (lifecycle.get "automaticTurnaround").strictEq (.bool true) &&
    (lifecycle.get "previousSessionId").strictEq (live.field "sessionId") &&
    !((live.field "turnaroundClaimId").truthy &&
      !(live.field "turnaroundClaimId").strictEq (lifecycle.get "sessionId"))

def serverTimestamp : JsValue R :=
  .object [(".sv", .string "timestamp")]

/-- The transaction of `performDurableRideRestore` on the live node; `none`
when it aborts.  `telemetry` is the caller's sample where it is newer than the
node, `delay` the freshest delay. -/
def restoreNode (busId routeId : String) (telemetry delay : JsRecord R)
    (lifecycle : JsRecord R) (live : JsValue R) : Option (JsRecord R) :=
  let sameSession := sameSession lifecycle live
  if (lifecycle.get "tripState").isText "completed" then
    -- Never replace a new session, a manual interruption or a tombstone.
    if (live.field "sessionId").truthy || isTombstone live then none
    else
      some
        (((live.fields.withoutLiveRouteContext.spread telemetry).spread
          lifecycle).spread
          [("busId", .string busId), ("routeId", .string routeId),
            ("deviceState",
              (live.field "deviceState").orElse (.string "offline")),
            ("lifecycleUpdatedAt", serverTimestamp)])
  else if (live.field "status").isText "active" && sameSession &&
      onTheWay live then
    none
  else if (live.field "sessionId").truthy && !sameSession &&
      !replaceable lifecycle live then
    none
  else if sameSession && hasEnded live then none
  else
    some
      ((((((if sameSession then live.fields
        else live.fields.withoutLiveRouteContext).spread telemetry).spread
          lifecycle).spread delay).spread
          [("busId", .string busId), ("routeId", .string routeId),
            ("deviceState",
              (live.field "deviceState").orElse (.string "online")),
            ("signalState",
              if ((telemetry.get "motionState").orElse
                  (live.field "motionState")).isText "uncertain" then
                .string "gnss_lost"
              else .string "connected"),
            ("lifecycleUpdatedAt", serverTimestamp)]))

/-! ## The queue -/

def maxActiveRestores : Nat := 16

def maxQueuedRestores : Nat := 1000

structure Miss where
  claimId : Option String
  recoverTerminal : Bool
  expiresAt : Nat

structure RestoreCall where
  busId : String
  routeId : String
  /-- `workerGeneration()` of the caller. -/
  generation : Nat
  claimId : Option String
  recoverTerminal : Bool

def RestoreCall.nodeKey (call : RestoreCall) : String :=
  call.busId ++ "_" ++ call.routeId

def RestoreCall.restoreKey (call : RestoreCall) : Nat × String :=
  (call.generation, call.nodeKey)

/-- How the promise of a restore ends. -/
inductive Settlement where
  | resolved (restored : Bool)
  | rejected
  deriving DecidableEq

inductive RestoreStage (R : Type) where
  | asserting
  | reading
  | publishing (lifecycle : JsRecord R)
  | settled (result : Settlement)

structure RestoreTask (R : Type) where
  call : RestoreCall
  stage : RestoreStage R

def RestoreTask.settlement (task : RestoreTask R) : Option Settlement :=
  match task.stage with
  | .settled result => some result
  | _ => none

/-- The module's state, and the live nodes.  `activeRestores` is the number of
active slots, `queuedRestores` the line. -/
structure Restores (R : Type) where
  misses : List (String × Miss)
  restores : Nat × String → Option Nat
  slots : Slots Nat
  tasks : Nat → Option (RestoreTask R)
  activeBuses : String → JsValue R

/-- What a caller is given: another caller's restore, an answer, or its own. -/
inductive RestoreAnswer where
  | joined (id : Nat)
  | missed
  | full
  | made (id : Nat)
  deriving DecidableEq

namespace Restores

def empty (activeBuses : String → JsValue R) : Restores R :=
  { misses := []
    restores := fun _ => none
    slots := .empty
    tasks := fun _ => none
    activeBuses }

variable (state : Restores R)

def setStage (id : Nat) (stage : RestoreStage R) : Restores R :=
  { state with
    tasks :=
      update state.tasks id
        ((state.tasks id).map fun task => { task with stage }) }

/-- `restoreDurableRide`; `id` is the new promise, should there be one. -/
def restoreDurableRide (id : Nat) (call : RestoreCall) (now : Nat) :
    Restores R × RestoreAnswer :=
  match state.restores call.restoreKey with
  | some pending => (state, .joined pending)
  | none =>
    if (state.misses.lookup call.nodeKey).any fun miss =>
        miss.claimId == call.claimId &&
          miss.recoverTerminal == call.recoverTerminal &&
          decide (miss.expiresAt > now) then
      (state, .missed)
    else if maxQueuedRestores ≤ state.slots.waiting.length then
      (state, .full)
    else
      ({ state with
          slots := state.slots.enter maxActiveRestores id
          restores :=
            update state.restores call.restoreKey (some id)
          tasks :=
            update state.tasks id
              (some { call, stage := .asserting }) },
        .made id)

/-- The promise settles: its slot goes to the first in line, and nobody joins
it any more.  This is how success, abort and exception all end. -/
def settle (id : Nat) (call : RestoreCall) (result : Settlement) :
    Restores R :=
  { state.setStage id (.settled result) with
    slots := state.slots.settle id
    restores :=
      if state.restores call.restoreKey = some id then
        update state.restores call.restoreKey none
      else state.restores }

/-- Remember for a while that there was nothing to restore; the oldest of a
thousand is forgotten. -/
def recordMiss (call : RestoreCall) (now : Nat) : Restores R :=
  let kept :=
    if 1000 ≤ state.misses.length then state.misses.tail else state.misses
  let claimed := call.claimId.any fun claimId => claimId != ""
  let miss : Miss :=
    { claimId := call.claimId
      recoverTerminal := call.recoverTerminal
      expiresAt := now + if claimed then 1000 else 30000 }
  { state with
    misses :=
      if kept.any fun entry => entry.1 == call.nodeKey then
        kept.map fun entry =>
          if entry.1 == call.nodeKey then (entry.1, miss) else entry
      else kept ++ [(call.nodeKey, miss)] }

def forgetMiss (call : RestoreCall) : Restores R :=
  { state with
    misses := state.misses.filter fun entry => entry.1 != call.nodeKey }

end Restores

/-- The documents that a restore found, and whether the lock, the session and
the configuration agree with them. -/
structure FoundDocuments (R : Type) where
  activeRide : Option (JsRecord R)
  terminalJourney : Option (JsRecord R)
  agree : Bool

inductive Label (R : Type) where
  | restore (id : Nat) (call : RestoreCall) (now : Nat)
  | assertLeadership (id : Nat) (passes : Bool)
  | read (id : Nat) (now : Nat) (found : Option (FoundDocuments R))
  | publish (id : Nat) (telemetry delay : JsRecord R) (connected : Bool)
  /-- Anybody else writes a live node. -/
  | write (nodeKey : String) (value : JsValue R)

def Restores.running (state : Restores R) (id : Nat) :
    Option (RestoreTask R) :=
  if id ∈ state.slots.active then state.tasks id else none

def Restores.step : System (Restores R) (Label R) := fun state label =>
  match label with
  | .restore id call now =>
    if (state.tasks id).isSome then none
    else some (state.restoreDurableRide id call now).1
  | .assertLeadership id passes =>
    match state.running id with
    | some { call, stage := .asserting } =>
      some
        (if passes then state.setStage id .reading
        else state.settle id call .rejected)
    | _ => none
  | .read id now found =>
    match state.running id with
    | some { call, stage := .reading } =>
      match found with
      | none => some (state.settle id call .rejected)
      | some documents =>
        match readLifecycle call.recoverTerminal documents.activeRide
            documents.terminalJourney with
        | none =>
          some
            ((state.recordMiss call now).settle id call (.resolved false))
        | some lifecycle =>
          if !namesSession lifecycle then
            some (state.settle id call .rejected)
          else if !documents.agree then
            some
              ((state.recordMiss call now).settle id call (.resolved false))
          else
            some
              ((state.forgetMiss call).setStage id (.publishing lifecycle))
    | _ => none
  | .publish id telemetry delay connected =>
    match state.running id with
    | some { call, stage := .publishing lifecycle } =>
      if !connected then some (state.settle id call .rejected)
      else
        match restoreNode call.busId call.routeId telemetry delay
            lifecycle (state.activeBuses call.nodeKey) with
        | none => some (state.settle id call (.resolved false))
        | some written =>
          some
            ({ state with
                activeBuses :=
                  update state.activeBuses call.nodeKey
                    (.object written) }.settle id call
              (.resolved true))
    | _ => none
  | .write nodeKey value =>
    some
      { state with
        activeBuses := update state.activeBuses nodeKey value }

/-! ## What a restore replaces -/

def IsDurable (lifecycle : JsRecord R) : Prop :=
  ∃ recoverTerminal activeRide terminalJourney,
    readLifecycle recoverTerminal activeRide terminalJourney = some lifecycle ∧
      namesSession lifecycle = true

variable {lifecycle : JsRecord R}

variable {value : JsRecord R}

theorem sessionId_durableLifecycle
    (read : durableLifecycle value = some lifecycle) :
    (lifecycle.get "sessionId").isString = true := by
  unfold durableLifecycle at read
  simp only [Option.ite_none_left_eq_some] at read
  obtain ⟨valid, written⟩ := read
  simp only [Bool.not_eq_true, Bool.or_eq_false_iff,
    Bool.not_eq_false'] at valid
  rw [← Option.some.inj written]
  exact valid.1.1.1.2

theorem sessionId_durableTerminalLifecycle
    (read : durableTerminalLifecycle value = some lifecycle) :
    (lifecycle.get "sessionId").isString = true := by
  unfold durableTerminalLifecycle at read
  simp only [Option.ite_none_left_eq_some] at read
  obtain ⟨valid, written⟩ := read
  simp only [Bool.not_eq_true, Bool.or_eq_false_iff,
    Bool.not_eq_false'] at valid
  rw [← Option.some.inj written, JsRecord.get_spread]
  exact valid.1.1.1.1.1.1.1.2

theorem IsDurable.sessionId (durable : IsDurable lifecycle) :
    ∃ sessionId, lifecycle.get "sessionId" = .string sessionId ∧
      sessionId ≠ "" := by
  obtain ⟨recoverTerminal, activeRide, terminalJourney, read, names⟩ := durable
  have isString : (lifecycle.get "sessionId").isString = true := by
    rcases Option.or_eq_some_iff.mp read with ride | ⟨-, terminal⟩
    · obtain ⟨value, -, found⟩ := Option.bind_eq_some_iff.mp ride
      exact sessionId_durableLifecycle found
    · split at terminal
      · obtain ⟨value, -, found⟩ := Option.bind_eq_some_iff.mp terminal
        exact sessionId_durableTerminalLifecycle found
      · cases terminal
  unfold namesSession at names
  cases stored : lifecycle.get "sessionId" with
  | string sessionId =>
    refine ⟨sessionId, rfl, ?_⟩
    rintro rfl
    rw [stored] at names
    cases names
  | undefined | null | bool _ | number _ | array _ | object _ =>
    rw [stored] at isString
    cases isString

/-- The node may give way to the lifecycle. -/
structure Admits (lifecycle : JsRecord R) (live : JsValue R) : Prop where
  notActive :
    ¬ ((live.field "status").isText "active" = true ∧
      sameSession lifecycle live = true ∧ onTheWay live = true)
  notEnded :
    ¬ (sameSession lifecycle live = true ∧ hasEnded live = true)
  noTombstone :
    (lifecycle.get "tripState").isText "completed" = true →
      isTombstone live = false
  ownOrReturn :
    (live.field "sessionId").truthy = true →
      sameSession lifecycle live = false →
        (live.field "tripState").isText "completed" = true ∧
        (lifecycle.get "automaticTurnaround").strictEq (.bool true) = true ∧
        (lifecycle.get "previousSessionId").strictEq
          (live.field "sessionId") = true ∧
        ((live.field "turnaroundClaimId").truthy = true →
          (live.field "turnaroundClaimId").strictEq
            (lifecycle.get "sessionId") = true)

variable {live : JsValue R}

theorem not_sameSession (durable : IsDurable lifecycle)
    (idle : (live.field "sessionId").truthy = false) :
    sameSession lifecycle live = false := by
  obtain ⟨sessionId, stored, named⟩ := durable.sessionId
  apply Bool.eq_false_iff.mpr
  intro same
  unfold sameSession at same
  rw [stored, JsValue.strictEq_string] at same
  rw [same] at idle
  simp [JsValue.truthy, named] at idle

theorem restoreNode_admits {busId routeId : String}
    {telemetry delay written : JsRecord R} (durable : IsDurable lifecycle)
    (writes : restoreNode busId routeId telemetry delay lifecycle live =
      some written) : Admits lifecycle live := by
  unfold restoreNode at writes
  simp only at writes
  split at writes
  · rename_i completed
    -- A completed ride needs a node without a session.
    simp only [Option.ite_none_left_eq_some, Bool.or_eq_true, not_or,
      Bool.not_eq_true] at writes
    obtain ⟨⟨idle, untouched⟩, -⟩ := writes
    have other := not_sameSession durable idle
    constructor
    · rintro ⟨-, same, -⟩
      rw [other] at same
      cases same
    · rintro ⟨same, -⟩
      rw [other] at same
      cases same
    · intro _
      exact untouched
    · intro busy
      rw [idle] at busy
      cases busy
  · rename_i running
    simp only [Option.ite_none_left_eq_some, Bool.and_eq_true,
      Bool.not_eq_true', not_and, Bool.not_eq_true] at writes
    obtain ⟨notActive, own, notEnded, -⟩ := writes
    constructor
    · rintro ⟨active, same, riding⟩
      rw [notActive ⟨active, same⟩] at riding
      cases riding
    · rintro ⟨same, ended⟩
      rw [notEnded same] at ended
      cases ended
    · intro completed
      exact absurd completed running
    · intro busy other
      have allowed : replaceable lifecycle live = true := by
        simpa using own ⟨busy, other⟩
      simp only [replaceable, Bool.and_eq_true, Bool.not_eq_true',
        Bool.and_eq_false_iff] at allowed
      obtain ⟨⟨⟨completed, returns⟩, follows⟩, claimed⟩ := allowed
      refine ⟨completed, returns, follows, ?_⟩
      intro claims
      rcases claimed with unclaimed | agrees
      · rw [claims] at unclaimed
        cases unclaimed
      · simpa using agrees

/-! ## The queue moves -/

namespace Restores

/-- The promise is made and has not settled. -/
def IsOpen (state : Restores R) (id : Nat) : Prop :=
  ∃ task, state.tasks id = some task ∧ task.settlement = none

def IsSettled (state : Restores R) (id : Nat) : Prop :=
  ∃ task result, state.tasks id = some task ∧ task.settlement = some result

variable {state next : Restores R} {id other : Nat}

variable {task : RestoreTask R}

omit [JsNumber R] in
theorem running_eq_some :
    state.running id = some task ↔
      id ∈ state.slots.active ∧ state.tasks id = some task := by
  unfold running
  split
  · rename_i active
    simp [active]
  · rename_i inactive
    simp [inactive]

variable {stage : RestoreStage R}

omit [JsNumber R] in
theorem isOpen_setStage (stored : state.tasks id = some task)
    (waits : task.settlement = none)
    (goes : RestoreTask.settlement { task with stage } = none) :
    (state.setStage id stage).IsOpen other ↔ state.IsOpen other := by
  unfold IsOpen setStage
  by_cases same : other = id
  · subst same
    simp [stored, waits, goes]
  · simp [update_of_ne same]

variable {call : RestoreCall}

variable {result : Settlement}

omit [JsNumber R] in
theorem isOpen_settle (apart : other ≠ id) :
    (state.settle id call result).IsOpen other ↔ state.IsOpen other := by
  unfold IsOpen settle setStage
  simp [update_of_ne apart]

inductive Effect (state next : Restores R) : Prop where
  | keep (slots : next.slots = state.slots)
      (promises : ∀ other, next.IsOpen other ↔ state.IsOpen other)
  | enter (id : Nat) (fresh : state.tasks id = none)
      (slots : next.slots = state.slots.enter maxActiveRestores id)
      (promises : ∀ other, next.IsOpen other ↔ other = id ∨ state.IsOpen other)
  | settle (id : Nat) (running : id ∈ state.slots.active)
      (slots : next.slots = state.slots.settle id)
      (promises : ∀ other, other ≠ id →
        (next.IsOpen other ↔ state.IsOpen other))

section

omit [JsNumber R]

variable {kept : Restores R}

theorem effect_settle (running : id ∈ state.slots.active)
    (slots : kept.slots = state.slots) (tasks : kept.tasks = state.tasks) :
    Effect state (kept.settle id call result) := by
  apply Effect.settle id running
  · show kept.slots.settle id = _
    rw [slots]
  · intro other apart
    rw [isOpen_settle apart]
    unfold IsOpen
    rw [tasks]

theorem effect_setStage (stored : state.tasks id = some task)
    (waits : task.settlement = none)
    (goes : RestoreTask.settlement { task with stage } = none)
    (slots : kept.slots = state.slots) (tasks : kept.tasks = state.tasks) :
    Effect state (kept.setStage id stage) := by
  apply Effect.keep
  · exact slots
  · intro other
    rw [← tasks] at stored
    rw [isOpen_setStage stored waits goes]
    unfold IsOpen
    rw [tasks]

theorem effect_restoreDurableRide {now : Nat} (fresh : state.tasks id = none) :
    Effect state (state.restoreDurableRide id call now).1 := by
  have stays : Effect state state := .keep rfl fun _ => Iff.rfl
  unfold restoreDurableRide
  split
  · exact stays
  · split
    · exact stays
    · split
      · exact stays
      · apply Effect.enter id fresh
        · rfl
        · intro other
          unfold IsOpen
          by_cases same : other = id
          · subst same
            simp [RestoreTask.settlement]
          · simp [same]

end

theorem effect_of_step {label : Label R}
    (taken : step state label = some next) : Effect state next := by
  cases label with
  | restore id call now =>
    simp only [step, Option.ite_none_left_eq_some] at taken
    obtain ⟨unknown, made⟩ := taken
    cases made
    exact effect_restoreDurableRide (by simpa using unknown)
  | assertLeadership id passes =>
    simp only [step] at taken
    split at taken
    · rename_i call found
      obtain ⟨running, stored⟩ := running_eq_some.mp found
      cases taken
      split
      · exact effect_setStage stored rfl rfl rfl rfl
      · exact effect_settle running rfl rfl
    · cases taken
  | read id now found =>
    simp only [step] at taken
    split at taken
    · rename_i call running
      obtain ⟨active, stored⟩ := running_eq_some.mp running
      split at taken
      · cases taken
        exact effect_settle active rfl rfl
      · split at taken
        · cases taken
          exact effect_settle active rfl rfl
        · split at taken
          · cases taken
            exact effect_settle active rfl rfl
          · split at taken
            · cases taken
              exact effect_settle active rfl rfl
            · cases taken
              exact effect_setStage stored rfl rfl rfl rfl
    · cases taken
  | publish id telemetry delay connected =>
    simp only [step] at taken
    split at taken
    · rename_i call lifecycle running
      obtain ⟨active, stored⟩ := running_eq_some.mp running
      split at taken
      · cases taken
        exact effect_settle active rfl rfl
      · split at taken
        · cases taken
          exact effect_settle active rfl rfl
        · cases taken
          exact effect_settle active rfl rfl
    · cases taken
  | write nodeKey value =>
    cases taken
    exact .keep rfl fun _ => Iff.rfl

omit [JsNumber R] in
theorem Effect.move (effect : Effect state next) :
    Slots.Move maxActiveRestores state.slots next.slots := by
  cases effect with
  | keep slots => exact .stay slots
  | enter id _ slots => exact .enter id slots
  | settle id running slots => exact .settle id running slots

/-- The slots are bounded and hold exactly promises that have not settled. -/
structure Sound (state : Restores R) : Prop where
  bounded : state.slots.Bounded maxActiveRestores
  nodup : state.slots.tasks.Nodup
  isOpen : ∀ id ∈ state.slots.tasks, state.IsOpen id

section

omit [JsNumber R]

theorem sound_empty (activeBuses : String → JsValue R) :
    Sound (empty activeBuses) where
  bounded := Slots.bounded_empty _
  nodup := List.nodup_nil
  isOpen := by
    intro id member
    cases member

theorem Sound.step (sound : state.Sound) (effect : Effect state next) :
    next.Sound := by
  constructor
  · exact sound.bounded.move effect.move
  · cases effect with
    | keep slots =>
      rw [slots]
      exact sound.nodup
    | enter id fresh slots =>
      rw [slots]
      apply Slots.nodup_enter sound.nodup
      intro member
      obtain ⟨task, stored, -⟩ := sound.isOpen id member
      rw [fresh] at stored
      cases stored
    | settle id running slots =>
      rw [slots]
      exact Slots.nodup_settle sound.nodup running
  · intro other member
    cases effect with
    | keep slots promises =>
      rw [slots] at member
      exact (promises other).mpr (sound.isOpen other member)
    | enter id fresh slots promises =>
      rw [slots, Slots.mem_tasks_enter] at member
      rw [promises]
      exact member.imp_right (sound.isOpen other)
    | settle id running slots promises =>
      rw [slots, Slots.mem_tasks_settle sound.nodup running] at member
      exact (promises other member.1).mpr (sound.isOpen other member.2)

theorem not_isSettled_of_isOpen (waits : state.IsOpen id) :
    ¬ state.IsSettled id := by
  rintro ⟨task, result, stored, settled⟩
  obtain ⟨same, waiting, unsettled⟩ := waits
  rw [stored] at waiting
  cases waiting
  rw [settled] at unsettled
  cases unsettled

end

end Restores

def RunningSettle (execution : (Restores.step (R := R)).Execution) : Prop :=
  ∀ n, ∀ id ∈ (execution.state n).slots.active,
    ∃ later, n ≤ later ∧ (execution.state later).IsSettled id

section

variable {execution : (Restores.step (R := R)).Execution}
  {activeBuses : String → JsValue R}

theorem sound_at (starts : execution.state 0 = .empty activeBuses) (n : Nat) :
    (execution.state n).Sound := by
  apply execution.invariant
  · rw [starts]
    exact Restores.sound_empty activeBuses
  · intro state label next sound taken
    exact sound.step (Restores.effect_of_step taken)

def slotHistory (execution : (Restores.step (R := R)).Execution)
    (starts : execution.state 0 = .empty activeBuses) :
    History Nat maxActiveRestores where
  slots := fun n => (execution.state n).slots
  moves := by
    intro n
    have taken := execution.follows n
    cases labelled : execution.label n with
    | none =>
      rw [labelled] at taken
      apply Slots.Move.stay
      rw [← Option.some.inj taken]
    | some label =>
      rw [labelled] at taken
      exact (Restores.effect_of_step taken).move
  bounded := (sound_at starts 0).bounded

theorem queued_restore_settles
    (starts : execution.state 0 = .empty activeBuses)
    (settle : RunningSettle execution) {n id : Nat}
    (waits : id ∈ (execution.state n).slots.waiting) :
    ∃ started, n ≤ started ∧
      id ∈ (execution.state started).slots.active ∧
      ∃ settled, started ≤ settled ∧
        (execution.state settled).IsSettled id := by
  have settles : (slotHistory execution starts).Settles := by
    intro n id active
    obtain ⟨later, after, settled⟩ := settle n id active
    refine ⟨later, after, ?_⟩
    intro still
    apply Restores.not_isSettled_of_isOpen _ settled
    exact (sound_at starts later).isOpen id
      (List.mem_append_left _ still)
  obtain ⟨started, after, active⟩ :=
    (slotHistory execution starts).eventually_active settles (by decide) waits
  exact ⟨started, after, active, settle started id active⟩

end

def ReplacesOnly (admits : JsRecord R → JsValue R → Prop) : Prop :=
  ∀ (busId routeId : String) (telemetry delay lifecycle written : JsRecord R)
      (live : JsValue R),
    IsDurable lifecycle →
      restoreNode busId routeId telemetry delay lifecycle live = some written →
        admits lifecycle live

/-- However restores are asked for, a bounded number runs at once, and every
restore in line is started and settles if running ones settle. -/
def TakeTurns (R : Type) [JsNumber R] : Prop :=
  ∀ (execution : (Restores.step (R := R)).Execution)
      (activeBuses : String → JsValue R),
    execution.state 0 = .empty activeBuses →
      (∀ n, (execution.state n).slots.active.length ≤ maxActiveRestores) ∧
      (RunningSettle execution →
        ∀ n, ∀ id ∈ (execution.state n).slots.waiting,
          ∃ started, n ≤ started ∧
            id ∈ (execution.state started).slots.active ∧
            ∃ settled, started ≤ settled ∧
              (execution.state settled).IsSettled id)

theorem restore_never_steals :
    ReplacesOnly (R := R) Admits ∧ TakeTurns R := by
  constructor
  · intro busId routeId telemetry delay lifecycle written live durable writes
    exact restoreNode_admits durable writes
  · intro execution activeBuses starts
    constructor
    · intro n
      exact (sound_at starts n).bounded.active_le
    · intro settle n id waits
      exact queued_restore_settles starts settle waits

def returnDocument : JsRecord ℚ :=
  [("status", .string "active"), ("sessionId", .string "s2"),
    ("driverId", .string "d1"), ("tripState", .string "pre_departure"),
    ("direction", .string "reverse"), ("automaticTurnaround", .bool true),
    ("previousSessionId", .string "s1")]

def claimingNode : JsValue ℚ :=
  .object
    [("sessionId", .string "s1"), ("status", .string "active"),
      ("tripState", .string "completed"),
      ("turnaroundClaimId", .string "s2")]

def retiredNode : JsValue ℚ :=
  .object
    [("busId", .string "b1"), ("deviceState", .string "offline"),
      ("retiredAssignmentRevision", .number 2)]

/-- Seventeen restores, one more than there are slots, which all fail. -/
def crowd : List (Label ℚ) :=
  (List.range 17).map (fun id =>
      .restore id
        { busId := "b" ++ toString id
          routeId := "r1"
          generation := 1
          claimId := none
          recoverTerminal := false } 0) ++
    (List.range 17).map fun id => .assertLeadership id false

/-- The node of the completed ride when its claim is lost. -/
def unclaimingNode : JsValue ℚ :=
  .object
    [("sessionId", .string "s1"), ("status", .string "active"),
      ("tripState", .string "completed")]

theorem exists_returnLifecycle :
    ∃ lifecycle : JsRecord ℚ, IsDurable lifecycle ∧
      lifecycle.get "sessionId" = .string "s2" ∧
      ∀ live ∈ [claimingNode, unclaimingNode, retiredNode],
        ∃ written,
          restoreNode "b1" "r1" [] [] lifecycle live = some written := by
  have decided :
      (durableLifecycle returnDocument).any (fun lifecycle =>
        namesSession lifecycle &&
          (lifecycle.get "sessionId").strictEq (.string "s2") &&
          [claimingNode, unclaimingNode, retiredNode].all fun live =>
            (restoreNode "b1" "r1" [] [] lifecycle live).isSome) = true := by
    decide +kernel
  obtain ⟨lifecycle, read, holds⟩ := (Option.any_eq_true _ _).mp decided
  simp only [Bool.and_eq_true, List.all_eq_true, Option.isSome_iff_exists,
    JsValue.strictEq_string] at holds
  obtain ⟨⟨names, session⟩, restored⟩ := holds
  refine ⟨lifecycle, ⟨false, some returnDocument, none, ?_, names⟩, session,
    restored⟩
  simp [readLifecycle, read]

theorem crowd_runs :
    ∃ last : Restores ℚ,
      Restores.step.run (fun _ _ => true) (.empty fun _ => .null) crowd =
          some last ∧
        last.slots.active = [] ∧
        ∀ n < 34, ∀ id ∈ (Restores.step.trace (.empty fun _ => .null) crowd
            n).slots.active, last.IsSettled id := by
  have decided :
      (Restores.step.run (fun _ _ => true) (.empty fun _ => .null)
        crowd).any (fun last => last.slots.active.isEmpty &&
          (List.range 34).all fun n =>
            (Restores.step.trace (.empty fun _ => .null) crowd
              n).slots.active.all fun id =>
                (last.tasks id).any fun task => task.settlement.isSome) =
        true := by
    decide +kernel
  obtain ⟨last, executed, holds⟩ := (Option.any_eq_true _ _).mp decided
  simp only [Bool.and_eq_true, List.isEmpty_iff, List.all_eq_true,
    List.mem_range, Option.any_eq_true] at holds
  obtain ⟨idle, settled⟩ := holds
  refine ⟨last, executed, idle, ?_⟩
  intro n before id active
  obtain ⟨task, stored, isSome⟩ := settled n before id active
  obtain ⟨result, settlement⟩ := Option.isSome_iff_exists.mp isSome
  exact ⟨task, result, stored, settlement⟩

theorem return_is_restored_and_crowd_takes_turns :
    (∃ lifecycle : JsRecord ℚ, Admits lifecycle claimingNode) ∧
    ∃ execution : (Restores.step (R := ℚ)).Execution,
      16 ∈ (execution.state 17).slots.waiting ∧
      ∃ settled, 17 ≤ settled ∧ (execution.state settled).IsSettled 16 := by
  constructor
  · obtain ⟨lifecycle, durable, -, restored⟩ := exists_returnLifecycle
    obtain ⟨written, writes⟩ := restored claimingNode (by simp)
    exact ⟨lifecycle, restore_never_steals.1 _ _ _ _ _ _ _ durable writes⟩
  · obtain ⟨last, executed, idle, settled⟩ := crowd_runs
    have waits :
        16 ∈ ((System.Execution.ofRun executed).state 17).slots.waiting := by
      show 16 ∈ (Restores.step.trace (.empty fun _ => .null) crowd
        17).slots.waiting
      decide +kernel
    refine ⟨.ofRun executed, waits, ?_⟩
    have settle : RunningSettle (System.Execution.ofRun executed) := by
      intro n id active
      have ends : (System.Execution.ofRun executed).state (n + 34) = last :=
        System.trace_of_length_le executed (Nat.le_add_left 34 n)
      refine ⟨n + 34, Nat.le_add_right n 34, ?_⟩
      rw [ends]
      by_cases before : n < 34
      · exact settled n before id active
      · have same : (System.Execution.ofRun executed).state n = last :=
          System.trace_of_length_le executed (Nat.le_of_not_lt before)
        rw [same, idle] at active
        cases active
    obtain ⟨-, turns⟩ :=
      restore_never_steals.2 (.ofRun executed) (fun _ => .null) rfl
    obtain ⟨started, after, -, settled, later, result⟩ :=
      turns settle 17 16 waits
    exact ⟨settled, Nat.le_trans after later, result⟩

def SparesTombstone (_ : JsRecord R) (live : JsValue R) : Prop :=
  isTombstone live = false

def SparesUnclaimed (lifecycle : JsRecord R) (live : JsValue R) : Prop :=
  (live.field "sessionId").truthy = true →
    sameSession lifecycle live = false →
      (live.field "turnaroundClaimId").strictEq
        (lifecycle.get "sessionId") = true

/-- No tombstone is ever replaced, and the node of a completed ride only by
the return that it claims. -/
structure AdmitsClaimed (lifecycle : JsRecord R) (live : JsValue R) : Prop
    extends Admits lifecycle live where
  sparesTombstone : SparesTombstone lifecycle live
  sparesUnclaimed : SparesUnclaimed lifecycle live

/-- A ride that holds its lock is restored over a tombstone, and a return over
the node of its completed ride when that has lost its claim. -/
theorem tombstone_and_unclaimed_are_replaced :
    ¬ (ReplacesOnly (R := ℚ) AdmitsClaimed ∧ TakeTurns ℚ) ∧
      ¬ ReplacesOnly (R := ℚ) SparesTombstone ∧
      ¬ ReplacesOnly (R := ℚ) SparesUnclaimed := by
  obtain ⟨lifecycle, durable, session, restored⟩ := exists_returnLifecycle
  have tombstone : ¬ ReplacesOnly (R := ℚ) SparesTombstone := by
    intro replaces
    obtain ⟨written, writes⟩ := restored retiredNode (by simp)
    have spared := replaces _ _ _ _ _ _ _ durable writes
    revert spared
    unfold SparesTombstone
    decide +kernel
  refine ⟨?_, tombstone, ?_⟩
  · rintro ⟨replaces, -⟩
    apply tombstone
    intro busId routeId telemetry delay other written live durable writes
    exact (replaces _ _ _ _ _ _ _ durable writes).sparesTombstone
  · intro replaces
    obtain ⟨written, writes⟩ := restored unclaimingNode (by simp)
    have claims := replaces _ _ _ _ _ _ _ durable writes
    unfold SparesUnclaimed sameSession at claims
    rw [session] at claims
    revert claims
    decide +kernel

end Eki.Restoring
