import Eki.Library.Transition
import Eki.Ride.Start
import Eki.Ride.Operations
import Eki.Ride.Engine
import Eki.Ride.Return

/-!
# The world of rides

Both stores, the requests in flight on any number of replicas, and what has
happened so far.  A step accepts a request, runs one step of a request in
flight, loses one, or performs an operation that is one transaction.
-/

namespace Eki

variable {R : Type}

/-- A request that a replica accepts. -/
inductive Request (R : Type) where
  | start (request : StartRequest)
  | stop (request : StopRequest)
  | delay (request : DelayRequest)
  | engine (event : EngineEvent R)
  | turnaround (nodeKey : String) (endpointVersion : Option String)
  | restore (request : RestoreRequest)
  | reconcile (sessionId : String)

/-- A request in flight. -/
inductive Process (R : Type) where
  | start (process : StartProcess R)
  | stop (process : StopProcess)
  | delay (process : DelayProcess)
  | engine (step : EngineStep R)
  | turnaround (step : TurnaroundStep)
  | restore (process : RestoreProcess R)
  | reconcile (process : ReconcileProcess)

def Request.begin : Request R → Process R
  | .start request => .start { request, step := .authorize }
  | .stop request => .stop { request, step := .read }
  | .delay request => .delay { request, step := .announce }
  | .engine event => .engine (.read event)
  | .turnaround nodeKey endpointVersion =>
    .turnaround (.read nodeKey endpointVersion)
  | .restore request => .restore { request, step := .read }
  | .reconcile sessionId => .reconcile { sessionId, step := .read }

def Outcome.map {Smaller Larger : Type} (wrap : Smaller → Larger)
    (outcome : Outcome R Smaller) : Outcome R Larger :=
  { store := outcome.store
    next := outcome.next.map wrap
    events := outcome.events }

def Process.advance [JsNumber R] (config : RideConfig R) (ambient : Ambient)
    (store : Store R) : Process R → Outcome R (Process R)
  | .start process => (process.advance config ambient store).map .start
  | .stop process => (process.advance store).map .stop
  | .delay process => (process.advance ambient store).map .delay
  | .engine step => (step.advance config ambient store).map .engine
  | .turnaround step => (step.advance ambient store).map .turnaround
  | .restore process => (process.advance store).map .restore
  | .reconcile process => (process.advance ambient store).map .reconcile

/-- An operation that is one transaction on one store. -/
inductive Operation where
  | firmware (request : FirmwareRequest)
  | rearm (request : RearmRequest)
  | telemetry (request : TelemetryRequest)
  | sweepStale (nodeKey : String)
  | retireAssignment (nodeKey : String) (revision : Nat)
  | resolveDirection (nodeKey : String) (direction : Option RideDirection)
  | resetDirection (nodeKey : String)
  | persistDirection (request : DirectionRequest)
  | configure (registry : Registry)

def Operation.perform (store : Store R) : Operation → Store R × List Event
  | .firmware request => (firmwareMaintenance request store, [])
  | .rearm request =>
    let (next, answer) := rearmAfterEarlyEnd request store
    (next,
      if answer = .rearmed then [.rearmed request.busId request.generation]
      else [])
  | .telemetry request =>
    (store.updateLive (activeRideId request.busId request.routeId)
      (persistTelemetry request), [])
  | .sweepStale nodeKey => (store.updateLive nodeKey Eki.sweepStale, [])
  | .retireAssignment nodeKey revision =>
    (store.updateLive nodeKey (Eki.retireAssignment revision), [])
  | .resolveDirection nodeKey direction =>
    (store.updateLive nodeKey (resolvePendingDirection direction), [])
  | .resetDirection nodeKey =>
    (store.updateLive nodeKey resetRefusedDirection, [])
  | .persistDirection request =>
    (persistResolvedSessionDirection request store, [])
  | .configure registry => ({ store with registry }, [])

structure World (R : Type) where
  store : Store R
  processes : Nat → Option (Process R)
  history : List Event

def World.empty : World R :=
  { store := .empty
    processes := fun _ => none
    history := [] }

inductive Label (R : Type) where
  | accept (pid : Nat) (request : Request R)
  | run (pid : Nat) (ambient : Ambient)
  | crash (pid : Nat)
  | perform (operation : Operation)

def World.step [JsNumber R] (config : RideConfig R) :
    Transition.System (World R) (Label R) :=
  fun world label =>
    match label with
    | .accept pid request =>
      if (world.processes pid).isSome then none
      else
        some
          { world with
            processes :=
              Function.update world.processes pid (some request.begin) }
    | .run pid ambient =>
      (world.processes pid).map fun process =>
        let outcome := process.advance config ambient world.store
        { store := outcome.store
          processes := Function.update world.processes pid outcome.next
          history := outcome.events ++ world.history }
    | .crash pid =>
      some
        { world with
          processes := Function.update world.processes pid none }
    | .perform operation =>
      let (store, events) := operation.perform world.store
      some
        { world with
          store
          history := events ++ world.history }

end Eki
