import Eki.Routing.Reroutes
import Eki.Routing.RouteSegment

/-!
# The position of a live marker

The map shows a bus at its matched position or at its accepted one, and holds
an older match for a moment while a new one is awaited.
-/

namespace Eki.PassengerMap

open Segments (LatLng)

inductive Untrusted where
  | text (value : String)
  | other (shown : String)

def Untrusted.shown : Untrusted → String
  | .text value => value
  | .other shown => shown

def normalizeRideDirection : Option Untrusted → Option RideDirection
  | some (.text "forward") => some .forward
  | some (.text "reverse") => some .reverse
  | _ => none

def directionsMatch (left right : Option Untrusted) : Bool :=
  (normalizeRideDirection left).isSome &&
    decide (normalizeRideDirection left = normalizeRideDirection right)

structure RawLiveLocation (R : Type) where
  seq : Option R
  sampledAt : Option R

structure MatchedLiveLocation (R : Type) where
  lat : Option R
  lng : Option R
  matchConfidence : Option R
  seq : Option R
  sampledAt : Option R
  routeVersion : Option R

/-- The fields of a bus that are read; numbers come from JSON and are
finite. -/
structure LiveBusPositionInput (R : Type) where
  busId : Option String
  routeId : Option String
  sessionId : Option String
  lat : Option R
  lng : Option R
  timestamp : Option R
  deviceState : Option DeviceState
  motionState : Option MotionState
  direction : Option Untrusted
  rawLocation : Option (RawLiveLocation R)
  matchedLocation : Option (MatchedLiveLocation R)
  mapMatchSeq : Option R
  mapMatchSampledAt : Option R
  activeRouteId : Option String
  routeState : Option RouteState
  routeVersion : Option R
  routeDirection : Option Untrusted

structure SampleIdentity (R : Type) where
  seq : Option R
  sampledAt : Option R
deriving DecidableEq

structure RetainedMatch (R : Type) where
  position : LatLng R
  sample : SampleIdentity R

inductive MarkerDecision where
  | matched
  | matchPending
  | raw
  | none
deriving DecidableEq

inductive MarkerReason where
  | currentMatch
  | awaitingMatch
  | matchTimeout
  | matchUnavailable
  | offRoute
  | routeChanged
  | reconnected
  | signalUncertain
  | directionPending
  | rawOnly
  | invalidPosition
  | olderSnapshot
deriving DecidableEq

structure LiveBusMarkerSelection (R : Type) where
  decision : MarkerDecision
  reason : MarkerReason
  position : Option (LatLng R)
  uncertain : Bool
  pendingUntil : Option R
  contextKey : String
  identityKey : String
  latestSample : SampleIdentity R
  rawPosition : Option (LatLng R)
  retainedMatch : Option (RetainedMatch R)
  routeVersion : Option R

/-- What the language and the settings give. -/
structure MarkerSettings (R : Type) where
  /-- `Number.isSafeInteger` -/
  isSafeInteger : R → Bool
  /-- The text of a number. -/
  text : R → String
  signalLostMs : R

variable {R : Type} [Field R] [LinearOrder R] (settings : MarkerSettings R)

def minDisplayMatchConfidence : R := (45 : Nat) / (100 : Nat)

def matchPendingHoldMs : R := (2000 : Nat)

def hasValidBusCoordinates (lat lng : Option R) : Bool :=
  lat.any (fun lat =>
      decide (-((90 : Nat) : R) ≤ lat) && decide (lat ≤ (90 : Nat))) &&
    lng.any fun lng =>
      decide (-((180 : Nat) : R) ≤ lng) && decide (lng ≤ (180 : Nat))

def validPosition (lat lng : Option R) : Option (LatLng R) :=
  if hasValidBusCoordinates lat lng then
    some
      { lat := lat.getD 0
        lng := lng.getD 0 }
  else none

def rideIdentityKey (input : LiveBusPositionInput R) : String :=
  "|".intercalate [input.busId.getD "", input.routeId.getD "",
    input.sessionId.getD ""]

def routeContextKey (input : LiveBusPositionInput R) : String :=
  "|".intercalate [input.busId.getD "", input.routeId.getD "",
    input.sessionId.getD "", (input.routeVersion.map settings.text).getD "",
    input.activeRouteId.getD "",
    ((input.routeDirection.or input.direction).map Untrusted.shown).getD ""]

def sampleIdentity (input : LiveBusPositionInput R) : SampleIdentity R where
  seq := (input.rawLocation.bind RawLiveLocation.seq).filter
    settings.isSafeInteger
  sampledAt := (input.rawLocation.bind RawLiveLocation.sampledAt).or
    input.timestamp

/-- Missing times and numbers come first. -/
def compareSamples (left right : SampleIdentity R) : R :=
  if left.sampledAt ≠ right.sampledAt then
    match left.sampledAt, right.sampledAt with
    | none, _ => -1
    | _, none => 1
    | some leftAt, some rightAt => leftAt - rightAt
  else
    match left.seq, right.seq with
    | none, none => 0
    | none, _ => -1
    | _, none => 1
    | some leftSeq, some rightSeq => leftSeq - rightSeq

def acceptedRawPosition (input : LiveBusPositionInput R) :
    Option (LatLng R) :=
  validPosition input.lat input.lng

def matchSample (found : MatchedLiveLocation R) : SampleIdentity R where
  seq := found.seq
  sampledAt := found.sampledAt

def validMatch (input : LiveBusPositionInput R) : Option (RetainedMatch R) :=
  input.matchedLocation.bind fun found =>
    if (found.matchConfidence.any fun confidence =>
        decide (confidence ≥ minDisplayMatchConfidence)) &&
        decide (found.routeVersion = input.routeVersion) then
      (validPosition found.lat found.lng).map fun position =>
        { position := position
          sample := matchSample found }
    else none

def isOnRoute (input : LiveBusPositionInput R) : Bool :=
  decide (input.routeState = some .onRoute) ||
    decide (input.routeState = some .onNewRoute)

def currentMatch (input : LiveBusPositionInput R)
    (sample : SampleIdentity R) : Option (RetainedMatch R) :=
  (validMatch input).filter fun found =>
    isOnRoute input && decide (found.sample = sample)

def staleMatchAtStartup (input : LiveBusPositionInput R)
    (sample : SampleIdentity R) : Option (RetainedMatch R) :=
  (validMatch input).filter fun found =>
    !decide (compareSamples found.sample sample ≥ 0)

def retainedMatchForPending (input : LiveBusPositionInput R)
    (sample : SampleIdentity R) (previous : Option (LiveBusMarkerSelection R))
    (sameContext : Bool) : Option (RetainedMatch R) :=
  match previous, staleMatchAtStartup input sample with
  | none, fromInput => fromInput
  | some previous, fromInput =>
    if !sameContext then fromInput
    else
      match fromInput, previous.retainedMatch with
      | none, retained => retained
      | some fromInput, some retained =>
        if compareSamples fromInput.sample retained.sample > 0 then
          some fromInput
        else some retained
      | some fromInput, none =>
        if fromInput.sample = previous.latestSample then some fromInput
        else none

def selection (input : LiveBusPositionInput R) (decision : MarkerDecision)
    (reason : MarkerReason) (position : Option (LatLng R)) (uncertain : Bool)
    (latestSample : SampleIdentity R) (rawPosition : Option (LatLng R))
    (retainedMatch : Option (RetainedMatch R)) (pendingUntil : Option R) :
    LiveBusMarkerSelection R where
  decision := decision
  reason := reason
  position := position
  uncertain := uncertain
  pendingUntil := pendingUntil
  contextKey := routeContextKey settings input
  identityKey := rideIdentityKey input
  latestSample := latestSample
  rawPosition := rawPosition
  retainedMatch := retainedMatch
  routeVersion := input.routeVersion

/-- The hold is not over, or there is none; then the selection stays. -/
def holdLasts (previous : LiveBusMarkerSelection R) (now : R) : Bool :=
  decide (previous.decision ≠ .matchPending) ||
    previous.pendingUntil.all fun pendingUntil => decide (now < pendingUntil)

def expiredSelection (previous : LiveBusMarkerSelection R) (now : R) :
    LiveBusMarkerSelection R :=
  if holdLasts previous now then previous
  else
    { previous with
      decision := if previous.rawPosition.isSome then .raw else .none
      reason := if previous.rawPosition.isSome then .matchTimeout
        else .invalidPosition
      position := previous.rawPosition
      uncertain := true
      pendingUntil := none
      retainedMatch := none }

def isOlder (input : LiveBusPositionInput R)
    (previous : LiveBusMarkerSelection R) : Bool :=
  decide (previous.identityKey = rideIdentityKey input) &&
    (decide (compareSamples (sampleIdentity settings input)
        previous.latestSample < 0) ||
      input.routeVersion.any fun version =>
        previous.routeVersion.any fun before => decide (version < before))

def pendingEnd (previous : Option (LiveBusMarkerSelection R))
    (retained : RetainedMatch R) (now : R) : R :=
  (previous.bind fun previous =>
    if decide (previous.decision = .matchPending) &&
        previous.retainedMatch.any fun before =>
          decide (before.sample = retained.sample) then previous.pendingUntil
    else none).getD (now + matchPendingHoldMs)

/-- Why the accepted position is shown. -/
def rawReason (input : LiveBusPositionInput R)
    (previous : Option (LiveBusMarkerSelection R)) (now : R)
    (contextChanged reconnected signalUncertain offRoute : Bool) :
    MarkerReason :=
  let latestSample := sampleIdentity settings input
  let matchingCompleted :=
    latestSample.seq.isSome && latestSample.sampledAt.isSome &&
      decide (input.mapMatchSeq = latestSample.seq) &&
      decide (input.mapMatchSampledAt = latestSample.sampledAt)
  if contextChanged then .routeChanged
  else if reconnected then .reconnected
  else if signalUncertain then .signalUncertain
  else if offRoute then .offRoute
  else if previous.any fun previous => !holdLasts previous now then
    .matchTimeout
  else if previous.any fun previous =>
      (decide (previous.decision = .matchPending) ||
        decide (previous.reason = .matchTimeout)) &&
      decide (previous.latestSample = latestSample) then .matchTimeout
  else if matchingCompleted then .matchUnavailable
  else .rawOnly

def selectLiveBusMarkerPosition (input : LiveBusPositionInput R)
    (previous : Option (LiveBusMarkerSelection R)) (now : R) :
    LiveBusMarkerSelection R :=
  let latestSample := sampleIdentity settings input
  let rawPosition := acceptedRawPosition input
  let sameContext := previous.any fun previous =>
    decide (previous.contextKey = routeContextKey settings input)
  let signalUncertain := decide (input.deviceState = some .offline) ||
    decide (input.motionState = some .uncertain)
  match previous.filter (isOlder settings input) with
  | some previous =>
    if holdLasts previous now then { previous with reason := .olderSnapshot }
    else expiredSelection previous now
  | none =>
    if !directionsMatch input.direction input.routeDirection then
      selection settings input (if rawPosition.isSome then .raw else .none)
        (if rawPosition.isSome then .directionPending else .invalidPosition)
        rawPosition true latestSample rawPosition none none
    else
      let current := currentMatch input latestSample
      match current.filter fun _ => !signalUncertain with
      | some found =>
        selection settings input .matched .currentMatch (some found.position)
          false latestSample rawPosition (some found) none
      | none =>
        let contextChanged := previous.isSome && !sameContext
        let reconnected := sameContext &&
          (previous.bind fun previous =>
            previous.latestSample.sampledAt).any fun before =>
              latestSample.sampledAt.any fun sampledAt =>
                decide (sampledAt - before > settings.signalLostMs)
        let offRoute := decide (input.routeState = some .offRoute) ||
          decide (input.routeState = some .rerouting)
        let held :=
          if !contextChanged && !reconnected && !signalUncertain &&
              !offRoute && (isOnRoute input ||
                decide (input.routeState = some .possibleOffRoute)) &&
              current.isNone then
            (retainedMatchForPending input latestSample previous
              sameContext).filter fun retained =>
                decide (compareSamples retained.sample latestSample < 0) &&
                  decide (now < pendingEnd previous retained now)
          else none
        match held, rawPosition with
        | some retained, _ =>
          selection settings input .matchPending .awaitingMatch
            (some retained.position) true latestSample rawPosition
            (some retained) (some (pendingEnd previous retained now))
        | none, none =>
          selection settings input .none .invalidPosition none true
            latestSample none none none
        | none, some position =>
          let reason := rawReason settings input previous now contextChanged
            reconnected signalUncertain offRoute
          selection settings input .raw reason (some position)
            (decide (reason ≠ .rawOnly)) latestSample (some position) none none

end Eki.PassengerMap
