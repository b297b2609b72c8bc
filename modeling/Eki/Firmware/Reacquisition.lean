import Eki.Firmware.TelemetryPolicy
import Eki.Library.Transition

/-!
# Anchoring the reference again

Rejected fixes that agree with each other may replace the reference that they
were rejected against.
-/

namespace Eki.Firmware

open Transition

variable {R : Type} [JsNumber R]

def gnssReanchorFixes : BitVec 8 := 3

def gnssReanchorMinSpacingMs : BitVec 32 := 500

def gnssReanchorMaxSpacingMs : BitVec 32 := 5000

/-- The arguments of one call, with the reference that the fix was rejected
against. -/
structure RejectedFix (R : Type) where
  nowMs : BitVec 32
  lat : R
  lng : R
  speedKmh : R
  hdopValid : Bool
  hdop : R
  hasReference : Bool
  referenceElapsedMs : BitVec 32
  referenceLat : R
  referenceLng : R

structure ReacquisitionCandidate (R : Type) where
  has : Bool
  lat : R
  lng : R
  speed : R
  hdop : R
  capturedAt : BitVec 32
  count : BitVec 8

def ReacquisitionCandidate.fresh : ReacquisitionCandidate R where
  has := false
  lat := 0
  lng := 0
  speed := 0
  hdop := 99
  capturedAt := 0
  count := 0

def ReacquisitionCandidate.reset (candidate : ReacquisitionCandidate R) :
    ReacquisitionCandidate R :=
  { candidate with
    has := false
    count := 0 }

section Observations

variable (haversineMeters : R → R → R → R → R)

/-- What the call checks of the fix alone and against its reference. -/
def RejectedFix.passes (fix : RejectedFix R) : Bool :=
  fix.hdopValid && gnssHdopIsAcceptable fix.hdop &&
    coordinatesAreValid fix.lat fix.lng && speedIsPlausible fix.speedKmh &&
    !(fix.hasReference &&
      !withinTravelEnvelope haversineMeters fix.referenceElapsedMs fix.lat
        fix.lng fix.referenceLat fix.referenceLng 200 200 true fix.hdop false
        99)

/-- `coherent`: the fix agrees with the one that the candidate holds. -/
def ReacquisitionCandidate.agrees (candidate : ReacquisitionCandidate R)
    (fix : RejectedFix R) : Bool :=
  let spacingMs := fix.nowMs - candidate.capturedAt
  candidate.has && decide (spacingMs ≥ gnssReanchorMinSpacingMs) &&
    decide (spacingMs ≤ gnssReanchorMaxSpacingMs) &&
    locationTransitionIsPlausible haversineMeters true spacingMs fix.lat
      fix.lng candidate.lat candidate.lng fix.speedKmh candidate.speed true
      fix.hdop true candidate.hdop

def ReacquisitionCandidate.observeRejected
    (candidate : ReacquisitionCandidate R) (fix : RejectedFix R) :
    Bool × ReacquisitionCandidate R :=
  if candidate.has ∧ fix.nowMs = candidate.capturedAt then (false, candidate)
  else if !fix.passes haversineMeters then (false, candidate.reset)
  else
    let count : BitVec 8 :=
      if candidate.agrees haversineMeters fix then candidate.count + 1 else 1
    let held : ReacquisitionCandidate R :=
      { has := true
        lat := fix.lat
        lng := fix.lng
        speed := fix.speedKmh
        hdop := fix.hdop
        capturedAt := fix.nowMs
        count := count }
    if count < gnssReanchorFixes then (false, held) else (true, held.reset)

inductive CandidateCall (R : Type) where
  | observeRejected (fix : RejectedFix R)
  | reset

/-- A call and what it returned. -/
inductive CandidateEvent (R : Type) where
  | observed (fix : RejectedFix R) (reanchored : Bool)
  | reset

/-- The candidate and every call of it so far, the last one first. -/
structure Reacquisition (R : Type) where
  candidate : ReacquisitionCandidate R
  history : List (CandidateEvent R)

def Reacquisition.initial : Reacquisition R where
  candidate := ReacquisitionCandidate.fresh
  history := []

def Reacquisition.called (reacquisition : Reacquisition R) :
    CandidateCall R → Reacquisition R
  | .observeRejected fix =>
    let answer :=
      reacquisition.candidate.observeRejected haversineMeters fix
    { candidate := answer.2
      history := .observed fix answer.1 :: reacquisition.history }
  | .reset =>
    { candidate := reacquisition.candidate.reset
      history := .reset :: reacquisition.history }

/-- Every call returns. -/
def Reacquisition.step : System (Reacquisition R) (CandidateCall R) :=
  fun reacquisition call => some (reacquisition.called haversineMeters call)

end Observations

end Eki.Firmware
