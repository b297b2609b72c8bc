import Eki.Trip.JsNumber

/-!
# The plausibility policy of the firmware

Whether the device may forward a fix after the one it captured last.  Elapsed
times are unsigned milliseconds of 32 bits.
-/

namespace Eki.Firmware

variable {R : Type} [JsNumber R]

def stdMax (a b : R) : R :=
  if a < b then b else a

def stdMin (a b : R) : R :=
  if b < a then b else a

def speedIsPlausible (speedKmh : R) : Bool :=
  JsNumber.isFinite speedKmh && decide (speedKmh ≥ 0) &&
    decide (speedKmh ≤ 200)

def coordinatesAreValid (lat lng : R) : Bool :=
  JsNumber.isFinite lat && JsNumber.isFinite lng &&
    decide (lat ≥ -90) && decide (lat ≤ 90) &&
    decide (lng ≥ -180) && decide (lng ≤ 180)

def gnssHdopMax : R := 4

def gnssHdopIsAcceptable (hdop : R) : Bool :=
  JsNumber.isFinite hdop && decide (hdop ≥ 0) && decide (hdop ≤ gnssHdopMax)

def gnssErrorMinM : R := 15

def gnssErrorMaxM : R := 50

def gnssStationarySpeedKmh : R := 25 / 10

def gnssReacquireAfterMs : BitVec 32 := 5 * 60 * 1000

def adaptiveGnssErrorMeters (hdopValid : Bool) (hdop speedKmh : R)
    (previousSpeedKmh : R) (elapsedMs : BitVec 32) : R :=
  let hdopError :=
    if hdopValid && JsNumber.isFinite hdop && decide (hdop ≥ 0) then
      gnssErrorMinM + hdop * 7
    else gnssErrorMaxM
  let stationaryAllowance : R :=
    if stdMax speedKmh previousSpeedKmh ≤ gnssStationarySpeedKmh then 10 else 0
  let late : BitVec 32 := if elapsedMs > 10000 then elapsedMs - 10000 else 0
  let gapAllowance := stdMin 10 (JsNumber.ofNat late.toNat / 2000)
  stdMin gnssErrorMaxM
    (stdMax gnssErrorMinM (hdopError + stationaryAllowance + gapAllowance))

/-- `haversineMeters` is a parameter. -/
def withinTravelEnvelope (haversineMeters : R → R → R → R → R)
    (elapsedMs : BitVec 32) (lat lng previousLat previousLng : R)
    (speedKmh previousSpeedKmh : R) (hdopValid : Bool) (hdop : R)
    (previousHdopValid : Bool) (previousHdop : R) : Bool :=
  let errorBudget := stdMax
    (adaptiveGnssErrorMeters previousHdopValid previousHdop previousSpeedKmh
      speedKmh elapsedMs)
    (adaptiveGnssErrorMeters hdopValid hdop speedKmh previousSpeedKmh elapsedMs)
  let maximumSpeedKmh := stdMin 200 (stdMax (stdMax speedKmh previousSpeedKmh) 0)
  let reachableMeters :=
    errorBudget + maximumSpeedKmh / (36 / 10) *
      (JsNumber.ofNat elapsedMs.toNat / 1000)
  decide (haversineMeters previousLat previousLng lat lng ≤ reachableMeters)

def locationTransitionIsPlausible (haversineMeters : R → R → R → R → R)
    (hasPrevious : Bool) (elapsedMs : BitVec 32)
    (lat lng previousLat previousLng speedKmh previousSpeedKmh : R)
    (hdopValid : Bool) (hdop : R) (previousHdopValid : Bool)
    (previousHdop : R) : Bool :=
  if !hasPrevious then true
  else if elapsedMs > gnssReacquireAfterMs then true
  else
    withinTravelEnvelope haversineMeters elapsedMs lat lng previousLat
      previousLng speedKmh previousSpeedKmh hdopValid hdop previousHdopValid
      previousHdop

end Eki.Firmware
