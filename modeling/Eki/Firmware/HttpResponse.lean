import Eki.Firmware.CString
import Eki.Library.Transition

/-!
# Keeping a connection for the next request

A connection is kept only when the whole body of the acknowledgement was read,
and its first use checks that nothing else has come.
-/

namespace Eki.Firmware.Http

open Transition

def telemetryResponseBodyLimit : BitVec 32 := 1024

def telemetryResponseDrainTimeoutMs : BitVec 32 := 1000

/-! ## The guard of the next request -/

structure HttpReuseGuard where
  armed : Bool
deriving DecidableEq

def HttpReuseGuard.arm (_ : HttpReuseGuard) : HttpReuseGuard where
  armed := true

def HttpReuseGuard.rejectsAvailable (guard : HttpReuseGuard)
    (available : Int) : Bool :=
  guard.armed && decide (available ≠ 0)

def HttpReuseGuard.allowFirstWrite (guard : HttpReuseGuard)
    (available : Int) : Bool × HttpReuseGuard :=
  if !guard.armed then (true, guard)
  else (decide (available = 0), { armed := false })

/-- What a call does to the client below. -/
inductive Effect where
  | none
  | stopped
  | written
deriving DecidableEq

/-- `available()`, where the client below has so many bytes: what it returns
and does. -/
def available (guard : HttpReuseGuard) (pending : Int) : Int × Effect :=
  if guard.rejectsAvailable pending then (0, .stopped) else (pending, .none)

/-- `write()`; the client below is asked only when the guard is armed. -/
def write (guard : HttpReuseGuard) (pending : Int) :
    Effect × HttpReuseGuard :=
  if guard.armed then
    let allowed := guard.allowFirstWrite pending
    if !allowed.1 then (.stopped, allowed.2) else (.written, allowed.2)
  else (.written, guard)

/-- A call, with what the client below has buffered at that moment. -/
inductive ClientCall where
  | guardNextRequest
  | available (pending : Int)
  | write (pending : Int)

inductive ClientEvent where
  | guarded
  | asked (pending : Int) (returned : Int) (effect : Effect)
  | wrote (pending : Int) (effect : Effect)
deriving DecidableEq

/-- `ReuseGuardedClient`, and every call of it so far, the last one first. -/
structure ReuseGuardedClient where
  reuseGuard : HttpReuseGuard
  history : List ClientEvent

def ReuseGuardedClient.initial : ReuseGuardedClient where
  reuseGuard := { armed := false }
  history := []

def ReuseGuardedClient.called (client : ReuseGuardedClient) :
    ClientCall → ReuseGuardedClient
  | .guardNextRequest =>
    { reuseGuard := client.reuseGuard.arm
      history := .guarded :: client.history }
  | .available pending =>
    let answer := available client.reuseGuard pending
    { client with
      history := .asked pending answer.1 answer.2 :: client.history }
  | .write pending =>
    let effect := write client.reuseGuard pending
    { reuseGuard := effect.2
      history := .wrote pending effect.1 :: client.history }

/-- Every call returns. -/
def ReuseGuardedClient.step : System ReuseGuardedClient ClientCall :=
  fun client call => some (client.called call)

/-! ## The length of the body -/

/-- The loop over the characters of the length. -/
def lengthFrom (length : BitVec 32) : List Byte → Option (BitVec 32)
  | [] => some length
  | byte :: rest =>
    if !isDigit byte then none
    else
      let digit := digitOf byte
      if length > (telemetryResponseBodyLimit - digit) / 10 then none
      else lengthFrom (length * 10 + digit) rest

/-- The length where the code returns true; `parsedLength` is an `int`. -/
def acceptedResponseBodyLength (status : Int)
    (contentLength transferEncoding : Option CString)
    (parsedLength : BitVec 32) : Option (BitVec 32) :=
  match contentLength, transferEncoding with
  | some contentLength, some transferEncoding =>
    if (status ≠ 200 ∧ status ≠ 202) ∨ contentLength.bytes = [] ∨
        transferEncoding.bytes ≠ [] ∨ parsedLength.toInt < 0 then none
    else
      match lengthFrom 0 contentLength.bytes with
      | none => none
      | some length => if parsedLength = length then some length else none
  | _, _ => none

/-! ## Reading the body -/

/-- What one round of the loop meets: the clock, what is available, whether
the peer is connected, and how many bytes a read of so many returns. -/
structure Round where
  now : BitVec 32
  available : Int
  connected : Bool
  received : Nat → Int

/-- The reading before the loop, and its rounds. -/
structure Stream where
  startedAt : BitVec 32
  rounds : Nat → Round

/-- What the code returns, after so many rounds and bytes. -/
structure Drained where
  complete : Bool
  rounds : Nat
  consumed : Nat
deriving DecidableEq

/-- `count`, which is limited by the buffer and by what is available. -/
def readCount (length consumed : Nat) (available : Int) : Nat :=
  let count := length - consumed
  let count := if count > 128 then 128 else count
  if count > available.toNat then available.toNat else count

/-- The loop from a round on, for at most so many rounds more. -/
def drainFrom (stream : Stream) (length : Nat) :
    Nat → Nat → Nat → Option Drained
  | 0, _, _ => none
  | limit + 1, index, consumed =>
    let round := stream.rounds index
    let late := decide
      (round.now - stream.startedAt ≥ telemetryResponseDrainTimeoutMs)
    let stopped (complete : Bool) : Drained :=
      { complete := complete
        rounds := index
        consumed := consumed }
    if consumed < length then
      if late then some (stopped false)
      else if round.available < 0 ∨
          round.available = 0 ∧ round.connected = false then
        some (stopped false)
      else if round.available = 0 then
        drainFrom stream length limit (index + 1) consumed
      else
        let count := readCount length consumed round.available
        let received := round.received count
        if received ≤ 0 ∨ received.toNat > count then some (stopped false)
        else
          drainFrom stream length limit (index + 1)
            (consumed + received.toNat)
    else if 0 < length ∧ late = true then some (stopped false)
    else some (stopped (decide (round.available = 0)))

def drainResponseBody (limit : Nat) (stream : Stream) (length : Nat) :
    Option Drained :=
  drainFrom stream length limit 0 0

structure HttpClient where
  contentLength : CString
  transferEncoding : CString
  size : BitVec 32
  stream : Option Stream

/-- At most so many rounds of the loop are run. -/
def consumeAcceptedResponse (limit : Nat) (http : HttpClient)
    (status : Int) : Option Drained :=
  let refused : Drained :=
    { complete := false
      rounds := 0
      consumed := 0 }
  match acceptedResponseBodyLength status (some http.contentLength)
      (some http.transferEncoding) http.size with
  | none => some refused
  | some length =>
    if length = 0 then
      some
        { complete := http.stream.all fun stream =>
            decide ((stream.rounds 0).available = 0)
          rounds := 0
          consumed := 0 }
    else
      match http.stream with
      | none => some refused
      | some stream => drainResponseBody limit stream length.toNat

end Eki.Firmware.Http
