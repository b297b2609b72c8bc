import Eki.Firmware.CString
import Eki.Library.Serial
import Eki.Library.Transition

/-!
# Resolving names on the device

One slot for a lookup of the network library.  A caller that has given up does
not free it; the callback of the lookup does.
-/

namespace Eki.Firmware.Dns

open Transition

/-- Unsigned milliseconds, which wrap around. -/
abbrev Millis := BitVec 32

def responseBudgetMs : Millis := 1000

def hostCapacity : Nat := 254

inductive Admission where
  | started
  | waiting
  | rejected
deriving DecidableEq

inductive Result where
  | pending
  | resolved
  | failed
  | expired
deriving DecidableEq

structure Request where
  admission : Admission
  ticket : Serial.Number
deriving DecidableEq

/-- The members of the class; `host` is what its buffer holds up to the
zero. -/
structure ResolutionState where
  active : Bool
  sequence : Serial.Number
  ticket : Serial.Number
  epoch : BitVec 32
  startedAt : Millis
  finishedTicket : Serial.Number
  finishedEpoch : BitVec 32
  finishedStart : Millis
  address : BitVec 32
  host : CString

def ResolutionState.empty : ResolutionState where
  active := false
  sequence := 0
  ticket := 0
  epoch := 0
  startedAt := 0
  finishedTicket := 0
  finishedEpoch := 0
  finishedStart := 0
  address := 0
  host :=
    { bytes := []
      terminated := List.not_mem_nil }

/-- The loop over a host's name, which looks at so many bytes at most. -/
def hostLength : Nat → List Byte → Nat
  | 0, _ => 0
  | _ + 1, [] => 0
  | capacity + 1, _ :: rest => hostLength capacity rest + 1

def Request.refused : Request where
  admission := .rejected
  ticket := 0

def ResolutionState.begin (state : ResolutionState) (host : Option CString)
    (epoch : BitVec 32) (now : Millis) : Request × ResolutionState :=
  match host with
  | none => (Request.refused, state)
  | some host =>
    if host.bytes = [] then (Request.refused, state)
    else if hostLength hostCapacity host.bytes = hostCapacity then
      (Request.refused, state)
    else if state.active then
      if epoch = state.epoch ∧ host = state.host then
        ({ admission := .waiting
           ticket := state.ticket }, state)
      else (Request.refused, state)
    else
      let sequence := Serial.next state.sequence
      ({ admission := .started
         ticket := sequence },
        { state with
          active := true
          sequence := sequence
          ticket := sequence
          epoch := epoch
          startedAt := now
          host := host })

def ResolutionState.complete (state : ResolutionState) (ticket : Serial.Number)
    (currentEpoch address : BitVec 32) (now : Millis) :
    Bool × ResolutionState :=
  if !state.active ∨ ticket ≠ state.ticket then (false, state)
  else
    (true,
      { state with
        active := false
        finishedTicket := state.ticket
        finishedEpoch := state.epoch
        finishedStart := state.startedAt
        address :=
          if currentEpoch = state.epoch ∧
            now - state.startedAt < responseBudgetMs then address
          else 0 })

/-- The result and the address that is written through the reference. -/
def ResolutionState.poll (state : ResolutionState) (ticket : Serial.Number)
    (epoch : BitVec 32) (now : Millis) : Result × BitVec 32 :=
  if state.active ∧ ticket = state.ticket then
    if epoch ≠ state.epoch then (.failed, 0)
    else if now - state.startedAt ≥ responseBudgetMs then (.expired, 0)
    else (.pending, 0)
  else if ticket = 0 ∨ ticket ≠ state.finishedTicket ∨
      epoch ≠ state.finishedEpoch then (.failed, 0)
  else if now - state.finishedStart ≥ responseBudgetMs then (.expired, 0)
  else if state.address ≠ 0 then (.resolved, state.address)
  else (.failed, state.address)

inductive Call where
  | begin (host : Option CString) (epoch : BitVec 32) (now : Millis)
  | complete (ticket : Serial.Number) (currentEpoch address : BitVec 32)
      (now : Millis)
  | poll (ticket : Serial.Number) (epoch : BitVec 32) (now : Millis)

/-- A call and what it returned. -/
inductive Event where
  | begin (host : Option CString) (epoch : BitVec 32) (now : Millis)
      (request : Request)
  | complete (ticket : Serial.Number) (currentEpoch address : BitVec 32)
      (now : Millis) (accepted : Bool)
  | poll (ticket : Serial.Number) (epoch : BitVec 32) (now : Millis)
      (result : Result) (address : BitVec 32)
deriving DecidableEq

/-- The slot and every call of it so far, the last one first. -/
structure Resolver where
  state : ResolutionState
  history : List Event

def Resolver.initial : Resolver where
  state := ResolutionState.empty
  history := []

def Resolver.called (resolver : Resolver) : Call → Resolver
  | .begin host epoch now =>
    let begun := resolver.state.begin host epoch now
    { state := begun.2
      history := .begin host epoch now begun.1 :: resolver.history }
  | .complete ticket currentEpoch address now =>
    let completed := resolver.state.complete ticket currentEpoch address now
    { state := completed.2
      history :=
        .complete ticket currentEpoch address now completed.1 ::
          resolver.history }
  | .poll ticket epoch now =>
    let polled := resolver.state.poll ticket epoch now
    { state := resolver.state
      history :=
        .poll ticket epoch now polled.1 polled.2 :: resolver.history }

/-- Every call returns. -/
def Resolver.step : System Resolver Call := fun resolver call =>
  some (resolver.called call)

end Eki.Firmware.Dns
