import Mathlib.Tactic.Positivity
import Eki.Library.Transition
import Eki.Trip.JsNumber

/-!
# The circuit of the reroute provider

After five failures in a row the provider is left alone for a while; then one
probe at a time may ask it again.  A handle may complete late, more than once
or never, so that it remembers the generation it was acquired in.
-/

namespace Eki.Reroute

open Transition

variable {R : Type}

/-- The longest wait after an opening. -/
def openingCeiling [JsNumber R] (openings : Nat) : R :=
  JsNumber.min 300000
    (60000 * JsNumber.ofNat (Nat.pow 2 (min 10 (openings - 1))))

def openingEnd [JsNumber R] (openings : Nat) (now random : R) : R :=
  now + openingCeiling openings * (1 / 2 + random * (1 / 2))

/-- Numbers in which an opening ends after the time zero. -/
class ClockNumber (R : Type) extends JsNumber R where
  not_zero_lt_zero : ¬ (0 : R) < 0
  openingEnd_pos : ∀ (openings : Nat) (now random : R), 0 ≤ now →
    0 ≤ random → 0 < openingEnd openings now random

theorem openingCeiling_pos (openings : Nat) :
    (0 : ℚ) < openingCeiling openings := by
  have power : 0 < Nat.pow 2 (min 10 (openings - 1)) :=
    Nat.pow_pos (Nat.succ_pos 1)
  have factor : (0 : ℚ) < ((Nat.pow 2 (min 10 (openings - 1)) : Nat) : ℚ) :=
    Nat.cast_pos.mpr power
  have product : (0 : ℚ) <
      (60000 : ℚ) * ((Nat.pow 2 (min 10 (openings - 1)) : Nat) : ℚ) :=
    mul_pos (by norm_num) factor
  show (0 : ℚ) < if _ then _ else _
  split
  · norm_num
  · exact product

instance : ClockNumber ℚ where
  not_zero_lt_zero := by decide
  openingEnd_pos openings now random after chance := by
    have ceiling := openingCeiling_pos openings
    have share : (0 : ℚ) ≤ random * (1 / 2) :=
      mul_nonneg chance (by norm_num)
    have rest : (0 : ℚ) < 1 / 2 + random * (1 / 2) :=
      add_pos_of_pos_of_nonneg (by norm_num) share
    exact add_pos_of_nonneg_of_pos after (mul_pos ceiling rest)

/-- What `performance.now` and `Math.random` return at a completion. -/
structure Draw (R : Type) [JsNumber R] where
  now : R
  random : R
  now_nonneg : 0 ≤ now
  random_nonneg : 0 ≤ random

/-- `RerouteProviderCircuit` -/
structure Circuit (R : Type) where
  failures : Nat
  openings : Nat
  generation : Nat
  openUntil : R
  probing : Bool
  rejected : Nat

/-- The variables of the closure that `acquire` returns. -/
structure Handle where
  probe : Bool
  generation : Nat
  finished : Bool

variable [ClockNumber R]

namespace Circuit

def new : Circuit R :=
  { failures := 0
    openings := 0
    generation := 0
    openUntil := 0
    probing := false
    rejected := 0 }

def acquire (circuit : Circuit R) (now : R) : Circuit R × Option Handle :=
  if circuit.probing || decide (now < circuit.openUntil) then
    ({ circuit with rejected := circuit.rejected + 1 }, none)
  else
    let probe := decide (0 < circuit.openUntil)
    ({ circuit with probing := probe || circuit.probing },
      some
        { probe
          generation := circuit.generation
          finished := false })

/-- The completion of a handle of this generation. -/
def complete (circuit : Circuit R) (probe : Bool) (success : Option Bool)
    (draw : Draw R) : Circuit R :=
  let circuit :=
    if probe then { circuit with probing := false } else circuit
  match success with
  -- A rejected claim or an invalid itinerary is not a provider failure.
  | none => circuit
  | some true =>
    { circuit with
      failures := 0
      openings := 0
      openUntil := 0 }
  | some false =>
    let failures := circuit.failures + 1
    if probe || decide (5 ≤ failures) then
      { circuit with
        failures
        openings := circuit.openings + 1
        openUntil :=
          openingEnd (circuit.openings + 1) draw.now draw.random
        generation := circuit.generation + 1 }
    else { circuit with failures }

theorem complete_failed (circuit : Circuit R) (probe : Bool) (draw : Draw R) :
    circuit.complete probe (some false) draw =
      if probe = true ∨ 5 ≤ circuit.failures + 1 then
        { circuit with
          probing := !probe && circuit.probing
          failures := circuit.failures + 1
          openings := circuit.openings + 1
          openUntil := openingEnd (circuit.openings + 1) draw.now draw.random
          generation := circuit.generation + 1 }
      else { circuit with failures := circuit.failures + 1 } := by
  cases probe <;> simp [complete]

end Circuit

/-- The circuit with the handles it gave out.  No step reads the outcomes,
the newest first. -/
structure Provider (R : Type) where
  circuit : Circuit R
  handles : List Handle
  outcomes : List Bool

inductive ProviderLabel (R : Type) [JsNumber R] where
  | acquire (now : R)
  /-- A handle is called, maybe not for the first time. -/
  | finish (index : Nat) (success : Option Bool) (draw : Draw R)

namespace Provider

def new : Provider R :=
  { circuit := .new
    handles := []
    outcomes := [] }

variable (provider : Provider R)

def acquire (now : R) : Provider R :=
  let (circuit, handle) := provider.circuit.acquire now
  { provider with
    circuit
    handles := provider.handles ++ handle.toList }

def finish (index : Nat) (success : Option Bool) (draw : Draw R) :
    Option (Provider R) :=
  match provider.handles[index]? with
  | none => none
  | some handle =>
    if handle.finished then some provider
    else
      let handles :=
        provider.handles.set index { handle with finished := true }
      if handle.generation ≠ provider.circuit.generation then
        some { provider with handles }
      else
        some
          { circuit := provider.circuit.complete handle.probe success draw
            handles
            outcomes := success.toList ++ provider.outcomes }

def step : System (Provider R) (ProviderLabel R) :=
  fun provider label =>
    match label with
    | .acquire now => some (provider.acquire now)
    | .finish index success draw => provider.finish index success draw

end Provider

end Eki.Reroute
