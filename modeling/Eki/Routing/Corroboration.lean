import Eki.Routing.RouteVersions

/-!
# Corroborated reroutes

The count of deviating samples is carried in the live node from one matched
sample to the next.  A reroute needs a strong deviation, or a second deviating
sample before the bus was seen on its route again.
-/

namespace Eki

open Transition

variable {R : Type} [JsNumber R]

structure AcceptedSample (R : Type) where
  motionState : MotionState
  speed : R
  gpsHdop : Option R

/-- A fix confirms a deviation only with a valid HDOP. -/
def isReliableMovingSample (acceptedSample : AcceptedSample R) : Bool :=
  acceptedSample.motionState == .moving &&
    decide (acceptedSample.speed ≥ (3 : R)) &&
    acceptedSample.gpsHdop.any fun hdop =>
      JsNumber.isFinite hdop && decide (hdop ≥ 0) &&
        decide (hdop ≤ gnssHdopMax)

structure MatchedSample (R : Type) where
  found : Option (RouteMatch R)
  accepted : AcceptedSample R

namespace MatchedSample

variable (sample : MatchedSample R)

def moving : Bool :=
  isReliableMovingSample sample.accepted

omit [JsNumber R] in
def ambiguous : Bool :=
  sample.found.any RouteMatch.isAmbiguous

/-- The bus is on its route beyond doubt. -/
def onRoute : Bool :=
  sample.found.any RouteMatch.onRoute

/-- The sample counts toward a reroute. -/
def deviates : Bool :=
  sample.moving && !sample.ambiguous && !sample.onRoute

/-- `STRONG_OFF_ROUTE_DISTANCE_M` -/
def strong : Bool :=
  sample.found.any fun position =>
    decide (position.distanceToRouteM ≥ (120 : R))

/-- What the route service decides with the state that the node carries. -/
def decision (context : RouteContext) (matchingContextChanged : Bool)
    (now : Nat) : RouteAdherenceDecision :=
  evaluateRouteAdherence
    (if matchingContextChanged then none
      else context.adherencePreviousState now)
    (if matchingContextChanged then 0 else context.offRouteSampleCount)
    sample.found sample.moving

end MatchedSample

/-- The route context of a node, and the samples that it carries, the newest
first. -/
structure Adherence (R : Type) where
  context : RouteContext
  samples : List (MatchedSample R)

inductive AdherenceLabel (R : Type) where
  | sample (sample : MatchedSample R) (matchingContextChanged : Bool)
    (now : Nat)
  /-- Any other writer of the route context. -/
  | write (context : RouteContext)

namespace Adherence

def empty : Adherence R :=
  { context := {}
    samples := [] }

/-- A sample whose write commits is carried; other writers keep the count or
start it anew. -/
def step : System (Adherence R) (AdherenceLabel R) :=
  fun adherence label =>
    match label with
    | .sample sample matchingContextChanged now =>
      let decision :=
        sample.decision adherence.context matchingContextChanged now
      some
        { context :=
            { adherence.context with
              routeState := some decision.routeState
              offRouteSampleCount := decision.offRouteSampleCount }
          samples := sample :: adherence.samples }
    | .write context =>
      if context.offRouteSampleCount = adherence.context.offRouteSampleCount ∨
          context.offRouteSampleCount = 0 then
        some { adherence with context }
      else none

end Adherence

/-! ## The route service takes such steps -/

theorem Matching.adherence_eq (matching : Matching R)
    (reading : RouteReading R) (sample : MatchedSample R)
    (found : reading.found = sample.found)
    (moving : reading.reliablyMoving = sample.moving) :
    matching.adherence reading =
      sample.decision matching.context
        (matching.matchingContextChanged reading) reading.now := by
  unfold Matching.adherence MatchedSample.decision
  rw [found, moving]

theorem Matching.matched_carries (matching : Matching R)
    (config : RoutingConfig R) (reading : RouteReading R)
    (current : RouteContext) :
    (matching.matched config reading current).routeState =
        some (matching.adherence reading).routeState ∧
      (matching.matched config reading current).offRouteSampleCount =
        (matching.adherence reading).offRouteSampleCount :=
  ⟨rfl, rfl⟩

def CountKept (before after : RouteContext) : Prop :=
  after.offRouteSampleCount = before.offRouteSampleCount ∨
    after.offRouteSampleCount = 0

variable {config : RoutingConfig R} {now : Nat} {live : LiveBus R}
  {context : RouteContext} {reroute : Reroute}

section

omit [JsNumber R]

variable {task : RerouteTask} {requestId : Nat} {after : RouteContext}

theorem requestReroute_count {random : ℚ}
    (claimed : requestReroute config task requestId now random live context =
      some (after, reroute)) : CountKept context after := by
  unfold requestReroute at claimed
  simp only at claimed
  split at claimed
  · cases claimed
  · cases claimed
    exact Or.inl rfl

theorem refreshDepartureRoute_count
    (claimed : refreshDepartureRoute config task requestId now live context =
      some (after, reroute)) : CountKept context after := by
  unfold refreshDepartureRoute at claimed
  split at claimed
  · cases claimed
  · simp only at claimed
    split at claimed
    · cases claimed
    · cases claimed
      exact Or.inl rfl

theorem Reroute.activate_count {after : LiveBus R} {next : RouteContext}
    (activated : reroute.activate now live context = some (after, next)) :
    CountKept context next := by
  unfold Reroute.activate at activated
  split at activated
  · cases activated
  · cases activated
    exact Or.inr rfl

theorem Reroute.fail_count (reroute : Reroute) (now : Nat) (random : ℚ)
    (live : LiveBus R) (context : RouteContext) :
    CountKept context (reroute.fail now random live context) := by
  unfold Reroute.fail
  split
  · split
    · exact Or.inl rfl
    · exact Or.inl rfl
  · split
    · exact Or.inl rfl
    · exact Or.inl rfl

theorem Routing.claimed_count {routing next : Routing R} {nodeKey : String}
    {pid : Nat}
    {claim : LiveBus R → RouteContext → Option (RouteContext × Reroute)}
    (kept : ∀ live context after reroute,
      claim live context = some (after, reroute) → CountKept context after)
    (taken : routing.claimed nodeKey pid claim = some next) :
    CountKept routing.context next.context := by
  unfold Routing.claimed at taken
  obtain ⟨live, -, made⟩ := Option.bind_eq_some_iff.mp taken
  obtain ⟨⟨context, reroute⟩, claimed, rfl⟩ := Option.map_eq_some_iff.mp made
  exact kept live routing.context context reroute claimed

end

theorem Routing.act_count {nodeKey : String} {routing next : Routing R}
    {label : RoutingLabel R}
    (other : ∀ pid reading, label ≠ .matched pid reading)
    (taken : routing.act config nodeKey label = some next) :
    CountKept routing.context next.context := by
  cases label with
  | resolveDirection direction =>
    cases taken
    unfold CountKept Routing.resolveDirection Routing.write
    simp only
    split
    · exact Or.inr rfl
    · exact Or.inl rfl
  | resetDirection =>
    cases taken
    unfold CountKept Routing.resetDirection Routing.write
    simp only
    split
    · exact Or.inr rfl
    · exact Or.inl rfl
  | read | crash | readEngine | document =>
    cases taken
    exact Or.inl rfl
  | matched pid reading => exact absurd rfl (other pid reading)
  | reroute pid task now random =>
    apply Routing.claimed_count _ taken
    intro live context after reroute claimed
    exact requestReroute_count claimed
  | departure pid task now =>
    apply Routing.claimed_count _ taken
    intro live context after reroute claimed
    exact refreshDepartureRoute_count claimed
  | activate pid now current =>
    obtain ⟨reroute, -, rfl⟩ := Option.map_eq_some_iff.mp taken
    unfold Routing.activate
    simp only
    split
    · exact Or.inl rfl
    · rename_i live context activated
      obtain ⟨before, -, activated⟩ := Option.bind_eq_some_iff.mp activated
      split at activated
      · exact Reroute.activate_count activated
      · cases activated
  | reject pid =>
    obtain ⟨reroute, -, rfl⟩ := Option.map_eq_some_iff.mp taken
    exact Or.inl rfl
  | fail pid now random =>
    obtain ⟨reroute, -, rfl⟩ := Option.map_eq_some_iff.mp taken
    unfold Routing.fail
    simp only
    split
    · exact Or.inl rfl
    · exact Reroute.fail_count reroute now random _ routing.context
  | commit =>
    obtain ⟨update, -, rfl⟩ := Option.map_eq_some_iff.mp taken
    exact Or.inl rfl
  | restore pid request =>
    simp only [Routing.act] at taken
    split at taken
    · cases taken
    · cases taken
      exact Or.inl rfl
  | publishRestore pid =>
    obtain ⟨⟨request, lifecycle⟩, -, rfl⟩ :=
      Option.map_eq_some_iff.mp taken
    unfold Routing.publishRestore
    simp only
    split
    · exact Or.inl rfl
    · unfold CountKept Routing.write
      simp only
      split
      · exact Or.inl rfl
      · exact Or.inr rfl
  | claim | remove =>
    cases taken
    exact Or.inr rfl
  | rewrite live fix =>
    simp only [Routing.act] at taken
    split at taken
    · cases taken
      exact Or.inl rfl
    · cases taken

/-- Whatever the service does but match is a write of the run. -/
theorem Routing.writes_adherence {nodeKey : String} {routing next : Routing R}
    {label : RoutingLabel R}
    (other : ∀ pid reading, label ≠ .matched pid reading)
    (taken : Routing.step config nodeKey routing label = some next)
    (samples : List (MatchedSample R)) :
    Adherence.step { context := routing.context, samples }
        (.write next.context) =
      some { context := next.context, samples } := by
  obtain ⟨after, acted, rfl⟩ := Option.map_eq_some_iff.mp taken
  rw [noted_context]
  exact if_pos (Routing.act_count other acted)

/-! ## What a sample decides -/

namespace MatchedSample

variable {sample : MatchedSample R} {context : RouteContext}
  {matchingContextChanged : Bool} {now : Nat}

def countBefore (context : RouteContext) (matchingContextChanged : Bool) :
    Nat :=
  if matchingContextChanged then 0 else context.offRouteSampleCount

theorem countBefore_le (context : RouteContext)
    (matchingContextChanged : Bool) :
    countBefore context matchingContextChanged ≤
      context.offRouteSampleCount := by
  unfold countBefore
  split
  · exact Nat.zero_le _
  · exact Nat.le_refl _

theorem decision_of_onRoute (onRoute : sample.onRoute = true) :
    (sample.decision context matchingContextChanged now).offRouteSampleCount =
        0 ∧
      (sample.decision context matchingContextChanged now).shouldReroute =
        false := by
  unfold MatchedSample.onRoute at onRoute
  unfold decision evaluateRouteAdherence
  simp only [onRoute, if_true]
  exact ⟨trivial, trivial⟩

theorem decision_of_waiting (offRoute : sample.onRoute = false)
    (waits : sample.deviates = false) :
    (sample.decision context matchingContextChanged now).offRouteSampleCount =
        countBefore context matchingContextChanged ∧
      (sample.decision context matchingContextChanged now).shouldReroute =
        false := by
  have open_question : (sample.ambiguous || !sample.moving) = true := by
    unfold deviates at waits
    rw [offRoute] at waits
    cases moving : sample.moving with
    | false => simp
    | true =>
      cases ambiguous : sample.ambiguous with
      | true => rfl
      | false =>
        rw [moving, ambiguous] at waits
        cases waits
  unfold onRoute at offRoute
  unfold ambiguous at open_question
  unfold decision evaluateRouteAdherence countBefore
  simp only [offRoute, Bool.false_eq_true, if_false, open_question, if_true]
  exact ⟨trivial, trivial⟩

theorem decision_of_deviates (deviates : sample.deviates = true)
    (reroutes :
      (sample.decision context matchingContextChanged now).shouldReroute =
        true) :
    2 ≤ min 2
      (if sample.strong then 2
        else countBefore context matchingContextChanged + 1) := by
  unfold MatchedSample.deviates at deviates
  simp only [Bool.and_eq_true, Bool.not_eq_true'] at deviates
  obtain ⟨⟨moving, clear⟩, offRoute⟩ := deviates
  unfold onRoute at offRoute
  unfold ambiguous at clear
  unfold decision evaluateRouteAdherence at reroutes
  unfold strong countBefore
  simp only [offRoute, clear, moving, Bool.false_eq_true, if_false,
    Bool.not_true, Bool.or_false, Bool.and_eq_true,
    decide_eq_true_eq] at reroutes
  exact reroutes.1

end MatchedSample

namespace Adherence

variable {adherence : Adherence R}

/-- A counted sample, and the bus was not seen on its route since. -/
def Corroborates (samples : List (MatchedSample R)) : Prop :=
  ∃ newer sample older, samples = newer ++ sample :: older ∧
    sample.deviates = true ∧ ∀ between ∈ newer, between.onRoute = false

def Counted (adherence : Adherence R) : Prop :=
  0 < adherence.context.offRouteSampleCount → Corroborates adherence.samples

theorem counted_empty : Counted (empty : Adherence R) := by
  intro positive
  cases positive

variable {sample : MatchedSample R}

theorem Corroborates.cons {samples : List (MatchedSample R)}
    (corroborates : Corroborates samples) (offRoute : sample.onRoute = false) :
    Corroborates (sample :: samples) := by
  obtain ⟨newer, counted, older, split, deviates, none_between⟩ := corroborates
  refine ⟨sample :: newer, counted, older, ?_, deviates, ?_⟩
  · rw [split, List.cons_append]
  · intro between member
    rcases List.mem_cons.mp member with same | later
    · rw [same]
      exact offRoute
    · exact none_between between later

theorem Counted.step {label : AdherenceLabel R} {next : Adherence R}
    (counted : Counted adherence)
    (taken : Adherence.step adherence label = some next) : Counted next := by
  cases label with
  | write context =>
    simp only [Adherence.step] at taken
    split at taken
    · rename_i kept
      cases taken
      intro positive
      rcases kept with same | zero
      · rw [same] at positive
        exact counted positive
      · rw [zero] at positive
        cases positive
    · cases taken
  | sample sample matchingContextChanged now =>
    cases taken
    intro positive
    simp only at positive
    cases onRoute : sample.onRoute with
    | true =>
      rw [(MatchedSample.decision_of_onRoute onRoute).1] at positive
      cases positive
    | false =>
      cases deviates : sample.deviates with
      | true =>
        refine ⟨[], sample, adherence.samples, rfl, deviates, ?_⟩
        intro between member
        cases member
      | false =>
        rw [(MatchedSample.decision_of_waiting onRoute deviates).1]
          at positive
        unfold MatchedSample.countBefore at positive
        split at positive
        · cases positive
        · exact (counted positive).cons onRoute

/-- What the next sample may do after a run. -/
structure Corroborated (adherence : Adherence R) : Prop where
  /-- A reroute is asked for on a deviation that is strong or the second. -/
  reroutes : ∀ (sample : MatchedSample R) matchingContextChanged now,
    (sample.decision adherence.context matchingContextChanged
      now).shouldReroute = true →
    sample.moving = true ∧ sample.ambiguous = false ∧
      sample.onRoute = false ∧
      (sample.strong = true ∨ Corroborates adherence.samples)
  /-- Unreliable, stationary and ambiguous samples never raise the count. -/
  steady : ∀ (sample : MatchedSample R) matchingContextChanged now,
    sample.moving = false ∨ sample.ambiguous = true →
    (sample.decision adherence.context matchingContextChanged
      now).offRouteSampleCount ≤ adherence.context.offRouteSampleCount

theorem Counted.reroutes (counted : Counted adherence)
    {matchingContextChanged : Bool}
    (reroutes : (sample.decision adherence.context matchingContextChanged
      now).shouldReroute = true) :
    sample.deviates = true ∧
      (sample.strong = true ∨ Corroborates adherence.samples) := by
  cases onRoute : sample.onRoute with
  | true =>
    rw [(MatchedSample.decision_of_onRoute onRoute).2] at reroutes
    cases reroutes
  | false =>
    cases deviates : sample.deviates with
    | false =>
      rw [(MatchedSample.decision_of_waiting onRoute deviates).2]
        at reroutes
      cases reroutes
    | true =>
      refine ⟨rfl, ?_⟩
      have two := MatchedSample.decision_of_deviates deviates reroutes
      cases strong : sample.strong with
      | true => exact Or.inl rfl
      | false =>
        right
        apply counted
        have carried := MatchedSample.countBefore_le adherence.context
          matchingContextChanged
        simp only [strong, Bool.false_eq_true, if_false] at two
        omega

/-- After any samples and other writes, a reroute is corroborated. -/
theorem corroborated_of_steps
    (steps : System.Steps (Adherence.step (R := R)) (fun _ _ => True) empty
      adherence) : Corroborated adherence := by
  have counted : Counted adherence := by
    apply System.Steps.invariant steps counted_empty
    intro state label next counted _ taken
    exact counted.step taken
  constructor
  · intro sample matchingContextChanged now reroutes
    obtain ⟨deviates, reason⟩ := counted.reroutes reroutes
    unfold MatchedSample.deviates at deviates
    simp only [Bool.and_eq_true, Bool.not_eq_true'] at deviates
    exact ⟨deviates.1.1, deviates.1.2, deviates.2, reason⟩
  · intro sample matchingContextChanged now waits
    cases onRoute : sample.onRoute with
    | true =>
      rw [(MatchedSample.decision_of_onRoute onRoute).1]
      exact Nat.zero_le _
    | false =>
      have still : sample.deviates = false := by
        unfold MatchedSample.deviates
        rcases waits with resting | ambiguous
        · rw [resting]
          rfl
        · rw [ambiguous, Bool.not_true, Bool.and_false, Bool.false_and]
      rw [(MatchedSample.decision_of_waiting onRoute still).1]
      exact MatchedSample.countBefore_le adherence.context
        matchingContextChanged

/-- A weak deviation, an ambiguous sample and another weak deviation. -/
theorem corroborated_of_two_deviations :
    ∃ adherence : Adherence ℚ, Corroborated adherence ∧
      adherence.context.offRouteSampleCount = 2 ∧
      adherence.context.routeState = some .offRoute ∧
      adherence.samples.length = 3 := by
  let away (isAmbiguous : Bool) : MatchedSample ℚ :=
    { found :=
        some
          { isAmbiguous
            distanceToRouteM := 70
            matchConfidence := 1 / 5 }
      accepted :=
        { motionState := .moving
          speed := 20
          gpsHdop := some 1 } }
  have decided :
      (System.run (Adherence.step (R := ℚ)) (fun _ _ => true) empty
        [.sample (away false) true 0, .sample (away true) false 1,
          .sample (away false) false 2]).any (fun adherence =>
            adherence.context.offRouteSampleCount = 2 &&
              adherence.context.routeState = some .offRoute &&
              adherence.samples.length = 3) = true := by
    decide +kernel
  obtain ⟨adherence, steps, ended⟩ := System.exists_of_run decided
  simp only [Bool.and_eq_true, decide_eq_true_eq] at ended
  refine ⟨adherence, ?_, ended.1.1, ended.1.2, ended.2⟩
  exact corroborated_of_steps (steps.mono fun _ _ _ => trivial)

end Adherence

end Eki
