import Eki.Ride.TerminalStatus

/-!
# Stopped rides on the live node

A stop commits in Firestore and then retires the live node.  Three live writes
put a session on a node: the claim of a start, the activation of a return and
the restore of a ride.  One of them that lands after the retirement leaves the
stopped session there, and nothing takes it away.
-/

namespace Eki

open Transition

variable {R : Type} [JsNumber R]

def NodeCarries (node : Option (LiveBus R)) (sessionId : String) : Bool :=
  node.any fun live => live.sessionId == some sessionId && live.riding

omit [JsNumber R] in
@[simp] theorem nodeCarries_none (sessionId : String) :
    NodeCarries (none : Option (LiveBus R)) sessionId = false := rfl

omit [JsNumber R] in
@[simp] theorem nodeCarries_some {live : LiveBus R} {sessionId : String} :
    NodeCarries (some live) sessionId = true ↔
      live.sessionId = some sessionId ∧ live.status = .active ∧
        live.tripState ≠ some .completed := by
  simp [NodeCarries, LiveBus.riding]

variable {sessionId : String}

omit [JsNumber R] in
theorem carries_of_map {node : Option (LiveBus R)}
    {update : LiveBus R → LiveBus R} {puts : Prop}
    (carries : NodeCarries (node.map update) sessionId = true)
    (keeps : ∀ live, node = some live →
      NodeCarries (some (update live)) sessionId = true →
      NodeCarries (some live) sessionId = true ∨ puts) :
    NodeCarries node sessionId = true ∨ puts := by
  cases node with
  | none => cases carries
  | some live => exact keeps live rfl carries

def Process.publishes (store : Store R) :
    Process R → Option (String × String)
  | .start { request, step := .claimLive _ claim _ } =>
    if (store.live request.nodeKey).any fun live =>
        live.riding && live.sessionId.isSome then
      none
    else some (request.nodeKey, claim.sessionId)
  | .turnaround (.activate armed) =>
    some (armed.nodeKey, armed.sessionRef)
  | .restore { request, step := .publish (.ride ride) } =>
    some (request.nodeKey, ride.sessionId)
  | _ => none

/-- A completion in flight has reduced its ride to completed. -/
def Process.Finishing : Process R → Prop
  | .engine (.complete update) | .engine (.publishCompletion update _) =>
    update.progress.tripState = .completed
  | _ => True

variable {config : RideConfig R} {ambient : Ambient} {store : Store R}
  {process : Process R} {nodeKey : String}

omit [JsNumber R] in
/-- A step leaves a session on a node only where it was before, or where the
step puts it. -/
theorem carries_of_liveWrite {after : Option (LiveBus R)}
    (write : Process.LiveWrite config ambient store process nodeKey after)
    (finishing : process.Finishing)
    (carries : NodeCarries after sessionId = true) :
    NodeCarries (store.live nodeKey) sessionId = true ∨
      process.publishes store = some (nodeKey, sessionId) := by
  cases write with
  | claimLive done =>
    right
    obtain ⟨free, claimed, -⟩ := claimLive_eq_some done
    obtain ⟨carried, -⟩ := nodeCarries_some.mp carries
    rw [claimed, Option.some.injEq] at carried
    simp [Process.publishes, free, carried]
  | completeSetup | release =>
    apply carries_of_map carries
    intro live _ kept
    split at kept <;> exact .inl kept
  | retire =>
    apply carries_of_map carries
    intro live _ kept
    split at kept
    · simp [retireRideLifecycle] at kept
    · exact .inl kept
  | announce found =>
    left
    rw [found]
    exact carries
  | reconcile => cases carries
  | publish =>
    apply carries_of_map carries
    intro live _ kept
    split at kept
    · exact .inl kept
    · rename_i admitted
      simp only [Bool.or_eq_true, not_or, beq_iff_eq] at admitted
      obtain ⟨carried, active, -⟩ := nodeCarries_some.mp kept
      exact .inl (nodeCarries_some.mpr ⟨carried, active, admitted.1.2⟩)
  | publishCompletion =>
    apply carries_of_map carries
    intro live _ kept
    split at kept
    · exact .inl kept
    · obtain ⟨-, -, running⟩ := nodeCarries_some.mp kept
      exact absurd (congrArg some finishing) running
  | retireCompleted =>
    apply carries_of_map carries
    intro live _ kept
    split at kept
    · simp at kept
    · exact .inl kept
  | @claimReturn armed before live found done =>
    left
    rw [found]
    unfold Turnaround.claim at done
    simp only at done
    split at done
    · cases done
    · cases done
      exact carries
  | activate =>
    apply carries_of_map carries
    intro live _ kept
    split at kept
    · exact .inl kept
    · obtain ⟨carried, -⟩ := nodeCarries_some.mp kept
      simp only [Option.some.injEq] at carried
      exact .inr (by simp [Process.publishes, carried])
  | @restore request lifecycle live done =>
    right
    cases lifecycle with
    | terminal journey =>
      simp only [publishLifecycle] at done
      split at done
      · cases done
      · cases done
        simp at carries
    | ride ride =>
      simp only [publishLifecycle] at done
      split at done
      · cases done
      · cases done
        obtain ⟨carried, -⟩ := nodeCarries_some.mp carries
        simp only [Option.some.injEq] at carried
        simp [Process.publishes, carried]

omit [JsNumber R] in
theorem carries_of_operation {operation : Operation}
    {after : Option (LiveBus R)}
    (write : Operation.LiveWrite store operation nodeKey after)
    (carries : NodeCarries after sessionId = true) :
    NodeCarries (store.live nodeKey) sessionId = true := by
  have kept : NodeCarries (store.live nodeKey) sessionId = true ∨ False := by
    cases write with
    | telemetry =>
      left
      unfold persistTelemetry at carries
      simp only at carries
      split at carries
      · exact carries
      · revert carries
        cases store.live _ with
        | none => simp [LiveBus.blank]
        | some live => exact id
    | sweepStale =>
      left
      revert carries
      cases store.live nodeKey with
      | none => exact id
      | some live =>
        simp only [sweepStale, Option.bind_some]
        split
        · exact id
        · simp
    | retireAssignment | resolveDirection | resetDirection =>
      apply carries_of_map carries
      intro live _ kept
      split at kept <;> exact .inl kept
  exact kept.resolve_right id

theorem EngineStep.finishing_advance (config : RideConfig R)
    (ambient : Ambient) (store : Store R) {step : EngineStep R}
    (finishing : (Process.engine step).Finishing) :
    (step.advance config ambient store).GoesOn fun _ rest =>
      (Process.engine rest).Finishing := by
  apply EngineStep.goesOn_advance
  · intro event data update _ _ reduced
    exact ⟨(processLiveSnapshot_eq_some reduced).completed, trivial⟩
  · rintro update after completion rfl _
    exact finishing
  all_goals
    intros
    trivial

theorem Process.finishing_advance (config : RideConfig R) (ambient : Ambient)
    (store : Store R) (finishing : process.Finishing) :
    (process.advance config ambient store).GoesOn fun _ rest =>
      rest.Finishing := by
  cases process with
  | engine step =>
    exact Outcome.goesOn_map
      (EngineStep.finishing_advance config ambient store finishing)
  | _ =>
    apply Outcome.goesOn_map
    intro rest _
    trivial

omit [JsNumber R] in
theorem Request.begin_finishing (request : Request R) :
    request.begin.Finishing := by
  cases request <;> trivial

def World.Stopped (world : World R) (nodeKey sessionId : String) : Prop :=
  ∃ busId routeId paused,
    Event.stopped sessionId busId routeId paused ∈ world.history ∧
      activeRideId busId routeId = nodeKey

def World.Retiring (world : World R) (nodeKey sessionId : String) : Prop :=
  ∃ pid request,
    world.processes pid = some (.stop { request, step := .retire }) ∧
      request.nodeKey = nodeKey ∧ request.sessionId = sessionId

/-- No stop is lost, and a session whose stop has committed is put on a node
only while a retirement of that node is yet to come. -/
structure World.PublishesUnretired (world : World R) (label : Label R) :
    Prop where
  keeps : ∀ pid process, label = .crash pid →
    world.processes pid ≠ some (.stop process)
  publishes : ∀ process nodeKey sessionId,
    world.running label = some process →
    process.publishes world.store = some (nodeKey, sessionId) →
    world.Stopped nodeKey sessionId → world.Retiring nodeKey sessionId

structure World.Retires (world : World R) : Prop where
  finishing : ∀ pid process, world.processes pid = some process →
    process.Finishing
  retired : ∀ nodeKey sessionId, world.Stopped nodeKey sessionId →
    NodeCarries (world.store.live nodeKey) sessionId = true →
    world.Retiring nodeKey sessionId

omit [JsNumber R] in
theorem World.Retires.empty : (World.empty : World R).Retires :=
  { finishing := by
      intro pid process inFlight
      cases inFlight
    retired := by
      rintro nodeKey sessionId ⟨_, _, _, recorded, -⟩
      cases recorded }

private theorem not_carries_of_retire (config : RideConfig R)
    (ambient : Ambient) (store : Store R) (request : StopRequest) :
    NodeCarries
      ((Process.advance config ambient store
        (.stop { request, step := .retire })).store.live request.nodeKey)
      request.sessionId = false := by
  simp only [Process.advance, StopProcess.advance, Outcome.map,
    updateLive_live, Function.update_self, retireLive]
  cases store.live request.nodeKey with
  | none => rfl
  | some live =>
    rw [Option.map_some, ← Bool.not_eq_true]
    intro carries
    split at carries
    · simp [retireRideLifecycle] at carries
    · rename_i other
      obtain ⟨carried, -⟩ := nodeCarries_some.mp carries
      exact other (by simp [carried])

/-- A node carries a session after a step only where it did before, or where
the step puts it. -/
private theorem carries_of_advance (finishing : process.Finishing)
    (carries : NodeCarries
      ((process.advance config ambient store).store.live nodeKey)
      sessionId = true) :
    NodeCarries (store.live nodeKey) sessionId = true ∨
      process.publishes store = some (nodeKey, sessionId) := by
  rcases process.live_advance config ambient store with
    same | ⟨written, after, write, same⟩
  · rw [same] at carries
    exact .inl carries
  · rw [same] at carries
    by_cases here : nodeKey = written
    · subst here
      rw [Function.update_self] at carries
      exact carries_of_liveWrite write finishing carries
    · rw [Function.update_of_ne here] at carries
      exact .inl carries

private theorem retires_of_announced {busId routeId : String} {paused : Bool}
    (recorded : Event.stopped sessionId busId routeId paused ∈
      (process.advance config ambient store).events) :
    ∃ request : StopRequest,
      (process.advance config ambient store).next =
        some (.stop { request, step := .retire }) ∧
      request.nodeKey = activeRideId busId routeId ∧
      request.sessionId = sessionId := by
  cases Process.announces_advance recorded with
  | @stopped request next pauses done =>
    refine ⟨request, ?_, rfl, rfl⟩
    simp [Process.advance, StopProcess.advance, done, Outcome.map]

variable {world : World R}

private theorem retired_of_run {pid : Nat} (retires : world.Retires)
    (allowed : world.PublishesUnretired (.run pid ambient))
    (inFlight : world.processes pid = some process) {busId routeId : String}
    {paused : Bool} (key : activeRideId busId routeId = nodeKey)
    (stopped : Event.stopped sessionId busId routeId paused ∈
      (process.advance config ambient world.store).events ++ world.history)
    (carries : NodeCarries
      ((process.advance config ambient world.store).store.live nodeKey)
      sessionId = true) :
    ∃ retiring request,
      Function.update world.processes pid
          (process.advance config ambient world.store).next retiring =
        some (.stop { request, step := .retire }) ∧
      request.nodeKey = nodeKey ∧ request.sessionId = sessionId := by
  rcases List.mem_append.mp stopped with now | earlier
  · obtain ⟨request, next, node, session⟩ := retires_of_announced now
    exact ⟨pid, request, by simp [next], node.trans key, session⟩
  · have before : world.Stopped nodeKey sessionId :=
      ⟨busId, routeId, paused, earlier, key⟩
    have pending : world.Retiring nodeKey sessionId := by
      rcases carries_of_advance (retires.finishing pid process inFlight)
        carries with carried | puts
      · exact retires.retired nodeKey sessionId before carried
      · exact allowed.publishes process nodeKey sessionId inFlight puts before
    obtain ⟨retiring, request, found, node, session⟩ := pending
    by_cases own : retiring = pid
    · subst own
      rw [inFlight] at found
      cases found
      rw [← node, ← session, not_carries_of_retire] at carries
      cases carries
    · exact ⟨retiring, request, by simp [own, found], node, session⟩

theorem World.Retires.step {config : RideConfig R} {world next : World R}
    {label : Label R} (retires : world.Retires)
    (allowed : world.PublishesUnretired label)
    (took : World.Took config world label next) : next.Retires := by
  refine ⟨?_, ?_⟩
  · apply World.inFlight_of_took (fun _ process => process.Finishing) took
      retires.finishing
    · exact fun _ finishing => finishing
    · intro pid request _
      exact request.begin_finishing
    · intro pid ambient process _ inFlight
      exact Process.finishing_advance config ambient world.store
        (retires.finishing pid process inFlight)
  · rintro nodeKey sessionId ⟨busId, routeId, paused, recorded, key⟩ carries
    cases took with
    | @accept accepted request free =>
      obtain ⟨pid, stop, found, node, session⟩ := retires.retired nodeKey
        sessionId ⟨busId, routeId, paused, recorded, key⟩ carries
      have other : pid ≠ accepted := by
        rintro rfl
        rw [free] at found
        cases found
      exact ⟨pid, stop, by simp [other, found], node, session⟩
    | run inFlight =>
      exact retired_of_run retires allowed inFlight key recorded carries
    | @crash crashed =>
      obtain ⟨pid, stop, found, node, session⟩ := retires.retired nodeKey
        sessionId ⟨busId, routeId, paused, recorded, key⟩ carries
      have other : pid ≠ crashed := by
        rintro rfl
        exact allowed.keeps pid _ rfl found
      exact ⟨pid, stop, by simp [other, found], node, session⟩
    | @perform operation =>
      have earlier : Event.stopped sessionId busId routeId paused ∈
          world.history := by
        rcases List.mem_append.mp recorded with now | earlier
        · obtain ⟨_, -, -, impossible⟩ := Operation.rearmed_of_mem now
          cases impossible
        · exact earlier
      have before : NodeCarries (world.store.live nodeKey) sessionId =
          true := by
        rcases Operation.live_perform world.store operation with
          same | ⟨written, after, write, same⟩
        · simpa only [same] using carries
        · simp only [same] at carries
          by_cases here : nodeKey = written
          · subst here
            rw [Function.update_self] at carries
            exact carries_of_operation write carries
          · rwa [Function.update_of_ne here] at carries
      exact retires.retired nodeKey sessionId
        ⟨busId, routeId, paused, earlier, key⟩ before

/-- **A stopped ride is not live** once nothing is in flight, in every run that
loses no stop and puts a stopped session on a node only before a retirement of
that node. -/
theorem stopped_ride_is_not_live (config : RideConfig R) {world : World R}
    (steps : System.Steps (World.step config) World.PublishesUnretired
      .empty world)
    (finished : ∀ pid, world.processes pid = none)
    {sessionId busId routeId : String} {paused : Bool}
    (stopped : Event.stopped sessionId busId routeId paused ∈ world.history) :
    NodeCarries (world.store.live (activeRideId busId routeId)) sessionId =
      false := by
  have retires : world.Retires := by
    apply steps.invariant World.Retires.empty
    intro world label next retires allowed taken
    exact retires.step allowed (World.took_of_step taken)
  rw [← Bool.not_eq_true]
  intro carries
  obtain ⟨pid, request, found, -⟩ := retires.retired
    (activeRideId busId routeId) sessionId
    ⟨busId, routeId, paused, stopped, rfl⟩ carries
  rw [finished pid] at found
  cases found

def Label.rides (busId routeId : String) : Label R → Bool
  | .accept _ (.start request) =>
    request.assignment.busId == busId && request.assignment.routeId == routeId
  | .accept _ (.stop request) =>
    request.busId == busId && request.routeId == routeId
  | .accept _ (.engine event) => event.nodeKey == activeRideId busId routeId
  | .accept _ _ | .crash _ => false
  | .run _ _ | .perform _ => true

def StoppedRidesAreNotLive (config : RideConfig R) : Prop :=
  ∀ (busId routeId sessionId : String) (paused : Bool) (world : World R),
    System.Steps (World.step config)
      (fun _ label => label.rides busId routeId = true) .empty world →
    (∀ pid, world.processes pid = none) →
    Event.stopped sessionId busId routeId paused ∈ world.history →
    NodeCarries (world.store.live (activeRideId busId routeId)) sessionId =
      false

/-- No request is lost, and no session is put on a node where it was
stopped. -/
def World.publishesUnstopped (world : World R) (label : Label R) : Bool :=
  (match label with
    | .crash _ => false
    | _ => true) &&
    (world.running label).all fun process =>
      (process.publishes world.store).all fun (nodeKey, sessionId) =>
        world.history.all fun event =>
          match event with
          | .stopped stopped busId routeId _ =>
            stopped != sessionId || activeRideId busId routeId != nodeKey
          | _ => true

omit [JsNumber R] in
theorem publishesUnretired_of_unstopped {label : Label R}
    (checked : world.publishesUnstopped label = true) :
    world.PublishesUnretired label := by
  simp only [World.publishesUnstopped, Bool.and_eq_true] at checked
  refine ⟨?_, ?_⟩
  · rintro pid process rfl
    cases checked.1
  · rintro process nodeKey sessionId running puts
      ⟨busId, routeId, paused, recorded, key⟩
    simp only [running, puts, Option.all_some, List.all_eq_true] at checked
    have other := checked.2 _ recorded
    simp [key] at other

def Label.below (bound : Nat) : Label R → Bool
  | .accept pid _ => decide (pid < bound)
  | _ => true

theorem idle_of_below {bound : Nat} (steps : System.Steps (World.step config)
      (fun _ label => label.below bound = true) .empty world) {pid : Nat}
    (unused : bound ≤ pid) : world.processes pid = none := by
  induction steps with
  | refl => rfl
  | step before below taken idle =>
    have took := World.took_of_step taken
    cases took with
    | @accept accepted request free =>
      simp only [Label.below, decide_eq_true_eq] at below
      have other : pid ≠ accepted := by omega
      simp [other, idle]
    | @run ran ambient process inFlight =>
      have other : pid ≠ ran := by
        rintro rfl
        rw [idle] at inFlight
        cases inFlight
      simp [other, idle]
    | @crash crashed =>
      by_cases same : pid = crashed
      · simp [same]
      · simp [same, idle]
    | perform => exact idle

/-- Two requests were accepted, and both have finished. -/
theorem finished_of_below (steps : System.Steps (World.step config)
      (fun _ label => label.below 2 = true) .empty world)
    (first : (world.processes 0).isNone = true)
    (second : (world.processes 1).isNone = true) (pid : Nat) :
    world.processes pid = none := by
  match pid with
  | 0 => exact Option.isNone_iff_eq_none.mp first
  | 1 => exact Option.isNone_iff_eq_none.mp second
  | pid + 2 => exact idle_of_below steps (by omega)

def keyedRideStopped : List (Label ℚ) :=
  demoFleet ++ [.accept 0 (demoStart (some "key"))] ++
    runSteps 0 10 firstRide ++
    [.accept 1 (demoStop firstSession)] ++ runSteps 1 3 firstRide

/-- The stop falls between the creation of the session and its live claim. -/
def claimAfterStop : List (Label ℚ) :=
  demoFleet ++ [.accept 0 (demoStart (some "key"))] ++
    runSteps 0 6 firstRide ++
    [.accept 1 (demoStop firstSession)] ++ runSteps 1 3 firstRide ++
    runSteps 0 3 firstRide

/-- Both requests have finished, the stop has committed, and whether the node
still carries the session. -/
def demoEnding (world : World ℚ) : Bool × Bool × Bool × Bool :=
  ((world.processes 0).isNone, (world.processes 1).isNone,
    world.history.contains (.stopped firstSession "a" "r" true),
    NodeCarries (world.store.live (activeRideId "a" "r")) firstSession)

theorem stopped_ride_is_not_live_keyed :
    ∃ world : World ℚ,
      System.Steps (World.step demoConfig) World.PublishesUnretired
        .empty world ∧
      (∀ pid, world.processes pid = none) ∧
      Event.stopped firstSession "a" "r" true ∈ world.history ∧
      NodeCarries (world.store.live (activeRideId "a" "r")) firstSession =
        false := by
  have observed :
      (System.run (World.step demoConfig)
          (fun world label => world.publishesUnstopped label && label.below 2)
          .empty keyedRideStopped).map demoEnding =
        some (true, true, true, false) := by
    decide +kernel
  obtain ⟨world, ran, ending⟩ := Option.map_eq_some_iff.mp observed
  simp only [demoEnding, Prod.mk.injEq, List.contains_iff_mem] at ending
  obtain ⟨first, second, stopped, -⟩ := ending
  have steps : System.Steps (World.step demoConfig) World.PublishesUnretired
      .empty world := by
    apply System.steps_of_run ran
    intro world label checked
    exact publishesUnretired_of_unstopped (Bool.and_eq_true_iff.mp checked).1
  have finished : ∀ pid, world.processes pid = none := by
    apply finished_of_below (System.steps_of_run ran ?_) first second
    intro world label checked
    exact (Bool.and_eq_true_iff.mp checked).2
  exact ⟨world, steps, finished, stopped,
    stopped_ride_is_not_live demoConfig steps finished stopped⟩

/-- A live claim that lands after the stop leaves the stopped session on the
node. -/
theorem stopped_ride_stays_live : ¬ StoppedRidesAreNotLive demoConfig := by
  intro claimed
  have observed :
      (System.run (World.step demoConfig)
          (fun _ label => label.rides "a" "r" && label.below 2)
          .empty claimAfterStop).map demoEnding =
        some (true, true, true, true) := by
    decide +kernel
  obtain ⟨world, ran, ending⟩ := Option.map_eq_some_iff.mp observed
  simp only [demoEnding, Prod.mk.injEq, List.contains_iff_mem] at ending
  obtain ⟨first, second, stopped, carries⟩ := ending
  have finished : ∀ pid, world.processes pid = none := by
    apply finished_of_below (System.steps_of_run ran ?_) first second
    intro world label checked
    exact (Bool.and_eq_true_iff.mp checked).2
  have gone := claimed "a" "r" firstSession true world
    (System.steps_of_run ran fun _ _ checked =>
      (Bool.and_eq_true_iff.mp checked).1) finished stopped
  rw [carries] at gone
  cases gone

end Eki
