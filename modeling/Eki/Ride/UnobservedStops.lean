import Eki.Ride.Journey
import Eki.Ride.DurableProgress

/-!
# Unobserved stops

Passengers see a stop that was passed without being observed as unconfirmed.
History and node agree on these stops as long as each live write that carries a
new one takes place, and no restore replaces a node whose session has some.
-/

namespace Eki

open Transition
open Option (all_some any_eq_true getD_some map_eq_some_iff map_some)

variable {R : Type} [JsNumber R]

variable {index : Nat}

theorem mem_mergedStopIndices {existing added : List Nat} {stopCount : Nat} :
    index ∈ mergedStopIndices existing added stopCount ↔
      (index ∈ existing ∨ index ∈ added) ∧ index < stopCount := by
  simp only [mergedStopIndices, List.mem_insertionSort, List.mem_filter,
    List.mem_dedup, List.mem_append, decide_eq_true_eq]

variable {Stop : Type}

theorem mem_unobservedIn {history : List (StopReached Stop)} :
    index ∈ unobservedIn history ↔
      ∃ entry ∈ history, entry.evidence.unobserved = true ∧
        entry.stopIndex = index := by
  simp only [unobservedIn, List.mem_map, List.mem_filter]
  constructor
  · rintro ⟨entry, ⟨member, unobserved⟩, same⟩
    exact ⟨entry, member, unobserved, same⟩
  · rintro ⟨entry, member, unobserved, same⟩
    exact ⟨entry, ⟨member, unobserved⟩, same⟩

theorem unobservedIn_append (front back : List (StopReached Stop)) :
    unobservedIn (front ++ back) = unobservedIn front ++ unobservedIn back := by
  simp only [unobservedIn, List.filter_append, List.map_append]

/-- A new entry is unobserved only where the event says so, and it is about one
of the event's stops. -/
theorem unobserved_of_missing {stops : List Stop} {tripState : TripState}
    {currentStopIndex : Int} {existing : List (StopReached Stop)}
    {previousStopIndex : Option Int} {skipped unobserved : List Nat}
    (added : index ∈ unobservedIn (missingStopHistory stops tripState
      currentStopIndex existing previousStopIndex skipped unobserved)) :
    index ∈ skipped ++ unobserved ∧ index < stops.length := by
  obtain ⟨entry, member, marked, same⟩ := mem_unobservedIn.mp added
  unfold missingStopHistory at member
  split at member
  · cases member
  · obtain ⟨position, -, found⟩ := List.mem_filterMap.mp member
    split at found
    · cases found
    · obtain ⟨stop, present, rfl⟩ := map_eq_some_iff.mp found
      obtain ⟨inside, -⟩ := List.getElem?_eq_some_iff.mp present
      subst same
      refine ⟨List.mem_append.mpr ?_, inside⟩
      simp only [stopEvidence] at marked
      split at marked
      · rename_i skips
        exact .inl (List.contains_iff_mem.mp skips)
      · split at marked
        · rename_i passes
          exact .inr (List.contains_iff_mem.mp passes)
        · split at marked <;> cases marked

/-- Where an update passes stops without observing them: from the index it
starts at, if that is on the route, up to the one it ends at. -/
structure PassedBetween (stopCount : Nat) (before after : Int)
    (index : Nat) : Prop where
  below : (index : Int) < after
  onRoute : before ≤ index ∨ (stopCount : Int) ≤ before ∧ after < stopCount

theorem passedBetween_of_reduced (configured : R) {input : TripStateInput R}
    {index : Nat}
    (passed : index ∈
      (reduceTripState configured input).skippedStopIndices.getD [] ++
        (reduceTripState configured input).unobservedStopIndices.getD []) :
    PassedBetween input.stops.length input.currentStopIndex
      (reduceTripState configured input).currentStopIndex index := by
  generalize updated : reduceTripState configured input = result at passed ⊢
  have update := updated ▸ reduceTripState_update configured input
  cases update with
  | noStops | held | atOrigin | passive => simp at passed
  | service someStop usable leaving state outcome =>
    obtain ⟨credited, stop, ends, below, within, credit, -⟩ :=
      outcome.progress
    have between : (input.serviceScope leaving).safeCurrentIndex ≤ index ∧
        index < credited := by
      rcases List.mem_append.mp passed with skips | passes
      · cases skipped : result.skippedStopIndices with
        | none => simp [skipped] at skips
        | some indices =>
          rw [skipped, getD_some,
            (credit.ofSkipped indices skipped).1] at skips
          have := List.mem_range'_1.mp skips
          omega
      · cases unobserved : result.unobservedStopIndices with
        | none => simp [unobserved] at passes
        | some indices =>
          rw [unobserved, getD_some,
            (credit.ofUnobserved indices unobserved).1] at passes
          have := List.mem_range'_1.mp passes
          omega
    have lastIndex : (input.serviceScope leaving).lastIndex =
      input.stops.length - 1 := rfl
    have routeIndex : input.routeIndex =
      min input.currentStopIndex.toNat (input.stops.length - 1) := rfl
    have first := routeIndex_le input leaving
    constructor <;> omega

/-- An update does not take a ride back over a stop before the terminal. -/
theorem stays_past_of_reduced (configured : R) {input : TripStateInput R}
    (past : (index : Int) < input.currentStopIndex)
    (inside : index + 1 < input.stops.length) :
    (index : Int) < (reduceTripState configured input).currentStopIndex := by
  generalize updated : reduceTripState configured input = result
  have update := updated ▸ reduceTripState_update configured input
  cases update with
  | noStops empty => omega
  | held | atOrigin | passive => exact past
  | service someStop usable leaving state outcome =>
    obtain ⟨credited, stop, ends, below, -, credit, -⟩ := outcome.progress
    have above := credit.above
    have routeIndex : input.routeIndex =
      min input.currentStopIndex.toNat (input.stops.length - 1) := rfl
    have first := routeIndex_le input leaving
    omega

variable {live : LiveBus R}

omit [JsNumber R] in
theorem publishProgress_accepted {update : JourneyUpdate R}
    (accepted : update.refused live = false) :
    ∃ after, publishProgress update.toEngineUpdate (some live) = some after ∧
      after.sessionId = live.sessionId ∧
      after.currentStopIndex = some update.progress.currentStopIndex := by
  have guard := accepted
  unfold JourneyUpdate.refused at guard
  unfold publishProgress
  simp only [map_some, guard, Bool.false_eq_true, if_false]
  exact ⟨_, rfl, rfl, rfl⟩

omit [JsNumber R] in
theorem publishCompletion_own {update : EngineUpdate R}
    (completion : Completion) (own : live.sessionId = update.data.sessionId) :
    ∃ after, publishCompletion update completion (some live) = some after ∧
      after.sessionId = live.sessionId ∧
      after.currentStopIndex = some update.progress.currentStopIndex := by
  unfold publishCompletion
  simp only [map_some, own, bne_self_eq_false, Bool.false_eq_true, if_false]
  exact ⟨_, rfl, rfl, rfl⟩

theorem checkpoint_of_persist {update : EngineUpdate R} {store : Store R}
    {checkpoint : RideCheckpoint R}
    (written : (persistActiveRideLifecycle update store).2 = some checkpoint) :
    update.progress.currentStopIndex ≤ checkpoint.currentStopIndex ∧
      (0 ≤ update.progress.currentStopIndex →
        update.progress.currentStopIndex < update.event.stops.length →
        checkpoint.currentStopIndex < update.event.stops.length) := by
  unfold persistActiveRideLifecycle at written
  simp only at written
  split at written
  · split at written
    · cases written
    · cases written
      unfold EngineUpdate.checkpoint
      simp only
      split
      · simp only
        omega
      · rename_i ride own
        have bounded : durableIndex update.event.stops ride <
            update.event.stops.length ∨ update.event.stops.length = 0 := by
          unfold durableIndex
          split <;> omega
        simp only
        omega
  · cases written

variable {completion : Completion}

omit [JsNumber R] in
theorem completeSession_live {config : RideConfig R} {update : EngineUpdate R}
    {now : Nat} {store next : Store R}
    (done : completeSession config update now store =
      some (next, completion)) : next.live = store.live := by
  have recorded : (recordCompletion update completion store).live =
      store.live := by
    unfold recordCompletion
    simp only
    split <;> rfl
  rcases completeSession_eq_some done with
    ⟨-, rfl⟩ | ⟨sessionId, -, ⟨-, -, rfl⟩ | ⟨-, -, -, rfl⟩⟩
  · exact recorded
  · rfl
  · exact recorded

structure ReadJourney (event : EngineEvent R)
    (record : Option UnobservedStops) (data : LiveBus R)
    (update : JourneyUpdate R) : Prop where
  sameEvent : update.event = event
  sameData : update.data = data
  before : update.liveUnobserved =
    liveUnobservedStops record data.sessionId event.stops.length
  passed : ∀ index ∈ update.passed,
    PassedBetween event.stops.length (data.currentStopIndex.getD 0)
      update.progress.currentStopIndex index
  stays : ∀ index : Nat, (index : Int) < data.currentStopIndex.getD 0 →
    index + 1 < event.stops.length →
    (index : Int) < update.progress.currentStopIndex

theorem readJourney_eq_some {config : RideConfig R} {event : EngineEvent R}
    {record : Option UnobservedStops} {data : LiveBus R}
    {update : JourneyUpdate R}
    (read : readJourney config event record data = some update) :
    ReadJourney event record data update := by
  obtain ⟨snapshot, processed, rfl⟩ := map_eq_some_iff.mp read
  have reduced := processLiveSnapshot_eq_some processed
  have input : (event.sample.toInput event.stops
      data.progress).currentStopIndex = data.currentStopIndex.getD 0 := rfl
  cases fresh : event.isNewTelemetry with
  | true =>
    have progress : snapshot.progress.currentStopIndex =
        (reduceTripState config.terminalArrivalConfirmationMs
          (event.sample.toInput event.stops
            data.progress)).currentStopIndex := by
      rw [reduced.progress, fresh]
      rfl
    refine ⟨reduced.sameEvent, reduced.sameData, rfl, ?_, ?_⟩
    · intro index member
      simp only [JourneyUpdate.passed, if_true] at member
      simp only [progress]
      exact passedBetween_of_reduced _ member
    · intro index past inside
      simp only [progress]
      exact stays_past_of_reduced _ past inside
  | false =>
    have progress : snapshot.progress.currentStopIndex =
        data.currentStopIndex.getD 0 := by
      rw [reduced.progress, fresh]
      rfl
    refine ⟨reduced.sameEvent, reduced.sameData, rfl, ?_, ?_⟩
    · intro index member
      simp [JourneyUpdate.passed] at member
    · intro index past inside
      simp only [progress]
      exact past

namespace JourneyUpdate

omit [JsNumber R] in
theorem passed_of_unchanged {update : JourneyUpdate R} {otherwise : Bool}
    (unchanged : update.liveStateChanged otherwise = false)
    (between : ∀ index ∈ update.passed,
      PassedBetween update.event.stops.length
        (update.data.currentStopIndex.getD 0)
        update.progress.currentStopIndex index) :
    update.passed = [] := by
  simp only [liveStateChanged, Bool.or_eq_false_iff, bne_eq_false_iff_eq]
    at unchanged
  obtain ⟨⟨⟨⟨-, sameIndex⟩, -⟩, -⟩, -⟩ := unchanged
  rw [List.eq_nil_iff_forall_not_mem]
  intro index member
  obtain ⟨below, onRoute⟩ := between index member
  rw [← sameIndex, getD_some] at onRoute
  omega

omit [JsNumber R] in
theorem mem_unobservedStops {update : JourneyUpdate R} :
    index ∈ update.unobservedStops ↔
      ((index ∈ update.liveUnobserved ∨ index ∈ update.passed) ∧
        index < update.event.stops.length) ∧
      (index : Int) < update.progress.currentStopIndex := by
  simp only [unobservedStops, List.mem_filter, mem_mergedStopIndices,
    decide_eq_true_eq]

end JourneyUpdate

/-- The update that the engine is working on. -/
def JourneyStep.update : JourneyStep R → JourneyUpdate R
  | .persist update => update
  | .publish update => update
  | .complete update => update
  | .publishCompletion update _ => update

/-- Every unobserved stop of the history that the published index is past is
published as such. -/
def Publication.Agrees (publication : Publication) : Prop :=
  ∀ index ∈ publication.passedUnobserved,
    (index : Int) < publication.currentStopIndex →
    index ∈ publication.unobservedStops

namespace Journey

section Checks

variable (journey : Journey R) (nodeKey : String)

def carries (sessionId : String) : Bool :=
  (journey.node nodeKey).any fun live => live.sessionId == some sessionId

/-- The snapshot shows each stop that the history of its session marks, and the
route of the event goes on after it. -/
def showsMarked (stops : List (TripRouteStop R)) (data : LiveBus R)
    (record : Option UnobservedStops) : Bool :=
  data.sessionId.all fun sessionId =>
    !journey.carries nodeKey sessionId ||
      (journey.marked sessionId).all fun index =>
        (recordedStops record (some sessionId)).contains index &&
          decide ((index : Int) < data.currentStopIndex.getD 0) &&
          decide (index + 1 < stops.length)

/-- A live write that does not take place had no marked stop to add. -/
def losesNothing (update : JourneyUpdate R) : Bool :=
  update.data.sessionId.all fun sessionId =>
    !journey.carries nodeKey sessionId ||
      update.passed.all fun index =>
        !(journey.marked sessionId).contains index

def mayLose : Bool :=
  match journey.engine with
  | some (.publish update) => journey.losesNothing nodeKey update
  | _ => true

/-- The live write takes place, or is not missed; one without a session does
not reach a session with unobserved stops. -/
def mayPublish (update : JourneyUpdate R) : Bool :=
  (journey.node nodeKey).all fun live =>
    if update.data.sessionId.isSome then
      !update.refused live || journey.losesNothing nodeKey update
    else
      live.sessionId.all fun sessionId => (journey.marked sessionId).isEmpty

/-- Every live write with a new unobserved stop takes place before the node is
read again, and no ride with such stops is restored or taken over. -/
def keepsUnobserved : JourneyLabel R → Bool
  | .read =>
    match journey.engine, journey.queue with
    | none, queued :: _ =>
      (journey.snapshotOf nodeKey queued).all fun (data, record) =>
        journey.showsMarked nodeKey queued.event.stops data record
    | _, _ => true
  | .advance _ =>
    match journey.engine with
    | some (.publish update) => journey.mayPublish nodeKey update
    | _ => true
  | .lose => journey.mayLose nodeKey
  | .handoff => journey.mayLose nodeKey
  | .publishRestore pid =>
    (journey.restores pid).all fun (request, lifecycle) =>
      (publishLifecycle request lifecycle (journey.node nodeKey)).isNone ||
        (journey.marked lifecycle.sessionId).isEmpty
  | .claim live =>
    live.sessionId.all fun sessionId => (journey.marked sessionId).isEmpty
  | _ => true

end Checks

section

omit [JsNumber R]

theorem carries_iff {journey : Journey R} {nodeKey sessionId : String} :
    journey.carries nodeKey sessionId = true ↔
      ∃ live, journey.node nodeKey = some live ∧
        live.sessionId = some sessionId := by
  simp only [carries, any_eq_true, beq_iff_eq]

@[simp] theorem write_node (journey : Journey R) (nodeKey : String)
    (after : Option (LiveBus R)) :
    (journey.write nodeKey after).node nodeKey = after := by
  simp only [write, node, Store.updateLive, Function.update_self]

theorem write_shown (journey : Journey R) (nodeKey sessionId : String)
    (live : LiveBus R) :
    (journey.write nodeKey (some live)).shown sessionId =
      journey.shown sessionId := rfl

end

def ShowsPast (journey : Journey R) (nodeKey sessionId : String)
    (index : Nat) : Prop :=
  index ∈ journey.shown sessionId ∧
    ∃ live, journey.node nodeKey = some live ∧
      (index : Int) < live.currentStopIndex.getD 0

end Journey

structure JourneyUpdate.Carries (update : JourneyUpdate R) (index : Nat) :
    Prop where
  included : index ∈ update.liveUnobserved ∨ index ∈ update.passed
  past : (index : Int) < update.progress.currentStopIndex
  inside : index < update.event.stops.length

namespace Journey

/-- What the publications so far, the node and the event in flight show of the
stops that the history marks. -/
structure Kept (nodeKey : String) (journey : Journey R) : Prop where
  published : ∀ publication ∈ journey.publications, publication.Agrees
  node : ∀ sessionId, journey.carries nodeKey sessionId = true →
    ∀ index ∈ journey.marked sessionId,
      journey.ShowsPast nodeKey sessionId index ∨
        ∃ update, journey.engine = some (.publish update) ∧
          update.data.sessionId = some sessionId ∧ index ∈ update.passed
  engine : ∀ step, journey.engine = some step →
    ∀ sessionId, step.update.data.sessionId = some sessionId →
    journey.carries nodeKey sessionId = true →
    ∀ index ∈ journey.marked sessionId, step.update.Carries index
  between : ∀ step, journey.engine = some step →
    ∀ index ∈ step.update.passed,
      PassedBetween step.update.event.stops.length
        (step.update.data.currentStopIndex.getD 0)
        step.update.progress.currentStopIndex index

namespace Kept

variable {config : RideConfig R} {nodeKey : String} {journey : Journey R}

section

omit [JsNumber R]

theorem empty : Kept nodeKey (Journey.empty : Journey R) := by
  constructor
  · rintro publication ⟨⟩
  · intro sessionId carried
    cases carried
  · intro step inFlight
    cases inFlight
  · intro step inFlight
    cases inFlight

section

variable (kept : Kept nodeKey journey)

include kept

theorem noted (shows : ∀ live sessionId, journey.node nodeKey = some live →
      live.sessionId = some sessionId → ∀ index ∈ journey.marked sessionId,
      (index : Int) < live.currentStopIndex.getD 0 →
      index ∈ journey.shown sessionId) :
    Kept nodeKey (journey.published nodeKey) := by
  unfold Journey.published
  split
  · exact kept
  · rename_i live present
    split
    · exact kept
    · rename_i sessionId carried
      refine ⟨?_, kept.node, kept.engine, kept.between⟩
      intro publication member
      rcases List.mem_cons.mp member with rfl | earlier
      · intro index marked past
        exact shows live sessionId present carried index marked past
      · exact kept.published publication earlier

theorem noted_of_idle (idle : journey.engine = none) :
    Kept nodeKey (journey.published nodeKey) := by
  apply kept.noted
  intro live sessionId present carried index marked past
  rcases kept.node sessionId (carries_iff.mpr ⟨live, present, carried⟩) index
    marked with shows | ⟨update, inFlight, -⟩
  · exact shows.1
  · rw [idle] at inFlight
    cases inFlight

theorem done (queue : List (QueuedEvent R))
    (shows : ∀ sessionId, journey.carries nodeKey sessionId = true →
      ∀ index ∈ journey.marked sessionId,
        journey.ShowsPast nodeKey sessionId index) :
    Kept nodeKey { journey with queue, engine := none } := by
  refine ⟨kept.published, ?_, ?_, ?_⟩
  · intro sessionId carried index marked
    exact .inl (shows sessionId carried index marked)
  · intro step inFlight
    cases inFlight
  · intro step inFlight
    cases inFlight

theorem done_of_other (queue : List (QueuedEvent R))
    (other : ∀ update, journey.engine ≠ some (.publish update)) :
    Kept nodeKey { journey with queue, engine := none } := by
  apply kept.done queue
  intro sessionId carried index marked
  rcases kept.node sessionId carried index marked with
    shows | ⟨update, inFlight, -⟩
  · exact shows
  · exact absurd inFlight (other update)

/-- A live write that is lost had no marked stop to add. -/
theorem done_of_losesNothing (queue : List (QueuedEvent R))
    {update : JourneyUpdate R}
    (inFlight : journey.engine = some (.publish update))
    (loses : journey.losesNothing nodeKey update = true) :
    Kept nodeKey { journey with queue, engine := none } := by
  apply kept.done queue
  intro sessionId carried index marked
  rcases kept.node sessionId carried index marked with
    shows | ⟨other, same, session, passed⟩
  · exact shows
  · rw [inFlight] at same
    cases same
    simp only [losesNothing, session, all_some, carried, Bool.not_true,
      Bool.false_or, List.all_eq_true, Bool.not_eq_true',
      ← Bool.not_eq_true, List.contains_iff_mem] at loses
    exact absurd marked (loses index passed)

theorem done_of_mayLose (queue : List (QueuedEvent R))
    (allowed : journey.mayLose nodeKey = true) :
    Kept nodeKey { journey with queue, engine := none } := by
  unfold mayLose at allowed
  split at allowed
  · rename_i update inFlight
    exact kept.done_of_losesNothing queue inFlight allowed
  · rename_i other
    exact kept.done_of_other queue other

theorem takeOver (free : ∀ sessionId, live.sessionId = some sessionId →
      journey.marked sessionId = []) :
    Kept nodeKey ((journey.write nodeKey (some live)).published nodeKey) := by
  have unmarked : ∀ sessionId,
      (journey.write nodeKey (some live)).carries nodeKey sessionId = true →
      (journey.write nodeKey (some live)).marked sessionId = [] := by
    intro sessionId carried
    obtain ⟨found, present, session⟩ := carries_iff.mp carried
    rw [write_node] at present
    cases present
    exact free sessionId session
  apply noted
  · refine ⟨kept.published, ?_, ?_, kept.between⟩
    · intro sessionId carried index marked
      rw [unmarked sessionId carried] at marked
      cases marked
    · intro step inFlight sessionId session carried index marked
      rw [unmarked sessionId carried] at marked
      cases marked
  · intro found sessionId present session index marked
    rw [unmarked sessionId (carries_iff.mpr ⟨found, present, session⟩)]
      at marked
    cases marked

theorem rewrite {before : LiveBus R}
    (present : journey.node nodeKey = some before)
    (keeps : Journey.keeps before live = true) :
    Kept nodeKey (journey.write nodeKey (some live)) := by
  have same : ∀ sessionId,
      (journey.write nodeKey (some live)).carries nodeKey sessionId = true →
      journey.carries nodeKey sessionId = true ∧
        live.currentStopIndex = before.currentStopIndex := by
    intro sessionId carried
    obtain ⟨found, written, session⟩ := carries_iff.mp carried
    rw [write_node] at written
    cases written
    simp only [Journey.keeps, session, Option.isNone_some, Bool.false_or,
      Bool.and_eq_true, beq_iff_eq] at keeps
    exact ⟨carries_iff.mpr ⟨before, present, keeps.1.symm⟩, keeps.2⟩
  refine ⟨kept.published, ?_, ?_, kept.between⟩
  · intro sessionId carried index marked
    obtain ⟨earlier, sameIndex⟩ := same sessionId carried
    rcases kept.node sessionId earlier index marked with
      ⟨shown, found, there, past⟩ | pending
    · rw [present] at there
      cases there
      refine .inl ⟨shown, live, write_node _ _ _, ?_⟩
      rwa [sameIndex]
    · exact .inr pending
  · intro step inFlight sessionId session carried
    exact kept.engine step inFlight sessionId session
      (same sessionId carried).1

theorem remove : Kept nodeKey (journey.write nodeKey none) := by
  have gone : ∀ sessionId,
      (journey.write nodeKey none).carries nodeKey sessionId ≠ true := by
    intro sessionId carried
    obtain ⟨found, written, -⟩ := carries_iff.mp carried
    rw [write_node] at written
    cases written
  refine ⟨kept.published, ?_, ?_, kept.between⟩
  · intro sessionId carried
    exact absurd carried (gone sessionId)
  · intro step inFlight sessionId session carried
    exact absurd carried (gone sessionId)

end

@[simp] theorem update_begin (update : JourneyUpdate R) :
    update.begin.update = update := by
  unfold JourneyUpdate.begin
  split
  · rfl
  · split <;> rfl

end

theorem read (kept : Kept nodeKey journey) (idle : journey.engine = none)
    {queued : QueuedEvent R} (queue : List (QueuedEvent R))
    (allowed : ∀ data record,
      journey.snapshotOf nodeKey queued = some (data, record) →
      journey.showsMarked nodeKey queued.event.stops data record = true) :
    Kept nodeKey
      { journey with
        queue
        engine :=
          ((journey.snapshotOf nodeKey queued).bind fun (data, record) =>
            readJourney config queued.event record data).map
            JourneyUpdate.begin } := by
  have reads : ∀ step,
      ((journey.snapshotOf nodeKey queued).bind fun (data, record) =>
        readJourney config queued.event record data).map
          JourneyUpdate.begin = some step →
      ∃ data record, journey.snapshotOf nodeKey queued = some (data, record) ∧
        ReadJourney queued.event record data step.update := by
    intro step begun
    obtain ⟨update, found, rfl⟩ := map_eq_some_iff.mp begun
    obtain ⟨⟨data, record⟩, taken, read⟩ := Option.bind_eq_some_iff.mp found
    refine ⟨data, record, taken, ?_⟩
    rw [update_begin]
    exact readJourney_eq_some read
  refine ⟨kept.published, ?_, ?_, ?_⟩
  · intro sessionId carried index marked
    rcases kept.node sessionId carried index marked with
      shows | ⟨update, inFlight, -⟩
    · exact .inl shows
    · rw [idle] at inFlight
      cases inFlight
  · intro step begun sessionId session carried index marked
    obtain ⟨data, record, taken, read⟩ := reads step begun
    have shows := allowed data record taken
    rw [read.sameData] at session
    have carriedNow : journey.carries nodeKey sessionId = true := carried
    simp only [showsMarked, session, all_some, carriedNow,
      Bool.not_true, Bool.false_or, List.all_eq_true, Bool.and_eq_true,
      List.contains_iff_mem, decide_eq_true_eq] at shows
    obtain ⟨⟨recorded, past⟩, inside⟩ := shows index marked
    refine ⟨.inl ?_, read.stays index past inside, ?_⟩
    · rw [read.before, session]
      exact mem_mergedStopIndices.mpr ⟨.inl recorded, by omega⟩
    · rw [read.sameEvent]
      omega
  · intro step begun
    obtain ⟨data, record, -, read⟩ := reads step begun
    rw [read.sameEvent, read.sameData]
    exact read.passed

omit [JsNumber R] in
theorem commit (kept : Kept nodeKey journey) {step later : JourneyStep R}
    {next : Journey R} (inFlight : journey.engine = some step)
    (waits : ∀ update, step ≠ .publish update)
    (sameNode : next.node nodeKey = journey.node nodeKey)
    (sameStops : next.unobservedStops = journey.unobservedStops)
    (samePublications : next.publications = journey.publications)
    (goesOn : next.engine = some later)
    (sameData : later.update.data = step.update.data)
    (sameEvent : later.update.event = step.update.event)
    (sameBefore : later.update.liveUnobserved = step.update.liveUnobserved)
    (samePassed : later.update.passed = step.update.passed)
    (further : step.update.progress.currentStopIndex ≤
      later.update.progress.currentStopIndex)
    (onRoute : 0 ≤ step.update.progress.currentStopIndex →
      step.update.progress.currentStopIndex < step.update.event.stops.length →
      later.update.progress.currentStopIndex < step.update.event.stops.length)
    (marks : ∀ sessionId, ∀ index ∈ next.marked sessionId,
      index ∈ journey.marked sessionId ∨
        later = .publish later.update ∧
          step.update.data.sessionId = some sessionId ∧
          index ∈ step.update.passed ∧
          index < step.update.event.stops.length) :
    Kept nodeKey next := by
  have between := kept.between _ inFlight
  have sameCarries : ∀ sessionId, next.carries nodeKey sessionId =
      journey.carries nodeKey sessionId := by
    intro sessionId
    unfold carries
    rw [sameNode]
  have sameShown : ∀ sessionId,
      next.shown sessionId = journey.shown sessionId := by
    intro sessionId
    unfold shown
    rw [sameStops]
  refine ⟨?_, ?_, ?_, ?_⟩
  · rw [samePublications]
    exact kept.published
  · intro sessionId carried index marked
    rw [sameCarries] at carried
    rcases marks sessionId index marked with
      before | ⟨publishes, session, passed, -⟩
    · rcases kept.node sessionId carried index before with
        ⟨shown, past⟩ | ⟨other, same, -⟩
      · refine .inl ⟨?_, ?_⟩
        · rwa [sameShown]
        · rwa [sameNode]
      · rw [inFlight] at same
        exact absurd (Option.some.inj same) (waits other)
    · refine .inr ⟨later.update, ?_, ?_, ?_⟩
      · rw [goesOn, ← publishes]
      · rwa [sameData]
      · rwa [samePassed]
  · intro other same sessionId session carried index marked
    cases goesOn.symm.trans same
    rw [sameCarries] at carried
    rw [sameData] at session
    rcases marks sessionId index marked with before | ⟨-, -, passed, inside⟩
    · obtain ⟨included, past, inside⟩ :=
        kept.engine _ inFlight sessionId session carried index before
      constructor
      · rwa [sameBefore, samePassed]
      · omega
      · rwa [sameEvent]
    · have below := (between index passed).below
      constructor
      · rw [samePassed]
        exact .inr passed
      · omega
      · rwa [sameEvent]
  · intro other same index passed
    cases goesOn.symm.trans same
    rw [samePassed] at passed
    obtain ⟨below, start⟩ := between index passed
    rw [sameEvent, sameData]
    constructor <;> omega

omit [JsNumber R] in
theorem marked_remember (journey : Journey R) (sessionId other : String)
    (entries : List (StopReached (TripRouteStop R))) :
    (journey.remember sessionId entries).marked other =
      if other = sessionId then
        journey.marked other ++ unobservedIn entries
      else journey.marked other := by
  unfold marked remember
  by_cases same : other = sessionId
  · subst same
    simp only [Function.update_self, if_true, unobservedIn_append]
  · simp only [Function.update_of_ne same, if_neg same]

theorem persist (kept : Kept nodeKey journey) {update : JourneyUpdate R}
    (inFlight : journey.engine = some (.persist update)) :
    Kept nodeKey (journey.persist update) := by
  unfold Journey.persist
  split
  · apply kept.commit inFlight (by rintro _ ⟨⟩) <;> try rfl
    · exact fun _ inside => inside
    · exact fun sessionId index marked => .inl marked
  · rename_i store checkpoint written
    have sameLive : store.live = journey.store.live := by
      have same := persistActiveRideLifecycle_live update.toEngineUpdate
        journey.store
      rwa [written] at same
    obtain ⟨further, onRoute⟩ :=
      checkpoint_of_persist (congrArg Prod.snd written)
    cases session : update.data.sessionId with
    | none =>
      apply kept.commit inFlight (by rintro _ ⟨⟩) <;> try rfl
      · exact congrFun sameLive nodeKey
      · exact further
      · exact onRoute
      · exact fun sessionId index marked => .inl marked
    | some sessionId =>
      apply kept.commit inFlight (by rintro _ ⟨⟩) <;> try rfl
      · exact congrFun sameLive nodeKey
      · exact further
      · exact onRoute
      · intro other index marked
        have marked : index ∈ (journey.remember sessionId
            (journey.lifecycleHistory update checkpoint
              sessionId)).marked other := marked
        rw [marked_remember] at marked
        split at marked
        · rename_i same
          subst same
          rcases List.mem_append.mp marked with before | added
          · exact .inl before
          · refine .inr ⟨rfl, session, ?_⟩
            unfold lifecycleHistory at added
            split at added
            · exact unobserved_of_missing added
            · cases added
        · exact .inl marked

section

omit [JsNumber R]

section

variable {update : JourneyUpdate R} (kept : Kept nodeKey journey)
  (inFlight : journey.engine = some (.publish update))

include kept inFlight

/-- A live write that does not take place loses nothing that is marked. -/
theorem missed {otherwise : Bool}
    (allowed : journey.mayPublish nodeKey update = true)
    (present : journey.node nodeKey = some live)
    (misses : (!update.liveStateChanged otherwise || update.refused live) =
      true) : Kept nodeKey { journey with engine := none } := by
  simp only [mayPublish, present, all_some] at allowed
  rcases Bool.or_eq_true_iff.mp misses with unchanged | refused
  · have passed : update.passed = [] :=
      JourneyUpdate.passed_of_unchanged
        (Bool.not_eq_eq_eq_not.mp unchanged) (kept.between _ inFlight)
    apply kept.done_of_losesNothing journey.queue inFlight
    unfold losesNothing
    cases update.data.sessionId <;> simp [passed]
  · split at allowed
    · rw [refused, Bool.not_true, Bool.false_or] at allowed
      exact kept.done_of_losesNothing journey.queue inFlight allowed
    · apply kept.done journey.queue
      intro sessionId carried index marked
      obtain ⟨found, there, session⟩ := carries_iff.mp carried
      rw [present] at there
      cases there
      simp only [session, all_some, List.isEmpty_iff] at allowed
      rw [allowed] at marked
      cases marked

theorem accepted (allowed : journey.mayPublish nodeKey update = true)
    (present : journey.node nodeKey = some live)
    (accepts : update.refused live = false) :
    Kept nodeKey
      { { journey with engine := none }.write nodeKey
          (publishProgress update.toEngineUpdate (some live)) with
        unobservedStops :=
          update.data.sessionId.bind fun sessionId =>
            if update.unobservedStops.isEmpty then none
            else
              some
                { sessionId
                  indices := update.unobservedStops } } := by
  obtain ⟨after, written, sameSession, published⟩ :=
    publishProgress_accepted accepts
  refine ⟨kept.published, ?_, ?_, ?_⟩
  · intro sessionId carried index marked
    have marked : index ∈ journey.marked sessionId := marked
    obtain ⟨found, there, session⟩ := carries_iff.mp carried
    have node : some after = some found :=
      written.symm.trans ((write_node _ _ _).symm.trans there)
    cases node
    rw [sameSession] at session
    have carriedNow : journey.carries nodeKey sessionId = true :=
      carries_iff.mpr ⟨live, present, session⟩
    cases own : update.data.sessionId with
    | none =>
      simp only [mayPublish, present, all_some, own,
        Option.isSome_none, Bool.false_eq_true, if_false, session,
        List.isEmpty_iff] at allowed
      rw [allowed] at marked
      cases marked
    | some updated =>
      have same : updated = sessionId := by
        simp only [JourneyUpdate.refused, own, Option.isSome_some,
          Bool.true_and, Bool.or_eq_false_iff, bne_eq_false_iff_eq, session,
          Option.some.injEq] at accepts
        exact accepts.1.1.1.symm
      subst same
      obtain ⟨included, past, inside⟩ :=
        kept.engine _ inFlight updated own carriedNow index marked
      have publishes : index ∈ update.unobservedStops :=
        JourneyUpdate.mem_unobservedStops.mpr ⟨⟨included, inside⟩, past⟩
      have some : update.unobservedStops.isEmpty = false := by
        rw [List.isEmpty_eq_false_iff]
        exact List.ne_nil_of_mem publishes
      refine .inl ⟨?_, after, there, ?_⟩
      · simpa [shown, recordedStops, some] using publishes
      · rw [published]
        exact past
  · intro step gone
    cases gone
  · intro step gone
    cases gone

theorem publish (otherwise : Bool)
    (allowed : journey.mayPublish nodeKey update = true) :
    Kept nodeKey (journey.publish nodeKey update otherwise) := by
  unfold Journey.publish
  simp only
  split
  · rename_i absent
    apply kept.done journey.queue
    intro sessionId carried
    obtain ⟨live, present, -⟩ := carries_iff.mp carried
    rw [absent] at present
    cases present
  · rename_i live present
    split
    · rename_i misses
      exact kept.missed inFlight allowed present misses
    · rename_i writes
      simp only [Bool.or_eq_true, not_or, Bool.not_eq_true] at writes
      exact (kept.accepted inFlight allowed present writes.2).noted_of_idle rfl

end

theorem marked_of_completion {update : JourneyUpdate R}
    {sessionId other : String} (marked : index ∈ (journey.remember sessionId
      (journey.completionHistory update sessionId)).marked other) :
    index ∈ journey.marked other := by
  rw [marked_remember] at marked
  split at marked
  · rcases List.mem_append.mp marked with before | added
    · exact before
    · unfold completionHistory at added
      split at added
      · cases (unobserved_of_missing added).1
      · cases added
  · exact marked

theorem complete (kept : Kept nodeKey journey) {update : JourneyUpdate R}
    (inFlight : journey.engine = some (.complete update)) (now : Nat) :
    Kept nodeKey (journey.complete config update now) := by
  unfold Journey.complete
  split
  · apply kept.done_of_other journey.queue
    intro other same
    rw [inFlight] at same
    cases same
  · rename_i store completion written
    have sameLive := completeSession_live written
    cases session : update.data.sessionId with
    | none =>
      apply kept.commit inFlight (by rintro _ ⟨⟩) <;> try rfl
      · exact congrFun sameLive nodeKey
      · exact fun _ inside => inside
      · exact fun sessionId index marked => .inl marked
    | some sessionId =>
      apply kept.commit inFlight (by rintro _ ⟨⟩) <;> try rfl
      · exact congrFun sameLive nodeKey
      · exact fun _ inside => inside
      · exact fun other index marked => .inl (marked_of_completion marked)

theorem publishCompletion (kept : Kept nodeKey journey)
    {update : JourneyUpdate R} (inFlight : journey.engine =
      some (.publishCompletion update completion)) :
    Kept nodeKey (journey.publishCompletion nodeKey update completion) := by
  have other : ∀ waiting, journey.engine ≠ some (.publish waiting) := by
    intro waiting same
    rw [inFlight] at same
    cases same
  unfold Journey.publishCompletion
  simp only
  split
  · exact kept.done_of_other journey.queue other
  · rename_i live present
    split
    · exact kept.done_of_other journey.queue other
    · rename_i sameSession
      have own : live.sessionId = update.data.sessionId := by
        simpa using sameSession
      apply noted_of_idle _ rfl
      refine ⟨kept.published, ?_, ?_, ?_⟩
      · intro sessionId carried index marked
        have marked : index ∈ journey.marked sessionId := marked
        obtain ⟨after, written, keeps, published⟩ :=
          publishCompletion_own completion own
        obtain ⟨found, there, session⟩ := carries_iff.mp carried
        have node : some after = some found :=
          written.symm.trans ((write_node _ _ _).symm.trans there)
        cases node
        rw [keeps] at session
        have carriedNow : journey.carries nodeKey sessionId = true :=
          carries_iff.mpr ⟨live, present, session⟩
        rcases kept.node sessionId carriedNow index marked with
          ⟨shown, -⟩ | ⟨waiting, same, -⟩
        · refine .inl ⟨?_, after, there, ?_⟩
          · rw [written]
            exact shown
          · rw [published]
            exact (kept.engine _ inFlight sessionId (own.symm.trans session)
              carriedNow index marked).past
        · exact absurd same (other waiting)
      · intro step gone
        cases gone
      · intro step gone
        cases gone

end

theorem step (kept : Kept nodeKey journey) {label : JourneyLabel R}
    {next : Journey R} (allowed : journey.keepsUnobserved nodeKey label = true)
    (taken : Journey.step config nodeKey journey label = some next) :
    Kept nodeKey next := by
  cases label with
  | enqueue | restore =>
    simp only [Journey.step] at taken
    split at taken
    · cases taken
    · cases taken
      exact ⟨kept.published, kept.node, kept.engine, kept.between⟩
  | read =>
    simp only [Journey.step] at taken
    split at taken
    · rename_i queued rest idle queue
      cases taken
      simp only [keepsUnobserved, idle, queue, Option.all_eq_true,
        Prod.forall] at allowed
      exact kept.read idle rest allowed
    · cases taken
  | advance ambient =>
    obtain ⟨step, inFlight, rfl⟩ := map_eq_some_iff.mp taken
    cases step with
    | persist update => exact kept.persist inFlight
    | publish update =>
      simp only [keepsUnobserved, inFlight] at allowed
      exact kept.publish inFlight ambient.observed allowed
    | complete update => exact kept.complete inFlight ambient.now
    | publishCompletion update completion =>
      exact kept.publishCompletion inFlight
  | lose =>
    cases taken
    exact kept.done_of_mayLose journey.queue allowed
  | handoff =>
    cases taken
    exact kept.done_of_mayLose [] allowed
  | publishRestore pid =>
    obtain ⟨⟨request, lifecycle⟩, pending, same⟩ :=
      map_eq_some_iff.mp taken
    simp only [keepsUnobserved, pending, all_some, Bool.or_eq_true,
      List.isEmpty_iff] at allowed
    have rest : Kept nodeKey
        { journey with
          restores := Function.update journey.restores pid none } :=
      ⟨kept.published, kept.node, kept.engine, kept.between⟩
    simp only at same
    split at same
    · cases same
      exact rest
    · rename_i live written
      cases same
      apply rest.takeOver
      intro sessionId carried
      rw [sessionId_of_publishLifecycle written] at carried
      cases carried
      rcases allowed with refused | unmarked
      · simp [written] at refused
      · exact unmarked
  | document next =>
    cases taken
    exact ⟨kept.published, kept.node, kept.engine, kept.between⟩
  | claim live =>
    cases taken
    apply kept.takeOver
    intro sessionId carried
    simpa [keepsUnobserved, carried] using allowed
  | rewrite live =>
    simp only [Journey.step] at taken
    split at taken
    · rename_i keeps
      cases taken
      obtain ⟨before, present, same⟩ := (any_eq_true _ _).mp keeps
      exact kept.rewrite present same
    · cases taken
  | remove =>
    cases taken
    exact kept.remove

end Kept

end Journey

/-- **History and passengers agree on unobserved stops** in a run that loses no
live write with a new one and restores no ride that has some. -/
theorem unobserved_stops_are_published (config : RideConfig R)
    (nodeKey : String) {last : Journey R}
    (steps : System.Steps (Journey.step config nodeKey)
      (fun journey label => journey.keepsUnobserved nodeKey label = true)
      .empty last) :
    ∀ publication ∈ last.publications, publication.Agrees := by
  have kept : Journey.Kept nodeKey last := by
    apply steps.invariant Journey.Kept.empty
    intro journey label next kept allowed taken
    exact kept.step allowed taken
  exact kept.published

section Drops

variable {config : RideConfig R} {nodeKey : String} {journey next : Journey R}

omit [JsNumber R] in
theorem mem_published {sessionId : String}
    (present : journey.node nodeKey = some live)
    (session : live.sessionId = some sessionId) :
    { sessionId
      currentStopIndex := live.currentStopIndex.getD 0
      unobservedStops := journey.shown sessionId
      passedUnobserved := journey.marked sessionId } ∈
      (journey.published nodeKey).publications := by
  unfold Journey.published
  rw [present]
  simp only [session]
  exact List.mem_cons_self

theorem restore_drops {pid : Nat} {request : RestoreRequest}
    {ride : ActiveRide R} (removed : journey.node nodeKey = none)
    (nothing : journey.unobservedStops = none)
    (pending : journey.restores pid = some (request, .ride ride))
    (marked : index ∈ journey.marked ride.sessionId)
    (past : (index : Int) < ride.currentStopIndex)
    (taken : Journey.step config nodeKey journey (.publishRestore pid) =
      some next) :
    ∃ publication ∈ next.publications, ¬ publication.Agrees := by
  obtain ⟨live, written, session, shows⟩ : ∃ live,
      publishLifecycle request (.ride ride) none = some live ∧
        live.sessionId = some ride.sessionId ∧
        live.currentStopIndex = some ride.currentStopIndex := by
    unfold publishLifecycle
    simp [LiveBus.blank]
  simp only [Journey.step, pending, map_some, Option.some.injEq]
    at taken
  rw [removed, written] at taken
  subst taken
  refine ⟨_, mem_published (Journey.write_node _ _ _) session, ?_⟩
  intro agrees
  have shown := agrees index marked (by rw [shows]; exact past)
  rw [Journey.write_shown] at shown
  simp [Journey.shown, nothing, recordedStops] at shown

end Drops

/-- What any run publishes agrees with the stored unobserved stops. -/
def UnobservedStopsArePublished (config : RideConfig R) (nodeKey : String) :
    Prop :=
  ∀ last : Journey R,
    System.Steps (Journey.step config nodeKey) (fun _ _ => True) .empty last →
    ∀ publication ∈ last.publications, publication.Agrees

/-- Four stops a kilometre apart along the equator. -/
def fourStops : List (TripRouteStop ℚ) :=
  longStops ++ [{ lat := 0, lng := 3 / 100 }]

/-- A fix of a bus without earlier telemetry. -/
def journeyFix (lng timestamp : ℚ) : EngineEvent ℚ where
  nodeKey := "b_r"
  sample :=
    { lat := 0
      lng
      previousPosition := none
      motionState := .moving
      timestamp := some timestamp
      now := some timestamp
      gpsHdop := some 1
      speed := some 30
      heading := none
      assumedGapSince := some timestamp }
  stops := fourStops
  endpointVersion := some "v"

def journeyAssignment : ServiceAssignment :=
  { driverId := "d"
    busId := "b"
    routeId := "r" }

def journeyDocuments : Firestore ℚ :=
  { Store.empty.toFirestore with
    sessions :=
      Function.update (fun _ => none) "s"
        (some
          { journeyAssignment with
            status := .active
            direction := some .forward })
    locks :=
      Function.update (fun _ => none) "b"
        (some
          (.ride
            { journeyAssignment with
              sessionId := "s"
              direction := some .forward })) }

/-- A ride before its second stop that has lost its GNSS signal. -/
def journeyNode : LiveBus ℚ :=
  { LiveBus.blank "b" "r" with
    driverId := some "d"
    sessionId := some "s"
    status := .active
    tripState := some .inService
    direction := some .forward
    currentStopIndex := some 1
    hasDepartedOrigin := true
    gnssGap := some { sessionId := "s", since := 0 } }

/-- The signal is back at the third stop, and the event is made durable. -/
def skippedStop : List (JourneyLabel ℚ) :=
  [.document journeyDocuments, .claim journeyNode,
    .enqueue (journeyFix (2 / 100) 1000000) false, .read, .advance {}]

/-- The live write of the skipped stop takes place. -/
def publishedSkip : List (JourneyLabel ℚ) :=
  skippedStop ++ [.advance {}]

/-- The engine stops before the live write; another one goes on with the next
fix. -/
def lostSkip : List (JourneyLabel ℚ) :=
  skippedStop ++
    [.handoff, .enqueue (journeyFix (25 / 1000) 1005000) false, .read,
      .advance {}, .advance {}]

theorem unobserved_stops_are_published_skipped :
    ∃ last : Journey ℚ,
      (∀ publication ∈ last.publications, publication.Agrees) ∧
        last.marked "s" = [1] ∧ last.shown "s" = [1] := by
  have decided :
      (System.run (Journey.step demoConfig "b_r")
        (fun journey label => journey.keepsUnobserved "b_r" label) .empty
        publishedSkip).any (fun last =>
          decide (last.marked "s" = [1] ∧ last.shown "s" = [1])) = true := by
    decide +kernel
  obtain ⟨last, steps, shows⟩ := System.exists_of_run decided
  exact ⟨last, unobserved_stops_are_published demoConfig "b_r" steps,
    of_decide_eq_true shows⟩

/-- After a lost live write passengers see the skipped stop as reached. -/
theorem unobserved_stop_is_shown_as_reached :
    ¬ UnobservedStopsArePublished demoConfig "b_r" := by
  intro published
  have decided :
      (System.run (Journey.step demoConfig "b_r") (fun _ _ => true) .empty
        lostSkip).any (fun last => last.publications.any fun publication =>
          publication.passedUnobserved.contains 1 &&
            decide (1 < publication.currentStopIndex) &&
            !publication.unobservedStops.contains 1) = true := by
    decide +kernel
  obtain ⟨last, steps, shows⟩ := System.exists_of_run decided
  obtain ⟨publication, member, dropped⟩ := List.any_eq_true.mp shows
  simp only [Bool.and_eq_true, List.contains_iff_mem, decide_eq_true_eq,
    Bool.not_eq_true', ← Bool.not_eq_true] at dropped
  obtain ⟨⟨marked, past⟩, unshown⟩ := dropped
  exact unshown (published last (steps.mono fun _ _ _ => trivial) publication
    member 1 marked past)

end Eki
