import Eki.Library.Transition
import Eki.Ride.Records

/-!
# Abandoned rides

The reconciler ends a session whose records have shown no activity for a long
time.  It judges a first reading of the session, the active ride and the live
node, removes the live node in one transaction, and in a second one, on the
other store, judges the session and the active ride again before it interrupts
the session.  Other writers are free to write at any time.
-/

namespace Eki.Abandonment

open Transition

/-- A stored time in one of its forms; a number or a date that is not finite
has no value. -/
inductive TimeValue where
  | date (millis : Option ℚ)
  | number (value : Option ℚ)
  | timestamp (seconds : Option ℚ) (nanoseconds : ℚ)
  | other
  deriving DecidableEq

def secondsToMillisecondsCutoff : ℚ := 100000000000

def timestampMillis : TimeValue → Option ℚ
  | .date millis => millis
  | .number value => value.map fun value =>
    if |value| < secondsToMillisecondsCutoff then value * 1000 else value
  | .timestamp seconds nanoseconds => seconds.map fun seconds =>
    seconds * 1000 + nanoseconds / 1000000
  | .other => none

def latest (values : List (Option TimeValue)) : Option ℚ :=
  (values.filterMap fun value => value.bind timestampMillis).max?

/-- A document of `ride_sessions`; `automaticTurnaround` is `=== true`. -/
structure SessionRecord where
  status : SessionStatus
  busId : Option String := none
  routeId : Option String := none
  automaticTurnaround : Bool := false
  createdAt : Option TimeValue := none
  armedAt : Option TimeValue := none
  startTime : Option TimeValue := none
  activatedAt : Option TimeValue := none
  updatedAt : Option TimeValue := none
  /-- The times of the stops, the path and the passengers. -/
  stopsReached : List (Option TimeValue) := []
  path : List (Option TimeValue) := []
  passengers : List (Option TimeValue) := []
  endTime : Option TimeValue := none
  deriving DecidableEq

/-- A document of `active_rides`. -/
structure RideRecord where
  sessionId : Option String
  tripState : Option TripState := none
  hasDepartedOrigin : Option Bool := none
  updatedAt : Option TimeValue := none
  createdAt : Option TimeValue := none
  deriving DecidableEq

/-- A node of `activeBuses`. -/
structure LiveRecord where
  sessionId : Option String
  tripState : Option TripState := none
  timestamp : Option TimeValue := none
  receivedAt : Option TimeValue := none
  lifecycleUpdatedAt : Option TimeValue := none
  deriving DecidableEq

def lifecycleKey (session : SessionRecord) : Option String :=
  match session.busId.filter (safeId ·), session.routeId.filter (safeId ·) with
  | some busId, some routeId => some (activeRideId busId routeId)
  | _, _ => none

def latestSessionActivity (session : SessionRecord) : Option ℚ :=
  latest ([session.createdAt, session.armedAt, session.startTime,
    session.activatedAt, session.updatedAt] ++ session.stopsReached ++
    session.path ++ session.passengers)

def latestActiveRideActivity (ride : RideRecord) : Option ℚ :=
  latest [ride.updatedAt, ride.createdAt]

def latestLiveBusActivity (live : LiveRecord) : Option ℚ :=
  latest [live.timestamp, live.receivedAt, live.lifecycleUpdatedAt]

def automaticReturnRetentionMs : ℚ := 24 * 60 * 60 * 1000

inductive DecisionReason where
  | stale
  | terminal
  | recent
  | unknownActivity
  | ready
  deriving DecidableEq

structure ReconciliationDecision where
  stale : Bool
  lastActivity : Option ℚ
  reason : DecisionReason
  deriving DecidableEq

def matchingRide (sessionId : String) (ride : Option RideRecord) :
    Option RideRecord :=
  ride.filter fun ride => ride.sessionId == some sessionId

def matchingLive (sessionId : String) (live : Option LiveRecord) :
    Option LiveRecord :=
  live.filter fun live => live.sessionId == some sessionId

def unusedAutomaticReturn (sessionId : String) (session : SessionRecord)
    (ride : Option RideRecord) (live : Option LiveRecord) : Bool :=
  session.status == .armed && session.automaticTurnaround &&
    session.startTime.isNone &&
    ((matchingRide sessionId ride).any fun ride =>
      ride.tripState == some .preDeparture &&
        ride.hasDepartedOrigin == some false) &&
    (matchingLive sessionId live).all fun live =>
      live.tripState == some .preDeparture

def inactivityCutoff (unused : Bool) (cutoff now : ℚ) : ℚ :=
  if unused then min cutoff (now - automaticReturnRetentionMs) else cutoff

def reconciliationDecision (sessionId : String) (session : SessionRecord)
    (ride : Option RideRecord) (live : Option LiveRecord)
    (cutoff now : ℚ) : ReconciliationDecision :=
  if session.status.terminal then
    { stale := false, lastActivity := none, reason := .terminal }
  else
    let unused := unusedAutomaticReturn sessionId session ride live
    let sessionActivity := latestSessionActivity session
    let rideActivity := (matchingRide sessionId ride).map
      latestActiveRideActivity
    let liveActivity := (matchingLive sessionId live).map latestLiveBusActivity
    if rideActivity == some none || liveActivity == some none then
      { stale := false
        lastActivity := sessionActivity
        reason := .unknownActivity }
    else
      let activities := [sessionActivity, rideActivity.join,
        liveActivity.join].filterMap id
      match activities.max? with
      | none =>
        { stale := false, lastActivity := none, reason := .unknownActivity }
      | some lastActivity =>
        if lastActivity ≤ inactivityCutoff unused cutoff now then
          { stale := true
            lastActivity := some lastActivity
            reason := .stale }
        else
          { stale := false
            lastActivity := some lastActivity
            reason := if unused then .ready else .recent }

/-- What the session's key holds in the two stores. -/
structure Stores where
  session : Option SessionRecord := none
  ride : Option RideRecord := none
  live : Option LiveRecord := none
  lockSession : Option String := none
  deriving DecidableEq

structure Options where
  sessionId : String
  now : ℚ
  thresholdMs : ℚ
  dryRun : Bool := false

def Options.cutoff (options : Options) : ℚ :=
  options.now - options.thresholdMs

/-- How a run ended for the session: the live record it removed, and the
active ride it interrupted the session over. -/
structure RunOutcome where
  interrupted : Bool := false
  retired : Option LiveRecord := none
  ride : Option RideRecord := none
  deriving DecidableEq

inductive Phase where
  | waiting
  /-- The page holds the session; the other two records are read in any
  order. -/
  | reading (session : SessionRecord) (ride : Option (Option RideRecord))
      (live : Option (Option LiveRecord))
  | stale
  | settled (retired : Option LiveRecord)
  | finished (outcome : RunOutcome)
  deriving DecidableEq

inductive LiveAnswer where
  | keepEmpty
  | abort
  | blocked
  | remove (record : LiveRecord)
  deriving DecidableEq

def judgeLive (options : Options) : Option LiveRecord → LiveAnswer
  | none => .keepEmpty
  | some current =>
    if current.sessionId != some options.sessionId then .abort
    else
      match latestLiveBusActivity current with
      | none => .blocked
      | some activity =>
        if activity > options.cutoff then .blocked else .remove current

/-- The callback is evaluated on what the client believes the node to be; an
answer that writes is evaluated again on the node. -/
def transactLive (options : Options)
    (believed current : Option LiveRecord) : LiveAnswer :=
  match judgeLive options believed with
  | .abort => .abort
  | .blocked => .blocked
  | _ => judgeLive options current

/-- The transaction that interrupts the session; `serverNow` is the time that
the database gives it. -/
def interruptSession (options : Options) (serverNow : ℚ) (stores : Stores)
    (retired : Option LiveRecord) : Stores × RunOutcome :=
  match stores.session with
  | none => (stores, { retired := retired })
  | some session =>
    let decision := reconciliationDecision options.sessionId session
      stores.ride retired options.cutoff options.now
    match decision.stale, decision.lastActivity with
    | true, some lastActivity =>
      let own := matchingRide options.sessionId stores.ride
      let deleteActiveRide := own.any fun ride =>
        (latestActiveRideActivity ride).any fun activity =>
          decide (activity ≤ options.cutoff)
      ({ session := some
          { session with
            status := .interrupted
            endTime := some (.number (some lastActivity))
            updatedAt := some (.date (some serverNow)) }
         ride := if deleteActiveRide then none else stores.ride
         live := stores.live
         lockSession :=
          if stores.lockSession = some options.sessionId then none
          else stores.lockSession },
        { interrupted := true
          retired := retired
          ride := own })
    | _, _ => (stores, { retired := retired })

structure World where
  stores : Stores
  phase : Phase := .waiting
  /-- The live node as the other writers left it last. -/
  left : Option LiveRecord
  deriving DecidableEq

inductive Event where
  | scan
  | readRide
  | readLive
  | decide
  | retireLive (believed : Option LiveRecord)
  | interrupt (serverNow : ℚ)
  /-- The process stops, or loses its lease. -/
  | lose
  | writeDocuments (session : Option SessionRecord) (ride : Option RideRecord)
      (lockSession : Option String)
  | writeLive (live : Option LiveRecord)

def Phase.retired : Phase → Option LiveRecord
  | .settled retired => retired
  | .finished outcome => outcome.retired
  | _ => none

def World.step (options : Options) (world : World) : Event → Option World
  | .scan =>
    match world.phase, world.stores.session with
    | .waiting, some session =>
      if session.status.terminal then none
      else
        match lifecycleKey session with
        | none => some { world with phase := .finished {} }
        | some _ => some { world with phase := .reading session none none }
    | _, _ => none
  | .readRide =>
    match world.phase with
    | .reading session none live =>
      some { world with
        phase := .reading session (some world.stores.ride) live }
    | _ => none
  | .readLive =>
    match world.phase with
    | .reading session ride none =>
      some { world with
        phase := .reading session ride (some world.stores.live) }
    | _ => none
  | .decide =>
    match world.phase with
    | .reading session (some ride) (some live) =>
      let decision := reconciliationDecision options.sessionId session ride
        live options.cutoff options.now
      if !decision.stale || options.dryRun then
        some { world with phase := .finished {} }
      else some { world with phase := .stale }
    | _ => none
  | .retireLive believed =>
    match world.phase with
    | .stale =>
      match transactLive options believed world.stores.live with
      | .blocked => some { world with phase := .finished {} }
      | .remove record =>
        some { world with
          stores := { world.stores with live := none }
          phase := .settled (some record) }
      | _ => some { world with phase := .settled none }
    | _ => none
  | .interrupt serverNow =>
    match world.phase with
    | .settled retired =>
      let result := interruptSession options serverNow world.stores retired
      some { world with
        stores := result.1
        phase := .finished result.2 }
    | _ => none
  | .lose =>
    match world.phase with
    | .finished _ => none
    | phase => some
        { world with phase := .finished { retired := phase.retired } }
  | .writeDocuments session ride lockSession => some
      { world with
        stores :=
          { session := session
            ride := ride
            live := world.stores.live
            lockSession := lockSession } }
  | .writeLive live => some
      { world with
        stores := { world.stores with live := live }
        left := live }

/-- The reconciler's run over one session, among all other writers. -/
def reconciliation (options : Options) : System World Event :=
  World.step options

/-- Nothing that is known of the session is later than its cutoff, and
something is known of it and of each of its records. -/
structure Abandoned (options : Options) (session : SessionRecord)
    (ride : Option RideRecord) (live : Option LiveRecord) : Prop where
  unended : session.status.terminal = false
  sessionActivity : ∀ activity, latestSessionActivity session = some activity →
    activity ≤ inactivityCutoff
      (unusedAutomaticReturn options.sessionId session ride live)
      options.cutoff options.now
  rideActivity : ∀ own, matchingRide options.sessionId ride = some own →
    ∃ activity, latestActiveRideActivity own = some activity ∧
      activity ≤ inactivityCutoff
        (unusedAutomaticReturn options.sessionId session ride live)
        options.cutoff options.now
  liveActivity : ∀ own, matchingLive options.sessionId live = some own →
    ∃ activity, latestLiveBusActivity own = some activity ∧
      activity ≤ inactivityCutoff
        (unusedAutomaticReturn options.sessionId session ride live)
        options.cutoff options.now
  known : matchingRide options.sessionId ride = none →
    matchingLive options.sessionId live = none →
    latestSessionActivity session ≠ none

theorem inactivityCutoff_le (unused : Bool) (cutoff now : ℚ) :
    inactivityCutoff unused cutoff now ≤ cutoff := by
  unfold inactivityCutoff
  split
  · exact min_le_left _ _
  · exact le_rfl

theorem max_le_iff {first second third : Option ℚ} {last cutoff : ℚ}
    (max : ([first, second, third].filterMap id).max? = some last) :
    last ≤ cutoff ↔
      (∀ activity, first = some activity → activity ≤ cutoff) ∧
      (∀ activity, second = some activity → activity ≤ cutoff) ∧
      (∀ activity, third = some activity → activity ≤ cutoff) := by
  rw [List.max?_le_iff max]
  simp only [List.mem_filterMap, List.mem_cons, List.not_mem_nil, or_false,
    id_eq]
  constructor
  · intro all
    exact ⟨fun activity known => all activity ⟨_, .inl rfl, known⟩,
      fun activity known => all activity ⟨_, .inr (.inl rfl), known⟩,
      fun activity known => all activity ⟨_, .inr (.inr rfl), known⟩⟩
  · rintro ⟨ofFirst, ofSecond, ofThird⟩ activity ⟨_, rfl | rfl | rfl, known⟩
    · exact ofFirst activity known
    · exact ofSecond activity known
    · exact ofThird activity known

theorem known_and_le_iff {Record : Type} {own : Option Record}
    {activityOf : Record → Option ℚ} {cutoff : ℚ} :
    (∀ record, own = some record →
        ∃ activity, activityOf record = some activity ∧ activity ≤ cutoff) ↔
      (own.map activityOf == some none) = false ∧
        ∀ activity, (own.map activityOf).join = some activity →
          activity ≤ cutoff := by
  cases own with
  | none => simp
  | some record =>
    cases known : activityOf record with
    | none | some => simp [known]

variable {options : Options}

theorem decision_stale_iff {session : SessionRecord} {ride : Option RideRecord}
    {live : Option LiveRecord} :
    (∃ lastActivity, reconciliationDecision options.sessionId session ride live
        options.cutoff options.now =
          { stale := true, lastActivity := some lastActivity,
            reason := .stale }) ↔
      Abandoned options session ride live := by
  unfold reconciliationDecision
  constructor
  · rintro ⟨lastActivity, decided⟩
    split at decided
    · cases decided
    · rename_i unended
      simp only at decided
      split at decided
      · cases decided
      · rename_i known
        simp only [Bool.or_eq_true, not_or, Bool.not_eq_true] at known
        split at decided
        · cases decided
        · rename_i last max
          split at decided
          · rename_i old
            obtain ⟨ofSession, ofRide, ofLive⟩ := (max_le_iff max).mp old
            constructor
            · exact Bool.not_eq_true _ ▸ unended
            · exact ofSession
            · exact known_and_le_iff.mpr ⟨known.1, ofRide⟩
            · exact known_and_le_iff.mpr ⟨known.2, ofLive⟩
            · intro noRide noLive none
              rw [noRide, noLive, none] at max
              cases max
          · cases decided
  · intro abandoned
    obtain ⟨rideKnown, ofRide⟩ := known_and_le_iff.mp abandoned.rideActivity
    obtain ⟨liveKnown, ofLive⟩ := known_and_le_iff.mp abandoned.liveActivity
    simp only [abandoned.unended, Bool.false_eq_true, if_false, rideKnown,
      liveKnown, Bool.or_false]
    split
    · rename_i max
      rw [List.max?_eq_none_iff] at max
      exfalso
      have empty : ∀ value ∈ [latestSessionActivity session,
          ((matchingRide options.sessionId ride).map
            latestActiveRideActivity).join,
          ((matchingLive options.sessionId live).map
            latestLiveBusActivity).join], value = none :=
        List.filterMap_eq_nil_iff.mp max
      apply abandoned.known
      · by_contra found
        obtain ⟨own, known⟩ := Option.ne_none_iff_exists'.mp found
        obtain ⟨activity, shown, -⟩ := abandoned.rideActivity own known
        have none := empty _ (by simp : ((matchingRide options.sessionId
          ride).map latestActiveRideActivity).join ∈ _)
        rw [known, Option.map_some, shown] at none
        cases none
      · by_contra found
        obtain ⟨own, known⟩ := Option.ne_none_iff_exists'.mp found
        obtain ⟨activity, shown, -⟩ := abandoned.liveActivity own known
        have none := empty _ (by simp : ((matchingLive options.sessionId
          live).map latestLiveBusActivity).join ∈ _)
        rw [known, Option.map_some, shown] at none
        cases none
      · exact empty _ (by simp)
    · rename_i last max
      have old := (max_le_iff max).mpr
        ⟨abandoned.sessionActivity, ofRide, ofLive⟩
      exact ⟨last, if_pos old⟩

theorem decision_of_stale (sessionId : String) (session : SessionRecord)
    (ride : Option RideRecord) (live : Option LiveRecord) (cutoff now : ℚ) :
    (reconciliationDecision sessionId session ride live cutoff now).stale =
        true →
      ∃ lastActivity,
        reconciliationDecision sessionId session ride live cutoff now =
          { stale := true, lastActivity := some lastActivity,
            reason := .stale } := by
  unfold reconciliationDecision
  split
  · intro stale
    cases stale
  · simp only
    split
    · intro stale
      cases stale
    · split
      · intro stale
        cases stale
      · split
        · intro _
          exact ⟨_, rfl⟩
        · intro stale
          cases stale

/-- What the transaction does: nothing, or the session is abandoned and ends. -/
theorem interruptSession_cases (options : Options) (serverNow : ℚ)
    (stores : Stores) (retired : Option LiveRecord) :
    interruptSession options serverNow stores retired =
        (stores, { retired := retired }) ∧
      (∀ session, stores.session = some session →
        ¬ Abandoned options session stores.ride retired) ∨
    ∃ session next, stores.session = some session ∧
      Abandoned options session stores.ride retired ∧
      interruptSession options serverNow stores retired =
        (next, { interrupted := true, retired := retired,
                 ride := matchingRide options.sessionId stores.ride }) ∧
      next.live = stores.live := by
  unfold interruptSession
  split
  · rename_i missing
    left
    refine ⟨rfl, ?_⟩
    intro session present
    rw [missing] at present
    cases present
  · rename_i session present
    by_cases abandoned : Abandoned options session stores.ride retired
    · right
      obtain ⟨lastActivity, decided⟩ := decision_stale_iff.mpr abandoned
      rw [decided]
      exact ⟨session, _, present, abandoned, rfl, rfl⟩
    · left
      refine ⟨?_, ?_⟩
      · simp only
        split
        · rename_i lastActivity stale known
          exfalso
          exact abandoned (decision_stale_iff.mp
            (decision_of_stale _ _ _ _ _ _ stale))
        · rfl
      · intro other present'
        rw [present] at present'
        cases present'
        exact abandoned

def Quiet (options : Options) (activity : Option ℚ) : Prop :=
  ∃ last, activity = some last ∧ last ≤ options.cutoff

/-- What holds in every phase: a node that was not removed is as the others
left it, and what the run acted on was quiet. -/
structure Sound (options : Options) (world : World) : Prop where
  untouched : world.phase.retired = none → world.stores.live = world.left
  retired : ∀ record, world.phase.retired = some record →
    record.sessionId = some options.sessionId ∧
      Quiet options (latestLiveBusActivity record)
  ride : ∀ outcome ride, world.phase = .finished outcome →
    outcome.ride = some ride →
    ride.sessionId = some options.sessionId ∧
      Quiet options (latestActiveRideActivity ride)
  /-- A session that is not interrupted keeps its node. -/
  kept : ∀ outcome, world.phase = .finished outcome →
    outcome.interrupted = false → outcome.retired = none

/-- Once the run has removed the live node, its transaction takes place and
finds the session still abandoned. -/
def Undisturbed (options : Options) (world : World) : Event → Prop
  | .interrupt _ => ∀ record, world.phase = .settled (some record) →
      ∃ session, world.stores.session = some session ∧
        Abandoned options session world.stores.ride (some record)
  | .lose => world.phase.retired = none
  | _ => True

theorem transactLive_eq_remove {believed current : Option LiveRecord}
    {record : LiveRecord}
    (removed : transactLive options believed current = .remove record) :
    current = some record ∧ record.sessionId = some options.sessionId ∧
      Quiet options (latestLiveBusActivity record) := by
  have judged : judgeLive options current = .remove record := by
    unfold transactLive at removed
    split at removed
    · cases removed
    · cases removed
    · exact removed
  unfold judgeLive at judged
  split at judged
  · cases judged
  · split at judged
    · cases judged
    · rename_i own
      split at judged
      · cases judged
      · rename_i activity known
        split at judged
        · cases judged
        · rename_i old
          cases judged
          refine ⟨rfl, by simpa using own, activity, known, ?_⟩
          exact not_lt.mp old

variable {world : World}

theorem sound_of_quiet {phase : Phase} (sound : Sound options world)
    (before : world.phase.retired = none) (retired : phase.retired = none)
    (plain : ∀ outcome, phase = .finished outcome → outcome.ride = none) :
    Sound options { world with phase := phase } where
  untouched := fun _ => sound.untouched before
  retired := by
    intro record found
    rw [retired] at found
    cases found
  ride := by
    intro outcome ride finished found
    rw [plain outcome finished] at found
    cases found
  kept := by
    intro outcome finished _
    rw [show phase = .finished outcome from finished] at retired
    exact retired

theorem sound_interrupt {serverNow : ℚ} {retired : Option LiveRecord}
    (sound : Sound options world) (settled : world.phase = .settled retired)
    (undisturbed : Undisturbed options world (.interrupt serverNow)) :
    Sound options { world with
      stores := (interruptSession options serverNow world.stores retired).1
      phase := .finished
        (interruptSession options serverNow world.stores retired).2 } := by
  have same : world.phase.retired = retired := by rw [settled]; rfl
  rcases interruptSession_cases options serverNow world.stores retired with
    ⟨unchanged, active⟩ | ⟨session, next, present, abandoned, ended, live⟩
  · rw [unchanged]
    constructor
    · intro none
      exact sound.untouched (same.trans none)
    · intro record found
      exact sound.retired record (same.trans found)
    · intro outcome ride finished found
      cases finished
      cases found
    · intro outcome finished _
      cases finished
      cases known : retired with
      | none => rfl
      | some record =>
        -- Here the node is gone, but the session was found abandoned.
        obtain ⟨session, present, abandoned⟩ :=
          undisturbed record (by rw [settled, known])
        rw [known] at active
        exact absurd abandoned (active session present)
  · rw [ended]
    constructor
    · intro none
      rw [live]
      exact sound.untouched (same.trans none)
    · intro record found
      exact sound.retired record (same.trans found)
    · intro outcome ride finished found
      cases finished
      obtain ⟨activity, shown, old⟩ := abandoned.rideActivity ride found
      obtain ⟨-, own⟩ := Option.filter_eq_some_iff.mp found
      exact ⟨by simpa using own, activity, shown,
        old.trans (inactivityCutoff_le _ _ _)⟩
    · intro outcome finished kept
      cases finished
      cases kept

theorem sound_step {next : World} {event : Event} (sound : Sound options world)
    (undisturbed : Undisturbed options world event)
    (taken : world.step options event = some next) : Sound options next := by
  unfold World.step at taken
  cases event with
  | scan =>
    simp only at taken
    split at taken
    · rename_i waiting present
      have before : world.phase.retired = none := by rw [waiting]; rfl
      split at taken
      · cases taken
      · split at taken
        · cases taken
          exact sound_of_quiet sound before rfl
            (by rintro outcome ⟨⟩; rfl)
        · cases taken
          exact sound_of_quiet sound before rfl (by rintro outcome ⟨⟩)
    · cases taken
  | readRide | readLive =>
    simp only at taken
    split at taken
    · rename_i reading
      cases taken
      exact sound_of_quiet sound (by rw [reading]; rfl) rfl
        (by rintro outcome ⟨⟩)
    · cases taken
  | decide =>
    simp only at taken
    split at taken
    · rename_i reading
      have before : world.phase.retired = none := by rw [reading]; rfl
      split at taken
      · cases taken
        exact sound_of_quiet sound before rfl (by rintro outcome ⟨⟩; rfl)
      · cases taken
        exact sound_of_quiet sound before rfl (by rintro outcome ⟨⟩)
    · cases taken
  | retireLive believed =>
    simp only at taken
    split at taken
    · rename_i stale
      have before : world.phase.retired = none := by rw [stale]; rfl
      split at taken
      · cases taken
        exact sound_of_quiet sound before rfl (by rintro outcome ⟨⟩; rfl)
      · rename_i record removed
        cases taken
        obtain ⟨-, own, quiet⟩ := transactLive_eq_remove removed
        constructor
        · intro none
          cases none
        · intro other same
          cases same
          exact ⟨own, quiet⟩
        · rintro outcome ride ⟨⟩
        · rintro outcome ⟨⟩
      · cases taken
        exact sound_of_quiet sound before rfl (by rintro outcome ⟨⟩)
    · cases taken
  | interrupt serverNow =>
    simp only at taken
    split at taken
    · rename_i retired settled
      cases taken
      exact sound_interrupt sound settled undisturbed
    · cases taken
  | lose =>
    simp only at taken
    split at taken
    · cases taken
    · cases taken
      have before : world.phase.retired = none := undisturbed
      exact sound_of_quiet sound before before (by rintro outcome ⟨⟩; rfl)
  | writeDocuments session ride lockSession =>
    cases taken
    exact ⟨sound.untouched, sound.retired, sound.ride, sound.kept⟩
  | writeLive live =>
    cases taken
    exact ⟨fun _ => rfl, sound.retired, sound.ride, sound.kept⟩

structure Atomic (options : Options) (world : World)
    (outcome : RunOutcome) : Prop where
  /-- Without an interruption the run wrote nothing to the node. -/
  protected_ : outcome.interrupted = false →
    outcome.retired = none ∧ world.stores.live = world.left
  quietNode : outcome.interrupted = true → ∀ record,
    outcome.retired = some record →
    record.sessionId = some options.sessionId ∧
      Quiet options (latestLiveBusActivity record)
  quietRide : outcome.interrupted = true → ∀ ride, outcome.ride = some ride →
    ride.sessionId = some options.sessionId ∧
      Quiet options (latestActiveRideActivity ride)

theorem reconciliation_is_atomic {options : Options} {stores : Stores}
    {world : World} {outcome : RunOutcome}
    (steps : System.Steps (reconciliation options) (Undisturbed options)
      { stores := stores, left := stores.live } world)
    (finished : world.phase = .finished outcome) :
    Atomic options world outcome := by
  have sound : Sound options world := by
    apply steps.invariant
    · constructor
      · exact fun _ => rfl
      · rintro record ⟨⟩
      · rintro outcome ride ⟨⟩
      · rintro outcome ⟨⟩
    · intro before event after sound undisturbed taken
      exact sound_step sound undisturbed taken
  have retired : world.phase.retired = outcome.retired := by
    rw [finished]
    rfl
  constructor
  · intro protected_
    have none := sound.kept outcome finished protected_
    exact ⟨none, sound.untouched (retired.trans none)⟩
  · intro _ record found
    exact sound.retired record (retired.trans found)
  · intro _ ride found
    exact sound.ride outcome ride finished found

/-- The condition is exact: where the run has removed the node and its
transaction does not find the session abandoned, the session goes on without
its node. -/
theorem removed_of_disturbed {record : LiveRecord}
    (settled : world.phase = .settled (some record)) {serverNow : ℚ}
    (disturbed : ¬ Undisturbed options world (.interrupt serverNow)) :
    ∃ next outcome, world.step options (.interrupt serverNow) = some next ∧
      next.phase = .finished outcome ∧ ¬ Atomic options next outcome := by
  unfold World.step
  simp only [settled]
  rcases interruptSession_cases options serverNow world.stores (some record)
    with ⟨unchanged, -⟩ | ⟨session, next, present, abandoned, -, -⟩
  · refine ⟨_, { retired := some record }, rfl, ?_, ?_⟩
    · rw [unchanged]
    · intro atomic
      cases (atomic.protected_ rfl).1
  · exfalso
    apply disturbed
    intro other same
    rw [settled] at same
    cases same
    exact ⟨session, present, abandoned⟩

def demoOptions : Options where
  sessionId := "s"
  now := 2000000000000
  thresholdMs := 12 * 60 * 60 * 1000

def longAgo : Option TimeValue := some (.number (some 1900000000000))

def demoSession : SessionRecord where
  status := .active
  busId := some "a"
  routeId := some "r"
  createdAt := longAgo

def demoRide : RideRecord where
  sessionId := some "s"
  updatedAt := longAgo

def demoLive : LiveRecord where
  sessionId := some "s"
  timestamp := longAgo

def demoStores : Stores where
  session := some demoSession
  ride := some demoRide
  live := some demoLive
  lockSession := some "s"

def removal : List Event :=
  [.scan, .readRide, .readLive, .decide, .retireLive (some demoLive)]

/-- An operator announces a delay while the reconciler is between its
stores. -/
def delayed : Event :=
  .writeDocuments (some demoSession)
    (some { demoRide with updatedAt := some (.date (some 2000000000000)) })
    (some "s")

/-- A check of the condition. -/
def undisturbedBy (options : Options) (world : World) : Event → Bool
  | .interrupt _ =>
    match world.phase with
    | .settled (some record) => world.stores.session.any fun session =>
      (reconciliationDecision options.sessionId session world.stores.ride
        (some record) options.cutoff options.now).stale
    | _ => true
  | .lose => decide (world.phase.retired = none)
  | _ => true

theorem undisturbed_of_undisturbedBy {event : Event}
    (checked : undisturbedBy options world event = true) :
    Undisturbed options world event := by
  cases event with
  | interrupt serverNow =>
    intro record settled
    simp only [undisturbedBy, settled, Option.any_eq_true] at checked
    obtain ⟨session, present, stale⟩ := checked
    exact ⟨session, present, decision_stale_iff.mp
      (decision_of_stale _ _ _ _ _ _ stale)⟩
  | lose =>
    have untouched : world.phase.retired = none := of_decide_eq_true checked
    exact untouched
  | scan | readRide | readLive | decide | retireLive | writeDocuments
  | writeLive => trivial

theorem reconciliation_is_atomic_abandoned :
    ∃ world : World, Atomic demoOptions world
      { interrupted := true, retired := some demoLive,
        ride := some demoRide } := by
  have decided : ((reconciliation demoOptions).run
      (undisturbedBy demoOptions)
      { stores := demoStores, left := some demoLive }
      (removal ++ [.interrupt 2000000000000])).any (fun world =>
        decide (world.phase = .finished
          { interrupted := true, retired := some demoLive,
            ride := some demoRide })) = true := by
    decide +kernel
  obtain ⟨world, steps, ended⟩ := System.exists_of_run decided
  refine ⟨world, reconciliation_is_atomic (steps.mono ?_)
    (of_decide_eq_true ended)⟩
  exact fun _ _ => undisturbed_of_undisturbedBy

/-- The run is not stopped from outside. -/
def Event.goesOn : Event → Bool
  | .lose => false
  | _ => true

/-- A reconciliation is atomic in all interleavings. -/
def AlwaysAtomic : Prop :=
  ∀ (options : Options) (stores : Stores) (world : World)
    (outcome : RunOutcome),
    System.Steps (reconciliation options) (fun _ event => event.goesOn = true)
      { stores := stores, left := stores.live } world →
    world.phase = .finished outcome → Atomic options world outcome

/-- The delay keeps the session, and its live node is gone. -/
theorem reconciliation_is_half_done : ¬ AlwaysAtomic := by
  intro always
  have decided : ((reconciliation demoOptions).run
      (fun _ event => event.goesOn)
      { stores := demoStores, left := some demoLive }
      (removal ++ [delayed, .interrupt 2000000000000])).any (fun world =>
        decide (world.phase = .finished { retired := some demoLive } ∧
          world.stores.live = none ∧ world.left = some demoLive)) = true := by
    decide +kernel
  obtain ⟨world, steps, ended⟩ := System.exists_of_run decided
  obtain ⟨finished, gone, left⟩ := of_decide_eq_true ended
  have same := ((always demoOptions demoStores world _ steps
    finished).protected_ rfl).2
  rw [gone, left] at same
  cases same

end Eki.Abandonment
